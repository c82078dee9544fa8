import SokoFlow.Analytics.Bounded
import SokoFlow.Foundation.Digits
import SokoFlow.Foundation.Months

/-!
# Replaying a stored call

The arguments kept after a successful call are the JSON form of the validated
input.  The schema accepts them again as the same input, so they are their own
JSON form, and the call they make is the one that was answered.
-/

namespace SokoFlow

/-- pydantic reads back the text it dumps a UUID or a date as, and every integer. -/
structure Validators.Rereads (validators : Validators) : Prop where
  uuid : ∀ {value id}, validators.uuid value = .ok id → validators.uuid (.str id.text) = .ok id
  date : ∀ {value d}, validators.date value = .ok d → validators.date (.str d.iso) = .ok d
  int : ∀ n, validators.int (.int n) = .ok n

namespace Validators

open Calendar Digits

theorem readDate_iso (d : Date) : readDate d.iso = some d := by
  have hd := ymd_splits d
  have hy := year_le d
  have hday := hd.day_le.trans (daysInMonth_le _ hd.month_le)
  have hm := hd.month_le
  have hry := @readNat_padded 4 d.ymd.1 (by decide) (by decide) (by omega)
  have hrm := @readNat_padded 2 d.ymd.2.1 (by decide) (by decide) (by omega)
  have hrd := @readNat_padded 2 d.ymd.2.2 (by decide) (by decide) (by omega)
  have hly := @length_padded 4 d.ymd.1 (by decide) (by omega)
  have hlm := @length_padded 2 d.ymd.2.1 (by decide) (by omega)
  have hld := @length_padded 2 d.ymd.2.2 (by decide) (by omega)
  have hiso : d.iso.toList = Decimal.padded 4 d.ymd.1 ++ '-' :: Decimal.padded 2 d.ymd.2.1 ++
      '-' :: Decimal.padded 2 d.ymd.2.2 := String.toList_ofList
  obtain ⟨a, b, c, e, hy⟩ : ∃ a b c e, Decimal.padded 4 d.ymd.1 = [a, b, c, e] :=
    List.length_eq_four.mp hly
  obtain ⟨f, g, hm⟩ : ∃ f g, Decimal.padded 2 d.ymd.2.1 = [f, g] := List.length_eq_two.mp hlm
  obtain ⟨i, j, hd⟩ : ∃ f g, Decimal.padded 2 d.ymd.2.2 = [f, g] := List.length_eq_two.mp hld
  unfold readDate
  rw [hiso, hy, hm, hd]
  rw [hy] at hry
  rw [hm] at hrm
  rw [hd] at hrd
  simp [hry, hrm, hrd, ofYmd_ymd]

theorem hexDigit_digitChar : ∀ d < 16, hexDigit (Nat.digitChar d) = some d := by decide

theorem hexDigit_lt {c : Char} {d : ℕ} (h : hexDigit c = some d) : d < 16 := by
  unfold hexDigit at h
  split at h
  · rename_i hc
    cases h
    simp only [Char.isDigit, Bool.and_eq_true, decide_eq_true_eq] at hc
    have := UInt32.le_iff_toNat_le.mp hc.2
    simp at this
    change c.toNat - 48 < 16
    have h2 : c.toNat = c.val.toNat := rfl
    omega
  · split at h
    · rename_i hc
      cases h
      have := UInt32.le_iff_toNat_le.mp (Char.le_def.mp hc.2)
      have h2 : c.toNat = c.val.toNat := rfl
      simp at this
      omega
    · cases h

theorem readUUID_lt {s : String} {id : UUID} (h : readUUID s = some id) : id.val < 16 ^ 32 := by
  unfold readUUID at h
  obtain ⟨ds, hds, h⟩ := Option.bind_eq_some_iff.mp h
  split at h
  · rename_i hlen
    cases h
    change value 16 ds < 16 ^ 32
    rw [← hlen.1]
    apply value_lt
    intro d hd
    obtain ⟨c, -, hc⟩ := mem_of_mapM hds d hd
    exact hexDigit_lt hc
  · cases h

theorem readUUID_text {id : UUID} (h : id.val < 16 ^ 32) : readUUID id.text = some id := by
  obtain ⟨ds, hds, hlen, hlt, hval⟩ := @exists_padded 16 (by decide) 32 id.val (by decide) h
  have hdash : ∀ d < 16, Nat.digitChar d ≠ '-' := by decide
  generalize hcs : ds.map Nat.digitChar = cs at hds
  have hlength : cs.length = 32 := by rw [← hcs, List.length_map, hlen]
  have htext : id.text.toList = cs.take 8 ++ '-' :: (cs.drop 8).take 4 ++ '-' :: (cs.drop 12).take 4 ++
      '-' :: (cs.drop 16).take 4 ++ '-' :: cs.drop 20 := by
    rw [← hds]
    exact String.toList_ofList
  have hself {l : List Char} (hl : l ⊆ cs) : l.filter (· ≠ '-') = l := by
    apply List.filter_eq_self.mpr
    intro c hc
    rw [← hcs] at hl
    obtain ⟨d, hd, rfl⟩ := List.mem_map.mp (hl hc)
    simp [hdash d (hlt d hd)]
  have hdigits : id.text.toList.filter (· ≠ '-') = cs := by
    have htake (n m : ℕ) : (cs.drop n).take m ⊆ cs := fun c hc ↦
      List.mem_of_mem_drop (List.mem_of_mem_take hc)
    have hdrop (n m : ℕ) : (cs.drop n).take m ++ cs.drop (n + m) = cs.drop n := by
      rw [← List.drop_drop, List.take_append_drop]
    have h₀ := hself (htake 0 8)
    rw [List.drop_zero] at h₀
    rw [htext]
    simp only [List.filter_append, List.filter_cons, h₀, hself (htake _ _), hself (List.drop_subset 20 cs)]
    have h₁₆ : (cs.drop 16).take 4 ++ cs.drop 20 = cs.drop 16 := hdrop 16 4
    have h₁₂ : (cs.drop 12).take 4 ++ cs.drop 16 = cs.drop 12 := hdrop 12 4
    have h₈ : (cs.drop 8).take 4 ++ cs.drop 12 = cs.drop 8 := hdrop 8 4
    simp only [ne_eq, not_true, decide_false, Bool.false_eq_true, if_false, List.append_assoc]
    rw [h₁₆, h₁₂, h₈, List.take_append_drop]
  have hread : cs.mapM hexDigit = some ds := by
    rw [← hcs]
    exact mapM_digitChar hexDigit_digitChar hlt
  have hlen' : Text.len id.text = 36 := by
    rw [Text.len, htext]
    simp [hlength]
  unfold readUUID
  rw [hdigits, hread]
  simp only [Option.bind_eq_bind, Option.bind_some]
  rw [if_pos ⟨hlen, hlen'⟩]
  exact congrArg (fun n ↦ some (UUID.mk n)) hval

theorem usual_rereads : usual.Rereads where
  uuid := by
    intro value id h
    cases value with
    | str s =>
        have hs : readUUID s = some id := by
          cases hr : readUUID s with
          | none => simp [usual, hr] at h
          | some id' => simpa [usual, hr] using h
        simp [usual, readUUID_text (readUUID_lt hs)]
    | _ => cases h
  date := by
    intro value d h
    simp [usual, readDate_iso]
  int n := rfl

end Validators

namespace Analytics

open DbM Effect Validated

section Dump

@[simp] theorem get?_cons {fields : Json.Object} {f : String × Json} {name : String} :
    Json.Object.get? (f :: fields) name =
      if f.1 = name then some f.2 else Json.Object.get? fields name := by
  unfold Json.Object.get?
  by_cases h : f.1 = name
  · simp [h]
  · simp [h]

@[simp] theorem get?_nil {name : String} : Json.Object.get? [] name = none := rfl

@[simp] theorem dumpFields_nil : dumpFields [] = [] := rfl

theorem dumpFields_none {name : String} {fields : List (String × Option Json)} :
    dumpFields ((name, none) :: fields) = dumpFields fields := rfl

theorem dumpFields_some {name : String} {value : Json}
    {fields : List (String × Option Json)} :
    dumpFields ((name, some value) :: fields) = (name, value) :: dumpFields fields := rfl

@[simp] theorem get?_dumpFields {name name' : String} {value : Option Json}
    {fields : List (String × Option Json)} :
    Json.Object.get? (dumpFields ((name', value) :: fields)) name =
      if name' = name then value.or (Json.Object.get? (dumpFields fields) name)
      else Json.Object.get? (dumpFields fields) name := by
  cases value with
  | none => simp [dumpFields_none]
  | some value => simp [dumpFields_some]

theorem keys_dumpFields {fields : List (String × Option Json)} {f : String × Json}
    (h : f ∈ dumpFields fields) : f.1 ∈ fields.map (·.1) := by
  obtain ⟨⟨name, value⟩, hmem, hf⟩ := List.mem_filterMap.mp h
  obtain ⟨v, -, rfl⟩ := Option.map_eq_some_iff.mp hf
  exact List.mem_map.mpr ⟨_, hmem, rfl⟩

end Dump

section Reread

variable {dep : Deployment} {value : Json} {fields raw : Json.Object}

theorem dateRange_reread (hr : dep.validators.Rereads) {range : DateRange}
    (h : parseDateRange dep value = .ok range) :
    parseDateRange dep (.obj [("start_date", .str range.startDate.iso),
      ("end_date", .str range.endDate.iso)]) = .ok range := by
  obtain ⟨_, -, ⟨v, -, hs⟩, ⟨w, -, he⟩, -⟩ := parseDateRange_eq_ok.mp h
  apply parseDateRange_eq_ok.mpr
  refine ⟨_, rfl, ⟨_, rfl, hr.date hs⟩, ⟨_, rfl, hr.date he⟩, ?_⟩
  simp

theorem period_reread (hr : dep.validators.Rereads) {period : ReportingPeriod}
    (h : parseReportingPeriod dep value = .ok period) :
    parseReportingPeriod dep period.dump = .ok period := by
  obtain ⟨_, -, hfields, -⟩ := parseReportingPeriod_eq_ok.mp h
  apply parseReportingPeriod_eq_ok.mpr
  cases period with
  | relative period => exact ⟨_, rfl, ⟨rfl, rfl, .inl rfl⟩, by simp⟩
  | dateRange range =>
      obtain ⟨-, -, v, -, hrange⟩ := hfields
      exact ⟨_, rfl, ⟨rfl, .inl rfl, _, rfl, dateRange_reread hr hrange⟩, by simp⟩

theorem dump_ne_null (period : ReportingPeriod) : period.dump ≠ .null := by
  cases period <;> exact nofun

/-- A field is read from its JSON form as it was read first. -/
theorem optional_reread {α : Type} {name : String} {parse : Json → Validated α} {a : Option α}
    {dump : α → Json} (h : optional raw name parse = .ok a)
    (hparse : ∀ v a, parse v = .ok a → parse (dump a) = .ok a) (hnull : ∀ a, dump a ≠ .null)
    (hget : Json.Object.get? fields name = a.map dump) : optional fields name parse = .ok a := by
  cases a with
  | none => exact optional_eq_none.mpr (.inl hget)
  | some a =>
      obtain ⟨v, -, -, hv⟩ := optional_eq_some.mp h
      exact optional_eq_some.mpr ⟨_, hget, hnull a, hparse v a hv⟩

theorem required_period_reread (hr : dep.validators.Rereads) {name : String}
    {period : ReportingPeriod} (h : required raw name (parseReportingPeriod dep) = .ok period)
    (hget : Json.Object.get? fields name = some period.dump) :
    required fields name (parseReportingPeriod dep) = .ok period := by
  obtain ⟨v, -, hv⟩ := required_eq_ok.mp h
  exact required_eq_ok.mpr ⟨_, hget, period_reread hr hv⟩

theorem limit_reread (hr : dep.validators.Rereads) {limit : Option { n : ℤ // 0 < n }}
    (h : optional raw "limit" (parsePositive dep) = .ok limit)
    (hget : Json.Object.get? fields "limit" = limit.map (.int ·.val)) :
    optional fields "limit" (parsePositive dep) = .ok limit := by
  apply optional_reread h
  · intro v n hn
    exact parsePositive_eq_ok.mpr (hr.int n)
  · exact fun _ ↦ nofun
  · exact hget

theorem query_reread (hr : dep.validators.Rereads) {query : ProductQuery}
    (h : parseProductQuery dep raw = .ok query) : parseProductQuery dep query.dump = .ok query := by
  obtain ⟨hid, hname, -⟩ := parseProductQuery_eq_ok.mp h
  apply parseProductQuery_eq_ok.mpr
  refine ⟨?_, ?_, ?_⟩
  · apply optional_reread hid
    · intro v id hv
      exact ofExcept_eq_ok.mpr (hr.uuid (ofExcept_eq_ok.mp hv))
    · intro _ h
      cases h
    · simp [ProductQuery.dump]
  · apply optional_reread hname
    · intro v s _
      exact parseStr_eq_ok.mpr rfl
    · intro _ h
      cases h
    · simp [ProductQuery.dump]
  · intro f hf
    exact keys_dumpFields hf

/-- The JSON form of an accepted input has the fields of the input. -/
theorem inputFields_dump (hr : dep.validators.Rereads) {input : ToolInput}
    (h : InputFields dep raw input) : InputFields dep input.dump input := by
  cases input with
  | getSalesSummary period => exact required_period_reread hr h rfl
  | getTopProducts period ranking limit =>
      obtain ⟨hperiod, hranking, hlimit⟩ := h
      refine ⟨required_period_reread hr hperiod rfl, ?_, ?_⟩
      · apply optional_reread hranking
        · intro v r _
          exact parseRankingDimension_eq_ok.mpr rfl
        · exact fun _ ↦ nofun
        · simp [ToolInput.dump]
      · exact limit_reread hr hlimit (by simp [ToolInput.dump])
  | getStockLevel query => exact query_reread hr h
  | getLowStockItems => trivial
  | getSalesTrend period comparison =>
      obtain ⟨hperiod, hcomparison⟩ := h
      refine ⟨required_period_reread hr hperiod rfl, ?_⟩
      apply optional_reread hcomparison
      · intro v p hp
        exact period_reread hr hp
      · exact dump_ne_null
      · simp [ToolInput.dump]
  | getSlowMovingItems period maxSalesCount limit =>
      obtain ⟨hperiod, hmax, hlimit⟩ := h
      refine ⟨required_period_reread hr hperiod rfl, ?_, ?_⟩
      · have hget : Json.Object.get? (ToolInput.getSlowMovingItems period maxSalesCount limit).dump
            "max_sales_count" = some (.int maxSalesCount.val) := by simp [ToolInput.dump]
        rw [hget]
        exact parseNonnegative_eq_ok.mpr (hr.int _)
      · exact limit_reread hr hlimit (by simp [ToolInput.dump])
  | getProductPrice query => exact query_reread hr h

theorem keys_dump (input : ToolInput) : ∀ f ∈ input.dump, f.1 ∈ input.tool.declared := by
  intro f hf
  cases input with
  | getSalesSummary period =>
      rw [List.mem_singleton.mp hf]
      exact List.mem_singleton.mpr rfl
  | getTopProducts period ranking limit => exact keys_dumpFields hf
  | getStockLevel query => exact keys_dumpFields hf
  | getLowStockItems => cases hf
  | getSalesTrend period comparison => exact keys_dumpFields hf
  | getSlowMovingItems period maxSalesCount limit => exact keys_dumpFields hf
  | getProductPrice query => exact keys_dumpFields hf

theorem modelValidate_dump (hr : dep.validators.Rereads) {tool : Tool} {input : ToolInput}
    (h : tool.modelValidate dep raw = .ok input) : tool.modelValidate dep input.dump = .ok input := by
  obtain ⟨rfl, hfields, -⟩ := modelValidate_eq_ok.mp h
  exact modelValidate_eq_ok.mpr ⟨rfl, inputFields_dump hr hfields, keys_dump input⟩

theorem shop_id_not_declared (tool : Tool) : "shop_id" ∉ tool.declared := by
  cases tool <;> decide

theorem validateSchema_dump (hr : dep.validators.Rereads) {tool : Tool} {input : ToolInput}
    (h : validateSchema dep tool raw = .ok input) :
    validateSchema dep tool input.dump = .ok input := by
  have hmodel := (validateSchema_eq_ok.mp h).2
  apply validateSchema_eq_ok.mpr
  refine ⟨?_, modelValidate_dump hr hmodel⟩
  intro f hf hname
  have hkey := keys_dump input f hf
  rw [hname] at hkey
  exact shop_id_not_declared _ hkey

theorem getTool_name (tool : Tool) : Tool.getTool tool.name = .ok tool := by
  cases tool <;> decide

/-- A call keeps the JSON form of its input, also where that is empty. -/
theorem answer_keeps {tool : Tool} {input : ToolInput} (h : validateSchema dep tool raw = .ok input)
    (data : ToolOutput) :
    (answer tool.name data input.dump raw).2 = ⟨tool.name, input.dump⟩ := by
  rw [answer_call]
  by_cases he : input.dump.isEmpty = true
  · rw [if_pos he, dump_isEmpty (validateCall_eq_ok.mpr ⟨tool, getTool_name tool, h⟩) he,
      List.isEmpty_iff.mp he]
  · rw [if_neg he]

end Reread

/-- The call kept after a success is accepted again as the same input, keeps
itself, and runs as the call it was kept from. -/
theorem stored_call_replays {dep : Deployment} (hr : dep.validators.Rereads) {tool : Tool}
    {raw : Json.Object} {input : ToolInput} (h : validateSchema dep tool raw = .ok input)
    (data : ToolOutput) :
    ∃ stored, (answer tool.name data input.dump raw).2 = ⟨tool.name, stored⟩ ∧
      validateSchema dep tool stored = .ok input ∧ input.dump = stored ∧
      (∀ data', (answer tool.name data' input.dump stored).2 = ⟨tool.name, stored⟩) ∧
      ∀ (handle : UUID → ToolInput → DbM ToolOutput) (shopId : UUID) (b : Backend),
        executeWith handle dep tool.name stored shopId b =
          executeWith handle dep tool.name raw shopId b := by
  have hdump := validateSchema_dump hr h
  refine ⟨input.dump, answer_keeps h data, hdump, rfl, answer_keeps hdump, ?_⟩
  intro handle shopId b
  have hraw := validateCall_eq_ok.mpr ⟨tool, getTool_name tool, h⟩
  have hstored := validateCall_eq_ok.mpr ⟨tool, getTool_name tool, hdump⟩
  rw [executeWith_of_valid hraw, executeWith_of_valid hstored]

/-- A call with a limit in a null field and a range of dates. -/
def rangedCall : Json.Object :=
  [("limit", .null), ("period", .obj [("date_range", .obj [("end_date", .str "2024-02-29"),
    ("start_date", .str "2024-01-01")]), ("period_type", .str "date_range")])]

/-- From 1 January to 29 February 2024. -/
def rangedInput : ToolInput :=
  .getTopProducts (.dateRange ⟨⟨738886, by decide⟩, ⟨738945, by decide⟩, by decide⟩) none none

theorem rangedCall_accepted :
    validateSchema .sample .getTopProducts rangedCall = .ok rangedInput := rfl

/-- Milk was sold most. -/
def rangedData : ToolOutput :=
  .topProducts ⟨some [(⟨2⟩, "Milk", 3)], some [(⟨2⟩, "Milk", 180)]⟩

theorem ranged_call_replays : ∃ stored,
    (answer "get_top_products" rangedData rangedInput.dump rangedCall).2 = ⟨"get_top_products", stored⟩ ∧
      validateSchema .sample .getTopProducts stored = .ok rangedInput ∧ rangedInput.dump = stored := by
  obtain ⟨stored, hkept, haccepted, hdump, -⟩ :=
    stored_call_replays Validators.usual_rereads rangedCall_accepted rangedData
  exact ⟨stored, hkept, haccepted, hdump⟩

end Analytics

end SokoFlow
