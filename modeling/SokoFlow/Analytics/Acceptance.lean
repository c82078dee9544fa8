import SokoFlow.Analytics.Contracts

/-!
# What the input models accept

A combinator succeeds if and only if its parts do, so an accepted value is
described by the fields it has.
-/

namespace SokoFlow.Analytics

namespace Validated

variable {α β : Type}

theorem both_eq_ok {x : Validated α} {y : Validated β} {a : α} {b : β} :
    both x y = .ok (a, b) ↔ x = .ok a ∧ y = .ok b := by
  cases x <;> cases y <;> simp [both]

theorem andThen_eq_ok {x : Validated α} {f : α → Validated β} {b : β} :
    x.andThen f = .ok b ↔ ∃ a, x = .ok a ∧ f a = .ok b := by
  cases x <;> simp [andThen]

theorem map_eq_ok_iff {x : Validated α} {f : α → β} {b : β} :
    x.map f = .ok b ↔ ∃ a, x = .ok a ∧ f a = b := by
  cases x <;> simp [map]

@[simp] theorem under_eq_ok {name : String} {x : Validated α} {a : α} :
    under name x = .ok a ↔ x = .ok a := by
  cases x <;> simp [under]

theorem ofExcept_eq_ok {x : Except (String × String) α} {a : α} :
    ofExcept x = .ok a ↔ x = .ok a := by
  cases x <;> simp [ofExcept, issue]

end Validated

open Validated

section Fields

variable {α : Type} {fields : Json.Object} {name : String} {parse : Json → Validated α}

theorem required_eq_ok {a : α} : required fields name parse = .ok a ↔
    ∃ value, Json.Object.get? fields name = some value ∧ parse value = .ok a := by
  unfold required
  cases Json.Object.get? fields name with
  | none => simp [issue]
  | some value => simp

/-- A field that is absent or null. -/
def Unset (fields : Json.Object) (name : String) : Prop :=
  Json.Object.get? fields name = none ∨ Json.Object.get? fields name = some .null

theorem Unset.eq_null {value : Json} (h : Unset fields name)
    (hv : Json.Object.get? fields name = some value) : value = .null := by
  rcases h with h | h
  · rw [h] at hv
    cases hv
  · rw [h] at hv
    cases hv
    rfl

theorem optional_eq_none : optional fields name parse = .ok none ↔ Unset fields name := by
  unfold optional Unset
  cases Json.Object.get? fields name with
  | none => simp
  | some value => cases value <;> simp [map_eq_ok_iff]

theorem optional_eq_some {a : α} : optional fields name parse = .ok (some a) ↔
    ∃ value, Json.Object.get? fields name = some value ∧ value ≠ .null ∧ parse value = .ok a := by
  unfold optional
  cases Json.Object.get? fields name with
  | none => simp
  | some value => cases value <;> simp [map_eq_ok_iff]

theorem forbidExtra_eq_ok {declared : List String} :
    forbidExtra fields declared = .ok () ↔ ∀ f ∈ fields, f.1 ∈ declared := by
  unfold forbidExtra
  cases hextra : fields.filter fun f ↦ f.1 ∉ declared with
  | nil => simpa [List.filter_eq_nil_iff] using hextra
  | cons f extra =>
      have hmem : f ∈ fields.filter fun f ↦ f.1 ∉ declared := by
        rw [hextra]
        exact List.mem_cons_self
      rw [List.mem_filter, decide_eq_true_eq] at hmem
      constructor
      · intro h
        cases h
      · intro h
        exact absurd (h f hmem.1) hmem.2

theorem asObject_eq_ok {model : String} {parse : Json.Object → Validated α} {value : Json} {a : α} :
    asObject model parse value = .ok a ↔ ∃ fields, value = .obj fields ∧ parse fields = .ok a := by
  cases value <;> simp [asObject, issue]

theorem parseStr_eq_ok {value : Json} {s : String} : parseStr value = .ok s ↔ value = .str s := by
  cases value <;> simp [parseStr, issue]

theorem parseEnum_eq_ok {expected : String} {members : List (String × α)} (label : α → String)
    (hname : ∀ m ∈ members, m.1 = label m.2)
    (hfind : ∀ a, members.find? (·.1 = label a) = some (label a, a)) {value : Json} {a : α} :
    parseEnum expected members value = .ok a ↔ value = .str (label a) := by
  constructor
  · intro h
    cases value with
    | str s =>
        unfold parseEnum at h
        cases hm : members.find? (·.1 = s) with
        | none => simp [hm, issue] at h
        | some m =>
            have hs : m.1 = s := by simpa using List.find?_some hm
            simp only [hm, Validated.ok.injEq] at h
            rw [← hs, hname m (List.mem_of_find?_eq_some hm), h]
    | _ => simp [parseEnum, issue] at h
  · rintro rfl
    simp only [parseEnum, hfind]

end Fields

section Models

variable {dep : Deployment} {value : Json} {fields : Json.Object}

theorem parsePositive_eq_ok {n : { n : ℤ // 0 < n }} :
    parsePositive dep value = .ok n ↔ dep.validators.int value = .ok n.val := by
  unfold parsePositive
  rw [andThen_eq_ok]
  constructor
  · rintro ⟨m, hm, h⟩
    split at h <;> cases h
    exact ofExcept_eq_ok.mp hm
  · intro h
    exact ⟨n.val, ofExcept_eq_ok.mpr h, dif_pos n.property⟩

theorem parseNonnegative_eq_ok {n : { n : ℤ // 0 ≤ n }} :
    parseNonnegative dep value = .ok n ↔ dep.validators.int value = .ok n.val := by
  unfold parseNonnegative
  rw [andThen_eq_ok]
  constructor
  · rintro ⟨m, hm, h⟩
    split at h <;> cases h
    exact ofExcept_eq_ok.mp hm
  · intro h
    exact ⟨n.val, ofExcept_eq_ok.mpr h, dif_pos n.property⟩

/-- The fields of an accepted date range. -/
structure DateRangeFields (dep : Deployment) (fields : Json.Object) (range : DateRange) : Prop where
  start : ∃ v, Json.Object.get? fields "start_date" = some v ∧
    dep.validators.date v = .ok range.startDate
  stop : ∃ v, Json.Object.get? fields "end_date" = some v ∧
    dep.validators.date v = .ok range.endDate
  only : ∀ f ∈ fields, f.1 ∈ ["start_date", "end_date"]

theorem parseDateRange_eq_ok {range : DateRange} : parseDateRange dep value = .ok range ↔
    ∃ fields, value = .obj fields ∧ DateRangeFields dep fields range := by
  unfold parseDateRange
  rw [asObject_eq_ok]
  refine exists_congr fun fields ↦ and_congr_right fun _ ↦ ?_
  dsimp only
  rw [andThen_eq_ok]
  constructor
  · rintro ⟨⟨⟨s, e⟩, _⟩, hb, h⟩
    obtain ⟨hse, hextra⟩ := both_eq_ok.mp hb
    obtain ⟨hs, he⟩ := both_eq_ok.mp hse
    dsimp only at h
    split at h <;> cases h
    simp only [required_eq_ok, ofExcept_eq_ok] at hs he
    exact ⟨hs, he, forbidExtra_eq_ok.mp hextra⟩
  · rintro ⟨hs, he, honly⟩
    refine ⟨((range.startDate, range.endDate), ()), ?_, dif_pos range.ordered⟩
    rw [both_eq_ok, both_eq_ok]
    simp only [required_eq_ok, ofExcept_eq_ok]
    exact ⟨⟨hs, he⟩, forbidExtra_eq_ok.mpr honly⟩

/-- The label of a type of period. -/
def periodType (isRange : Bool) : String := if isRange then "date_range" else "relative"

theorem parsePeriodType_eq_ok {isRange : Bool} :
    parseEnum "'relative' or 'date_range'" [("relative", false), ("date_range", true)] value =
      .ok isRange ↔ value = .str (periodType isRange) := by
  apply parseEnum_eq_ok periodType
  · simp [periodType]
  · decide

theorem parseRelativePeriod_eq_ok {period : RelativePeriod} :
    parseEnum "'day', 'week', 'month' or 'year'"
      [("day", RelativePeriod.day), ("week", .week), ("month", .month), ("year", .year)] value =
        .ok period ↔ value = .str period.value := by
  apply parseEnum_eq_ok RelativePeriod.value
  · simp [RelativePeriod.value]
  · intro period
    cases period <;> decide

theorem parseRankingDimension_eq_ok {ranking : RankingDimension} :
    parseEnum "'units' or 'revenue'" [("units", RankingDimension.units), ("revenue", .revenue)]
      value = .ok ranking ↔ value = .str ranking.value := by
  apply parseEnum_eq_ok RankingDimension.value
  · simp [RankingDimension.value]
  · intro ranking
    cases ranking <;> decide

/-- The fields of an accepted period. -/
def PeriodFields (dep : Deployment) (fields : Json.Object) : ReportingPeriod → Prop
  | .relative period => Json.Object.get? fields "period_type" = some (.str "relative") ∧
      Json.Object.get? fields "relative_period" = some (.str period.value) ∧
      Unset fields "date_range"
  | .dateRange range => Json.Object.get? fields "period_type" = some (.str "date_range") ∧
      Unset fields "relative_period" ∧
      ∃ v, Json.Object.get? fields "date_range" = some v ∧ parseDateRange dep v = .ok range

theorem parseReportingPeriod_eq_ok {period : ReportingPeriod} :
    parseReportingPeriod dep value = .ok period ↔ ∃ fields, value = .obj fields ∧
      PeriodFields dep fields period ∧
      ∀ f ∈ fields, f.1 ∈ ["period_type", "relative_period", "date_range"] := by
  unfold parseReportingPeriod
  rw [asObject_eq_ok]
  refine exists_congr fun fields ↦ and_congr_right fun _ ↦ ?_
  dsimp only
  rw [andThen_eq_ok]
  constructor
  · rintro ⟨⟨⟨⟨isRange, relative⟩, range⟩, _⟩, hb, h⟩
    obtain ⟨hb, hextra⟩ := both_eq_ok.mp hb
    obtain ⟨hb, hrange⟩ := both_eq_ok.mp hb
    obtain ⟨htype, hrelative⟩ := both_eq_ok.mp hb
    refine ⟨?_, forbidExtra_eq_ok.mp hextra⟩
    obtain ⟨v, htype, hv⟩ := required_eq_ok.mp htype
    rw [parsePeriodType_eq_ok] at hv
    subst hv
    cases isRange with
    | false =>
        cases relative with
        | none => cases h
        | some relative =>
            cases range <;> cases h
            obtain ⟨w, hrelative, -, hw⟩ := optional_eq_some.mp hrelative
            rw [parseRelativePeriod_eq_ok] at hw
            subst hw
            exact ⟨htype, hrelative, optional_eq_none.mp hrange⟩
    | true =>
        cases range with
        | none => cases h
        | some range =>
            cases relative <;> cases h
            obtain ⟨w, hrange, -, hw⟩ := optional_eq_some.mp hrange
            exact ⟨htype, optional_eq_none.mp hrelative, w, hrange, hw⟩
  · rintro ⟨hperiod, hextra⟩
    have hextra := forbidExtra_eq_ok.mpr hextra
    cases period with
    | relative period =>
        obtain ⟨htype, hrelative, hrange⟩ := hperiod
        refine ⟨(((false, some period), none), ()), ?_, rfl⟩
        simp only [both_eq_ok]
        refine ⟨⟨⟨?_, ?_⟩, optional_eq_none.mpr hrange⟩, hextra⟩
        · exact required_eq_ok.mpr ⟨_, htype, parsePeriodType_eq_ok.mpr rfl⟩
        · exact optional_eq_some.mpr ⟨_, hrelative, nofun, parseRelativePeriod_eq_ok.mpr rfl⟩
    | dateRange range =>
        obtain ⟨htype, hrelative, v, hv, hrange⟩ := hperiod
        refine ⟨(((true, none), some range), ()), ?_, rfl⟩
        simp only [both_eq_ok]
        refine ⟨⟨⟨?_, optional_eq_none.mpr hrelative⟩, ?_⟩, hextra⟩
        · exact required_eq_ok.mpr ⟨_, htype, parsePeriodType_eq_ok.mpr rfl⟩
        · refine optional_eq_some.mpr ⟨v, hv, ?_, hrange⟩
          rintro rfl
          obtain ⟨_, h, -⟩ := parseDateRange_eq_ok.mp hrange
          cases h

theorem parseProductQuery_eq_ok {query : ProductQuery} :
    parseProductQuery dep fields = .ok query ↔
      optional fields "product_id" (fun v ↦ ofExcept (dep.validators.uuid v)) =
        .ok query.productId ∧
      optional fields "product_name" parseStr = .ok query.productName ∧
      ∀ f ∈ fields, f.1 ∈ ["product_id", "product_name"] := by
  unfold parseProductQuery
  dsimp only
  rw [andThen_eq_ok]
  constructor
  · rintro ⟨⟨⟨id, name⟩, _⟩, hb, h⟩
    obtain ⟨hb, hextra⟩ := both_eq_ok.mp hb
    obtain ⟨hid, hname⟩ := both_eq_ok.mp hb
    dsimp only at h
    split at h <;> cases h
    exact ⟨hid, hname, forbidExtra_eq_ok.mp hextra⟩
  · rintro ⟨hid, hname, hextra⟩
    refine ⟨((query.productId, query.productName), ()), ?_, dif_pos query.identified⟩
    rw [both_eq_ok, both_eq_ok]
    exact ⟨⟨hid, hname⟩, forbidExtra_eq_ok.mpr hextra⟩

/-- The fields an input model reads an input from. -/
def InputFields (dep : Deployment) (fields : Json.Object) : ToolInput → Prop
  | .getSalesSummary period =>
      required fields "period" (parseReportingPeriod dep) = .ok period
  | .getTopProducts period ranking limit =>
      required fields "period" (parseReportingPeriod dep) = .ok period ∧
      optional fields "ranking_dimension" (parseEnum "'units' or 'revenue'"
        [("units", RankingDimension.units), ("revenue", .revenue)]) = .ok ranking ∧
      optional fields "limit" (parsePositive dep) = .ok limit
  | .getStockLevel query | .getProductPrice query => parseProductQuery dep fields = .ok query
  | .getLowStockItems => True
  | .getSalesTrend period comparison =>
      required fields "period" (parseReportingPeriod dep) = .ok period ∧
      optional fields "comparison_period" (parseReportingPeriod dep) = .ok comparison
  | .getSlowMovingItems period maxSalesCount limit =>
      required fields "period" (parseReportingPeriod dep) = .ok period ∧
      (match Json.Object.get? fields "max_sales_count" with
        | none => maxSalesCount = ⟨0, Int.le_refl 0⟩
        | some value => parseNonnegative dep value = .ok maxSalesCount) ∧
      optional fields "limit" (parsePositive dep) = .ok limit

/-- The fields of an input model. -/
def Tool.declared : Tool → List String
  | getSalesSummary => ["period"]
  | getTopProducts => ["period", "ranking_dimension", "limit"]
  | getStockLevel | getProductPrice => ["product_id", "product_name"]
  | getLowStockItems => []
  | getSalesTrend => ["period", "comparison_period"]
  | getSlowMovingItems => ["period", "max_sales_count", "limit"]

/-- An input model accepts the objects that have its fields and no other. -/
theorem modelValidate_eq_ok {tool : Tool} {input : ToolInput} :
    tool.modelValidate dep fields = .ok input ↔
      input.tool = tool ∧ InputFields dep fields input ∧ ∀ f ∈ fields, f.1 ∈ tool.declared := by
  constructor
  · intro h
    refine ⟨Tool.tool_of_modelValidate h, ?_⟩
    cases tool with
    | getSalesSummary =>
        obtain ⟨⟨period, _⟩, hm, rfl⟩ := map_eq_ok h
        obtain ⟨hperiod, hextra⟩ := both_eq_ok.mp hm
        exact ⟨hperiod, forbidExtra_eq_ok.mp hextra⟩
    | getTopProducts =>
        obtain ⟨⟨⟨⟨period, ranking⟩, limit⟩, _⟩, hm, rfl⟩ := map_eq_ok h
        simp only [both_eq_ok] at hm
        obtain ⟨⟨⟨hperiod, hranking⟩, hlimit⟩, hextra⟩ := hm
        exact ⟨⟨hperiod, hranking, hlimit⟩, forbidExtra_eq_ok.mp hextra⟩
    | getStockLevel =>
        obtain ⟨query, hquery, rfl⟩ := map_eq_ok h
        exact ⟨hquery, (parseProductQuery_eq_ok.mp hquery).2.2⟩
    | getLowStockItems =>
        obtain ⟨_, hextra, rfl⟩ := map_eq_ok h
        exact ⟨trivial, forbidExtra_eq_ok.mp hextra⟩
    | getSalesTrend =>
        obtain ⟨⟨⟨period, comparison⟩, _⟩, hm, rfl⟩ := map_eq_ok h
        simp only [both_eq_ok] at hm
        obtain ⟨⟨hperiod, hcomparison⟩, hextra⟩ := hm
        exact ⟨⟨hperiod, hcomparison⟩, forbidExtra_eq_ok.mp hextra⟩
    | getSlowMovingItems =>
        obtain ⟨⟨⟨⟨period, maxSalesCount⟩, limit⟩, _⟩, hm, rfl⟩ := map_eq_ok h
        simp only [both_eq_ok] at hm
        obtain ⟨⟨⟨hperiod, hmax⟩, hlimit⟩, hextra⟩ := hm
        refine ⟨⟨hperiod, ?_, hlimit⟩, forbidExtra_eq_ok.mp hextra⟩
        cases hv : Json.Object.get? fields "max_sales_count" with
        | none => simpa [hv, eq_comm] using hmax
        | some value => simpa [hv] using hmax
    | getProductPrice =>
        obtain ⟨query, hquery, rfl⟩ := map_eq_ok h
        exact ⟨hquery, (parseProductQuery_eq_ok.mp hquery).2.2⟩
  · rintro ⟨rfl, hfields, hextra⟩
    have hextra := forbidExtra_eq_ok.mpr hextra
    cases input with
    | getSalesSummary period =>
        exact map_eq_ok_iff.mpr ⟨(period, ()), both_eq_ok.mpr ⟨hfields, hextra⟩, rfl⟩
    | getTopProducts period ranking limit =>
        obtain ⟨hperiod, hranking, hlimit⟩ := hfields
        refine map_eq_ok_iff.mpr ⟨(((period, ranking), limit), ()), ?_, rfl⟩
        simp only [both_eq_ok]
        exact ⟨⟨⟨hperiod, hranking⟩, hlimit⟩, hextra⟩
    | getStockLevel query => exact map_eq_ok_iff.mpr ⟨query, hfields, rfl⟩
    | getLowStockItems => exact map_eq_ok_iff.mpr ⟨(), hextra, rfl⟩
    | getSalesTrend period comparison =>
        obtain ⟨hperiod, hcomparison⟩ := hfields
        refine map_eq_ok_iff.mpr ⟨((period, comparison), ()), ?_, rfl⟩
        simp only [both_eq_ok]
        exact ⟨⟨hperiod, hcomparison⟩, hextra⟩
    | getSlowMovingItems period maxSalesCount limit =>
        obtain ⟨hperiod, hmax, hlimit⟩ := hfields
        refine map_eq_ok_iff.mpr ⟨(((period, maxSalesCount), limit), ()), ?_, rfl⟩
        simp only [both_eq_ok]
        refine ⟨⟨⟨hperiod, ?_⟩, hlimit⟩, hextra⟩
        cases hv : Json.Object.get? fields "max_sales_count" with
        | none => simpa [hv, eq_comm] using hmax
        | some value => simpa [hv] using hmax
    | getProductPrice query => exact map_eq_ok_iff.mpr ⟨query, hfields, rfl⟩

theorem validateSchema_eq_ok {tool : Tool} {input : ToolInput} :
    validateSchema dep tool fields = .ok input ↔
      (∀ f ∈ fields, f.1 ≠ "shop_id") ∧ tool.modelValidate dep fields = .ok input := by
  have hany : fields.any (·.1 = "shop_id") = true ↔ ¬ ∀ f ∈ fields, f.1 ≠ "shop_id" := by
    simp only [List.any_eq_true, decide_eq_true_eq, not_forall, not_not, exists_prop]
  unfold validateSchema
  by_cases hshop : fields.any (·.1 = "shop_id") = true
  · rw [if_pos hshop]
    exact ⟨nofun, fun h ↦ absurd h.1 (hany.mp hshop)⟩
  · rw [if_neg hshop, iff_true_intro (not_not.mp (mt hany.mpr hshop)), true_and]
    cases tool.modelValidate dep fields with
    | ok input' => simp
    | issues list => simp
    | invalidDateRange message => simp

end Models

end SokoFlow.Analytics
