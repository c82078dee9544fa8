import SokoFlow.Analytics.Bounded

/-!
# Rejected proposals

An accepted argument object has objects in few places: it is one itself, its
periods are, and so are the date ranges of these.  Whatever the model puts
anywhere else, or into these objects besides their fields, keeps the handler
from being called.
-/

namespace SokoFlow

namespace Json

/-- A step into a value: to the field of a name or to the item of an index. -/
inductive Step
  | key (name : String)
  | index (i : ℕ)

def child : Json → Step → Option Json
  | .obj fields, .key name => Object.get? fields name
  | .arr items, .index i => items[i]?
  | _, _ => none

/-- The value at a place. -/
def at? : Json → List Step → Option Json
  | value, [] => some value
  | value, step :: path => (value.child step).bind fun v ↦ at? v path

/-- A value that is neither an array nor an object. -/
def IsScalar : Json → Prop
  | .arr _ | .obj _ => False
  | _ => True

theorem Object.mem_of_get? {fields : Object} {name : String} {value : Json}
    (h : Object.get? fields name = some value) : ∃ f ∈ fields, f.1 = name := by
  unfold Object.get? at h
  rw [Option.map_eq_some_iff] at h
  obtain ⟨f, hf, -⟩ := h
  exact ⟨f, List.mem_of_find?_eq_some hf, by simpa using List.find?_some hf⟩

theorem no_object_in_scalar {value : Json} {path : List Step} {fields : Object}
    (h : value.IsScalar) : value.at? path ≠ some (.obj fields) := by
  intro hp
  cases path with
  | nil =>
      cases hp
      exact h
  | cons step path => cases value <;> cases step <;> simp_all [at?, child, IsScalar]

/-- A place inside an object lies inside one of its fields. -/
theorem at?_obj {fields fields' : Object} {path : List Step}
    (h : (Json.obj fields).at? path = some (.obj fields')) :
    (path = [] ∧ fields' = fields) ∨ ∃ name value path', path = .key name :: path' ∧
      Object.get? fields name = some value ∧ value.at? path' = some (.obj fields') := by
  cases path with
  | nil =>
      cases h
      exact .inl ⟨rfl, rfl⟩
  | cons step path =>
      cases step with
      | index i => cases h
      | key name =>
          obtain ⟨value, hvalue, hp⟩ := Option.bind_eq_some_iff.mp h
          exact .inr ⟨name, value, path, rfl, hvalue, hp⟩

end Json

/-- pydantic reads a UUID, a date and an integer from no array and no object. -/
structure Validators.Scalar (validators : Validators) : Prop where
  uuid : ∀ {value id}, validators.uuid value = .ok id → value.IsScalar
  date : ∀ {value d}, validators.date value = .ok d → value.IsScalar
  int : ∀ {value n}, validators.int value = .ok n → value.IsScalar

theorem Validators.usual_scalar : Validators.usual.Scalar where
  uuid := by
    intro value id h
    cases value <;> first | cases h | trivial
  date := by
    intro value id h
    cases value <;> first | cases h | trivial
  int := by
    intro value n h
    cases value with
    | int n => trivial
    | _ => cases h

namespace Analytics

open DbM Effect Validated

/-! ## The places of the schemas -/

/-- The keys of a reporting period at a place in it. -/
def ReportingPeriod.declaredAt : List Json.Step → List String
  | [] => ["period_type", "relative_period", "date_range"]
  | [.key "date_range"] => ["start_date", "end_date"]
  | _ => []

/-- The keys the schema of a tool declares at a place in its arguments. -/
def Tool.declaredAt (tool : Tool) : List Json.Step → List String
  | [] => tool.declared
  | .key name :: path =>
      if name ∈ tool.declared ∧ (name = "period" ∨ name = "comparison_period") then
        ReportingPeriod.declaredAt path
      else []
  | .index _ :: _ => []

/-- The objects in accepted arguments. -/
inductive Accepted (dep : Deployment) (tool : Tool) (args : Json.Object) :
    List Json.Step → Json.Object → Prop
  | arguments (h : ∀ f ∈ args, f.1 ∈ tool.declared) : Accepted dep tool args [] args
  | period {name : String} {fields : Json.Object} {period : ReportingPeriod}
      (hname : name ∈ tool.declared ∧ (name = "period" ∨ name = "comparison_period"))
      (h : parseReportingPeriod dep (.obj fields) = .ok period) :
      Accepted dep tool args [.key name] fields
  | dateRange {name : String} {fields : Json.Object} {range : DateRange}
      (hname : name ∈ tool.declared ∧ (name = "period" ∨ name = "comparison_period"))
      (h : parseDateRange dep (.obj fields) = .ok range) :
      Accepted dep tool args [.key name, .key "date_range"] fields

section Places

variable {dep : Deployment} {value : Json} {path : List Json.Step} {fields : Json.Object}

theorem place_in_dateRange (hs : dep.validators.Scalar) {range : DateRange}
    (h : parseDateRange dep value = .ok range) (hp : value.at? path = some (.obj fields)) :
    path = [] ∧ parseDateRange dep (.obj fields) = .ok range := by
  obtain ⟨own, rfl, hown⟩ := parseDateRange_eq_ok.mp h
  rcases Json.at?_obj hp with ⟨rfl, rfl⟩ | ⟨name, v, path', rfl, hv, hp⟩
  · exact ⟨rfl, h⟩
  · have hdate : ∃ d, dep.validators.date v = .ok d := by
      obtain ⟨f, hf, rfl⟩ := Json.Object.mem_of_get? hv
      obtain ⟨s, hs, hsd⟩ := hown.start
      obtain ⟨e, he, hed⟩ := hown.stop
      have hname := hown.only f hf
      simp only [List.mem_cons, List.not_mem_nil, or_false] at hname
      rcases hname with hname | hname
      · rw [hname, hs] at hv
        cases hv
        exact ⟨_, hsd⟩
      · rw [hname, he] at hv
        cases hv
        exact ⟨_, hed⟩
    obtain ⟨d, hd⟩ := hdate
    exact absurd hp (Json.no_object_in_scalar (hs.date hd))

theorem no_object_in_unset {own : Json.Object} {name : String} (h : Unset own name)
    (hv : Json.Object.get? own name = some value) : value.at? path ≠ some (.obj fields) := by
  apply Json.no_object_in_scalar
  rw [h.eq_null hv]
  trivial

theorem no_object_in_optional {α : Type} {own : Json.Object} {name : String}
    {parse : Json → Validated α} {a : Option α} (h : optional own name parse = .ok a)
    (hscalar : ∀ v a, parse v = .ok a → v.IsScalar) (hv : Json.Object.get? own name = some value) :
    value.at? path ≠ some (.obj fields) := by
  cases a with
  | none => exact no_object_in_unset (optional_eq_none.mp h) hv
  | some a =>
      obtain ⟨v, hget, -, hparse⟩ := optional_eq_some.mp h
      rw [hv] at hget
      cases hget
      exact Json.no_object_in_scalar (hscalar _ _ hparse)

theorem place_in_period (hs : dep.validators.Scalar) {period : ReportingPeriod}
    (h : parseReportingPeriod dep value = .ok period) (hp : value.at? path = some (.obj fields)) :
    (path = [] ∧ parseReportingPeriod dep (.obj fields) = .ok period) ∨
      (path = [.key "date_range"] ∧ ∃ range, parseDateRange dep (.obj fields) = .ok range) := by
  obtain ⟨own, rfl, hown, honly⟩ := parseReportingPeriod_eq_ok.mp h
  rcases Json.at?_obj hp with ⟨rfl, rfl⟩ | ⟨name, v, path', rfl, hv, hp'⟩
  · exact .inl ⟨rfl, h⟩
  · right
    obtain ⟨f, hf, rfl⟩ := Json.Object.mem_of_get? hv
    have hname := honly f hf
    simp only [List.mem_cons, List.not_mem_nil, or_false] at hname
    have hlabel {s : String} (hl : Json.Object.get? own f.1 = some (.str s)) : False := by
      rw [hl] at hv
      cases hv
      exact Json.no_object_in_scalar (show (Json.str s).IsScalar from trivial) hp'
    cases period with
    | relative period =>
        obtain ⟨htype, hrelative, hrange⟩ := hown
        rcases hname with hname | hname | hname
        · exact (hlabel (hname ▸ htype)).elim
        · exact (hlabel (hname ▸ hrelative)).elim
        · exact absurd hp' (no_object_in_unset hrange (hname ▸ hv))
    | dateRange range =>
        obtain ⟨htype, hrelative, w, hw, hrange⟩ := hown
        rcases hname with hname | hname | hname
        · exact (hlabel (hname ▸ htype)).elim
        · exact absurd hp' (no_object_in_unset hrelative (hname ▸ hv))
        · rw [hname, hw] at hv
          cases hv
          obtain ⟨rfl, hfields⟩ := place_in_dateRange hs hrange hp'
          exact ⟨by rw [hname], range, hfields⟩

/-- Accepted arguments hold objects in the declared places only. -/
theorem accepted_places (hs : dep.validators.Scalar) {tool : Tool} {args : Json.Object}
    {input : ToolInput} (h : tool.modelValidate dep args = .ok input)
    (hp : (Json.obj args).at? path = some (.obj fields)) : Accepted dep tool args path fields := by
  obtain ⟨rfl, hfields, honly⟩ := modelValidate_eq_ok.mp h
  rcases Json.at?_obj hp with ⟨rfl, rfl⟩ | ⟨name, v, path', rfl, hv, hp'⟩
  · exact .arguments honly
  obtain ⟨f, hf, rfl⟩ := Json.Object.mem_of_get? hv
  have hmem := honly f hf
  have inPeriod (hname : f.1 = "period" ∨ f.1 = "comparison_period") {period : ReportingPeriod}
      (hparse : parseReportingPeriod dep v = .ok period) :
      Accepted dep input.tool args (.key f.1 :: path') fields := by
    rcases place_in_period hs hparse hp' with ⟨rfl, hperiod⟩ | ⟨rfl, range, hrange⟩
    · exact .period ⟨hmem, hname⟩ hperiod
    · exact .dateRange ⟨hmem, hname⟩ hrange
  have inRequired (hname : f.1 = "period") {period : ReportingPeriod}
      (hreq : required args "period" (parseReportingPeriod dep) = .ok period) :
      Accepted dep input.tool args (.key f.1 :: path') fields := by
    obtain ⟨w, hw, hparse⟩ := required_eq_ok.mp hreq
    rw [← hname, hv] at hw
    cases hw
    exact inPeriod (.inl hname) hparse
  have hlimit {limit : Option { n : ℤ // 0 < n }} (hname : f.1 = "limit")
      (hl : optional args "limit" (parsePositive dep) = .ok limit) :
      v.at? path' ≠ some (.obj fields) := by
    apply no_object_in_optional hl
    · intro w n hn
      exact hs.int (parsePositive_eq_ok.mp hn)
    · exact hname ▸ hv
  have hquery {query : ProductQuery} (hq : parseProductQuery dep args = .ok query) :
      v.at? path' ≠ some (.obj fields) := by
    obtain ⟨hid, hname, hkeys⟩ := parseProductQuery_eq_ok.mp hq
    have hkey := hkeys f hf
    simp only [List.mem_cons, List.not_mem_nil, or_false] at hkey
    rcases hkey with hkey | hkey
    · apply no_object_in_optional hid
      · intro w id hw
        exact hs.uuid (ofExcept_eq_ok.mp hw)
      · exact hkey ▸ hv
    · apply no_object_in_optional hname
      · intro w s hw
        rw [parseStr_eq_ok.mp hw]
        trivial
      · exact hkey ▸ hv
  have hkey := hmem
  cases input with
  | getSalesSummary period => exact inRequired (List.mem_singleton.mp hkey) hfields
  | getTopProducts period ranking limit =>
      obtain ⟨hperiod, hranking, hl⟩ := hfields
      simp only [ToolInput.tool, Tool.declared, List.mem_cons, List.not_mem_nil, or_false] at hkey
      rcases hkey with hkey | hkey | hkey
      · exact inRequired hkey hperiod
      · refine absurd hp' (no_object_in_optional hranking ?_ (hkey ▸ hv))
        intro w r hw
        rw [parseRankingDimension_eq_ok.mp hw]
        trivial
      · exact absurd hp' (hlimit hkey hl)
  | getStockLevel query => exact absurd hp' (hquery hfields)
  | getLowStockItems => cases hkey
  | getSalesTrend period comparison =>
      obtain ⟨hperiod, hcomparison⟩ := hfields
      simp only [ToolInput.tool, Tool.declared, List.mem_cons, List.not_mem_nil, or_false] at hkey
      rcases hkey with hkey | hkey
      · exact inRequired hkey hperiod
      · cases comparison with
        | none => exact absurd hp' (no_object_in_unset (optional_eq_none.mp hcomparison) (hkey ▸ hv))
        | some comparison =>
            obtain ⟨w, hw, -, hparse⟩ := optional_eq_some.mp hcomparison
            rw [← hkey, hv] at hw
            cases hw
            exact inPeriod (.inr hkey) hparse
  | getSlowMovingItems period maxSalesCount limit =>
      obtain ⟨hperiod, hmax, hl⟩ := hfields
      simp only [ToolInput.tool, Tool.declared, List.mem_cons, List.not_mem_nil, or_false] at hkey
      rcases hkey with hkey | hkey | hkey
      · exact inRequired hkey hperiod
      · rw [← hkey, hv] at hmax
        exact absurd hp' (Json.no_object_in_scalar (hs.int (parseNonnegative_eq_ok.mp hmax)))
      · exact absurd hp' (hlimit hkey hl)
  | getProductPrice query => exact absurd hp' (hquery hfields)

/-- A date range that does not end after it starts. -/
def OutOfOrder (dep : Deployment) (fields : Json.Object) : Prop :=
  ∃ v w s e, Json.Object.get? fields "start_date" = some v ∧
    Json.Object.get? fields "end_date" = some w ∧ dep.validators.date v = .ok s ∧
    dep.validators.date w = .ok e ∧ e.ordinal ≤ s.ordinal

/-- A period that lacks what its type asks for, or has what the other type asks for. -/
def Inconsistent (fields : Json.Object) : Prop :=
  (Json.Object.get? fields "period_type" = some (.str "relative") ∧
    (Unset fields "relative_period" ∨ ¬ Unset fields "date_range")) ∨
  (Json.Object.get? fields "period_type" = some (.str "date_range") ∧
    (Unset fields "date_range" ∨ ¬ Unset fields "relative_period"))

/-- Arguments with a scope of their own, an unknown key, a range out of order
or an inconsistent period, at any depth. -/
inductive Improper (dep : Deployment) (toolName : String) (args : Json.Object) : Prop
  | scope {path : List Json.Step} {fields : Json.Object} {f : String × Json}
      (hp : (Json.obj args).at? path = some (.obj fields)) (hf : f ∈ fields)
      (hname : f.1 = "shop_id")
  | undeclared {tool : Tool} {path : List Json.Step} {fields : Json.Object} {f : String × Json}
      (ht : Tool.getTool toolName = .ok tool)
      (hp : (Json.obj args).at? path = some (.obj fields)) (hf : f ∈ fields)
      (hname : f.1 ∉ tool.declaredAt path)
  | outOfOrder {path : List Json.Step} {fields : Json.Object}
      (hp : (Json.obj args).at? path = some (.obj fields)) (h : OutOfOrder dep fields)
  | inconsistent {path : List Json.Step} {fields : Json.Object}
      (hp : (Json.obj args).at? path = some (.obj fields)) (h : Inconsistent fields)

namespace Accepted

variable {tool : Tool} {args : Json.Object}

theorem declared (h : Accepted dep tool args path fields) :
    ∀ f ∈ fields, f.1 ∈ tool.declaredAt path := by
  cases h with
  | arguments h => exact h
  | period hname h =>
      obtain ⟨_, heq, -, honly⟩ := parseReportingPeriod_eq_ok.mp h
      cases heq
      rw [Tool.declaredAt, if_pos hname]
      exact honly
  | dateRange hname h =>
      obtain ⟨_, heq, hown⟩ := parseDateRange_eq_ok.mp h
      cases heq
      rw [Tool.declaredAt, if_pos hname]
      exact hown.only

/-- No schema declares a key for the shop. -/
theorem shop_id_undeclared (tool : Tool) (path : List Json.Step) :
    "shop_id" ∉ tool.declaredAt path := by
  unfold Tool.declaredAt
  split
  · cases tool <;> decide
  · split
    · unfold ReportingPeriod.declaredAt
      split <;> decide
    · decide
  · decide

theorem key_declared {name : String} {value : Json} (h : Accepted dep tool args path fields)
    (hv : Json.Object.get? fields name = some value) : name ∈ tool.declaredAt path := by
  obtain ⟨f, hf, rfl⟩ := Json.Object.mem_of_get? hv
  exact h.declared f hf

theorem in_order (h : Accepted dep tool args path fields) : ¬ OutOfOrder dep fields := by
  rintro ⟨v, w, s, e, hv, hw, hs, he, hle⟩
  have hkey := h.key_declared hv
  cases h with
  | arguments h => cases tool <;> simp [Tool.declaredAt, Tool.declared] at hkey
  | period hname h => simp [Tool.declaredAt, ReportingPeriod.declaredAt] at hkey
  | @dateRange name _ range hname h =>
      obtain ⟨_, heq, hown⟩ := parseDateRange_eq_ok.mp h
      cases heq
      obtain ⟨v', hv', hs'⟩ := hown.start
      obtain ⟨w', hw', he'⟩ := hown.stop
      rw [hv] at hv'
      cases hv'
      rw [hw] at hw'
      cases hw'
      rw [hs] at hs'
      cases hs'
      rw [he] at he'
      cases he'
      have hordered := range.ordered
      omega

theorem consistent (h : Accepted dep tool args path fields) : ¬ Inconsistent fields := by
  intro hi
  have htype : ∃ v, Json.Object.get? fields "period_type" = some v := by
    rcases hi with ⟨ht, -⟩ | ⟨ht, -⟩
    · exact ⟨_, ht⟩
    · exact ⟨_, ht⟩
  obtain ⟨v, htype⟩ := htype
  have hkey := h.key_declared htype
  cases h with
  | arguments h => cases tool <;> simp [Tool.declaredAt, Tool.declared] at hkey
  | @period name _ period hname h =>
      obtain ⟨_, heq, hown, -⟩ := parseReportingPeriod_eq_ok.mp h
      cases heq
      cases period with
      | relative period =>
          obtain ⟨ht, hrelative, hrange⟩ := hown
          rcases hi with ⟨-, hset | hset⟩ | ⟨ht', -⟩
          · cases hset.eq_null hrelative
          · exact hset hrange
          · simp [ht] at ht'
      | dateRange range =>
          obtain ⟨ht, hrelative, w, hw, hrange⟩ := hown
          rcases hi with ⟨ht', -⟩ | ⟨-, hset | hset⟩
          · simp [ht] at ht'
          · rw [hset.eq_null hw] at hrange
            obtain ⟨_, hobj, -⟩ := parseDateRange_eq_ok.mp hrange
            cases hobj
          · exact hset hrelative
  | dateRange hname h => simp [Tool.declaredAt, ReportingPeriod.declaredAt] at hkey

end Accepted

end Places

/-! ## The executor -/

section Executor

variable {dep : Deployment} {toolName : String} {rawArgs : Json.Object}

theorem not_improper_of_valid (hs : dep.validators.Scalar) {input : ToolInput}
    (h : validateCall dep toolName rawArgs = .ok input) : ¬ Improper dep toolName rawArgs := by
  obtain ⟨tool, ht, hv⟩ := validateCall_eq_ok.mp h
  obtain ⟨-, hmodel⟩ := validateSchema_eq_ok.mp hv
  intro hi
  cases hi with
  | scope hp hf hname =>
      have hmem := (accepted_places hs hmodel hp).declared _ hf
      rw [hname] at hmem
      exact Accepted.shop_id_undeclared tool _ hmem
  | undeclared ht' hp hf hname =>
      rw [ht] at ht'
      cases ht'
      exact hname ((accepted_places hs hmodel hp).declared _ hf)
  | outOfOrder hp hrange => exact (accepted_places hs hmodel hp).in_order hrange
  | inconsistent hp hperiod => exact (accepted_places hs hmodel hp).consistent hperiod

/-- What a call notes: no handler for arguments that do not validate, else the
handler of the tool, once and for the trusted shop. -/
theorem execute_handled (dep : Deployment) (toolName : String) (rawArgs : Json.Object)
    (shopId : UUID) (b : Backend) :
    ∃ result b' events, execute dep toolName rawArgs shopId b = .ok result b' ∧
      b'.journal = b.journal ++ events ∧
      (events.filter Event.isHandled = [] ∨ ∃ tool input, Tool.getTool toolName = .ok tool ∧
        validateSchema dep tool rawArgs = .ok input ∧
        events.filter Event.isHandled = [.handled toolName shopId input.dump]) := by
  cases hv : validateCall dep toolName rawArgs with
  | error error => exact ⟨_, b, [], executeWith_of_invalid hv, (List.append_nil _).symm, .inl rfl⟩
  | ok input =>
      obtain ⟨tool, ht, hschema⟩ := validateCall_eq_ok.mp hv
      rcases executeWith_handles (b := b) hv (handler_queries dep shopId input).within with
        ⟨data, b₁, b', -, hx, hj⟩ | ⟨e, b', -, hx, hj⟩
      · exact ⟨_, b', _, hx, hj, .inr ⟨tool, input, ht, hschema, rfl⟩⟩
      · exact ⟨_, b', _, hx, hj, .inr ⟨tool, input, ht, hschema, rfl⟩⟩

theorem executeWith_congr {handle handle' : UUID → ToolInput → DbM ToolOutput} {shopId : UUID}
    (h : handle shopId = handle' shopId) :
    executeWith handle dep toolName rawArgs shopId =
      executeWith handle' dep toolName rawArgs shopId := by
  unfold executeWith runHandler
  rw [h]

end Executor

/-- A call starts at most one handler, that of its tool with the validated
arguments and the trusted shop.  Improper arguments reach no handler: whatever
the handlers are, the call fails and leaves the session as it is. -/
theorem rejected_proposals_have_no_effect {dep : Deployment} (hs : dep.validators.Scalar)
    (toolName : String) (rawArgs : Json.Object) (shopId : UUID) :
    (∀ b, ∃ result b' events, execute dep toolName rawArgs shopId b = .ok result b' ∧
      b'.journal = b.journal ++ events ∧
      (events.filter Event.isHandled = [] ∨ ∃ tool input, Tool.getTool toolName = .ok tool ∧
        validateSchema dep tool rawArgs = .ok input ∧
        events.filter Event.isHandled = [.handled toolName shopId input.dump])) ∧
    (∀ handle handle' : UUID → ToolInput → DbM ToolOutput, handle shopId = handle' shopId →
      executeWith handle dep toolName rawArgs shopId =
        executeWith handle' dep toolName rawArgs shopId) ∧
    (Improper dep toolName rawArgs → ∃ error, ∀ handle b,
      executeWith handle dep toolName rawArgs shopId b = .ok (.failure toolName error) b) := by
  refine ⟨execute_handled dep toolName rawArgs shopId, fun _ _ h ↦ executeWith_congr h, ?_⟩
  intro hi
  cases hv : validateCall dep toolName rawArgs with
  | error error => exact ⟨error, fun handle b ↦ executeWith_of_invalid hv⟩
  | ok input => exact absurd hi (not_improper_of_valid hs hv)

/-- A period that carries a scope. -/
def scopedPeriod : Json.Object :=
  [("period_type", .str "relative"), ("relative_period", .str "day"), ("shop_id", .str "1")]

theorem scoped_period_has_no_effect :
    (Json.obj [("period", .obj scopedPeriod)]).at? [.key "period"] = some (.obj scopedPeriod) ∧
      ∃ error, ∀ handle b, executeWith handle .sample "get_sales_summary"
        [("period", .obj scopedPeriod)] ⟨7⟩ b = .ok (.failure "get_sales_summary" error) b := by
  have hp : (Json.obj [("period", .obj scopedPeriod)]).at? [.key "period"] =
      some (.obj scopedPeriod) := by simp [Json.at?, Json.child, Json.Object.get?]
  have hf : ("shop_id", .str "1") ∈ scopedPeriod := by simp [scopedPeriod]
  exact ⟨hp, (rejected_proposals_have_no_effect Validators.usual_scalar _ _ _).2.2
    (.scope hp hf rfl)⟩

end Analytics

end SokoFlow
