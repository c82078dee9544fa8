import SokoFlow.Config

/-!
# Tool arguments (`contracts/tools.py`, `contracts/period.py`, `validator.py`)

The input models of the seven tools with `extra="forbid"`.  A validated input
is a value that carries what its model's validators checked; a date range that
is not in order raises through pydantic instead of becoming an issue.
-/

namespace SokoFlow.Analytics

inductive RelativePeriod
  | day
  | week
  | month
  | year
  deriving DecidableEq

structure DateRange where
  startDate : Calendar.Date
  endDate : Calendar.Date
  ordered : startDate.ordinal < endDate.ordinal

/-- A validated `ReportingPeriod`: the one of the two periods its type asks for. -/
inductive ReportingPeriod
  | relative (period : RelativePeriod)
  | dateRange (range : DateRange)

inductive RankingDimension
  | units
  | revenue
  deriving DecidableEq

/-- The identifier of `GetStockLevelInput` and `GetProductPriceInput`. -/
structure ProductQuery where
  productId : Option UUID
  productName : Option String
  identified : productId = none → ∃ name, productName = some name ∧ Text.strip name ≠ ""

inductive ToolInput
  | getSalesSummary (period : ReportingPeriod)
  | getTopProducts (period : ReportingPeriod) (rankingDimension : Option RankingDimension)
      (limit : Option { n : ℤ // 0 < n })
  | getStockLevel (query : ProductQuery)
  | getLowStockItems
  | getSalesTrend (period : ReportingPeriod) (comparisonPeriod : Option ReportingPeriod)
  | getSlowMovingItems (period : ReportingPeriod) (maxSalesCount : { n : ℤ // 0 ≤ n })
      (limit : Option { n : ℤ // 0 < n })
  | getProductPrice (query : ProductQuery)

/-! ## Validation -/

/-- The outcome of validating a value: pydantic collects issues, but an
`InvalidDateRangeError` raised by a validator ends the validation. -/
inductive Validated (α : Type)
  | ok (a : α)
  | issues (list : List SchemaIssue)
  | invalidDateRange (message : String)

namespace Validated

variable {α β : Type}

def map (f : α → β) : Validated α → Validated β
  | ok a => ok (f a)
  | issues l => issues l
  | invalidDateRange m => invalidDateRange m

/-- Two fields of one model, the first one first. -/
def both : Validated α → Validated β → Validated (α × β)
  | invalidDateRange m, _ => invalidDateRange m
  | _, invalidDateRange m => invalidDateRange m
  | ok a, ok b => ok (a, b)
  | issues l, issues l' => issues (l ++ l')
  | issues l, ok _ => issues l
  | ok _, issues l => issues l

def andThen (x : Validated α) (f : α → Validated β) : Validated β :=
  match x with
  | ok a => f a
  | issues l => issues l
  | invalidDateRange m => invalidDateRange m

def under (name : String) : Validated α → Validated α
  | issues l => issues (l.map fun i ↦ { i with loc := name :: i.loc })
  | x => x

def issue (message type : String) : Validated α := issues [⟨[], message, type⟩]

def ofExcept : Except (String × String) α → Validated α
  | .ok a => ok a
  | .error (message, type) => issue message type

end Validated

open Validated

/-- A field without default. -/
def required {α : Type} (fields : Json.Object) (name : String) (parse : Json → Validated α) :
    Validated α :=
  match Json.Object.get? fields name with
  | none => under name (issue "Field required" "missing")
  | some value => under name (parse value)

/-- A field of type `T | None` with default `None`. -/
def optional {α : Type} (fields : Json.Object) (name : String) (parse : Json → Validated α) :
    Validated (Option α) :=
  match Json.Object.get? fields name with
  | none => ok none
  | some .null => ok none
  | some value => under name ((parse value).map some)

/-- `extra="forbid"` -/
def forbidExtra (fields : Json.Object) (declared : List String) : Validated Unit :=
  match fields.filter fun f ↦ f.1 ∉ declared with
  | [] => ok ()
  | extra => issues (extra.map fun f ↦
      ⟨[f.1], "Extra inputs are not permitted", "extra_forbidden"⟩)

def asObject {α : Type} (model : String) (parse : Json.Object → Validated α) : Json → Validated α
  | .obj fields => parse fields
  | _ => issue ("Input should be a valid dictionary or instance of " ++ model) "model_type"

def parseStr : Json → Validated String
  | .str s => ok s
  | _ => issue "Input should be a valid string" "string_type"

/-- A `StrEnum` with the given members. -/
def parseEnum {α : Type} (expected : String) (members : List (String × α)) : Json → Validated α
  | .str s => match members.find? (·.1 = s) with
    | some m => ok m.2
    | none => issue ("Input should be " ++ expected) "enum"
  | _ => issue ("Input should be " ++ expected) "enum"

def parsePositive (dep : Deployment) (value : Json) : Validated { n : ℤ // 0 < n } :=
  (ofExcept (dep.validators.int value)).andThen fun n ↦
    if h : 0 < n then ok ⟨n, h⟩ else issue "Input should be greater than 0" "greater_than"

def parseNonnegative (dep : Deployment) (value : Json) : Validated { n : ℤ // 0 ≤ n } :=
  (ofExcept (dep.validators.int value)).andThen fun n ↦
    if h : 0 ≤ n then ok ⟨n, h⟩
    else issue "Input should be greater than or equal to 0" "greater_than_equal"

/-! ## The models -/

def parseDateRange (dep : Deployment) : Json → Validated DateRange :=
  asObject "DateRange" fun fields ↦
    let date name := required fields name fun v ↦ ofExcept (dep.validators.date v)
    (both (both (date "start_date") (date "end_date"))
      (forbidExtra fields ["start_date", "end_date"])).andThen fun ((s, e), _) ↦
        if h : s.ordinal < e.ordinal then ok ⟨s, e, h⟩
        else invalidDateRange
          ("Start date (" ++ s.iso ++ ") must be before end date (" ++ e.iso ++ ").")

def parseReportingPeriod (dep : Deployment) : Json → Validated ReportingPeriod :=
  asObject "ReportingPeriod" fun fields ↦
    let type := required fields "period_type"
      (parseEnum "'relative' or 'date_range'" [("relative", false), ("date_range", true)])
    let relative := optional fields "relative_period"
      (parseEnum "'day', 'week', 'month' or 'year'"
        [("day", RelativePeriod.day), ("week", .week), ("month", .month), ("year", .year)])
    let range := optional fields "date_range" (parseDateRange dep)
    (both (both (both type relative) range)
      (forbidExtra fields ["period_type", "relative_period", "date_range"])).andThen
      fun (((isRange, relative), range), _) ↦
        match isRange, relative, range with
        | false, none, _ =>
            issue "Value error, relative_period is required when period_type is 'relative'."
              "value_error"
        | false, some _, some _ =>
            issue "Value error, date_range must be null when period_type is 'relative'."
              "value_error"
        | false, some period, none => ok (.relative period)
        | true, _, none =>
            issue "Value error, date_range is required when period_type is 'date_range'."
              "value_error"
        | true, some _, some _ =>
            issue "Value error, relative_period must be null when period_type is 'date_range'."
              "value_error"
        | true, none, some range => ok (.dateRange range)

def parseProductQuery (dep : Deployment) (fields : Json.Object) : Validated ProductQuery :=
  let id := optional fields "product_id" fun v ↦ ofExcept (dep.validators.uuid v)
  let name := optional fields "product_name" parseStr
  (both (both id name) (forbidExtra fields ["product_id", "product_name"])).andThen
    fun ((id, name), _) ↦
      if h : id = none → ∃ n, name = some n ∧ Text.strip n ≠ "" then ok ⟨id, name, h⟩
      else issue "Value error, Either product_id or product_name must be provided." "value_error"

/-! ## The tools -/

inductive Tool
  | getSalesSummary
  | getTopProducts
  | getStockLevel
  | getLowStockItems
  | getSalesTrend
  | getSlowMovingItems
  | getProductPrice
  deriving DecidableEq

namespace Tool

/-- The tools of `build_default_registry`, in the order they are registered. -/
def registered : List Tool :=
  [getSalesSummary, getTopProducts, getStockLevel, getLowStockItems, getSalesTrend,
    getSlowMovingItems, getProductPrice]

def name : Tool → String
  | getSalesSummary => "get_sales_summary"
  | getTopProducts => "get_top_products"
  | getStockLevel => "get_stock_level"
  | getLowStockItems => "get_low_stock_items"
  | getSalesTrend => "get_sales_trend"
  | getSlowMovingItems => "get_slow_moving_items"
  | getProductPrice => "get_product_price"

/-- `input_model.__name__` -/
def inputModel : Tool → String
  | getSalesSummary => "GetSalesSummaryInput"
  | getTopProducts => "GetTopProductsInput"
  | getStockLevel => "GetStockLevelInput"
  | getLowStockItems => "GetLowStockItemsInput"
  | getSalesTrend => "GetSalesTrendInput"
  | getSlowMovingItems => "GetSlowMovingItemsInput"
  | getProductPrice => "GetProductPriceInput"

/-- `ToolRegistry.get_tool` -/
def getTool (name : String) : Except Exc Tool :=
  match registered.find? (·.name = name) with
  | none => .error (.toolNotFound name)
  | some tool => .ok tool

/-- `input_model.model_validate` -/
def modelValidate (dep : Deployment) (tool : Tool) (fields : Json.Object) : Validated ToolInput :=
  let period := required fields "period" (parseReportingPeriod dep)
  let limit := optional fields "limit" (parsePositive dep)
  match tool with
  | getSalesSummary =>
      (both period (forbidExtra fields ["period"])).map fun (period, _) ↦ .getSalesSummary period
  | getTopProducts =>
      let ranking := optional fields "ranking_dimension" (parseEnum "'units' or 'revenue'"
        [("units", RankingDimension.units), ("revenue", .revenue)])
      (both (both (both period ranking) limit)
        (forbidExtra fields ["period", "ranking_dimension", "limit"])).map
          fun (((period, ranking), limit), _) ↦ .getTopProducts period ranking limit
  | getStockLevel => (parseProductQuery dep fields).map .getStockLevel
  | getLowStockItems => (forbidExtra fields []).map fun _ ↦ .getLowStockItems
  | getSalesTrend =>
      let comparison := optional fields "comparison_period" (parseReportingPeriod dep)
      (both (both period comparison) (forbidExtra fields ["period", "comparison_period"])).map
        fun ((period, comparison), _) ↦ .getSalesTrend period comparison
  | getSlowMovingItems =>
      let maxSalesCount : Validated { n : ℤ // 0 ≤ n } :=
        match Json.Object.get? fields "max_sales_count" with
        | none => ok ⟨0, le_rfl⟩
        | some value => under "max_sales_count" (parseNonnegative dep value)
      (both (both (both period maxSalesCount) limit)
        (forbidExtra fields ["period", "max_sales_count", "limit"])).map
          fun (((period, maxSalesCount), limit), _) ↦ .getSlowMovingItems period maxSalesCount limit
  | getProductPrice => (parseProductQuery dep fields).map .getProductPrice

end Tool

/-- The tool whose model an input belongs to. -/
def ToolInput.tool : ToolInput → Tool
  | getSalesSummary .. => .getSalesSummary
  | getTopProducts .. => .getTopProducts
  | getStockLevel .. => .getStockLevel
  | getLowStockItems => .getLowStockItems
  | getSalesTrend .. => .getSalesTrend
  | getSlowMovingItems .. => .getSlowMovingItems
  | getProductPrice .. => .getProductPrice

theorem Validated.map_eq_ok {α β : Type} {f : α → β} {x : Validated α} {b : β}
    (h : x.map f = .ok b) : ∃ a, x = .ok a ∧ f a = b := by
  cases x with
  | ok a =>
      cases h
      exact ⟨a, rfl, rfl⟩
  | issues l => cases h
  | invalidDateRange m => cases h

theorem Tool.tool_of_modelValidate {dep : Deployment} {tool : Tool} {fields : Json.Object}
    {input : ToolInput} (h : tool.modelValidate dep fields = .ok input) : input.tool = tool := by
  cases tool <;> (obtain ⟨a, _, rfl⟩ := Validated.map_eq_ok h; rfl)

theorem Tool.name_of_getTool {name : String} {tool : Tool} (h : getTool name = .ok tool) :
    tool.name = name := by
  unfold getTool at h
  cases hf : registered.find? (·.name = name) with
  | none => simp [hf] at h
  | some found =>
      have hn := List.find?_some hf
      simp only [hf, Except.ok.injEq] at h
      simpa [h] using hn

/-- `ToolValidator.validate_schema` -/
def validateSchema (dep : Deployment) (tool : Tool) (rawArgs : Json.Object) :
    Except Exc ToolInput :=
  if rawArgs.any (·.1 = "shop_id") then
    .error (.schemaValidation ("Argument 'shop_id' is prohibited in AI tool calls. " ++
      "Shop scope is trusted backend context.") [])
  else match tool.modelValidate dep rawArgs with
    | .ok input => .ok input
    | .invalidDateRange message => .error (.invalidDateRange message)
    | .issues list => .error (.schemaValidation
        ("Schema validation failed for " ++ tool.inputModel ++ ": " ++
          dep.validators.render tool.inputModel (.obj rawArgs) list)
        (list.map fun i ↦ ⟨Text.join " -> " i.loc, i.message, i.type⟩))

theorem validateSchema_error {dep : Deployment} {tool : Tool} {rawArgs : Json.Object} {e : Exc}
    (h : validateSchema dep tool rawArgs = .error e) :
    (∃ message errors, e = .schemaValidation message errors) ∨
      ∃ message, e = .invalidDateRange message := by
  unfold validateSchema at h
  split at h
  · cases h
    exact .inl ⟨_, _, rfl⟩
  · split at h <;> cases h
    · exact .inr ⟨_, rfl⟩
    · exact .inl ⟨_, _, rfl⟩

theorem validateSchema_ok {dep : Deployment} {tool : Tool} {rawArgs : Json.Object}
    {input : ToolInput} (h : validateSchema dep tool rawArgs = .ok input) : input.tool = tool := by
  unfold validateSchema at h
  split at h
  · cases h
  · split at h <;> cases h
    rename_i hv
    exact Tool.tool_of_modelValidate hv

/-! ## `model_dump(mode="json", exclude_none=True)` -/

def RelativePeriod.value : RelativePeriod → String
  | day => "day"
  | week => "week"
  | month => "month"
  | year => "year"

def RankingDimension.value : RankingDimension → String
  | units => "units"
  | revenue => "revenue"

def ReportingPeriod.dump : ReportingPeriod → Json
  | relative period =>
      .obj [("period_type", .str "relative"), ("relative_period", .str period.value)]
  | dateRange range =>
      .obj [("period_type", .str "date_range"), ("date_range",
        .obj [("start_date", .str range.startDate.iso), ("end_date", .str range.endDate.iso)])]

/-- The fields that are set. -/
def dumpFields (fields : List (String × Option Json)) : Json.Object :=
  fields.filterMap fun (name, value) ↦ value.map (name, ·)

def ProductQuery.dump (query : ProductQuery) : Json.Object :=
  dumpFields [("product_id", query.productId.map fun id ↦ .str id.text),
    ("product_name", query.productName.map .str)]

def ToolInput.dump : ToolInput → Json.Object
  | getSalesSummary period => [("period", period.dump)]
  | getTopProducts period ranking limit =>
      dumpFields [("period", some period.dump),
        ("ranking_dimension", ranking.map fun r ↦ .str r.value), ("limit", limit.map (.int ·.val))]
  | getStockLevel query => query.dump
  | getLowStockItems => []
  | getSalesTrend period comparison =>
      dumpFields [("period", some period.dump), ("comparison_period", comparison.map (·.dump))]
  | getSlowMovingItems period maxSalesCount limit =>
      dumpFields [("period", some period.dump), ("max_sales_count", some (.int maxSalesCount.val)),
        ("limit", limit.map (.int ·.val))]
  | getProductPrice query => query.dump

end SokoFlow.Analytics
