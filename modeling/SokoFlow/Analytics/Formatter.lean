import SokoFlow.Analytics.Orchestrator

/-!
# `formatter.py`

The message key and the parameters of the reply to an outcome.
-/

namespace SokoFlow.Analytics

open DbM Effect

section PeriodNames

variable (dep : Deployment)

/-- The name of a relative period; its key in the mapping has to be hashable. -/
def relativeName (period : Json.Object) : Except Exc String :=
  let rel := (Json.Object.get? period "relative_period").getD (.str "")
  match rel with
  | .str "day" => .ok "today"
  | .str "week" => .ok "this week"
  | .str "month" => .ok "this month"
  | .str "year" => .ok "this year"
  | .arr _ | .obj _ => .error (.other "TypeError" ("unhashable type: '" ++ rel.typeName ++ "'"))
  | _ => .ok ("the requested " ++ if rel.truthy then dep.str rel else "period")

def rangeName (period : Json.Object) : Except Exc String :=
  match (Json.Object.get? period "date_range").getD (.obj []) with
  | .obj range =>
      let s := (Json.Object.get? range "start_date").getD (.str "")
      let e := (Json.Object.get? range "end_date").getD (.str "")
      .ok (if s.truthy ∧ e.truthy then dep.str s ++ " to " ++ dep.str e else "the requested period")
  | dr => .error (.other "AttributeError"
      ("'" ++ dr.typeName ++ "' object has no attribute 'get'"))

/-- `_resolve_period_name` of the value under `period`. -/
def periodName : Option Json → Except Exc String
  | some (.str s) => .ok s
  | some (.obj period) =>
      match Json.Object.get? period "period_type" with
      | some (.str "relative") => relativeName dep period
      | some (.str "date_range") => rangeName dep period
      | _ => .ok "the requested period"
  | _ => .ok "the requested period"

def resolvePeriodName (args : Json.Object) : Except Exc String :=
  periodName dep (Json.Object.get? args "period")

/-- The value under `comparison_period`, unless it is false. -/
def comparisonArgument (args : Json.Object) : Option Json :=
  (Json.Object.get? args "comparison_period").filter Json.truthy

def comparisonPeriodName (args : Json.Object) : Except Exc String :=
  match comparisonArgument args with
  | none => .ok "previous equivalent period"
  | some period => periodName dep (some period)

end PeriodNames

/-- Lines with the numbers from 1. -/
def numbered (lines : List String) : List String :=
  lines.zipIdx.map fun (line, i) ↦ Text.ofInt (i + 1) ++ ". " ++ line

def formatTopProducts (periodName : String) (out : TopProducts) : MessageKey × Params :=
  let units := out.units.getD []
  let revenue := out.revenue.getD []
  let unitLines := if units.isEmpty then [] else
    "*By units sold:*" :: numbered ((units.take 5).map fun (_, name, n) ↦
      name ++ " — " ++ Text.ofInt n ++ " units")
  let revenueLines := if revenue.isEmpty then [] else
    (if unitLines.isEmpty then [] else [""]) ++
      "*By revenue:*" :: numbered ((revenue.take 5).map fun (_, name, q) ↦
        name ++ " — KES " ++ Decimal.comma2 q)
  let lines := unitLines ++ revenueLines
  (.ANALYTICS_TOP_PRODUCTS, [("period_name", .text periodName), ("products_summary",
    .text (if lines.isEmpty then "No product rankings available." else Text.join "\n" lines))])

def formatStockLevel (out : StockLevel) : MessageKey × Params :=
  let shown : Params := [("product_name", .text out.productName), ("quantity", .int out.quantity),
    ("price", .text (Decimal.comma2 out.unitPrice))]
  if out.isLowStock then
    (.ANALYTICS_STOCK_LEVEL_LOW, shown ++ [("threshold", .int out.lowStockThreshold)])
  else (.ANALYTICS_STOCK_LEVEL, shown)

def formatLowStockItems (items : List LowStockProduct) : MessageKey × Params :=
  let lines := (items.take 10).map fun item ↦ "• " ++ item.name ++ ": " ++
    Text.ofInt item.quantity ++ " units left (threshold: " ++
    Text.ofInt item.lowStockThreshold ++ ")"
  (.ANALYTICS_LOW_STOCK_ITEMS, [("count", .int items.length), ("items_summary",
    .text (if lines.isEmpty then "No items currently below threshold."
      else Text.join "\n" lines))])

/-- `f"{sign}{change:.1f}%"` -/
def signed (change : Double) : String :=
  (if change.nonnegative then "+" else "") ++ change.fixed 1 ++ "%"

def formatSalesTrend (periodName comparisonName : String) (out : SalesTrend) :
    MessageKey × Params :=
  (.ANALYTICS_SALES_TREND,
    [("period_name", .text periodName), ("comparison_period_name", .text comparisonName),
      ("current_revenue", .text (Decimal.comma2 out.currentPeriodRevenue)),
      ("previous_revenue", .text (Decimal.comma2 out.previousPeriodRevenue)),
      ("revenue_change", .text (signed out.revenueChangePercentage)),
      ("current_transactions", .int out.currentPeriodTransactions),
      ("previous_transactions", .int out.previousPeriodTransactions),
      ("transaction_change", .text (signed out.transactionChangePercentage))])

def formatSlowMovingItems (periodName : String) (items : List SlowMovingProduct) :
    MessageKey × Params :=
  let lines := (items.take 10).map fun item ↦ "• " ++ item.productName ++ ": " ++
    Text.ofInt item.unitsSold ++ " sold (" ++ Text.ofInt item.currentStock ++ " in stock)"
  (.ANALYTICS_SLOW_MOVING_ITEMS, [("period_name", .text periodName),
    ("count", .int items.length), ("items_summary",
      .text (if lines.isEmpty then "No slow-moving products identified."
        else Text.join "\n" lines))])

def formatAnswered (dep : Deployment) (args : Json.Object) :
    ToolOutput → Except Exc (MessageKey × Params)
  | .salesSummary out => do
      let periodName ← resolvePeriodName dep args
      return (.ANALYTICS_SALES_SUMMARY, [("period_name", .text periodName),
        ("total_revenue", .text (Decimal.comma2 out.revenue)),
        ("transaction_count", .int out.transactionCount)])
  | .stockLevel out => .ok (formatStockLevel out)
  | .topProducts out => do
      let periodName ← resolvePeriodName dep args
      return formatTopProducts periodName out
  | .lowStockItems items => .ok (formatLowStockItems items)
  | .salesTrend out => do
      let periodName ← resolvePeriodName dep args
      let comparisonName ← comparisonPeriodName dep args
      return formatSalesTrend periodName comparisonName out
  | .slowMovingItems items => do
      let periodName ← resolvePeriodName dep args
      return formatSlowMovingItems periodName items
  | .productPrice out => .ok
      (.ANALYTICS_PRODUCT_PRICE, [("product_name", .text out.productName),
        ("price", .text (Decimal.comma2 out.unitPrice)), ("sku", .text out.sku)])

def formatAnsweredEmpty (periodName : String) : Answer → MessageKey × Params
  | .of (.topProducts _) => (.ANALYTICS_TOP_PRODUCTS_EMPTY, [("period_name", .text periodName)])
  | .of (.lowStockItems _) => (.ANALYTICS_LOW_STOCK_ITEMS_EMPTY, [])
  | .of (.salesTrend _) => (.ANALYTICS_SALES_TREND_EMPTY, [("period_name", .text periodName)])
  | .of (.slowMovingItems _) =>
      (.ANALYTICS_SLOW_MOVING_ITEMS_EMPTY, [("period_name", .text periodName)])
  | _ => (.ANALYTICS_SALES_SUMMARY_EMPTY, [("period_name", .text periodName)])

/-- `outcome.call.get("arguments")` -/
def argumentsOf (call : Option ToolCall) : Json.Object := (call.map ToolCall.arguments).getD []

/-- `AnalyticsFormatter.format_outcome` -/
def formatOutcome (dep : Deployment) : AnalyticsOutcome → Except Exc (MessageKey × Params)
  | .answered (.of data) call => formatAnswered dep (argumentsOf call) data
  | .answered (.other tool _) _ =>
      .ok (.UNKNOWN_ERROR, [("message", .text ("Tool '" ++ tool ++ "' executed successfully."))])
  | .answeredEmpty answer call => do
      -- the period is looked at before the tool, for every tool
      let periodName ← resolvePeriodName dep (argumentsOf call)
      return formatAnsweredEmpty periodName answer
  | .needsSelection candidates _ _ =>
      .ok (.PRODUCT_CHOICES, [("candidates", .candidates candidates)])
  | .noAnalyticsIntent => .ok (.ANALYTICS_INVALID_PROPOSAL, [("message", .text "")])
  | .malformedResponse m | .invalidProposal m _ | .argumentValidationFailed _ m _ =>
      .ok (.ANALYTICS_INVALID_PROPOSAL, [("message", .text m)])
  | .domainFailure _ errorType m _ =>
      if errorType = "ProductNotFoundError" then .ok (.PRODUCT_NOT_FOUND, [])
      else .ok (.ANALYTICS_DOMAIN_ERROR, [("message",
        .text (if m = "" then "Could not complete analytics request." else m))])
  | .providerUnavailable _ => .ok (.ANALYTICS_PROVIDER_UNAVAILABLE, [])
  | .infrastructureFailure _ => .ok (.ANALYTICS_INFRASTRUCTURE_ERROR, [])
  -- the constructor's error type is never the one of the other key
  | .guardrailRejected _ => .ok (.ANALYTICS_DAILY_LIMIT, [])

/-! ## The periods that have a name -/

/-- A period that `_resolve_period_name` can be given: the formatter looks up a
relative period that is no container, and in a date range that is an object. -/
def Nameable : Option Json → Prop
  | some (.obj period) =>
      (Json.Object.get? period "period_type" = some (.str "relative") →
        ∀ rel, Json.Object.get? period "relative_period" = some rel →
          rel.typeName ≠ "list" ∧ rel.typeName ≠ "dict") ∧
      (Json.Object.get? period "period_type" = some (.str "date_range") →
        ∀ dr, Json.Object.get? period "date_range" = some dr → dr.typeName = "dict")
  | _ => True

/-- The periods the reply to an outcome names. -/
def AnalyticsOutcome.periods : AnalyticsOutcome → List (Option Json)
  | answered (.of (.salesTrend _)) call =>
      [Json.Object.get? (argumentsOf call) "period", comparisonArgument (argumentsOf call)]
  | answered (.of (.salesSummary _)) call | answered (.of (.topProducts _)) call
  | answered (.of (.slowMovingItems _)) call | answeredEmpty _ call =>
      [Json.Object.get? (argumentsOf call) "period"]
  | _ => []

/-- Every period the reply names can be named. -/
def AnalyticsOutcome.Presentable (outcome : AnalyticsOutcome) : Prop :=
  ∀ period ∈ outcome.periods, Nameable period

variable {dep : Deployment}

theorem relativeName_ok_iff {period : Json.Object} :
    (∃ name, relativeName dep period = .ok name) ↔
      ∀ rel, Json.Object.get? period "relative_period" = some rel →
        rel.typeName ≠ "list" ∧ rel.typeName ≠ "dict" := by
  unfold relativeName
  cases Json.Object.get? period "relative_period" with
  | none => exact ⟨fun _ rel h ↦ (by cases h), fun _ ↦ ⟨_, rfl⟩⟩
  | some rel =>
      dsimp only [Option.getD]
      constructor
      · rintro ⟨name, h⟩ rel' hrel
        cases hrel
        cases rel with
        | arr items => cases h
        | obj fields => cases h
        | _ => simp [Json.typeName]
      · intro h
        cases rel with
        | arr items => exact absurd rfl (h _ rfl).1
        | obj fields => exact absurd rfl (h _ rfl).2
        | str s => split <;> first | exact ⟨_, rfl⟩ | contradiction
        | _ => exact ⟨_, rfl⟩

theorem rangeName_ok_iff {period : Json.Object} :
    (∃ name, rangeName dep period = .ok name) ↔
      ∀ dr, Json.Object.get? period "date_range" = some dr → dr.typeName = "dict" := by
  unfold rangeName
  cases Json.Object.get? period "date_range" with
  | none => exact ⟨fun _ dr h ↦ (by cases h), fun _ ↦ ⟨_, rfl⟩⟩
  | some dr =>
      dsimp only [Option.getD]
      constructor
      · rintro ⟨name, h⟩ dr' hdr
        cases hdr
        cases dr with
        | obj fields => rfl
        | _ => cases h
      · intro h
        have hdict := h dr rfl
        cases dr with
        | obj fields => exact ⟨_, rfl⟩
        | _ => simp [Json.typeName] at hdict

/-- A period can be named exactly when nothing in it makes the formatter raise. -/
theorem periodName_ok_iff {period : Option Json} :
    (∃ name, periodName dep period = .ok name) ↔ Nameable period := by
  cases period with
  | none => exact ⟨fun _ ↦ trivial, fun _ ↦ ⟨_, rfl⟩⟩
  | some value =>
      cases value with
      | obj period =>
          unfold periodName Nameable
          dsimp only
          split
          · rename_i htype
            rw [relativeName_ok_iff, htype]
            simp
          · rename_i htype
            rw [rangeName_ok_iff, htype]
            simp
          · rename_i hrelative hrange
            exact ⟨fun _ ↦ ⟨fun h ↦ absurd h hrelative, fun h ↦ absurd h hrange⟩,
              fun _ ↦ ⟨_, rfl⟩⟩
      | _ => exact ⟨fun _ ↦ trivial, fun _ ↦ ⟨_, rfl⟩⟩

example : periodName .sample
    (some (.obj [("period_type", .str "date_range"), ("date_range", .null)])) =
      .error (.other "AttributeError" "'NoneType' object has no attribute 'get'") := rfl

theorem comparisonPeriodName_ok_iff {args : Json.Object} :
    (∃ name, comparisonPeriodName dep args = .ok name) ↔ Nameable (comparisonArgument args) := by
  unfold comparisonPeriodName
  cases comparisonArgument args with
  | none => exact ⟨fun _ ↦ trivial, fun _ ↦ ⟨_, rfl⟩⟩
  | some period => exact periodName_ok_iff

theorem exists_bind_ok {α β : Type} {x : Except Exc α} {f : α → Except Exc β} :
    (∃ r, (x >>= f) = .ok r) ↔ ∃ a, x = .ok a ∧ ∃ r, f a = .ok r := by
  cases x with
  | error e => exact ⟨fun ⟨_, h⟩ ↦ (by cases h), fun ⟨_, h, _⟩ ↦ (by cases h)⟩
  | ok a =>
      constructor
      · rintro ⟨r, h⟩
        exact ⟨a, rfl, r, h⟩
      · rintro ⟨a', ha, r, h⟩
        cases ha
        exact ⟨r, h⟩

theorem exists_map_ok {α β : Type} {x : Except Exc α} {f : α → β} :
    (∃ r, (do let a ← x; return f a) = .ok r) ↔ ∃ a, x = .ok a :=
  exists_bind_ok.trans ⟨fun ⟨a, h, _⟩ ↦ ⟨a, h⟩, fun ⟨a, h⟩ ↦ ⟨a, h, _, rfl⟩⟩

theorem presentable_of_nil {outcome : AnalyticsOutcome} (h : outcome.periods = []) :
    outcome.Presentable := by
  intro period hp
  rw [h] at hp
  cases hp

theorem presentable_of_singleton {outcome : AnalyticsOutcome} {period : Option Json}
    (h : outcome.periods = [period]) (hp : Nameable period) : outcome.Presentable := by
  intro period' hmem
  rw [h] at hmem
  rw [List.mem_singleton.mp hmem]
  exact hp

/-- The formatter has a reply to an outcome exactly when it can name its periods. -/
theorem formatOutcome_ok_iff {outcome : AnalyticsOutcome} :
    (∃ reply, formatOutcome dep outcome = .ok reply) ↔ outcome.Presentable := by
  have hone {call : Option ToolCall} {x : String → MessageKey × Params}
      (h : outcome.periods = [Json.Object.get? (argumentsOf call) "period"]) :
      (∃ reply, (do let name ← resolvePeriodName dep (argumentsOf call); return x name) =
        Except.ok reply) ↔ outcome.Presentable := by
    rw [exists_map_ok, resolvePeriodName, periodName_ok_iff, AnalyticsOutcome.Presentable, h]
    simp
  cases outcome with
  | answered answer call =>
      cases answer with
      | other tool unknown => exact ⟨fun _ ↦ presentable_of_nil rfl, fun _ ↦ ⟨_, rfl⟩⟩
      | of data =>
          cases data with
          | salesTrend out =>
              change (∃ reply, (resolvePeriodName dep (argumentsOf call) >>= _) = .ok reply) ↔ _
              rw [exists_bind_ok]
              simp only [exists_map_ok, comparisonPeriodName_ok_iff]
              rw [exists_and_right, resolvePeriodName, periodName_ok_iff]
              simp [AnalyticsOutcome.Presentable, AnalyticsOutcome.periods]
          | salesSummary out => exact hone rfl
          | topProducts out => exact hone rfl
          | slowMovingItems items => exact hone rfl
          | _ => exact ⟨fun _ ↦ presentable_of_nil rfl, fun _ ↦ ⟨_, rfl⟩⟩
  | answeredEmpty answer call => exact hone rfl
  | domainFailure tool errorType message details =>
      refine ⟨fun _ ↦ presentable_of_nil rfl, fun _ ↦ ?_⟩
      rw [formatOutcome]
      split <;> exact ⟨_, rfl⟩
  | _ => exact ⟨fun _ ↦ presentable_of_nil rfl, fun _ ↦ ⟨_, rfl⟩⟩

/-! ## What the orchestrator hands to the formatter -/

theorem nameable_dump (period : ReportingPeriod) : Nameable (some period.dump) := by
  cases period <;> simp [Nameable, ReportingPeriod.dump, Json.Object.get?, Json.typeName]

/-- The arguments of an accepted call name their periods well. -/
theorem nameable_input (input : ToolInput) :
    Nameable (Json.Object.get? input.dump "period") ∧ Nameable (comparisonArgument input.dump) := by
  have hdump {period : ReportingPeriod} := nameable_dump period
  have hnone : Nameable none := trivial
  cases input with
  | getSalesTrend period comparison =>
      cases comparison with
      | none => simp [ToolInput.dump, dumpFields, Json.Object.get?, comparisonArgument, hdump, hnone]
      | some comparison =>
          refine ⟨by simp [ToolInput.dump, dumpFields, Json.Object.get?, hdump], ?_⟩
          have htrue : comparison.dump.truthy = true := by cases comparison <;> rfl
          simp [ToolInput.dump, dumpFields, Json.Object.get?, comparisonArgument, Option.filter,
            htrue, hdump]
  | getStockLevel query | getProductPrice query =>
      obtain ⟨id, name, hn⟩ := query
      cases id <;> cases name <;>
        simp [ToolInput.dump, ProductQuery.dump, dumpFields, Json.Object.get?, comparisonArgument,
          hnone]
  | getTopProducts period ranking limit =>
      cases ranking <;> cases limit <;>
        simp [ToolInput.dump, dumpFields, Json.Object.get?, comparisonArgument, hdump, hnone]
  | getSlowMovingItems period maxSalesCount limit =>
      cases limit <;>
        simp [ToolInput.dump, dumpFields, Json.Object.get?, comparisonArgument, hdump, hnone]
  | getSalesSummary period =>
      simp [ToolInput.dump, Json.Object.get?, comparisonArgument, hdump, hnone]
  | getLowStockItems =>
      simp [ToolInput.dump, Json.Object.get?, comparisonArgument, hnone]

theorem answer_presentable {toolName : String} {rawArgs : Json.Object} {input : ToolInput}
    (h : validateCall dep toolName rawArgs = .ok input) (data : ToolOutput) :
    (answer toolName data input.dump rawArgs).1.Presentable := by
  have hargs : (if input.dump.isEmpty then rawArgs else input.dump) = input.dump := by
    split
    · rename_i he
      rw [dump_isEmpty h he, List.isEmpty_iff.mp he]
    · rfl
  obtain ⟨hperiod, hcomparison⟩ := nameable_input input
  unfold answer
  dsimp only
  rw [hargs]
  split
  · exact presentable_of_singleton rfl hperiod
  · cases data with
    | salesTrend out =>
        intro period hp
        rcases List.mem_pair.mp hp with rfl | rfl
        · exact hperiod
        · exact hcomparison
    | salesSummary out => exact presentable_of_singleton rfl hperiod
    | topProducts out => exact presentable_of_singleton rfl hperiod
    | slowMovingItems items => exact presentable_of_singleton rfl hperiod
    | _ => exact presentable_of_nil rfl

section Loop

variable {handle : UUID → ToolInput → DbM ToolOutput} {shopId : UUID} {last : Bool}
  {outcome : AnalyticsOutcome} {b b' : Backend}

theorem executeWith_presentable {toolName tool : String} {rawArgs validated : Json.Object}
    {data : ToolOutput}
    (h : executeWith handle dep toolName rawArgs shopId b = .ok (.success tool data validated) b') :
    (answer toolName data validated rawArgs).1.Presentable := by
  unfold executeWith at h
  cases hv : validateCall dep toolName rawArgs with
  | error error =>
      rw [hv] at h
      cases h
  | ok input =>
      rw [hv] at h
      rcases tryCatch_eq_ok.mp h with h | ⟨e, b₁, _, h⟩
      · obtain ⟨_, _, _, _, h⟩ := runHandler_ok h
        cases h
        exact answer_presentable hv data
      · cases h

theorem outcomeOfFailure_presentable (call : NormalizedToolCall) (error : ToolExecutionError) :
    (outcomeOfFailure call error).Presentable := by
  unfold outcomeOfFailure
  split
  · exact presentable_of_nil rfl
  · split
    · exact presentable_of_nil rfl
    · split <;> exact presentable_of_nil rfl

theorem respond_presentable {calls : List NormalizedToolCall}
    (h : respond handle dep shopId last calls b = .ok (.inl outcome) b') :
    outcome.Presentable := by
  unfold respond at h
  split at h
  · cases h
    exact presentable_of_nil rfl
  · split at h
    · split at h <;> cases h
      exact presentable_of_nil rfl
    · obtain ⟨result, b₁, he, h⟩ := bind_eq_ok.mp h
      cases result with
      | success tool data validated =>
          cases h
          exact executeWith_presentable he
      | failure tool error =>
          dsimp only at h
          split at h <;> cases h
          exact outcomeOfFailure_presentable _ _
  · split at h <;> cases h
    exact presentable_of_nil rfl

theorem attempt_presentable {messages : List LLMMessage}
    (h : attempt handle dep shopId last messages b = .ok (.inl outcome) b') :
    outcome.Presentable := by
  obtain ⟨response, b₁, _, h⟩ := bind_eq_ok.mp h
  cases response with
  | error e =>
      cases h
      unfold outcomeOfProviderError
      split <;> exact presentable_of_nil rfl
  | ok response => exact respond_presentable h

/-- The formatter can name the periods of every outcome of a question. -/
theorem run_presentable {messageText : String} {prior : Option ToolCall}
    (h : run dep messageText shopId prior b = .ok outcome b') : outcome.Presentable := by
  obtain ⟨first, b₁, h₁, h⟩ := bind_eq_ok.mp h
  cases first with
  | inl first =>
      cases h
      exact attempt_presentable h₁
  | inr more =>
      obtain ⟨second, b₂, h₂, h⟩ := bind_eq_ok.mp h
      cases second <;> cases h
      · exact attempt_presentable h₂
      · exact presentable_of_nil rfl

end Loop

/-- The reply to an outcome whose periods can be named. -/
def presented (dep : Deployment) (outcome : AnalyticsOutcome) : MessageKey × Params :=
  (formatOutcome dep outcome).toOption.getD (.UNKNOWN_ERROR, [])

theorem formatOutcome_of_presentable {outcome : AnalyticsOutcome} (h : outcome.Presentable) :
    formatOutcome dep outcome = .ok (presented dep outcome) := by
  obtain ⟨reply, hr⟩ := formatOutcome_ok_iff.mpr h
  rw [presented, hr]
  rfl

end SokoFlow.Analytics
