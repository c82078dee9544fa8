import SokoFlow.Analytics.Acceptance
import SokoFlow.Analytics.Handlers

/-!
# `executor.py`

Whatever the validation or the handler raises becomes a failed result, so a
tool call always returns.
-/

namespace SokoFlow.Analytics

open DbM Effect

inductive ErrorDetails
  | toolName (name : String)
  | validationErrors (errors : List ErrorDetail)
  | candidates (shown : List ScoredProductMatch)
  deriving DecidableEq

structure ToolExecutionError where
  errorType : String
  message : String
  details : Option ErrorDetails
  deriving DecidableEq

inductive ToolExecutionResult
  | success (tool : String) (data : ToolOutput) (validatedArguments : Json.Object)
  | failure (tool : String) (error : ToolExecutionError)

/-- The failure an exception of a handler becomes; only an ambiguity carries details. -/
def ToolExecutionError.ofExc (e : Exc) : ToolExecutionError where
  errorType := match e with
    -- this branch names the class itself, not the subclass that was raised
    | .infrastructureError .. => "InfrastructureError"
    | e => e.className
  message := e.message
  details := match e with
    | .productAmbiguous _ candidates => some (.candidates candidates)
    | _ => none

/-- Every other error type is the class of the exception. -/
theorem className_of_errorType {e : Exc} {name : String} (hne : name ≠ "InfrastructureError")
    (h : (ToolExecutionError.ofExc e).errorType = name) : e.className = name := by
  cases e with
  | infrastructureError className message => exact absurd h.symm hne
  | _ => exact h

/-- The first two stages of `ToolExecutor.execute`. -/
def validateCall (dep : Deployment) (toolName : String) (rawArgs : Json.Object) :
    Except ToolExecutionError ToolInput :=
  match Tool.getTool toolName with
  | .error e => .error ⟨e.className, e.message, some (.toolName toolName)⟩
  | .ok tool =>
      match validateSchema dep tool rawArgs with
      | .error (.schemaValidation message errors) =>
          .error ⟨"SchemaValidationError", message, some (.validationErrors errors)⟩
      | .error e => .error ⟨e.className, e.message, none⟩
      | .ok input => .ok input

/-- The third stage, for a tool bound to `handle`. -/
def runHandler (handle : UUID → ToolInput → DbM ToolOutput) (toolName : String)
    (input : ToolInput) (shopId : UUID) : DbM ToolExecutionResult := do
  note (.handled toolName shopId input.dump)
  let data ← handle shopId input
  note (.completed toolName input.dump)
  return .success toolName data input.dump

/-- `ToolExecutor.execute`, with the handlers of the registry as a parameter. -/
def executeWith (handle : UUID → ToolInput → DbM ToolOutput) (dep : Deployment)
    (toolName : String) (rawArgs : Json.Object) (shopId : UUID) : DbM ToolExecutionResult :=
  match validateCall dep toolName rawArgs with
  | .error error => return .failure toolName error
  | .ok input =>
      tryCatch (runHandler handle toolName input shopId)
        fun e ↦ return .failure toolName (.ofExc e)

def execute (dep : Deployment) (toolName : String) (rawArgs : Json.Object) (shopId : UUID) :
    DbM ToolExecutionResult :=
  executeWith (handler dep) dep toolName rawArgs shopId

/-- `AnalyticsOrchestrator.is_result_empty` -/
def isResultEmpty : ToolOutput → Bool
  | .salesSummary out => decide (out.revenue = 0 ∧ out.transactionCount = 0)
  | .topProducts out => out.units.getD [] = [] ∧ out.revenue.getD [] = []
  | .lowStockItems items => items = []
  | .slowMovingItems items => items = []
  | .salesTrend out => decide (out.currentPeriodTransactions = 0 ∧
      out.previousPeriodTransactions = 0 ∧ out.currentPeriodRevenue = 0 ∧
      out.previousPeriodRevenue = 0)
  | .stockLevel _ | .productPrice _ => false

/-! ## How a handler ends -/

theorem runHandler_ok {handle : UUID → ToolInput → DbM ToolOutput} {toolName : String}
    {input : ToolInput} {shopId : UUID} {result : ToolExecutionResult} {b b' : Backend}
    (h : runHandler handle toolName input shopId b = .ok result b') :
    ∃ data b₁, handle shopId input (b.noted (.handled toolName shopId input.dump)) = .ok data b₁ ∧
      b' = b₁.noted (.completed toolName input.dump) ∧
      result = .success toolName data input.dump := by
  obtain ⟨_, _, h₁, h⟩ := bind_eq_ok.mp h
  cases h₁
  obtain ⟨data, b₁, hd, h⟩ := bind_eq_ok.mp h
  cases h
  exact ⟨data, b₁, hd, rfl, rfl⟩

theorem runHandler_error {handle : UUID → ToolInput → DbM ToolOutput} {toolName : String}
    {input : ToolInput} {shopId : UUID} {e : Exc} {b b' : Backend}
    (h : runHandler handle toolName input shopId b = .error e b') :
    handle shopId input (b.noted (.handled toolName shopId input.dump)) = .error e b' := by
  rcases bind_eq_error.mp h with h | ⟨_, _, h₁, h⟩
  · cases h
  · cases h₁
    rcases bind_eq_error.mp h with h | ⟨_, _, _, h⟩
    · exact h
    · cases h

/-! ## What a failed result can say -/

/-- The class names the orchestrator acts on belong to no other exception. -/
def Unambiguous (e : Exc) : Prop :=
  e.className ≠ "ProductAmbiguousError" ∧ e.className ≠ "SchemaValidationError"

theorem Unambiguous.errorType {e : Exc} (h : Unambiguous e) :
    (ToolExecutionError.ofExc e).errorType ≠ "ProductAmbiguousError" ∧
      (ToolExecutionError.ofExc e).errorType ≠ "SchemaValidationError" :=
  ⟨fun he ↦ h.1 (className_of_errorType (by decide) he),
    fun he ↦ h.2 (className_of_errorType (by decide) he)⟩

theorem unambiguous_other {className text : String}
    (h : className ≠ "ProductAmbiguousError" ∧ className ≠ "SchemaValidationError") :
    Unambiguous (.other className text) := h

theorem unambiguous_productNotFound (id : String) : Unambiguous (.productNotFound id) :=
  show "ProductNotFoundError" ≠ _ ∧ "ProductNotFoundError" ≠ _ by decide

/-- Queries read the rows, and raise what satisfies `E`. -/
abbrev Queries {α : Type} (E : Exc → Prop) (x : DbM α) : Prop := Bounded Backend.Untouched E x

theorem select_queries {α : Type} (q : Database → α) : Queries Unambiguous (select q) := by
  refine ⟨select_within q, ?_⟩
  intro b e b' h
  rw [select, execute_apply] at h
  split at h
  · cases h
    exact unambiguous_other (by decide)
  · split at h <;> cases h
    exact unambiguous_other (by decide)

theorem ask_queries {α : Type} {E : Exc → Prop} (q : Env → ℕ → α) : Queries E (ask q) :=
  ⟨ask_within q, fun _ _ _ h ↦ by cases h⟩

theorem orOverflow_fails {α : Type} (x : Option α) : Fails Unambiguous (orOverflow x) := by
  cases x with
  | some a => exact .ok a
  | none => exact .error (unambiguous_other (by decide))

theorem firstOfMonth_fails (year month : ℕ) : Fails Unambiguous (firstOfMonth year month) := by
  unfold firstOfMonth
  cases Calendar.Date.ofYmd year month 1 with
  | some d => exact .ok d
  | none => exact .error (unambiguous_other (by decide))

theorem resolveRelativeLocalBoundaries_fails (period : RelativePeriod) (anchor : Calendar.Date) :
    Fails Unambiguous (resolveRelativeLocalBoundaries period anchor) := by
  unfold resolveRelativeLocalBoundaries
  cases period with
  | day => exact .bind (orOverflow_fails _) fun _ ↦ .ok _
  | week =>
      exact .bind (orOverflow_fails _) fun _ ↦ .bind (orOverflow_fails _) fun _ ↦ .ok _
  | month =>
      refine .bind (firstOfMonth_fails _ _) fun _ ↦ .bind ?_ fun _ ↦ .ok _
      split <;> exact firstOfMonth_fails _ _
  | year =>
      exact .bind (firstOfMonth_fails _ _) fun _ ↦ .bind (firstOfMonth_fails _ _) fun _ ↦ .ok _

theorem toUtcBoundaries_fails (zone : Calendar.Zone) (p : ℤ × ℤ) :
    Fails Unambiguous (toUtcBoundaries zone p) :=
  .bind (orOverflow_fails _) fun _ ↦ .bind (orOverflow_fails _) fun _ ↦ .ok _

theorem localToday_fails (zone : Calendar.Zone) (now : Timestamp) :
    Fails Unambiguous (localToday zone now) :=
  .bind (orOverflow_fails _) fun _ ↦ orOverflow_fails _

theorem resolvePeriodBoundaries_fails (zone : Calendar.Zone) (now : Timestamp)
    (period : ReportingPeriod) : Fails Unambiguous (resolvePeriodBoundaries zone now period) := by
  refine .bind (localToday_fails zone now) fun today ↦ ?_
  cases period with
  | relative period =>
      exact .bind (resolveRelativeLocalBoundaries_fails _ _) fun _ ↦ toUtcBoundaries_fails _ _
  | dateRange range => exact .bind (orOverflow_fails _) fun _ ↦ toUtcBoundaries_fails _ _

theorem resolvePreviousPeriodBoundaries_fails (zone : Calendar.Zone) (now : Timestamp)
    (period : ReportingPeriod) :
    Fails Unambiguous (resolvePreviousPeriodBoundaries zone now period) := by
  cases period with
  | relative period =>
      exact .bind (localToday_fails zone now) fun _ ↦
        .bind (resolveRelativeLocalBoundaries_fails _ _) fun _ ↦
        .bind (orOverflow_fails _) fun _ ↦ .bind (orOverflow_fails _) fun _ ↦
        .bind (resolveRelativeLocalBoundaries_fails _ _) fun _ ↦ toUtcBoundaries_fails _ _
  | dateRange range =>
      exact .bind (resolvePeriodBoundaries_fails _ _ _) fun _ ↦
        .bind (orOverflow_fails _) fun _ ↦ .ok _

/-- An ambiguity shows the products it is about, and only the two tools that
look one product up raise it; no handler blames the schema. -/
def AmbiguousOnlyFor (tool : Tool) (e : Exc) : Prop :=
  e.className ≠ "SchemaValidationError" ∧ (e.className = "ProductAmbiguousError" →
    (tool = .getStockLevel ∨ tool = .getProductPrice) ∧
      ∃ term candidates, e = .productAmbiguous term candidates ∧ candidates ≠ [])

theorem Unambiguous.onlyFor {tool : Tool} {e : Exc} (h : Unambiguous e) :
    AmbiguousOnlyFor tool e :=
  ⟨h.2, fun he ↦ absurd he h.1⟩

theorem productOfShop_queries (shopId id : UUID) (term : String) :
    Queries Unambiguous (productOfShop shopId id term) := by
  have hn := unambiguous_productNotFound term
  refine .bind (select_queries _) fun found ↦ ?_
  cases found with
  | none => exact .throw hn
  | some product =>
      dsimp only
      split
      · exact .pure _
      · exact .throw hn

theorem resolveProduct_ambiguous {dep : Deployment} {shopId : UUID} {term : String} {limit : ℕ}
    {candidates : List ScoredProductMatch} {b b' : Backend}
    (h : ProductResolver.resolveProduct dep shopId term limit b = .ok (.ambiguous candidates) b') :
    candidates ≠ [] := by
  unfold ProductResolver.resolveProduct at h
  split at h
  · cases h
  · obtain ⟨found, b₁, _, h⟩ := bind_eq_ok.mp h
    split at h
    · cases h
    · split at h <;> cases h
      simp
    · split at h <;> cases h
      simp

theorem resolveProduct_queries (dep : Deployment) (shopId : UUID) (term : String) (limit : ℕ) :
    Queries Unambiguous (ProductResolver.resolveProduct dep shopId term limit) := by
  unfold ProductResolver.resolveProduct
  split
  · exact .pure _
  · refine .bind (select_queries _) fun found ↦ ?_
    split
    · exact .pure _
    · split <;> exact .pure _
    · split <;> exact .pure _

theorem productNamed_queries {tool : Tool} (ht : tool = .getStockLevel ∨ tool = .getProductPrice)
    (dep : Deployment) (shopId : UUID) (name : String) :
    Queries (AmbiguousOnlyFor tool) (productNamed dep shopId name) := by
  constructor
  · apply (resolveProduct_queries dep shopId name 5).within.bind
    intro found
    cases found with
    | notFound => exact .throw _
    | exactMatch m => exact (productOfShop_queries _ _ _).within
    | ambiguous candidates => exact .throw _
  · intro b e b' h
    rcases bind_eq_error.mp h with h | ⟨found, b₁, hr, h⟩
    · exact ((resolveProduct_queries dep shopId name 5).raises b e b' h).onlyFor
    · cases found with
      | notFound =>
          cases h
          exact (unambiguous_productNotFound name).onlyFor
      | exactMatch m => exact ((productOfShop_queries shopId m.id name).raises b₁ e b' h).onlyFor
      | ambiguous candidates =>
          cases h
          refine ⟨?_, fun _ ↦ ⟨ht, name, candidates, rfl, resolveProduct_ambiguous hr⟩⟩
          exact show "ProductAmbiguousError" ≠ "SchemaValidationError" by decide

theorem findProduct_queries {tool : Tool} (ht : tool = .getStockLevel ∨ tool = .getProductPrice)
    (dep : Deployment) (shopId : UUID) (query : ProductQuery) :
    Queries (AmbiguousOnlyFor tool) (findProduct dep shopId query) := by
  have hby : Queries (AmbiguousOnlyFor tool) (productByName dep shopId query.productName) := by
    unfold productByName
    split
    · exact .throw (unambiguous_productNotFound _).onlyFor
    · split
      · exact .throw (unambiguous_productNotFound _).onlyFor
      · exact productNamed_queries ht dep shopId _
  unfold findProduct
  split
  · exact hby
  · split
    · exact hby
    · exact (productOfShop_queries _ _ _).mono fun _ h ↦ h.onlyFor

theorem boundaries_queries (dep : Deployment) (period : ReportingPeriod) :
    Queries Unambiguous (boundaries dep period) :=
  .bind (ask_queries _) fun _ ↦ .ofExcept (resolvePeriodBoundaries_fails _ _ _)

theorem previousBoundaries_queries (dep : Deployment) (period : ReportingPeriod) :
    Queries Unambiguous (previousBoundaries dep period) :=
  .bind (ask_queries _) fun _ ↦ .ofExcept (resolvePreviousPeriodBoundaries_fails _ _ _)

theorem getSlowMovingProducts_queries (dep : Deployment) (shopId : UUID) (maxSalesCount limit : ℤ)
    (interval : Timestamp × Timestamp) : Queries Unambiguous
      (SalesRepository.getSlowMovingProducts dep shopId maxSalesCount limit interval) := by
  unfold SalesRepository.getSlowMovingProducts
  dsimp only
  split
  · exact select_queries _
  · exact .bind (select_queries _) fun _ ↦ .throw (unambiguous_other (by decide))

theorem handler_queries (dep : Deployment) (shopId : UUID) (input : ToolInput) :
    Queries (AmbiguousOnlyFor input.tool) (handler dep shopId input) := by
  have hmono {α : Type} {x : DbM α} (h : Queries Unambiguous x) :
      Queries (AmbiguousOnlyFor input.tool) x := h.mono fun _ he ↦ he.onlyFor
  cases input with
  | getSalesSummary period =>
      exact hmono (.bind (.bind (boundaries_queries dep period) fun _ ↦ select_queries _)
        fun _ ↦ .pure _)
  | getTopProducts period ranking limit =>
      refine hmono (.bind (.bind (boundaries_queries dep period) fun _ ↦ ?_) fun _ ↦ .pure _)
      exact .bind (.bind (select_queries _) fun _ ↦ .bind (select_queries _) fun _ ↦ .pure _)
        fun _ ↦ .pure _
  | getStockLevel query =>
      refine .bind (.bind (findProduct_queries (.inl rfl) dep shopId query) fun _ ↦ ?_)
        fun _ ↦ .pure _
      exact hmono (.bind (select_queries _) fun _ ↦ .pure _)
  | getLowStockItems => exact hmono (.bind (select_queries _) fun _ ↦ .pure _)
  | getSalesTrend period comparison =>
      have hq : ∀ interval, Queries Unambiguous
          (SalesRepository.getTotalRevenueAndCount shopId interval) := fun _ ↦ select_queries _
      refine hmono (.bind (.bind (boundaries_queries dep period) fun _ ↦ .bind ?_ fun _ ↦
        .bind (hq _) fun _ ↦ .bind (hq _) fun _ ↦ .pure _) fun _ ↦ .pure _)
      cases comparison with
      | none => exact previousBoundaries_queries dep period
      | some comparison => exact boundaries_queries dep comparison
  | getSlowMovingItems period maxSalesCount limit =>
      exact hmono (.bind (.bind (boundaries_queries dep period) fun _ ↦
        getSlowMovingProducts_queries dep shopId _ _ _) fun _ ↦ .pure _)
  | getProductPrice query =>
      exact .bind (.bind (findProduct_queries (.inr rfl) dep shopId query) fun _ ↦ .pure _)
        fun _ ↦ .pure _

/-- Validation never calls a failure ambiguous. -/
theorem validateCall_error {dep : Deployment} {toolName : String} {rawArgs : Json.Object}
    {error : ToolExecutionError} (h : validateCall dep toolName rawArgs = .error error) :
    error.errorType ≠ "ProductAmbiguousError" := by
  unfold validateCall at h
  cases ht : Tool.getTool toolName with
  | error e =>
      rw [ht] at h
      unfold Tool.getTool at ht
      split at ht <;> cases ht
      cases h
      exact show "ToolNotFoundError" ≠ _ by decide
  | ok tool =>
      rw [ht] at h
      dsimp only at h
      cases hv : validateSchema dep tool rawArgs with
      | ok input => simp [hv] at h
      | error e =>
          rw [hv] at h
          rcases validateSchema_error hv with ⟨message, errors, rfl⟩ | ⟨message, rfl⟩
          · cases h
            exact show "SchemaValidationError" ≠ _ by decide
          · cases h
            exact show "InvalidDateRangeError" ≠ _ by decide

theorem validateCall_eq_ok {dep : Deployment} {toolName : String} {rawArgs : Json.Object}
    {input : ToolInput} :
    validateCall dep toolName rawArgs = .ok input ↔ ∃ tool, Tool.getTool toolName = .ok tool ∧
      validateSchema dep tool rawArgs = .ok input := by
  unfold validateCall
  cases Tool.getTool toolName with
  | error e => simp
  | ok tool =>
      cases hv : validateSchema dep tool rawArgs with
      | ok input' => simp [hv]
      | error e =>
          rcases validateSchema_error hv with ⟨_, _, rfl⟩ | ⟨_, rfl⟩
          · simp [hv]
          · simp [hv]

theorem validateCall_ok {dep : Deployment} {toolName : String} {rawArgs : Json.Object}
    {input : ToolInput} (h : validateCall dep toolName rawArgs = .ok input) :
    input.tool.name = toolName := by
  obtain ⟨tool, ht, hv⟩ := validateCall_eq_ok.mp h
  rw [validateSchema_ok hv, Tool.name_of_getTool ht]

/-- Only the tool without parameters dumps nothing, and it was given nothing. -/
theorem dump_isEmpty {dep : Deployment} {toolName : String} {rawArgs : Json.Object}
    {input : ToolInput}
    (h : validateCall dep toolName rawArgs = .ok input) (he : input.dump.isEmpty = true) :
    rawArgs = [] := by
  have hlow : input = .getLowStockItems := by
    cases input with
    | getLowStockItems => rfl
    | getStockLevel query =>
        obtain ⟨id, name, hn⟩ := query
        cases id with
        | some id => simp [ToolInput.dump, ProductQuery.dump, dumpFields] at he
        | none =>
            obtain ⟨n, rfl, -⟩ := hn rfl
            simp [ToolInput.dump, ProductQuery.dump, dumpFields] at he
    | getProductPrice query =>
        obtain ⟨id, name, hn⟩ := query
        cases id with
        | some id => simp [ToolInput.dump, ProductQuery.dump, dumpFields] at he
        | none =>
            obtain ⟨n, rfl, -⟩ := hn rfl
            simp [ToolInput.dump, ProductQuery.dump, dumpFields] at he
    | _ => simp [ToolInput.dump, dumpFields] at he
  subst hlow
  obtain ⟨tool, -, hv⟩ := validateCall_eq_ok.mp h
  obtain ⟨rfl, -, hextra⟩ := modelValidate_eq_ok.mp (validateSchema_eq_ok.mp hv).2
  exact List.eq_nil_iff_forall_not_mem.mpr fun f hf ↦ List.not_mem_nil (hextra f hf)

/-- A tool call fails as ambiguous only with candidates, and for the two product tools. -/
theorem execute_ambiguous {dep : Deployment} {toolName tool : String} {rawArgs : Json.Object}
    {shopId : UUID} {error : ToolExecutionError} {b b' : Backend}
    (h : execute dep toolName rawArgs shopId b = .ok (.failure tool error) b')
    (he : error.errorType = "ProductAmbiguousError") :
    (toolName = "get_stock_level" ∨ toolName = "get_product_price") ∧
      ∃ candidates, error.details = some (.candidates candidates) ∧ candidates ≠ [] := by
  unfold execute executeWith at h
  cases hv : validateCall dep toolName rawArgs with
  | error error' =>
      rw [hv] at h
      cases h
      exact absurd he (validateCall_error hv)
  | ok input =>
      rw [hv] at h
      rcases tryCatch_eq_ok.mp h with h | ⟨e, b₁, h, hr⟩
      · obtain ⟨_, _, _, _, h⟩ := runHandler_ok h
        cases h
      · cases hr
        have hraised : AmbiguousOnlyFor input.tool e :=
          (handler_queries dep shopId input).raises _ _ _ (runHandler_error h)
        obtain ⟨ht, term, candidates, rfl, hne⟩ :=
          hraised.2 (className_of_errorType (by decide) he)
        refine ⟨?_, candidates, rfl, hne⟩
        rw [← validateCall_ok hv]
        rcases ht with ht | ht <;> rw [ht]
        · exact .inl rfl
        · exact .inr rfl

section Handlers

variable {handle : UUID → ToolInput → DbM ToolOutput} {dep : Deployment} {toolName : String}
  {rawArgs : Json.Object} {shopId : UUID} {b b' : Backend}

theorem executeWith_of_invalid {error : ToolExecutionError}
    (h : validateCall dep toolName rawArgs = .error error) :
    executeWith handle dep toolName rawArgs shopId b = .ok (.failure toolName error) b := by
  unfold executeWith
  rw [h]
  rfl

theorem executeWith_of_valid {input : ToolInput}
    (h : validateCall dep toolName rawArgs = .ok input) :
    executeWith handle dep toolName rawArgs shopId b =
      match runHandler handle toolName input shopId b with
      | .ok result b' => .ok result b'
      | .error e b' => .ok (.failure toolName (.ofExc e)) b' := by
  unfold executeWith
  rw [h]
  cases hr : runHandler handle toolName input shopId b with
  | ok result b' => exact tryCatch_of_ok hr
  | error e b' => exact tryCatch_of_error hr

/-- A valid call starts its handler once, and an exception of it becomes a failure. -/
theorem executeWith_handles {input : ToolInput}
    (h : validateCall dep toolName rawArgs = .ok input)
    (hreads : Within Backend.Untouched (handle shopId input)) :
    (∃ data b₁ b', handle shopId input (b.noted (.handled toolName shopId input.dump)) = .ok data b₁ ∧
      executeWith handle dep toolName rawArgs shopId b = .ok (.success toolName data input.dump) b' ∧
      b'.journal = b.journal ++
        [.handled toolName shopId input.dump, .completed toolName input.dump]) ∨
    ∃ e b', handle shopId input (b.noted (.handled toolName shopId input.dump)) = .error e b' ∧
      executeWith handle dep toolName rawArgs shopId b = .ok (.failure toolName (.ofExc e)) b' ∧
      b'.journal = b.journal ++ [.handled toolName shopId input.dump] := by
  have hx : executeWith handle dep toolName rawArgs shopId b = _ := executeWith_of_valid h
  cases hr : runHandler handle toolName input shopId b with
  | ok result b' =>
      obtain ⟨data, b₁, hd, rfl, rfl⟩ := runHandler_ok hr
      have hj := (hreads.of_ok hd).journal
      rw [hr] at hx
      refine .inl ⟨data, b₁, _, hd, hx, ?_⟩
      simp [Backend.noted, hj]
  | error e b' =>
      have hd := runHandler_error hr
      have hj := (hreads.of_error hd).journal
      rw [hr] at hx
      exact .inr ⟨e, b', hd, hx, hj⟩

theorem executeWith_returns (handle : UUID → ToolInput → DbM ToolOutput) (dep : Deployment)
    (toolName : String) (rawArgs : Json.Object) (shopId : UUID) (b : Backend) :
    ∃ result b', executeWith handle dep toolName rawArgs shopId b = .ok result b' := by
  cases hv : validateCall dep toolName rawArgs with
  | error error => exact ⟨_, _, executeWith_of_invalid hv⟩
  | ok input =>
      rw [executeWith_of_valid hv]
      cases runHandler handle toolName input shopId b with
      | ok a b' => exact ⟨a, b', rfl⟩
      | error e b' => exact ⟨_, b', rfl⟩

theorem execute_returns (dep : Deployment) (toolName : String) (rawArgs : Json.Object)
    (shopId : UUID) (b : Backend) :
    ∃ result b', execute dep toolName rawArgs shopId b = .ok result b' :=
  executeWith_returns (handler dep) dep toolName rawArgs shopId b

/-- A tool call reads the rows; besides it notes that a handler started, and
that it returned. -/
theorem execute_within (dep : Deployment) (toolName : String) (rawArgs : Json.Object)
    (shopId : UUID) : Within Backend.Observed (execute dep toolName rawArgs shopId) := by
  unfold execute executeWith
  split
  · exact .pure _
  · refine .tryCatch ?_ fun _ ↦ .pure _
    refine .bind (note_within rfl) fun _ ↦ .bind ?_ fun _ ↦ .bind (note_within rfl) fun _ ↦ .pure _
    exact (handler_queries dep shopId _).within.mono fun _ _ ↦ .of_untouched

end Handlers

end SokoFlow.Analytics
