import SokoFlow.Conversation.Refusal
import SokoFlow.Localization

/-!
# Every reply can be rendered

A handler returns a key with parameters its templates can take, or refuses the
input with such a key; the rest of what it raises never becomes a reply.
-/

namespace SokoFlow

open DbM Effect FlowM FSMEngine

variable {dep : Deployment} {text : String}

def FSMResult.Readable (r : FSMResult) : Prop := SokoFlow.Readable (r.messageKey, r.messageParams)

/-- The reply the engine makes of an invalid input. -/
def errorReply (message : String) (key : Option MessageKey) (params : Params) :
    MessageKey × Params :=
  (key.getD .UNKNOWN_ERROR, shownParams message params)

/-- If the exception is an invalid input, its reply can be rendered. -/
def Exc.Readable (e : Exc) : Prop :=
  ∀ message key params, e = .invalidInput message key params →
    SokoFlow.Readable (errorReply message key params)

theorem Exc.readable_of_silent {e : Exc} (h : e.isInvalidInput = false) : e.Readable := by
  rintro message key params rfl
  cases h

theorem readable_raises {α : Type} {x : FlowM α} (h : Silent x) : Raises Exc.Readable x :=
  h.mono fun _ ↦ Exc.readable_of_silent

theorem readable_invalidInput {α : Type} {message : String} {key : MessageKey} {params : Params}
    (h : renderable key (shownParams message params).shape = true) :
    Fails Exc.Readable (invalidInput message key params : Except Exc α) := by
  rintro e he message' key' params' rfl
  cases he
  exact readable_of_renderable h

/-! ## The outcomes of a question -/

namespace Analytics

/-- An outcome the formatter has a template for. -/
def AnalyticsOutcome.isGuardrail : AnalyticsOutcome → Bool
  | guardrailRejected _ => true
  | _ => false

theorem exists_of_bind_ok {α β : Type} {x : Except Exc α} {f : α → Except Exc β} {b : β}
    (h : (x >>= f) = .ok b) : ∃ a, f a = .ok b := by
  cases x with
  | error e => cases h
  | ok a => exact ⟨a, h⟩

theorem formatAnswered_readable {args : Json.Object} {data : ToolOutput}
    {reply : MessageKey × Params} (h : formatAnswered dep args data = .ok reply) :
    Readable reply := by
  cases data with
  | stockLevel out =>
      cases h
      unfold formatStockLevel
      dsimp only
      split <;> exact readable_of_renderable rfl
  | lowStockItems items =>
      cases h
      exact readable_of_renderable rfl
  | productPrice out =>
      cases h
      exact readable_of_renderable rfl
  | salesTrend out =>
      obtain ⟨periodName, h⟩ := exists_of_bind_ok h
      obtain ⟨comparisonName, h⟩ := exists_of_bind_ok h
      cases h
      exact readable_of_renderable rfl
  | _ =>
      obtain ⟨periodName, h⟩ := exists_of_bind_ok h
      cases h
      exact readable_of_renderable rfl

theorem formatAnsweredEmpty_readable (periodName : String) (answer : Answer) :
    Readable (formatAnsweredEmpty periodName answer) := by
  cases answer with
  | of data => cases data <;> exact readable_of_renderable rfl
  | other tool unknown => exact readable_of_renderable rfl

/-- The reply to an outcome can be rendered unless a guardrail rejected the
question: its key has no template. -/
theorem formatOutcome_readable_iff {outcome : AnalyticsOutcome} {reply : MessageKey × Params}
    (h : formatOutcome dep outcome = .ok reply) :
    Readable reply ↔ outcome.isGuardrail = false := by
  cases outcome with
  | guardrailRejected reason =>
      cases h
      refine ⟨fun h ↦ ?_, fun h ↦ by cases h⟩
      obtain ⟨text, ht⟩ := h "en"
      cases ht
  | answered answer call =>
      cases answer with
      | of data => exact ⟨fun _ ↦ rfl, fun _ ↦ formatAnswered_readable h⟩
      | other tool unknown =>
          cases h
          exact ⟨fun _ ↦ rfl, fun _ ↦ readable_of_renderable rfl⟩
  | answeredEmpty answer call =>
      obtain ⟨periodName, h⟩ := exists_of_bind_ok h
      cases h
      exact ⟨fun _ ↦ rfl, fun _ ↦ formatAnsweredEmpty_readable _ _⟩
  | domainFailure tool errorType message details =>
      refine ⟨fun _ ↦ rfl, fun _ ↦ ?_⟩
      rw [formatOutcome] at h
      split at h <;> (cases h; exact readable_of_renderable rfl)
  | _ =>
      cases h
      exact ⟨fun _ ↦ rfl, fun _ ↦ readable_of_renderable rfl⟩

theorem presented_readable {outcome : AnalyticsOutcome} (hp : outcome.Presentable)
    (h : outcome.isGuardrail = false) : Readable (presented dep outcome) :=
  (formatOutcome_readable_iff (formatOutcome_of_presentable hp)).mpr h

end Analytics

/-! ## Reading the input -/

theorem parseProductName_readable : Fails Exc.Readable (parseProductName text) := by
  unfold parseProductName
  dsimp only
  split
  · exact .ok _
  · exact readable_invalidInput rfl

theorem parsePrice_readable (u : Unicode) : Fails Exc.Readable (parsePrice u text) := by
  have hunreadable : Fails Exc.Readable (invalidInput (α := Price)
      "Please enter a valid price, e.g. '150', 'KES 150', or '150/='." MessageKey.PRICE_INVALID []) :=
    readable_invalidInput rfl
  unfold parsePrice
  dsimp only
  split
  · split
    · split
      · exact .ok _
      · exact readable_invalidInput rfl
    · exact hunreadable
  · exact .error (Exc.readable_of_silent rfl)
  · exact hunreadable

theorem parseQuantity_readable (u : Unicode) : Fails Exc.Readable (parseQuantity u text) := by
  unfold parseQuantity
  split
  · exact readable_invalidInput rfl
  · split
    · exact .ok _
    · exact readable_invalidInput rfl

theorem parseSaleQuantity_readable (u : Unicode) :
    Fails Exc.Readable (RecordSaleFlow.parseSaleQuantity u text) := by
  refine .bind (parseQuantity_readable u) fun q ↦ ?_
  split
  · exact .ok _
  · exact readable_invalidInput rfl

theorem parseConfirmation_readable (u : Unicode) :
    Fails Exc.Readable (parseConfirmation u text) := by
  unfold parseConfirmation
  dsimp only
  split
  · exact .ok _
  · split
    · exact .ok _
    · exact readable_invalidInput rfl

theorem resolveProductChoice_readable (u : Unicode) (candidates : List ScoredProductMatch) :
    Fails Exc.Readable (resolveProductChoice u candidates text) := by
  unfold resolveProductChoice
  split
  · exact readable_invalidInput rfl
  · split
    · exact readable_invalidInput rfl
    · split
      · exact readable_invalidInput rfl
      · split
        · exact readable_invalidInput rfl
        · exact .ok _

/-! ## The handlers -/

/-- What the program returns can be rendered, and so can what it refuses with. -/
abbrev Replies (x : FlowM FSMResult) : Prop := Yields FSMResult.Readable Exc.Readable x

section Rules

variable {α : Type} {f : α → FlowM FSMResult}

theorem replies_result {previousState : SessionState} {key : MessageKey} {params : Params}
    (h : Readable (key, params)) : Replies (buildResult previousState key params) where
  returns t r t' ht := by
    cases ht
    exact h
  raises t e t' ht := by cases ht

theorem replies_error {y : Except Exc FSMResult} (h : Fails Exc.Readable y)
    (hy : ∀ r, y ≠ .ok r) : Replies (MonadExcept.ofExcept y) :=
  .ofExcept h fun r hr ↦ absurd hr (hy r)

theorem replies_corrupted : Replies corrupted where
  returns t r t' ht := by cases ht
  raises := readable_raises silent_corrupted

theorem Replies.session {f : UserSession → FlowM FSMResult} (h : ∀ s, Replies (f s)) :
    Replies (session >>= f) :=
  .bind (readable_raises silent_session) h

theorem Replies.edit (g : SessionContext → SessionContext) {f : Unit → FlowM FSMResult}
    (h : Replies (f ())) : Replies (editContext g >>= f) :=
  .bind (readable_raises (silent_editContext g)) fun _ ↦ h

theorem Replies.parsed {y : Except Exc α} (hy : Fails Exc.Readable y) (h : ∀ a, Replies (f a)) :
    Replies (MonadExcept.ofExcept y >>= f) :=
  .bind (Raises.ofExcept hy) h

theorem Replies.query {x : DbM α} (hx : ∀ b e b', x b = .error e b' → e.isInvalidInput = false)
    (h : ∀ a, Replies (f a)) : Replies (onDb x >>= f) :=
  .bind (readable_raises (.zoom hx)) h

theorem Replies.goto {newState previousState : SessionState} {key : MessageKey} {params : Params}
    (h : Readable (key, params)) : Replies (do
      transition newState
      buildResult previousState key params) :=
  .bind (readable_raises (silent_transition newState)) fun _ ↦ replies_result h

theorem Replies.close {previousState : SessionState} {key : MessageKey} {params : Params}
    (h : Readable (key, params)) : Replies (do
      transition .IDLE
      clearContextPreservingHistory
      buildResult previousState key params) :=
  .bind (readable_raises (silent_transition _)) fun _ ↦
    .bind (readable_raises silent_clear) fun _ ↦ replies_result h

end Rules

namespace AddProductFlow

theorem handleName_replies : Replies (handleName text) :=
  .session fun _ ↦ .parsed parseProductName_readable fun _ ↦ .edit _ (.goto (readable_of_renderable rfl))

theorem handlePrice_replies : Replies (handlePrice dep text) :=
  .session fun _ ↦ .parsed (parsePrice_readable _) fun _ ↦ .edit _ (.goto (readable_of_renderable rfl))

theorem lostDetails_replies : Replies (MonadExcept.ofExcept lostDetails) :=
  replies_error (readable_invalidInput rfl) fun _ h ↦ by cases h

theorem handleQty_replies : Replies (handleQty dep text) := by
  refine .session fun s ↦ ?_
  split
  · exact .parsed (parseQuantity_readable _) fun _ ↦ .edit _ (.goto (readable_of_renderable rfl))
  · exact lostDetails_replies

theorem handleConfirm_replies : Replies (handleConfirm dep text) := by
  refine .session fun s ↦ .parsed (parseConfirmation_readable _) fun isConfirmed ↦ ?_
  split
  · exact .close (readable_of_renderable rfl)
  · split
    · refine .bind (readable_raises ?_) fun _ ↦ Replies.close (readable_of_renderable rfl)
      exact .bind shopOfSession_silent fun _ ↦ .zoom fun _ _ _ h ↦ createStocked_silent h
    · exact lostDetails_replies

end AddProductFlow

namespace RecordSaleFlow

theorem getShopId_silent {sender : String} {b b' : Backend} {e : Exc}
    (h : getShopId sender b = .error e b') : e.isInvalidInput = false :=
  Exc.not_invalidInput_of_technical (getShopId_error h)

theorem find_silent {shopId : UUID} {query : String} {b b' : Backend} {e : Exc}
    (h : (ProductService.findProductsByFuzzyName dep shopId query) b = .error e b') :
    e.isInvalidInput = false :=
  Exc.not_invalidInput_of_technical (findProductsByFuzzyName_error h)

theorem handleSaleProductName_replies : Replies (handleSaleProductName dep text) := by
  refine .session fun s ↦ .query (fun _ _ _ ↦ getShopId_silent) fun shopId ↦ .edit _ ?_
  refine .query (fun _ _ _ ↦ find_silent) fun found ↦ ?_
  cases found with
  | notFound => exact replies_result (readable_of_renderable rfl)
  | exactMatch m => exact .edit _ (.goto (readable_of_renderable rfl))
  | ambiguous candidates => exact .edit _ (.goto (readable_of_renderable rfl))

theorem handleSaleProductSelection_replies : Replies (handleSaleProductSelection dep text) := by
  refine .session fun s ↦ .parsed (resolveProductChoice_readable _ _) fun m ↦ .edit _ ?_
  exact .bind (readable_raises (silent_transition _)) fun _ ↦
    Replies.edit _ (replies_result (readable_of_renderable rfl))

theorem handleSaleProductQty_replies : Replies (handleSaleProductQty dep text) := by
  refine .parsed (parseSaleQuantity_readable _) fun quantity ↦ .session fun s ↦ ?_
  split
  · split
    · exact replies_corrupted
    · refine .query (fun _ _ _ ↦ getStock_silent) fun row ↦ ?_
      split
      · exact replies_error (readable_invalidInput rfl) fun _ h ↦ by cases h
      · exact .edit _ (.goto (readable_of_renderable rfl))
  · exact replies_corrupted

theorem toInvalidInput_readable (e : Exc) : (toInvalidInput e).Readable := by
  cases e with
  | invalidInput message key params =>
      rintro _ _ _ h
      cases h
      exact readable_of_renderable rfl
  | resourceConflict message =>
      rintro _ _ _ h
      cases h
      exact readable_of_renderable rfl
  | resourceNotFound entity id =>
      rintro _ _ _ h
      cases h
      exact readable_of_renderable rfl
  | _ => exact Exc.readable_of_silent rfl

theorem handleConfirmSaleProduct_replies : Replies (handleConfirmSaleProduct dep text) := by
  refine .session fun s ↦ .parsed (parseConfirmation_readable _) fun isConfirmed ↦ ?_
  split
  · exact .close (readable_of_renderable rfl)
  · split
    · split
      · exact replies_corrupted
      · refine .bind (.tryCatch fun e ↦ .throw (toInvalidInput_readable e)) fun sale ↦ ?_
        refine .bind (readable_raises (silent_transition _)) fun _ ↦
          .bind (readable_raises silent_clear) fun _ ↦
          .bind (readable_raises ?_) fun _ ↦ replies_result (readable_of_renderable rfl)
        split
        · exact .zoom fun _ _ _ h ↦ Exc.not_invalidInput_of_technical (enqueue_error h)
        · exact .pure _
    · exact replies_corrupted

end RecordSaleFlow

namespace StockLookupFlow

theorem handleStockName_replies : Replies (handleStockName dep text) := by
  refine .parsed parseProductName_readable fun name ↦ .session fun s ↦
    .query (fun _ _ _ ↦ RecordSaleFlow.getShopId_silent) fun shopId ↦ .edit _ ?_
  refine .query (fun _ _ _ ↦ RecordSaleFlow.find_silent) fun found ↦ ?_
  cases found with
  | notFound => exact .edit _ (replies_result (readable_of_renderable rfl))
  | ambiguous candidates => exact .edit _ (.goto (readable_of_renderable rfl))
  | exactMatch m =>
      exact .query (fun _ _ _ ↦ RecordSaleFlow.getStock_silent) fun _ ↦
        .close (readable_of_renderable rfl)

theorem handleStockProductSelection_replies : Replies (handleStockProductSelection dep text) :=
  .session fun _ ↦ .parsed (resolveProductChoice_readable _ _) fun _ ↦ .edit _
    (.query (fun _ _ _ ↦ RecordSaleFlow.getStock_silent) fun _ ↦ .close (readable_of_renderable rfl))

end StockLookupFlow

namespace AnalyticsFlow

open Analytics

theorem answer_isGuardrail (toolName : String) (data : ToolOutput) (validated rawArgs : Json.Object) :
    (answer toolName data validated rawArgs).1.isGuardrail = false := by
  unfold answer
  dsimp only
  split <;> rfl

theorem outcomeOfFailure_isGuardrail (call : NormalizedToolCall) (error : ToolExecutionError) :
    (outcomeOfFailure call error).isGuardrail = false := by
  unfold outcomeOfFailure
  split
  · rfl
  · split
    · rfl
    · split <;> rfl

theorem outcomeOfProviderError_isGuardrail (e : Exc) :
    (outcomeOfProviderError e).isGuardrail = false := by
  cases e <;> rfl

theorem respond_isGuardrail {shopId : UUID} {last : Bool} {calls : List NormalizedToolCall}
    {outcome : AnalyticsOutcome} {b b' : Backend}
    (h : respond (Analytics.handler dep) dep shopId last calls b = .ok (.inl outcome) b') :
    outcome.isGuardrail = false := by
  unfold respond at h
  split at h
  · cases h
    rfl
  · split at h
    · split at h <;> cases h
      rfl
    · obtain ⟨result, b₁, -, h⟩ := bind_eq_ok.mp h
      cases result with
      | success tool data validated =>
          cases h
          exact answer_isGuardrail _ _ _ _
      | failure tool error =>
          dsimp only at h
          split at h <;> cases h
          exact outcomeOfFailure_isGuardrail _ _
  · split at h <;> cases h
    rfl

theorem attempt_isGuardrail {shopId : UUID} {last : Bool} {messages : List LLMMessage}
    {outcome : AnalyticsOutcome} {b b' : Backend}
    (h : attempt (Analytics.handler dep) dep shopId last messages b = .ok (.inl outcome) b') :
    outcome.isGuardrail = false := by
  obtain ⟨response, b₁, -, h⟩ := bind_eq_ok.mp h
  cases response with
  | error e =>
      cases h
      exact outcomeOfProviderError_isGuardrail e
  | ok response => exact respond_isGuardrail h

/-- The outcomes the code builds are not those of a guardrail. -/
theorem run_isGuardrail {shopId : UUID} {prior : Option ToolCall} {outcome : AnalyticsOutcome}
    {b b' : Backend} (h : run dep text shopId prior b = .ok outcome b') :
    outcome.isGuardrail = false := by
  obtain ⟨first, b₁, h₁, h⟩ := bind_eq_ok.mp h
  cases first with
  | inl first =>
      cases h
      exact attempt_isGuardrail h₁
  | inr more =>
      obtain ⟨second, b₂, h₂, h⟩ := bind_eq_ok.mp h
      cases second <;> cases h
      · exact attempt_isGuardrail h₂
      · rfl

/-- The end of a query: what its outcome does to the session, and the reply. -/
def conclude (dep : Deployment) (previousState : SessionState) (outcome : AnalyticsOutcome) :
    FlowM FSMResult := do
  settle outcome
  let (key, params) ← MonadExcept.ofExcept (formatOutcome dep outcome)
  buildResult previousState key params

theorem handleQuery_concludes : handleQuery dep text = (do
    let s ← session
    let shopId ← onDb (getShopId s.phone)
    editContext fun c ↦ { c with shopId := some shopId }
    let fresh ← onDb (AnalyticsRoutingPolicy.hasFreshContext dep s)
    let prior := if fresh then
        s.context.lastAnalyticsCall.map fun call ↦ (⟨call.toolName, call.arguments⟩ : ToolCall)
      else none
    let outcome ← onDb (run dep text shopId prior)
    conclude dep s.state outcome) := rfl

theorem conclude_replies {previousState : SessionState} {outcome : AnalyticsOutcome}
    (hp : outcome.Presentable) (h : outcome.isGuardrail = false) :
    Replies (conclude dep previousState outcome) := by
  unfold conclude
  rw [formatOutcome_of_presentable hp]
  exact .bind (readable_raises (settle_silent outcome)) fun _ ↦
    replies_result (presented_readable hp h)

theorem handleQuery_replies : Replies (handleQuery dep text) := by
  rw [handleQuery_concludes]
  refine .session fun s ↦ .query (fun _ _ _ ↦ RecordSaleFlow.getShopId_silent) fun shopId ↦
    .edit _ (.query (fun b e b' h ↦ ?_) fun fresh ↦ ?_)
  · obtain ⟨fresh, b'', hf, -⟩ := hasFreshContext_returns dep s b
    rw [hf] at h
    cases h
  · refine Yields.bind_of (P := fun o ↦ o.Presentable ∧ o.isGuardrail = false) ?_ fun o ho ↦
      conclude_replies ho.1 ho.2
    constructor
    · intro t outcome t' h
      obtain ⟨b, h, -⟩ := zoom_eq_ok.mp h
      exact ⟨run_presentable h, run_isGuardrail h⟩
    · exact readable_raises (silent_onDb (technical_of_returns (run_returns dep text _ _)))

theorem resumed_isGuardrail (toolName : String) (rawArgs : Json.Object)
    (result : ToolExecutionResult) : (resumed toolName rawArgs result).1.isGuardrail = false := by
  cases result with
  | success tool data validated => exact answer_isGuardrail _ _ _ _
  | failure tool error =>
      unfold resumed
      dsimp only
      split <;> rfl

theorem handleProductSelection_replies : Replies (handleProductSelection dep text) := by
  rw [handleProductSelection_eq]
  refine .session fun s ↦ .parsed (resolveProductChoice_readable _ _) fun selected ↦ ?_
  split
  · exact .close (readable_of_renderable rfl)
  · rename_i pending _
    refine .query (fun _ _ _ ↦ RecordSaleFlow.getShopId_silent) fun shopId ↦
      Yields.bind_of (P := fun result ↦ (resumed pending.toolName
        (chosenArguments pending selected) result).1.Presentable) ?_ fun result hp ↦ ?_
    · constructor
      · intro t result t' h
        obtain ⟨b, h, -⟩ := zoom_eq_ok.mp h
        exact resumed_presentable h
      · exact readable_raises (silent_onDb (technical_of_returns (execute_returns dep _ _ _)))
    · exact .bind (readable_raises (remember_silent _)) fun _ ↦ Replies.edit _
        (.goto (presented_readable hp (resumed_isGuardrail _ _ result)))

end AnalyticsFlow

namespace FSMEngine

theorem enter_replies {newState : SessionState} {key : MessageKey} (h : Readable (key, [])) :
    Replies (enter newState key) :=
  .session fun _ ↦ .bind (fun _ _ _ h ↦ by cases h) fun _ ↦ Replies.goto h

theorem unknownIntent_replies : Replies (MonadExcept.ofExcept unknownIntent) :=
  replies_error (readable_invalidInput rfl) fun _ h ↦ by cases h

theorem canRoute_silent {s : UserSession} {b b' : Backend} {e : Exc}
    (h : AnalyticsRoutingPolicy.canRoute dep s text b = .error e b') : e.isInvalidInput = false := by
  obtain ⟨routed, b'', hr, -⟩ := canRoute_returns dep s text b
  rw [hr] at h
  cases h

theorem handleIdle_replies : Replies (handleIdle dep text) := by
  refine .session fun s ↦ ?_
  cases IntentResolver.resolve dep.unicode text with
  | UNKNOWN =>
      refine .query (fun _ _ _ ↦ canRoute_silent) fun routed ↦ ?_
      split
      · exact AnalyticsFlow.handleQuery_replies
      · exact unknownIntent_replies
  | RECORD_SALE => exact enter_replies (readable_of_renderable rfl)
  | CHECK_STOCK => exact enter_replies (readable_of_renderable rfl)
  | ADD_PRODUCT => exact enter_replies (readable_of_renderable rfl)
  | GENERATE_REPORT =>
      refine .bind (fun _ _ _ h ↦ by cases h) fun _ ↦
        .bind (readable_raises (silent_transition _)) fun _ ↦
        .bind (readable_raises handleDailyReport_silent) fun _ ↦
        Replies.goto (readable_of_renderable rfl)

theorem handler_replies (state : SessionState) : Replies (handler dep state text) := by
  cases state with
  | IDLE =>
      rw [handler_idle dep (.inl rfl)]
      exact handleIdle_replies
  | START_ADD_PRODUCT =>
      rw [handler_idle dep (.inr (.inl rfl))]
      exact handleIdle_replies
  | ADD_PRODUCT_NAME => exact AddProductFlow.handleName_replies
  | ADD_PRODUCT_PRICE => exact AddProductFlow.handlePrice_replies
  | ADD_PRODUCT_QTY => exact AddProductFlow.handleQty_replies
  | CONFIRM_ADD_PRODUCT => exact AddProductFlow.handleConfirm_replies
  | RECORD_SALE_PRODUCT => exact RecordSaleFlow.handleSaleProductName_replies
  | RECORD_SALE_PRODUCT_SELECTION => exact RecordSaleFlow.handleSaleProductSelection_replies
  | RECORD_SALE_QTY => exact RecordSaleFlow.handleSaleProductQty_replies
  | CONFIRM_SALE => exact RecordSaleFlow.handleConfirmSaleProduct_replies
  | CHECK_STOCK_PRODUCT => exact StockLookupFlow.handleStockName_replies
  | CHECK_STOCK_PRODUCT_SELECTION => exact StockLookupFlow.handleStockProductSelection_replies
  | REPORT_PENDING =>
      rw [handler_idle dep (.inr (.inr rfl))]
      exact handleIdle_replies
  | ANALYTICS_PRODUCT_SELECTION => exact AnalyticsFlow.handleProductSelection_replies

theorem reset_replies {previousState : SessionState} {key : MessageKey}
    (h : Readable (key, [])) : Replies (reset previousState key) :=
  .close h

theorem onInvalidInput_replies {previousState : SessionState} {message : String}
    {key : Option MessageKey} {params : Params} (h : Readable (errorReply message key params)) :
    Replies (onInvalidInput dep previousState message key params) := by
  refine .bind (fun _ _ _ h ↦ by cases h) fun _ ↦ Replies.session fun s ↦ ?_
  split
  · exact reset_replies (readable_of_renderable rfl)
  · exact replies_result h

theorem handleAccepted_replies (state : SessionState) : Replies (handleAccepted dep state text) :=
  (handler_replies state).bind_of fun _ h ↦ .bind (fun _ _ _ h ↦ by cases h) fun _ ↦ .pure h

/-- Whatever the session, the message and the rows, the reply can be rendered. -/
theorem processMessage_readable {t t' : Turn} {r : FSMResult}
    (h : processMessage dep text t = .ok r t') : r.Readable := by
  unfold processMessage at h
  rw [session_bind] at h
  split at h
  · exact (reset_replies (readable_of_renderable rfl)).returns t r t' h
  · rcases tryCatch_eq_ok.mp h with h | ⟨e, t₁, he, h⟩
    · exact (handleAccepted_replies _).returns t r t' h
    · have hreadable := (handleAccepted_replies _).raises t e t₁ he
      cases e with
      | invalidInput message key params =>
          exact (onInvalidInput_replies (hreadable message key params rfl)).returns _ r t' h
      | _ => cases h

end FSMEngine

namespace AnalyticsFlow

open Analytics

theorem settle_returns (outcome : AnalyticsOutcome) (t : Turn) :
    ∃ t', settle outcome t = .ok () t' := by
  cases outcome with
  | answered answer call => cases call <;> exact ⟨_, rfl⟩
  | answeredEmpty answer call => cases call <;> exact ⟨_, rfl⟩
  | _ => exact ⟨_, rfl⟩

/-- The flow ends with the reply of the formatter, or with what it raises. -/
theorem conclude_ok_iff {outcome : AnalyticsOutcome} {reply : MessageKey × Params}
    (previousState : SessionState) (t : Turn) :
    (∃ r t', conclude dep previousState outcome t = .ok r t' ∧
      (r.messageKey, r.messageParams) = reply) ↔ formatOutcome dep outcome = .ok reply := by
  obtain ⟨t₁, h⟩ := settle_returns outcome t
  unfold conclude
  rw [bind_of_ok h]
  cases hf : formatOutcome dep outcome with
  | error e =>
      refine ⟨?_, fun h ↦ by cases h⟩
      rintro ⟨r, t', hr, -⟩
      cases hr
  | ok shown =>
      constructor
      · rintro ⟨r, t', hr, hreply⟩
        cases hr
        exact congrArg Except.ok hreply
      · intro hreply
        cases hreply
        exact ⟨_, _, rfl, rfl⟩

end AnalyticsFlow

/-- Every reply of the engine can be rendered.  The flow has a reply that can be
rendered to an outcome of a question unless a guardrail rejected it or the call
it was answered with has a period that cannot be named. -/
theorem reply_readable_iff (dep : Deployment) :
    (∀ text t r t', processMessage dep text t = .ok r t' → r.Readable) ∧
      ∀ previousState outcome t,
        (∃ r t', AnalyticsFlow.conclude dep previousState outcome t = .ok r t' ∧ r.Readable) ↔
          outcome.isGuardrail = false ∧ outcome.Presentable := by
  refine ⟨fun text t r t' h ↦ processMessage_readable h, fun previousState outcome t ↦ ?_⟩
  constructor
  · rintro ⟨r, t', h, hr⟩
    have hf := (AnalyticsFlow.conclude_ok_iff previousState t).mp ⟨r, t', h, rfl⟩
    exact ⟨(Analytics.formatOutcome_readable_iff hf).mp hr, Analytics.formatOutcome_ok_iff.mp ⟨_, hf⟩⟩
  · rintro ⟨hguardrail, hp⟩
    obtain ⟨r, t', h, hreply⟩ :=
      (AnalyticsFlow.conclude_ok_iff previousState t).mpr (Analytics.formatOutcome_of_presentable hp)
    refine ⟨r, t', h, ?_⟩
    rw [FSMResult.Readable, hreply]
    exact Analytics.presented_readable hp hguardrail

/-- The key of a rejected question has no template. -/
theorem guardrail_reply_raises :
    let t : Turn := ⟨UserSession.fresh "254700000001", .connect .calm .sample⟩
    ∃ r t', AnalyticsFlow.conclude .sample .IDLE (.guardrailRejected "daily limit") t = .ok r t' ∧
      renderMessage r.messageKey "en" r.messageParams = .error (.other "KeyError" "message_key") ∧
      ¬ r.Readable :=
  ⟨_, _, rfl, rfl, fun h ↦ by
    obtain ⟨text, ht⟩ := h "en"
    cases ht⟩

end SokoFlow
