import SokoFlow.Foundation.Contract
import SokoFlow.Conversation.Confirmation
import SokoFlow.Reachable

/-!
# The follow-up context

A question remembers the tool call that answered it, for the next question to
build on.  The journal says which calls succeeded, the session which one is
remembered.
-/

namespace SokoFlow

open DbM Effect Analytics

/-- The tool calls that have succeeded on this database session. -/
def Backend.completions (b : Backend) : List Event := b.journal.filter (·.isCompleted)

/-! ## Statements complete no call -/

abbrev SameJournal (b b' : Backend) : Prop := b'.journal = b.journal

instance : IsPreorder Backend SameJournal where
  refl _ := rfl
  trans _ _ _ h h' := Eq.trans h' h

section Journal

variable {α : Type}

theorem sameJournal_of_untouched {x : DbM α} (h : Within Backend.Untouched x) :
    Within SameJournal x :=
  h.mono fun _ _ hu ↦ hu.journal

theorem execute_sameJournal (run : Timestamp → Database → Except Exc (α × Database)) :
    Within SameJournal (execute run) :=
  (execute_within run).mono fun _ _ hu ↦ hu.journal

theorem commit_sameJournal : Within SameJournal commit := by
  intro b
  rw [commit_apply]
  split
  · rfl
  · split <;> rfl

theorem getShopId_sameJournal (sender : String) : Within SameJournal (getShopId sender) := by
  refine .bind (execute_sameJournal _) fun found ↦ ?_
  cases found with
  | some shop => exact .pure _
  | none =>
      refine .bind (sameJournal_of_untouched (ask_within _)) fun id ↦
        .bind (execute_sameJournal _) fun shop ↦ .bind commit_sameJournal fun _ ↦
        .bind (execute_sameJournal _) fun again ↦ ?_
      cases again with
      | some shop => exact .pure _
      | none => exact .throw _

end Journal

/-! ## The calls a run completes -/

namespace Analytics

variable {dep : Deployment} {shopId : UUID} {b b' : Backend}

/-- The call an outcome answers with. -/
def AnalyticsOutcome.answeredCall : AnalyticsOutcome → Option ToolCall
  | answered _ call => call
  | answeredEmpty _ call => call
  | _ => none

/-- The calls completed since `done`: none, or the one to remember. -/
def Completes (done : List Event) (call : Option ToolCall) (b : Backend) : Prop :=
  b.completions = done ++ (call.map fun c ↦ Event.completed c.name c.arguments).toList

theorem answer_answeredCall (toolName : String) (data : ToolOutput)
    (validated rawArgs : Json.Object) :
    (answer toolName data validated rawArgs).1.answeredCall =
      some (answer toolName data validated rawArgs).2 := by
  unfold answer
  dsimp only
  split <;> rfl

theorem completions_noted (event : Event) :
    (b.noted event).completions =
      b.completions ++ (if event.isCompleted then [event] else []) := by
  unfold Backend.completions Backend.noted
  rw [List.filter_append]
  cases h : event.isCompleted <;> simp [h]

/-- A call that succeeds is entered with its validated arguments, one that
fails is not. -/
theorem execute_completes {toolName : String} {rawArgs : Json.Object}
    {result : ToolExecutionResult}
    (h : execute dep toolName rawArgs shopId b = .ok result b') :
    match result with
    | .success _ data validated =>
        Completes b.completions (some (answer toolName data validated rawArgs).2) b'
    | .failure _ _ => Completes b.completions none b' := by
  unfold execute at h
  cases hv : validateCall dep toolName rawArgs with
  | error error =>
      rw [executeWith_of_invalid hv] at h
      cases h
      exact (List.append_nil _).symm
  | ok input =>
      rw [executeWith_of_valid hv] at h
      have hquiet := (handler_queries dep shopId input).within
      cases hr : runHandler (handler dep) toolName input shopId b with
      | ok result' b₁ =>
          rw [hr] at h
          cases h
          obtain ⟨data, b₂, hd, rfl, rfl⟩ := runHandler_ok hr
          have hj : b₂.journal = (b.noted (.handled toolName shopId input.dump)).journal :=
            (hquiet.of_ok hd).journal
          have hcall : (answer toolName data input.dump rawArgs).2 = ⟨toolName, input.dump⟩ := by
            rw [answer_call]
            split
            · rename_i he
              rw [dump_isEmpty hv he, List.isEmpty_iff.mp he]
            · rfl
          show Completes _ (some (answer toolName data input.dump rawArgs).2) _
          rw [hcall]
          unfold Completes
          rw [completions_noted]
          unfold Backend.completions
          rw [hj]
          simp [Backend.noted, Event.isCompleted]
      | error e b₁ =>
          rw [hr] at h
          cases h
          have hj := (hquiet.of_error (runHandler_error hr)).journal
          show Completes b.completions none b'
          unfold Completes Backend.completions
          rw [hj]
          simp [Backend.noted, Event.isCompleted]

/-- The call a pass of the loop answers with; asking again answers nothing. -/
def answeredCallOf : AnalyticsOutcome ⊕ List LLMMessage → Option ToolCall
  | .inl outcome => outcome.answeredCall
  | .inr _ => none

theorem Completes.none (h : b'.completions = b.completions) : Completes b.completions none b' := by
  rw [← h]
  exact (List.append_nil _).symm

theorem outcomeOfFailure_answeredCall (call : NormalizedToolCall) (error : ToolExecutionError) :
    (outcomeOfFailure call error).answeredCall = none := by
  unfold outcomeOfFailure
  split
  · rfl
  · split
    · rfl
    · split <;> rfl

theorem outcomeOfProviderError_answeredCall (e : Exc) :
    (outcomeOfProviderError e).answeredCall = none := by
  unfold outcomeOfProviderError
  split <;> rfl

theorem respond_completes {last : Bool} {calls : List NormalizedToolCall}
    {r : AnalyticsOutcome ⊕ List LLMMessage}
    (h : respond (handler dep) dep shopId last calls b = .ok r b') :
    Completes b.completions (answeredCallOf r) b' := by
  unfold respond at h
  split at h
  · cases h
    exact .none rfl
  · split at h
    · split at h <;> cases h <;> exact .none rfl
    · obtain ⟨result, b₁, he, h⟩ := bind_eq_ok.mp h
      have hdone := execute_completes he
      cases result with
      | success tool data validated =>
          cases h
          rw [answeredCallOf, answer_answeredCall]
          exact hdone
      | failure tool error =>
          dsimp only at h
          split at h <;> cases h
          · exact hdone
          · rw [answeredCallOf, outcomeOfFailure_answeredCall]
            exact hdone
  · split at h <;> cases h <;> exact .none rfl

theorem attempt_completes {last : Bool} {messages : List LLMMessage}
    {r : AnalyticsOutcome ⊕ List LLMMessage}
    (h : attempt (handler dep) dep shopId last messages b = .ok r b') :
    Completes b.completions (answeredCallOf r) b' := by
  obtain ⟨response, b₁, hg, h⟩ := bind_eq_ok.mp h
  have hsame : b₁.completions = b.completions := by
    cases hg
    exact (completions_noted _).trans (List.append_nil _)
  cases response with
  | error e =>
      cases h
      rw [answeredCallOf, outcomeOfProviderError_answeredCall]
      exact .none hsame
  | ok response => exact hsame ▸ respond_completes h

/-- A question completes the call it is answered with, and no other. -/
theorem run_completes {messageText : String} {prior : Option ToolCall} {outcome : AnalyticsOutcome}
    (h : run dep messageText shopId prior b = .ok outcome b') :
    Completes b.completions outcome.answeredCall b' := by
  obtain ⟨first, b₁, h₁, h⟩ := bind_eq_ok.mp h
  have hfirst := attempt_completes h₁
  cases first with
  | inl first =>
      cases h
      exact hfirst
  | inr more =>
      have hsame : b₁.completions = b.completions := hfirst.trans (List.append_nil _)
      obtain ⟨second, b₂, h₂, h⟩ := bind_eq_ok.mp h
      have hsecond := hsame ▸ attempt_completes h₂
      cases second <;> cases h <;> exact hsecond

end Analytics

/-! ## What is remembered -/

/-- No call has completed after those in `done`, and `last` is remembered. -/
structure Undisturbed (done : List Event) (last : Option PriorCallContext) (t : Turn) : Prop where
  completions : t.backend.completions = done
  remembered : t.session.context.lastAnalyticsCall = last

/-- A call may have completed which is not remembered yet. -/
structure Answered (done : List Event) (last : Option PriorCallContext) (call : Option ToolCall)
    (t : Turn) : Prop where
  completes : Completes done call t.backend
  remembered : t.session.context.lastAnalyticsCall = last

/-- Either no call has completed and `last` is remembered, or one has and it
is remembered with its arguments. -/
def Recalls (done : List Event) (last : Option PriorCallContext) (t : Turn) : Prop :=
  Undisturbed done last t ∨ ∃ tool arguments now,
    t.backend.completions = done ++ [.completed tool arguments] ∧
      t.session.context.lastAnalyticsCall = some ⟨tool, arguments, now⟩

namespace AnalyticsFlow

open FlowM

variable {done : List Event} {last : Option PriorCallContext} {E : Turn → Prop}

theorem undisturbed_onDb {α : Type} {x : DbM α} (h : Within SameJournal x) :
    Keeping (Undisturbed done last) (onDb x) :=
  .zoom_of_within h fun _ _ ht hj ↦
    ⟨(congrArg (List.filter _) hj).trans ht.completions, ht.remembered⟩

theorem undisturbed_shop (phone : String) :
    Keeping (Undisturbed done last) (onDb (getShopId phone)) :=
  undisturbed_onDb (getShopId_sameJournal phone)

theorem undisturbed_edit {f : SessionContext → SessionContext}
    (hf : ∀ c, (f c).lastAnalyticsCall = c.lastAnalyticsCall) :
    Keeping (Undisturbed done last) (editContext f) :=
  .modify fun _ ht ↦ ⟨ht.completions, (hf _).trans ht.remembered⟩

/-- A call that completed is the one to remember. -/
theorem remember_recalls (call : Option ToolCall) :
    Contract (Answered done last call) (remember call) (fun _ ↦ Recalls done last) E := by
  cases call with
  | none => exact .pure fun t ht ↦ .inl ⟨ht.completes.trans (List.append_nil _), ht.remembered⟩
  | some call =>
      constructor
      · intro t a t' ht h
        cases h
        exact .inr ⟨call.name, call.arguments, time t, ht.completes, rfl⟩
      · intro t e t' _ h
        cases h

theorem answered_edit {call : Option ToolCall} {f : SessionContext → SessionContext}
    (hf : ∀ c, (f c).lastAnalyticsCall = c.lastAnalyticsCall) :
    Contract (Answered done last call) (editContext f) (fun _ ↦ Answered done last call) E :=
  .modify fun _ ht ↦ ⟨ht.completes, (hf _).trans ht.remembered⟩

theorem recalls_edit {f : SessionContext → SessionContext}
    (hf : ∀ c, (f c).lastAnalyticsCall = c.lastAnalyticsCall) :
    Contract (Recalls done last) (editContext f) (fun _ ↦ Recalls done last) E := by
  refine .modify fun t ht ↦ ?_
  rcases ht with ht | ⟨tool, arguments, now, hdone, hlast⟩
  · exact .inl ⟨ht.completions, (hf _).trans ht.remembered⟩
  · exact .inr ⟨tool, arguments, now, hdone, (hf _).trans hlast⟩

theorem recalls_transition {newState : SessionState} :
    Contract (Recalls done last) (transition newState) (fun _ ↦ Recalls done last) E := by
  constructor
  · intro t a t' ht h
    cases h
    rcases ht with ht | ⟨tool, arguments, now, hdone, hlast⟩
    · exact .inl ⟨ht.completions, ht.remembered⟩
    · exact .inr ⟨tool, arguments, now, hdone, hlast⟩
  · intro t e t' _ h
    cases h

theorem settle_recalls (outcome : AnalyticsOutcome) :
    Contract (Answered done last outcome.answeredCall) (settle outcome)
      (fun _ ↦ Recalls done last) E := by
  have hquiet : ∀ t, Answered done last none t → Recalls done last t :=
    fun t ht ↦ .inl ⟨ht.completes.trans (List.append_nil _), ht.remembered⟩
  cases outcome with
  | answered answer call => exact .bind (answered_edit fun _ ↦ rfl) fun _ ↦ remember_recalls call
  | answeredEmpty answer call =>
      exact .bind (answered_edit fun _ ↦ rfl) fun _ ↦ remember_recalls call
  | needsSelection candidates pending tool =>
      constructor
      · intro t a t' ht h
        cases h
        exact hquiet _ ⟨ht.completes, ht.remembered⟩
      · intro t e t' _ h
        cases h
  | _ => exact .pure hquiet

variable {dep : Deployment} {text : String}

theorem handleQuery_recalls : Contract (Undisturbed done last) (handleQuery dep text)
    (fun _ ↦ Recalls done last) (Undisturbed done last) := by
  rw [handleQuery_eq]
  refine Contract.bind (.reads fun _ ht ↦ ht) fun s ↦ .bind (undisturbed_shop _) fun shopId ↦
    .bind (undisturbed_edit fun _ ↦ rfl) fun _ ↦ .bind (undisturbed_onDb ?_) fun fresh ↦
    .bind (Q := fun outcome ↦ Answered done last outcome.answeredCall) ?_ fun outcome ↦
    .bind (settle_recalls outcome) fun _ ↦ ?_
  · intro b
    obtain ⟨fresh, b', h, hu⟩ := hasFreshContext_returns dep s b
    rw [h]
    exact hu.journal
  · constructor
    · intro t outcome t' ht h
      obtain ⟨b, hrun, rfl⟩ := zoom_eq_ok.mp h
      exact ⟨ht.completions ▸ run_completes hrun, ht.remembered⟩
    · intro t e t' _ h
      obtain ⟨b, hrun, -⟩ := zoom_eq_error.mp h
      obtain ⟨outcome, b', hok⟩ := run_returns dep text shopId _ t.backend
      rw [hok] at hrun
      cases hrun
  · exact .reads fun _ ht ↦ ht

/-- A resumed call is remembered if it completes; without a pending call the
session would be cleared. -/
theorem handleProductSelection_recalls :
    Contract (fun t ↦ Undisturbed done last t ∧ t.session.context.pendingAnalyticsCall ≠ none)
      (handleProductSelection dep text) (fun _ ↦ Recalls done last) (Undisturbed done last) := by
  rw [handleProductSelection_eq]
  refine Contract.bind (Q := fun s t ↦ Undisturbed done last t ∧
    s.context.pendingAnalyticsCall ≠ none) (.reads fun _ ht ↦ ht) fun s ↦ ?_
  refine Contract.bind (Q := fun _ t ↦ Undisturbed done last t ∧
    s.context.pendingAnalyticsCall ≠ none) ?_ fun selected ↦ ?_
  · cases resolveProductChoice dep.unicode s.context.productCandidates text with
    | ok selected => exact .pure fun _ ht ↦ ht
    | error e => exact .throw fun _ ht ↦ ht.1
  · cases s.context.pendingAnalyticsCall with
    | none => exact ⟨fun _ _ _ ht _ ↦ absurd rfl ht.2, fun _ _ _ ht _ ↦ absurd rfl ht.2⟩
    | some pending =>
        refine Contract.weaken (P := Undisturbed done last) ?_ (fun _ ht ↦ ht.1)
          (fun _ _ h ↦ h) fun _ h ↦ h
        refine Contract.bind (undisturbed_shop _) fun shopId ↦
          Contract.bind (Q := fun result ↦ Answered done last
            (resumed pending.toolName (chosenArguments pending selected) result).2) ?_ fun result ↦ ?_
        · constructor
          · intro t result t' ht h
            obtain ⟨b, hex, rfl⟩ := zoom_eq_ok.mp h
            have hdone := execute_completes hex
            rw [ht.completions] at hdone
            cases result with
            | success tool data validated => exact ⟨hdone, ht.remembered⟩
            | failure tool error =>
                refine ⟨?_, ht.remembered⟩
                unfold resumed
                dsimp only
                split <;> exact hdone
          · intro t e t' _ h
            obtain ⟨b, hex, -⟩ := zoom_eq_error.mp h
            obtain ⟨result, b', hok⟩ := execute_returns dep pending.toolName
              (chosenArguments pending selected) shopId t.backend
            rw [hok] at hex
            cases hex
        · apply Contract.bind (remember_recalls _)
          intro _
          exact Contract.bind (recalls_edit fun _ ↦ rfl) fun _ ↦
            Contract.bind recalls_transition fun _ ↦ .reads fun _ ht ↦ ht

/-- A reply fails before the call is resumed: the choice is wrong, or the shop
cannot be looked up. -/
theorem handleProductSelection_error {t t' : Turn} {e : Exc}
    (h : handleProductSelection dep text t = .error e t') :
    t'.session = t.session ∧ (e.isTechnical = true ∨
      resolveProductChoice dep.unicode t.session.context.productCandidates text = .error e) := by
  rw [handleProductSelection_eq] at h
  rw [session_bind] at h
  rcases ofExcept_bind_error h with ⟨hwrong, rfl⟩ | ⟨selected, -, h⟩
  · exact ⟨rfl, .inr hwrong⟩
  · cases hp : t.session.context.pendingAnalyticsCall with
    | none =>
        rw [hp] at h
        cases h
    | some pending =>
        rw [hp] at h
        rcases onDb_bind_error h with ⟨b, hshop, rfl⟩ | ⟨shopId, b, -, h⟩
        · exact ⟨rfl, .inl (getShopId_error hshop)⟩
        · rcases onDb_bind_error h with ⟨b₁, hex, -⟩ | ⟨result, b₁, -, h⟩
          · obtain ⟨result, b₂, hok⟩ := execute_returns dep pending.toolName
              (chosenArguments pending selected) shopId b
            rw [hok] at hex
            cases hex
          · cases result with
            | success tool data validated => cases h
            | failure tool error =>
                unfold resumed at h
                dsimp only at h
                split at h <;> cases h

end AnalyticsFlow

/-! ## One message -/

namespace FSMEngine

open FlowM Dialogue

variable {dep : Deployment} {s : UserSession} {b : Backend} {text : String}

/-- The message goes to the analytics flow: a question, or the reply to one of
its lists. -/
def HandedToAnalytics (dep : Deployment) (s : UserSession) (b : Backend) (text : String) : Prop :=
  isOverride dep text = false ∧
    (s.state = .ANALYTICS_PRODUCT_SELECTION ∨
      s.state = .IDLE ∧ IntentResolver.resolve dep.unicode text = .UNKNOWN ∧
        ∃ b', AnalyticsRoutingPolicy.canRoute dep s text b = .ok true b')

/-- Leaving the choice of a product clears it. -/
def LeavesClean (s s' : UserSession) : Prop :=
  s.state = .ANALYTICS_PRODUCT_SELECTION → s'.state ≠ .ANALYTICS_PRODUCT_SELECTION →
    s'.context.pendingAnalyticsCall = none ∧ s'.context.productCandidates = []

/-- The last wrong choice allowed, with an earlier call remembered. -/
structure LastWrongChoice (dep : Deployment) (s : UserSession) (text : String) : Prop where
  state : s.state = .ANALYTICS_PRODUCT_SELECTION
  notOverride : isOverride dep text = false
  wrong : ∃ e, resolveProductChoice dep.unicode s.context.productCandidates text = .error e
  last : dep.settings.maxFsmErrors ≤ s.context.errorCount + 1
  remembers : s.context.lastAnalyticsCall ≠ none

/-- How the analytics flow ends; it reports only wrong choices to the engine. -/
theorem analytics_handler (h : HandedToAnalytics dep s b text) (hctx : ContextOk s) :
    match handler dep s.state text ⟨s, b⟩ with
    | .ok _ t => Recalls b.completions s.context.lastAnalyticsCall t
    | .error e t => Undisturbed b.completions s.context.lastAnalyticsCall t ∧
        (e.isInvalidInput = true → s.state = .ANALYTICS_PRODUCT_SELECTION ∧
          resolveProductChoice dep.unicode s.context.productCandidates text = .error e) := by
  rcases h.2 with hstate | ⟨hstate, hintent, b', hroute⟩
  · have hpending : s.context.pendingAnalyticsCall ≠ none := by
      have hopen : CallPending s.context := by simpa [ContextOk, hstate] using hctx
      obtain ⟨call, hcall, -⟩ := hopen.pendingAnalyticsCall
      simp [hcall]
    rw [hstate]
    change match AnalyticsFlow.handleProductSelection dep text ⟨s, b⟩ with
      | .ok _ t => _
      | .error e t => _
    cases hr : AnalyticsFlow.handleProductSelection dep text ⟨s, b⟩ with
    | ok r t =>
        exact AnalyticsFlow.handleProductSelection_recalls.returns _ _ _ ⟨⟨rfl, rfl⟩, hpending⟩ hr
    | error e t =>
        refine ⟨AnalyticsFlow.handleProductSelection_recalls.raises _ _ _
          ⟨⟨rfl, rfl⟩, hpending⟩ hr, fun hi ↦ ⟨rfl, ?_⟩⟩
        rcases (AnalyticsFlow.handleProductSelection_error hr).2 with he | hwrong
        · rw [Exc.not_invalidInput_of_technical he] at hi
          cases hi
        · exact hwrong
  · have hquery : handler dep s.state text ⟨s, b⟩ = AnalyticsFlow.handleQuery dep text ⟨s, b'⟩ := by
      rw [hstate, handler_idle dep (.inl rfl)]
      unfold handleIdle
      rw [session_bind, hintent]
      have hz : onDb (AnalyticsRoutingPolicy.canRoute dep s text) ⟨s, b⟩ = .ok true ⟨s, b'⟩ :=
        zoom_eq_ok.mpr ⟨b', hroute, rfl⟩
      exact (bind_of_ok hz).trans (by rw [if_pos rfl])
    have hbegun : b'.completions = b.completions := by
      obtain ⟨routed, b'', hok, hu⟩ := canRoute_returns dep s text b
      rw [hok] at hroute
      cases hroute
      exact congrArg (List.filter _) hu.journal
    rw [hquery]
    cases hr : AnalyticsFlow.handleQuery dep text ⟨s, b'⟩ with
    | ok r t => exact AnalyticsFlow.handleQuery_recalls.returns _ _ _ ⟨hbegun, rfl⟩ hr
    | error e t =>
        refine ⟨AnalyticsFlow.handleQuery_recalls.raises _ _ _ ⟨hbegun, rfl⟩ hr, fun hi ↦ ?_⟩
        rw [AnalyticsFlow.handleQuery_silent _ _ _ hr] at hi
        cases hi

theorem handler_of_wrong {e : Exc} (hstate : s.state = .ANALYTICS_PRODUCT_SELECTION)
    (hwrong : resolveProductChoice dep.unicode s.context.productCandidates text = .error e) :
    handler dep s.state text ⟨s, b⟩ = .error e ⟨s, b⟩ := by
  rw [hstate]
  change AnalyticsFlow.handleProductSelection dep text ⟨s, b⟩ = _
  unfold AnalyticsFlow.handleProductSelection
  rw [session_bind, hwrong]
  rfl

/-- Unless it is the last wrong choice, what is remembered fits what completed. -/
theorem processMessage_recalls (h : HandedToAnalytics dep s b text) (hctx : ContextOk s)
    (hlast : ¬ LastWrongChoice dep s text) :
    Recalls b.completions s.context.lastAnalyticsCall (final (processMessage dep text ⟨s, b⟩)) := by
  have hh := analytics_handler h hctx
  cases hr : handler dep s.state text ⟨s, b⟩ with
  | ok r t =>
      rw [hr] at hh
      rw [processMessage_of_ok (t := ⟨s, b⟩) h.1 hr]
      rcases hh with hquiet | ⟨tool, arguments, now, hdone, hcall⟩
      · exact .inl ⟨hquiet.completions, hquiet.remembered⟩
      · exact .inr ⟨tool, arguments, now, hdone, hcall⟩
  | error e t =>
      rw [hr] at hh
      obtain ⟨hquiet, hwrong⟩ := hh
      cases hi : e.isInvalidInput with
      | false =>
          rw [processMessage_of_error (t := ⟨s, b⟩) h.1 hr hi]
          exact .inl hquiet
      | true =>
          obtain ⟨hsame, -⟩ := handler_refuses _ _ _ _ hr hi
          obtain ⟨hstate, hwrong⟩ := hwrong hi
          cases e with
          | invalidInput message key params =>
              rw [processMessage_of_invalid (t := ⟨s, b⟩) h.1 hr]
              refine .inl ?_
              unfold onInvalidInput
              rw [setSession_bind, session_bind]
              split
              · rename_i hmax
                have hnone : s.context.lastAnalyticsCall = none := by
                  by_contra hcall
                  rw [hsame] at hmax
                  exact hlast ⟨hstate, h.1, ⟨_, hwrong⟩, hmax, hcall⟩
                exact ⟨hquiet.completions, hnone.symm⟩
              · exact ⟨hquiet.completions, hquiet.remembered⟩
          | _ => cases hi

theorem resolveProductChoice_error {u : Unicode} {candidates : List ScoredProductMatch}
    {message : String} {e : Exc} (h : resolveProductChoice u candidates message = .error e) :
    ∃ m key, e = .invalidInput m (some key) [] := by
  unfold resolveProductChoice at h
  split at h
  · cases h
    exact ⟨_, _, rfl⟩
  · split at h
    · cases h
      exact ⟨_, _, rfl⟩
    · split at h
      · cases h
        exact ⟨_, _, rfl⟩
      · split at h <;> cases h
        exact ⟨_, _, rfl⟩

/-- The last wrong choice clears the remembered call, and completes none. -/
theorem not_recalls_of_last (hlast : LastWrongChoice dep s text) :
    ¬ Recalls b.completions s.context.lastAnalyticsCall
      (final (processMessage dep text ⟨s, b⟩)) := by
  obtain ⟨hstate, ho, ⟨e, hwrong⟩, hmax, hcall⟩ := hlast
  have hr : handler dep s.state text ⟨s, b⟩ = .error e ⟨s, b⟩ := handler_of_wrong hstate hwrong
  obtain ⟨m, key, rfl⟩ := resolveProductChoice_error hwrong
  rw [processMessage_of_invalid (t := ⟨s, b⟩) ho hr]
  unfold onInvalidInput
  rw [setSession_bind, session_bind, if_pos (by exact hmax)]
  rintro (hquiet | ⟨tool, arguments, now, hdone, -⟩)
  · exact hcall hquiet.remembered.symm
  · have hlen := congrArg List.length hdone
    simp [reset, Backend.completions, later] at hlen

/-- Whatever ends the choice of a product clears it. -/
theorem processMessage_leavesClean {p : Phase} (hs : Shows s p) :
    LeavesClean s (final (processMessage dep text ⟨s, b⟩)).session := by
  intro hstate hleft
  cases hp : processMessage dep text ⟨s, b⟩ with
  | ok r t =>
      rw [hp] at hleft
      obtain ⟨p', hstep, hs'⟩ := processMessage_follows (t := ⟨s, b⟩) hs hp
      rw [hs.state] at hstate
      cases p with
      | analyticsChoice choices tool arguments =>
          cases hstep with
          | stay => exact absurd hs'.state hleft
          | leave =>
              have hblank := Blank.of_content hs'.content
              exact ⟨hblank.pendingAnalyticsCall, hblank.productCandidates⟩
      | _ => cases hstate
  | error e t =>
      rw [hp] at hleft
      obtain ⟨-, hr, -⟩ := processMessage_raised hp
      rw [show (⟨s, b⟩ : Turn).session.state = .ANALYTICS_PRODUCT_SELECTION from hstate] at hr
      have hsame : t.session = s := (AnalyticsFlow.handleProductSelection_error hr).1
      exact absurd (hsame ▸ hstate) hleft

/-- In any conversation the follow-up context survives everything but the last
wrong choice that is allowed. -/
theorem follow_up_survives_iff (dep : Deployment) (phone : String)
    (visits : List (Backend × String)) (b : Backend) (text : String) :
    let s := talk dep (UserSession.fresh phone) visits
    let t := final (processMessage dep text ⟨s, b⟩)
    ((HandedToAnalytics dep s b text →
        Recalls b.completions s.context.lastAnalyticsCall t) ∧
      LeavesClean s t.session) ↔ ¬ LastWrongChoice dep s text := by
  intro s t
  obtain ⟨p, hs⟩ : ∃ p, Shows s p := talk_shows ⟨.idle, Shows.fresh phone⟩ visits
  have hctx : ContextOk s := Shows.contextOk hs
  constructor
  · intro h hlast
    exact not_recalls_of_last hlast (h.1 ⟨hlast.notOverride, .inl hlast.state⟩)
  · intro hlast
    exact ⟨fun h ↦ processMessage_recalls h hctx hlast, processMessage_leavesClean hs⟩

/-! A merchant asks what is running low, then about one of two kinds of milk. -/

def curious : Deployment :=
  { Deployment.sample with settings := { groqApiKey := some "key" } }

def twoMilks : Database where
  toRows := { Database.sample.toRows with
    products := [⟨⟨2⟩, ⟨1⟩, "Milk 1L", "M-AAAAAA", 60⟩, ⟨⟨4⟩, ⟨1⟩, "Milk 2L", "M-BBBBBB", 110⟩] }
  valid := by decide +kernel

/-- The model proposes this call. -/
def proposes (name : String) (arguments : Json.Object) : Backend :=
  .connect { Env.calm with generate := fun _ _ ↦ .ok ⟨[⟨name, arguments⟩]⟩ } twoMilks

def mistaken : List (Backend × String) :=
  [(proposes "get_low_stock_items" [], "what is running low"),
    (proposes "get_stock_level" [("product_name", .str "milk")], "how is milk"),
    (.connect .calm twoMilks, "9"), (.connect .calm twoMilks, "9")]

/-- The third wrong choice forgets the call that answered the first question. -/
theorem third_wrong_choice_forgets :
    let s := talk curious (UserSession.fresh "254700000001") mistaken
    let b : Backend := .connect .calm twoMilks
    let t := final (processMessage curious "9" ⟨s, b⟩)
    HandedToAnalytics curious s b "9" ∧ s.context.lastAnalyticsCall.isSome = true ∧
      t.session.context.lastAnalyticsCall.isSome = false ∧ t.backend.completions.length = 0 ∧
      ¬ Recalls b.completions s.context.lastAnalyticsCall t := by
  intro s b t
  have hs : s.state = .ANALYTICS_PRODUCT_SELECTION ∧ s.context.lastAnalyticsCall.isSome = true := by
    decide +kernel
  have ht : t.session.context.lastAnalyticsCall.isSome = false ∧
      t.backend.completions.length = 0 := by decide +kernel
  refine ⟨⟨by decide +kernel, .inl hs.1⟩, hs.2, ht.1, ht.2, ?_⟩
  rintro (hquiet | ⟨tool, arguments, now, hdone, -⟩)
  · have hforgotten := ht.1
    rw [hquiet.remembered, hs.2] at hforgotten
    cases hforgotten
  · have hnone := ht.2
    rw [hdone, List.length_append] at hnone
    simp at hnone

end FSMEngine

end SokoFlow
