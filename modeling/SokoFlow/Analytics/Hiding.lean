import SokoFlow.Analytics.Bounded
import SokoFlow.Analytics.Formatter
import SokoFlow.Localization

/-!
# What a merchant sees of a technical failure

The executor knows one class of outages and passes the class name of whatever
else a handler raises on, the orchestrator takes that one name for an outage,
and the formatter shows the text of every other failure.  So a technical failure
is hidden when it is of that class or has its name, and only then.
-/

namespace SokoFlow

/-- The subclasses of `DomainValidationError`. -/
def Exc.isDomain : Exc → Bool
  | invalidDateRange .. | productNotFound .. | productAmbiguous .. => true
  | _ => false

/-- The instances of `InfrastructureError` and whatever else bears its name. -/
def Exc.isOutage : Exc → Bool
  | infrastructureError .. => true
  | e => e.className = "InfrastructureError"

namespace Analytics

open DbM Effect

/-- The text a merchant gets for an outcome. -/
def replyText (dep : Deployment) (outcome : AnalyticsOutcome) (locale : String) :
    Except Exc String := do
  let (key, params) ← formatOutcome dep outcome
  renderMessage key locale params

/-- The text of `ANALYTICS_INFRASTRUCTURE_ERROR`. -/
def temporaryFailure (locale : String) : Except Exc String :=
  renderMessage .ANALYTICS_INFRASTRUCTURE_ERROR locale []

/-- A tool call the code accepts, whose handler raises `e` on any rows. -/
structure Fails (hs : Handlers) (dep : Deployment) (call : NormalizedToolCall) (shopId : UUID)
    (e : Exc) : Prop where
  active : call.name ∈ defaultActiveTools
  accepted : ∃ input, validateCall dep call.name call.arguments = .ok input ∧
    ∀ b, ∃ b', hs.run shopId input b = .error e b'

/-- The model proposes the call, at once or when it is asked again. -/
inductive Proposed (hs : Handlers) (dep : Deployment) (call : NormalizedToolCall) (shopId : UUID)
    (messageText : String) (prior : Option ToolCall) (b : Backend) : Prop
  | first (h : b.env.generate b.tick (opening dep messageText prior) = .ok ⟨[call]⟩)
  | again {more : List LLMMessage} {b₁ : Backend}
      (h : attempt hs.run dep shopId false (opening dep messageText prior) b = .ok (.inr more) b₁)
      (hg : b₁.env.generate b₁.tick (opening dep messageText prior ++ more) = .ok ⟨[call]⟩)

/-- Whenever the model answers a question with this call, the outcome is an
outage and the merchant reads that the information is not there for now. -/
def Hidden (hs : Handlers) (dep : Deployment) (call : NormalizedToolCall) (shopId : UUID) : Prop :=
  ∀ messageText prior b, Proposed hs dep call shopId messageText prior b →
    ∃ message b', runWith hs.run dep messageText shopId prior b =
        .ok (.infrastructureFailure message) b' ∧
      ∀ locale, replyText dep (.infrastructureFailure message) locale = temporaryFailure locale ∧
        ∃ text, temporaryFailure locale = .ok text

variable {hs : Handlers} {dep : Deployment} {call : NormalizedToolCall} {shopId : UUID} {e : Exc}
  {messageText : String} {prior : Option ToolCall} {b : Backend}

/-- One pass, when the model proposes a call whose handler raises. -/
theorem attempt_of_fails (h : Fails hs dep call shopId e) {messages : List LLMMessage}
    (hg : b.env.generate b.tick messages = .ok ⟨[call]⟩) (last : Bool) :
    ∃ b', attempt hs.run dep shopId last messages b =
      .ok (afterFailure dep last call (.ofExc e)) b' ∧ b'.env = b.env := by
  obtain ⟨input, hv, hraise⟩ := h.accepted
  have hasked : generate messages b = .ok (.ok ⟨[call]⟩)
      (Backend.noted { b with tick := b.tick + 1 } (.generated messages (.ok ⟨[call]⟩))) := by
    change EStateM.Result.ok (b.env.generate b.tick messages)
      (Backend.noted _ (.generated messages (b.env.generate b.tick messages))) = _
    rw [hg]
  obtain ⟨b₁, hb₁⟩ : ∃ b₁, b₁ =
      Backend.noted { b with tick := b.tick + 1 } (.generated messages (.ok ⟨[call]⟩)) := ⟨_, rfl⟩
  obtain ⟨b₂, hb₂⟩ := hraise (b₁.noted (.handled call.name shopId input.dump))
  have hrun : runHandler hs.run call.name input shopId b₁ = .error e b₂ := by
    unfold runHandler
    rw [bind_of_ok (show note (.handled call.name shopId input.dump) b₁ = .ok () _ from rfl)]
    exact bind_of_error hb₂
  have he : executeWith hs.run dep call.name call.arguments shopId b₁ = _ :=
    executeWith_of_valid hv
  rw [hrun] at he
  refine ⟨b₂, ?_, ?_⟩
  · unfold attempt
    rw [bind_of_ok hasked, ← hb₁]
    exact respond_failed h.active he
  · rw [((hs.reads shopId input).of_error hb₂).env, hb₁]
    rfl

/-- Unless the failure is taken for one of the schema, it ends the run. -/
theorem runWith_of_fails (h : Fails hs dep call shopId e)
    (hs' : (ToolExecutionError.ofExc e).errorType ≠ "SchemaValidationError")
    (hg : b.env.generate b.tick (opening dep messageText prior) = .ok ⟨[call]⟩) :
    ∃ b', runWith hs.run dep messageText shopId prior b =
      .ok (outcomeOfFailure call (.ofExc e)) b' := by
  obtain ⟨b', ha, -⟩ := attempt_of_fails h hg false
  have hf : afterFailure dep false call (.ofExc e) = .inl (outcomeOfFailure call (.ofExc e)) :=
    if_neg fun hc ↦ hs' hc.1
  rw [hf] at ha
  refine ⟨b', ?_⟩
  unfold runWith
  rw [bind_of_ok ha]
  rfl

/-- After a repair there is no third request. -/
theorem runWith_of_fails_again (h : Fails hs dep call shopId e) {more : List LLMMessage}
    {b₁ : Backend}
    (hagain : attempt hs.run dep shopId false (opening dep messageText prior) b =
      .ok (.inr more) b₁)
    (hg : b₁.env.generate b₁.tick (opening dep messageText prior ++ more) = .ok ⟨[call]⟩) :
    ∃ b', runWith hs.run dep messageText shopId prior b =
      .ok (outcomeOfFailure call (.ofExc e)) b' := by
  obtain ⟨b', ha, -⟩ := attempt_of_fails h hg true
  have hf : afterFailure dep true call (.ofExc e) = .inl (outcomeOfFailure call (.ofExc e)) :=
    if_neg fun hc ↦ by cases hc.2
  rw [hf] at ha
  refine ⟨b', ?_⟩
  unfold runWith
  rw [bind_of_ok hagain]
  dsimp only
  rw [bind_of_ok ha]
  rfl

/-- A model that proposes the call once, and then is not there. -/
def proposing (dep : Deployment) (messageText : String) (call : NormalizedToolCall) : Backend :=
  .connect { Env.calm with
    generate := fun _ messages ↦ if messages = opening dep messageText none then .ok ⟨[call]⟩
      else .error (.llmUnavailable "no provider") } .sample

theorem proposing_first (dep : Deployment) (messageText : String) (call : NormalizedToolCall) :
    (proposing dep messageText call).env.generate (proposing dep messageText call).tick
      (opening dep messageText none) = .ok ⟨[call]⟩ :=
  if_pos rfl

/-- A failure that is taken for one of the schema makes the run ask again. -/
theorem runWith_proposing (h : Fails hs dep call shopId e)
    (hs' : (ToolExecutionError.ofExc e).errorType = "SchemaValidationError") :
    ∃ b', runWith hs.run dep messageText shopId none (proposing dep messageText call) =
      .ok (.providerUnavailable "no provider") b' := by
  obtain ⟨b₁, ha, henv⟩ := attempt_of_fails h (proposing_first dep messageText call) false
  have hf : afterFailure dep false call (.ofExc e) =
      .inr (askForValidArguments dep call e.message) := if_pos ⟨hs', rfl⟩
  rw [hf] at ha
  have hgone (messages : List LLMMessage) (hne : messages ≠ opening dep messageText none) :
      ∃ b₂, attempt hs.run dep shopId true messages b₁ =
        .ok (.inl (.providerUnavailable "no provider")) b₂ := by
    have hgen : b₁.env.generate b₁.tick messages = .error (.llmUnavailable "no provider") := by
      rw [henv]
      exact if_neg hne
    refine ⟨Backend.noted { b₁ with tick := b₁.tick + 1 }
      (.generated messages (.error (.llmUnavailable "no provider"))), ?_⟩
    rw [← hgen]
    have hasked : generate messages b₁ = .ok (.error (.llmUnavailable "no provider"))
        (Backend.noted { b₁ with tick := b₁.tick + 1 }
          (.generated messages (b₁.env.generate b₁.tick messages))) := by
      rw [← hgen]
      rfl
    unfold attempt
    rw [bind_of_ok hasked]
    rfl
  obtain ⟨b₂, hb₂⟩ := hgone
    (opening dep messageText none ++ askForValidArguments dep call e.message)
    (by simp [askForValidArguments])
  refine ⟨b₂, ?_⟩
  unfold runWith
  rw [bind_of_ok ha]
  dsimp only
  rw [bind_of_ok hb₂]
  rfl

theorem errorType_eq_iff :
    (ToolExecutionError.ofExc e).errorType = "InfrastructureError" ↔ e.isOutage = true := by
  cases e with
  | infrastructureError className message => exact ⟨fun _ ↦ rfl, fun _ ↦ rfl⟩
  | _ => exact decide_eq_true_iff.symm

theorem outcomeOfFailure_of_outage (h : e.isOutage = true) :
    outcomeOfFailure call (.ofExc e) = .infrastructureFailure e.message := by
  unfold outcomeOfFailure
  rw [errorType_eq_iff.mpr h]
  rfl

theorem isOutage_of_outcome {message : String}
    (h : outcomeOfFailure call (.ofExc e) = .infrastructureFailure message) :
    e.isOutage = true := by
  unfold outcomeOfFailure at h
  split at h
  · cases h
  · split at h
    · cases h
    · split at h
      · exact errorType_eq_iff.mp ‹_›
      · cases h

/-- A technical failure of a tool is hidden from the merchant exactly when it
is an outage by its class or by the name of its class. -/
theorem hidden_iff (h : Fails hs dep call shopId e) :
    Hidden hs dep call shopId ↔ e.isOutage = true := by
  constructor
  · intro hh
    obtain ⟨message, b', hrun, -⟩ := hh "" none _ (.first (proposing_first dep "" call))
    by_cases hs' : (ToolExecutionError.ofExc e).errorType = "SchemaValidationError"
    · obtain ⟨b'', hrun'⟩ : ∃ b'', runWith hs.run dep "" shopId none (proposing dep "" call) =
        .ok (.providerUnavailable "no provider") b'' := runWith_proposing h hs'
      rw [hrun] at hrun'
      cases hrun'
    · obtain ⟨b'', hrun'⟩ := runWith_of_fails h hs' (proposing_first dep "" call)
      rw [hrun] at hrun'
      injection hrun' with ho
      exact isOutage_of_outcome ho.symm
  · intro houtage messageText prior b hproposed
    obtain ⟨b', hrun⟩ : ∃ b', runWith hs.run dep messageText shopId prior b =
        .ok (outcomeOfFailure call (.ofExc e)) b' := by
      cases hproposed with
      | first hg =>
          refine runWith_of_fails h ?_ hg
          rw [errorType_eq_iff.mpr houtage]
          decide
      | again hagain hg => exact runWith_of_fails_again h hagain hg
    rw [outcomeOfFailure_of_outage houtage] at hrun
    have hread : Readable (.ANALYTICS_INFRASTRUCTURE_ERROR, []) :=
      readable_of_renderable (by decide +kernel)
    exact ⟨e.message, b', hrun, fun locale ↦ ⟨rfl, hread locale⟩⟩

/-- Handlers that all raise the same exception. -/
def Handlers.raising (e : Exc) : Handlers where
  run _ _ := throw e
  reads _ _ := .throw e

theorem fails_raising (e : Exc) : Fails (.raising e) .sample ⟨"get_low_stock_items", []⟩ ⟨1⟩ e :=
  ⟨by decide, .getLowStockItems, rfl, fun b ↦ ⟨b, rfl⟩⟩

/-- Two outages the services could report, and one they do. -/
theorem hidden_iff_of_raising :
    (Hidden (.raising (.infrastructureError "InfrastructureError" "db-7")) .sample
        ⟨"get_low_stock_items", []⟩ ⟨1⟩ ∧
      Hidden (.raising (.infrastructureError "DbDown" "db-8")) .sample
        ⟨"get_low_stock_items", []⟩ ⟨1⟩) ∧
      ¬ Hidden (.raising (.other "OperationalError" "db-7")) .sample
        ⟨"get_low_stock_items", []⟩ ⟨1⟩ :=
  ⟨⟨(hidden_iff (fails_raising _)).mpr rfl, (hidden_iff (fails_raising _)).mpr rfl⟩,
    fun h ↦ absurd ((hidden_iff (fails_raising _)).mp h) (by decide)⟩

/-- A database that refuses every statement. -/
def refusing : Backend :=
  .connect { Env.calm with
    generate := fun _ _ ↦ .ok ⟨[⟨"get_low_stock_items", []⟩]⟩
    statementFault := fun _ ↦ some "connection to db-7 refused" } .sample

/-- With the handlers of the code the text of the driver reaches the merchant. -/
theorem driver_text_reaches_merchant :
    (Exc.other "OperationalError" "connection to db-7 refused").isDomain = false ∧
      ∃ outcome b', run .sample "low stock?" ⟨1⟩ none refusing = .ok outcome b' ∧
        replyText .sample outcome "en" = .ok "connection to db-7 refused" ∧
        replyText .sample outcome "en" ≠ temporaryFailure "en" := by
  refine ⟨rfl, ?_⟩
  obtain ⟨outcome, b', h⟩ := run_returns .sample "low stock?" ⟨1⟩ none refusing
  have hshown : (match run .sample "low stock?" ⟨1⟩ none refusing with
      | .ok outcome _ => decide (replyText .sample outcome "en" = .ok "connection to db-7 refused" ∧
          replyText .sample outcome "en" ≠ temporaryFailure "en")
      | .error _ _ => false) = true := by decide +kernel
  rw [h] at hshown
  exact ⟨outcome, b', h, of_decide_eq_true hshown⟩

end Analytics

end SokoFlow
