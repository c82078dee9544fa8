import SokoFlow.Analytics.Orchestrator

/-!
# Bounded orchestration

One pass of the loop is an exchange with the language model: a request, and at
most one tool handler started on its answer.  A run is one exchange, or two
when the first answer can be repaired.  The handlers are arbitrary here; they
read the rows and may raise anything.
-/

namespace SokoFlow.Analytics

open DbM Effect

/-- What the registry binds to the tools. -/
structure Handlers where
  run : UUID → ToolInput → DbM ToolOutput
  reads : ∀ shopId input, Within Backend.Untouched (run shopId input)

/-- The handlers of the default registry. -/
def Handlers.default (dep : Deployment) : Handlers where
  run := handler dep
  reads shopId input := (handler_queries dep shopId input).within

def AnalyticsOutcome.isAnswered : AnalyticsOutcome → Bool
  | answered .. | answeredEmpty .. => true
  | _ => false

/-! ## One exchange -/

/-- Ask again, unless this was the last time. -/
def again (last : Bool) (outcome : AnalyticsOutcome) (more : List LLMMessage) :
    AnalyticsOutcome ⊕ List LLMMessage :=
  if last then .inl outcome else .inr more

/-- What the failure of a tool call leads to. -/
def afterFailure (dep : Deployment) (last : Bool) (call : NormalizedToolCall)
    (error : ToolExecutionError) : AnalyticsOutcome ⊕ List LLMMessage :=
  if error.errorType = "SchemaValidationError" ∧ last = false then
    .inr (askForValidArguments dep call error.message)
  else .inl (outcomeOfFailure call error)

/-- The only tool call of a response, if it is one of an active tool. -/
structure Proposes (response : LLMResponse) (call : NormalizedToolCall) : Prop where
  single : response.toolCalls = [call]
  active : call.name ∈ defaultActiveTools

/-- An answer of the model, what happens on it, and what it leads to. -/
inductive Exchange (handle : UUID → ToolInput → DbM ToolOutput) (dep : Deployment)
    (shopId : UUID) (last : Bool) :
    Except Exc LLMResponse → List Event → AnalyticsOutcome ⊕ List LLMMessage → Prop
  | unanswered (e : Exc) :
      Exchange handle dep shopId last (.error e) [] (.inl (outcomeOfProviderError e))
  | silent {response : LLMResponse} (h : response.toolCalls = []) :
      Exchange handle dep shopId last (.ok response) [] (.inl .noAnalyticsIntent)
  | several {response : LLMResponse} (h : 1 < response.toolCalls.length) :
      Exchange handle dep shopId last (.ok response) []
        (again last (.invalidProposal "Multiple tool calls proposed." none)
          (askForOneCall response.toolCalls))
  | unknown {response : LLMResponse} {call : NormalizedToolCall}
      (h : response.toolCalls = [call]) (hn : call.name ∉ defaultActiveTools) :
      Exchange handle dep shopId last (.ok response) []
        (again last (.invalidProposal ("Unknown tool '" ++ call.name ++ "'.") call.name)
          (askForKnownTool call.name))
  | rejected {response : LLMResponse} {call : NormalizedToolCall} {error : ToolExecutionError}
      (h : Proposes response call) (hv : validateCall dep call.name call.arguments = .error error) :
      Exchange handle dep shopId last (.ok response) [] (afterFailure dep last call error)
  | returned {response : LLMResponse} {call : NormalizedToolCall} {input : ToolInput}
      (data : ToolOutput) (h : Proposes response call)
      (hv : validateCall dep call.name call.arguments = .ok input) :
      Exchange handle dep shopId last (.ok response)
        [.handled call.name shopId input.dump, .completed call.name input.dump]
        (.inl (answer call.name data input.dump call.arguments).1)
  | raised {response : LLMResponse} {call : NormalizedToolCall} {input : ToolInput} {e : Exc}
      (h : Proposes response call) (hv : validateCall dep call.name call.arguments = .ok input)
      (he : ∃ b b', handle shopId input b = .error e b') :
      Exchange handle dep shopId last (.ok response) [.handled call.name shopId input.dump]
        (afterFailure dep last call (.ofExc e))

section Exchange

variable {handle : UUID → ToolInput → DbM ToolOutput} {hs : Handlers} {dep : Deployment}
  {shopId : UUID} {last : Bool} {call : NormalizedToolCall} {b b' : Backend}

theorem respond_several {calls : List NormalizedToolCall} (h : 1 < calls.length) :
    respond handle dep shopId last calls b =
      .ok (again last (.invalidProposal "Multiple tool calls proposed." none)
        (askForOneCall calls)) b := by
  match calls with
  | [] => simp at h
  | [_] => simp at h
  | _ :: _ :: _ => cases last <;> rfl

theorem respond_unknown (h : call.name ∉ defaultActiveTools) :
    respond handle dep shopId last [call] b =
      .ok (again last (.invalidProposal ("Unknown tool '" ++ call.name ++ "'.") call.name)
        (askForKnownTool call.name)) b := by
  unfold respond
  dsimp only
  rw [if_pos h]
  cases last <;> rfl

theorem respond_failed {tool : String} {error : ToolExecutionError}
    (h : call.name ∈ defaultActiveTools)
    (he : executeWith handle dep call.name call.arguments shopId b = .ok (.failure tool error) b') :
    respond handle dep shopId last [call] b = .ok (afterFailure dep last call error) b' := by
  unfold respond afterFailure
  dsimp only
  rw [if_neg (not_not.mpr h), bind_of_ok he]
  dsimp only
  split <;> rfl

theorem respond_answered {tool : String} {data : ToolOutput} {validated : Json.Object}
    (h : call.name ∈ defaultActiveTools)
    (he : executeWith handle dep call.name call.arguments shopId b =
      .ok (.success tool data validated) b') :
    respond handle dep shopId last [call] b =
      .ok (.inl (answer call.name data validated call.arguments).1) b' := by
  unfold respond
  dsimp only
  rw [if_neg (not_not.mpr h), bind_of_ok he]
  rfl

/-- What the code does on an answer of the model is an exchange. -/
theorem respond_exchange {response : LLMResponse} {r : AnalyticsOutcome ⊕ List LLMMessage}
    (h : respond hs.run dep shopId last response.toolCalls b = .ok r b') :
    ∃ events, b'.journal = b.journal ++ events ∧
      Exchange hs.run dep shopId last (.ok response) events r := by
  match hc : response.toolCalls with
  | [] =>
      rw [hc] at h
      cases h
      exact ⟨[], (List.append_nil _).symm, .silent hc⟩
  | first :: second :: others =>
      have hlen : 1 < response.toolCalls.length := by simp [hc]
      rw [respond_several hlen] at h
      cases h
      exact ⟨[], (List.append_nil _).symm, .several hlen⟩
  | [call] =>
      rw [hc] at h
      by_cases ha : call.name ∈ defaultActiveTools
      · have hp : Proposes response call := ⟨hc, ha⟩
        cases hv : validateCall dep call.name call.arguments with
        | error error =>
            rw [respond_failed ha (executeWith_of_invalid hv)] at h
            cases h
            exact ⟨[], (List.append_nil _).symm, .rejected hp hv⟩
        | ok input =>
            rcases executeWith_handles (b := b) hv (hs.reads shopId input) with
              ⟨data, b₁, b₂, -, hx, hj⟩ | ⟨e, b₁, hd, hx, hj⟩
            · rw [respond_answered ha hx] at h
              cases h
              exact ⟨_, hj, .returned data hp hv⟩
            · rw [respond_failed ha hx] at h
              cases h
              exact ⟨_, hj, .raised hp hv ⟨_, _, hd⟩⟩
      · rw [respond_unknown ha] at h
        cases h
        exact ⟨[], (List.append_nil _).symm, .unknown hc ha⟩

theorem attempt_exchange {messages : List LLMMessage} {r : AnalyticsOutcome ⊕ List LLMMessage}
    (h : attempt hs.run dep shopId last messages b = .ok r b') :
    ∃ response events, b'.journal = b.journal ++ .generated messages response :: events ∧
      Exchange hs.run dep shopId last response events r := by
  obtain ⟨response, b₁, hg, h⟩ := bind_eq_ok.mp h
  have hj : b₁.journal = b.journal ++ [.generated messages response] := by
    cases hg
    rfl
  cases response with
  | error e =>
      cases h
      exact ⟨.error e, [], hj, .unanswered e⟩
  | ok response =>
      obtain ⟨events, hev, hx⟩ := respond_exchange h
      exact ⟨.ok response, events, by rw [hev, hj, List.append_assoc]; rfl, hx⟩

end Exchange

/-! ## What an exchange can do -/

/-- A first answer that may be repaired: several calls, an unknown tool, or
arguments that do not fit the tool's schema. -/
def Repairable (dep : Deployment) : Except Exc LLMResponse → Prop
  | .ok response => 1 < response.toolCalls.length ∨ ∃ call, response.toolCalls = [call] ∧
      (call.name ∉ defaultActiveTools ∨ ∃ error,
        validateCall dep call.name call.arguments = .error error ∧
          error.errorType = "SchemaValidationError")
  | .error _ => False

namespace Exchange

variable {handle : UUID → ToolInput → DbM ToolOutput} {dep : Deployment} {shopId : UUID}
  {last : Bool} {response : Except Exc LLMResponse} {events : List Event}
  {r : AnalyticsOutcome ⊕ List LLMMessage}

/-- No handler raises an error of the schema. -/
abbrev Lawful (handle : UUID → ToolInput → DbM ToolOutput) : Prop :=
  ∀ shopId input, Raises (fun e ↦ e.className ≠ "SchemaValidationError") (handle shopId input)

theorem isAnswered_outcomeOfFailure (call : NormalizedToolCall) (error : ToolExecutionError) :
    (outcomeOfFailure call error).isAnswered = false := by
  unfold outcomeOfFailure
  split
  · rfl
  · split
    · rfl
    · split <;> rfl

theorem isAnswered_outcomeOfProviderError (e : Exc) :
    (outcomeOfProviderError e).isAnswered = false := by
  unfold outcomeOfProviderError
  split <;> rfl

theorem isAnswered_answer (tool : String) (data : ToolOutput) (validated rawArgs : Json.Object) :
    (answer tool data validated rawArgs).1.isAnswered = true := by
  unfold answer
  dsimp only
  split <;> rfl

theorem afterFailure_inl {call : NormalizedToolCall} {error : ToolExecutionError}
    {outcome : AnalyticsOutcome} (h : afterFailure dep last call error = .inl outcome) :
    outcome = outcomeOfFailure call error := by
  unfold afterFailure at h
  split at h <;> cases h
  rfl

/-- The question is answered when a handler has returned, and only then. -/
theorem answered_iff {outcome : AnalyticsOutcome}
    (h : Exchange handle dep shopId last response events (.inl outcome)) :
    outcome.isAnswered = true ↔ ∃ e ∈ events, Event.isCompleted e = true := by
  generalize hr : (Sum.inl outcome : AnalyticsOutcome ⊕ List LLMMessage) = r at h
  cases h with
  | unanswered e =>
      cases hr
      simp [isAnswered_outcomeOfProviderError]
  | silent _ =>
      cases hr
      simp [AnalyticsOutcome.isAnswered]
  | several _ =>
      cases last <;> cases hr
      simp [AnalyticsOutcome.isAnswered]
  | unknown _ _ =>
      cases last <;> cases hr
      simp [AnalyticsOutcome.isAnswered]
  | rejected _ _ =>
      rw [afterFailure_inl hr.symm]
      simp [isAnswered_outcomeOfFailure]
  | returned data _ _ =>
      cases hr
      simp [isAnswered_answer, Event.isCompleted]
  | raised _ _ _ =>
      rw [afterFailure_inl hr.symm]
      simp [isAnswered_outcomeOfFailure, Event.isCompleted]

/-- The model is asked again only for a repairable answer, on which nothing was run. -/
theorem again_of_inr (hl : Lawful handle) {more : List LLMMessage}
    (h : Exchange handle dep shopId last response events (.inr more)) :
    last = false ∧ events = [] ∧ Repairable dep response := by
  generalize hr : (Sum.inr more : AnalyticsOutcome ⊕ List LLMMessage) = r at h
  have hagain {outcome : AnalyticsOutcome} {more' : List LLMMessage}
      (h : .inr more = again last outcome more') : last = false := by
    cases last
    · rfl
    · cases h
  have hfail {call : NormalizedToolCall} {error : ToolExecutionError}
      (h : .inr more = afterFailure dep last call error) :
      error.errorType = "SchemaValidationError" ∧ last = false := by
    unfold afterFailure at h
    split at h
    · assumption
    · cases h
  cases h with
  | unanswered e => cases hr
  | silent _ => cases hr
  | several hn => exact ⟨hagain hr, rfl, .inl hn⟩
  | unknown hc hn => exact ⟨hagain hr, rfl, .inr ⟨_, hc, .inl hn⟩⟩
  | rejected hp hv =>
      obtain ⟨he, hlast⟩ := hfail hr
      exact ⟨hlast, rfl, .inr ⟨_, hp.single, .inr ⟨_, hv, he⟩⟩⟩
  | returned data _ _ => cases hr
  | raised hp hv hraise =>
      obtain ⟨b, b', hraise⟩ := hraise
      exact absurd (className_of_errorType (by decide) (hfail hr).1) (hl _ _ _ _ _ hraise)

/-- At most one handler is started, with the arguments of the only call. -/
theorem handled (h : Exchange handle dep shopId last response events r) :
    events.countP Event.isHandled ≤ 1 ∧ (∀ e ∈ events, Event.isGenerated e = false) ∧
      ∀ tool shop arguments, .handled tool shop arguments ∈ events →
        shop = shopId ∧ ∃ proposal call input, response = .ok proposal ∧
          proposal.toolCalls = [call] ∧ call.name = tool ∧
          validateCall dep tool call.arguments = .ok input ∧ arguments = input.dump := by
  cases h with
  | returned data hp hv =>
      refine ⟨by simp [List.countP_cons, Event.isHandled], by simp [Event.isGenerated], fun tool shop arguments h ↦ ?_⟩
      simp only [List.mem_cons, Event.handled.injEq, reduceCtorEq, List.not_mem_nil, or_false] at h
      obtain ⟨rfl, rfl, rfl⟩ := h
      exact ⟨rfl, _, _, _, rfl, hp.single, rfl, hv, rfl⟩
  | raised hp hv _ =>
      refine ⟨List.countP_le_length, by simp [Event.isGenerated], fun tool shop arguments h ↦ ?_⟩
      simp only [List.mem_cons, Event.handled.injEq, List.not_mem_nil, or_false] at h
      obtain ⟨rfl, rfl, rfl⟩ := h
      exact ⟨rfl, _, _, _, rfl, hp.single, rfl, hv, rfl⟩
  | _ => exact ⟨Nat.zero_le 1, by simp, by simp⟩

end Exchange

/-! ## A run -/

variable {hs : Handlers} {dep : Deployment} {messageText : String} {shopId : UUID}
  {prior : Option ToolCall} {outcome : AnalyticsOutcome} {b b' : Backend}

/-- The exchanges of a run: one, or two when the first one asked again. -/
inductive Course (hs : Handlers) (dep : Deployment) (shopId : UUID) :
    List Event → AnalyticsOutcome → Prop
  | once {messages : List LLMMessage} {response : Except Exc LLMResponse} {events : List Event}
      {outcome : AnalyticsOutcome}
      (h : Exchange hs.run dep shopId false response events (.inl outcome)) :
      Course hs dep shopId (.generated messages response :: events) outcome
  | twice {messages messages' : List LLMMessage} {response response' : Except Exc LLMResponse}
      {events : List Event} {outcome : AnalyticsOutcome} (hr : Repairable dep response)
      (h : Exchange hs.run dep shopId true response' events (.inl outcome)) :
      Course hs dep shopId
        (.generated messages response :: .generated messages' response' :: events) outcome

theorem runWith_course (hl : Exchange.Lawful hs.run)
    (h : runWith hs.run dep messageText shopId prior b = .ok outcome b') :
    ∃ events, b'.journal = b.journal ++ events ∧ Course hs dep shopId events outcome := by
  obtain ⟨first, b₁, h₁, h⟩ := bind_eq_ok.mp h
  obtain ⟨response, events, hj, hx⟩ := attempt_exchange h₁
  cases first with
  | inl outcome₁ =>
      cases h
      exact ⟨_, hj, .once hx⟩
  | inr more =>
      obtain ⟨-, rfl, hr⟩ := hx.again_of_inr hl
      obtain ⟨second, b₂, h₂, h⟩ := bind_eq_ok.mp h
      obtain ⟨response', events', hj', hx'⟩ := attempt_exchange h₂
      cases second with
      | inl outcome₂ =>
          cases h
          exact ⟨_, by rw [hj', hj, List.append_assoc]; rfl, .twice hr hx'⟩
      | inr more' => exact absurd (hx'.again_of_inr hl).1 (by simp)

/-- The bounds on a run, read off its events. -/
structure WithinBounds (dep : Deployment) (shopId : UUID) (events : List Event)
    (outcome : AnalyticsOutcome) : Prop where
  asked : events.countP Event.isGenerated ≤ 2
  /-- the model is asked again only for a repairable first answer -/
  askedAgain : events.countP Event.isGenerated = 2 →
    ∃ messages response rest, events = .generated messages response :: rest ∧
      Repairable dep response
  handled : events.countP Event.isHandled ≤ 1
  /-- a handler gets the arguments of an answer with exactly one call -/
  arguments : ∀ tool shop arguments, .handled tool shop arguments ∈ events →
    shop = shopId ∧ ∃ messages response call input,
      .generated messages (.ok response) ∈ events ∧ response.toolCalls = [call] ∧
        call.name = tool ∧ validateCall dep tool call.arguments = .ok input ∧
        arguments = input.dump
  answered : outcome.isAnswered = true ↔ ∃ e ∈ events, Event.isCompleted e = true

theorem Course.withinBounds {events : List Event} (h : Course hs dep shopId events outcome) :
    WithinBounds dep shopId events outcome := by
  cases h with
  | @once messages response events outcome hx =>
      obtain ⟨hc, hg, ha⟩ := hx.handled
      have hcount : events.countP Event.isGenerated = 0 := by
        rw [List.countP_eq_zero]
        simpa using hg
      refine ⟨?_, ?_, ?_, fun tool shop arguments h ↦ ?_, ?_⟩
      · simp [List.countP_cons, hcount, Event.isGenerated]
      · simp [List.countP_cons, hcount, Event.isGenerated]
      · simpa [List.countP_cons, Event.isHandled] using hc
      · obtain ⟨hs, proposal, call, input, rfl, hsingle, hname, hv, harg⟩ := ha tool shop arguments
          (by simpa using h)
        exact ⟨hs, messages, proposal, call, input, by simp, hsingle, hname, hv, harg⟩
      · simpa [Event.isCompleted] using hx.answered_iff
  | @twice messages messages' response response' events outcome hr hx =>
      obtain ⟨hc, hg, ha⟩ := hx.handled
      have hcount : events.countP Event.isGenerated = 0 := by
        rw [List.countP_eq_zero]
        simpa using hg
      refine ⟨?_, fun _ ↦ ⟨_, _, _, rfl, hr⟩, ?_, fun tool shop arguments h ↦ ?_, ?_⟩
      · simp [List.countP_cons, hcount, Event.isGenerated]
      · simpa [List.countP_cons, Event.isHandled] using hc
      · obtain ⟨hs, proposal, call, input, rfl, hsingle, hname, hv, harg⟩ := ha tool shop arguments
          (by simpa using h)
        exact ⟨hs, messages', proposal, call, input, by simp, hsingle, hname, hv, harg⟩
      · simpa [Event.isCompleted] using hx.answered_iff

/-- The handlers of the default registry never blame the schema. -/
theorem lawful_default (dep : Deployment) : Exchange.Lawful (Handlers.default dep).run :=
  fun shopId input ↦ (handler_queries dep shopId input).raises.mono fun _ h ↦ h.1

/-- Whatever the model answers and the handlers do, a question has one outcome
and stays within the bounds. -/
theorem run_withinBounds (hs : Handlers) (hl : Exchange.Lawful hs.run) (dep : Deployment)
    (messageText : String) (shopId : UUID) (prior : Option ToolCall) (b : Backend) :
    ∃ outcome b' events, runWith hs.run dep messageText shopId prior b = .ok outcome b' ∧
      b'.journal = b.journal ++ events ∧ WithinBounds dep shopId events outcome := by
  obtain ⟨outcome, b', h⟩ := runWith_returns hs.run dep messageText shopId prior b
  obtain ⟨events, hj, hc⟩ := runWith_course hl h
  exact ⟨outcome, b', events, h, hj, hc.withinBounds⟩

/-- The handlers of the default registry are such handlers. -/
theorem run_withinBounds_of_default :
    ∃ outcome b' events, run .sample "sales today?" ⟨1⟩ none (Backend.connect .calm .sample) =
        .ok outcome b' ∧
      b'.journal = events ∧ WithinBounds .sample ⟨1⟩ events outcome :=
  run_withinBounds (Handlers.default .sample) (lawful_default .sample) .sample "sales today?" ⟨1⟩
    none (Backend.connect .calm .sample)

end SokoFlow.Analytics
