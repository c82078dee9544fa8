import SokoFlow.Analytics.Executor

/-!
# `orchestrator.py`

One question gets at most two requests to the language model, and at most one
tool call of the model runs.
-/

namespace SokoFlow.Analytics

open DbM Effect

structure ToolCall where
  name : String
  arguments : Json.Object

/-- `DEFAULT_ACTIVE_TOOLS` -/
def defaultActiveTools : List String :=
  ["get_sales_summary", "get_stock_level", "get_top_products", "get_low_stock_items",
    "get_sales_trend", "get_slow_moving_items", "get_product_price"]

/-- The tool of an answer with data of its type; a tool the code does not know
can have any data. -/
inductive Answer
  | of (data : ToolOutput)
  | other (tool : String) (unknown : tool ∉ defaultActiveTools)

/-- `AnalyticsOutcome`, one constructor for each way to build it. -/
inductive AnalyticsOutcome
  | answered (answer : Answer) (call : Option ToolCall)
  | answeredEmpty (answer : Answer) (call : Option ToolCall)
  | needsSelection (candidates : List ScoredProductMatch) (pendingCall : Option ToolCall)
      (tool : Option String)
  | noAnalyticsIntent
  | invalidProposal (reason : String) (tool : Option String)
  | argumentValidationFailed (tool message : String) (details : Option ErrorDetails)
  | domainFailure (tool errorType message : String) (details : Option ErrorDetails)
  | providerUnavailable (message : String)
  | malformedResponse (message : String)
  | infrastructureFailure (message : String)
  | guardrailRejected (reason : String)

/-- `llm_client.generate` -/
def generate (messages : List LLMMessage) : DbM (Except Exc LLMResponse) := do
  let response ← ask fun env n ↦ env.generate n messages
  note (.generated messages response)
  return response

def outcomeOfProviderError : Exc → AnalyticsOutcome
  | .llmResponseFormat m => .malformedResponse m
  | .llmTimeout m => .providerUnavailable m
  | .llmUnavailable m => .providerUnavailable m
  | .llmApi m => .providerUnavailable m
  | e => .infrastructureFailure e.message

/-- What a successful tool call is answered with; empty dumped arguments give
way to the ones the call was made with. -/
def answer (toolName : String) (data : ToolOutput) (validated rawArgs : Json.Object) :
    AnalyticsOutcome × ToolCall :=
  let call : ToolCall := ⟨toolName, if validated.isEmpty then rawArgs else validated⟩
  if isResultEmpty data then (.answeredEmpty (.of data) call, call)
  else (.answered (.of data) call, call)

/-- How the failure of a tool call ends the run, unless the model is asked again. -/
def outcomeOfFailure (call : NormalizedToolCall) (error : ToolExecutionError) :
    AnalyticsOutcome :=
  if error.errorType = "SchemaValidationError" then
    .argumentValidationFailed call.name error.message error.details
  else if error.errorType = "ProductAmbiguousError" then
    let candidates := match error.details with
      | some (.candidates shown) => shown
      | _ => []
    .needsSelection candidates (some ⟨call.name, call.arguments⟩) call.name
  else if error.errorType = "InfrastructureError" then .infrastructureFailure error.message
  else .domainFailure call.name error.errorType error.message error.details

def assistantSays (content : String) : LLMMessage := ⟨"assistant", content⟩

def userSays (content : String) : LLMMessage := ⟨"user", content⟩

/-- The messages that ask again after several tool calls. -/
def askForOneCall (calls : List NormalizedToolCall) : List LLMMessage :=
  [assistantSays ("Proposed multiple tool calls: " ++ Text.join ", " (calls.map (·.name))),
    userSays "Please propose only ONE analytics tool call for this question."]

def askForKnownTool (name : String) : List LLMMessage :=
  [assistantSays ("Proposed tool '" ++ name ++ "'."),
    userSays ("Tool '" ++ name ++ "' is not recognized. Please select from: " ++
      Text.join ", " defaultActiveTools ++ ".")]

def askForValidArguments (dep : Deployment) (call : NormalizedToolCall) (message : String) :
    List LLMMessage :=
  let arguments := if call.arguments.isEmpty then "{}" else dep.dumps (.obj call.arguments)
  [assistantSays ("Proposed " ++ call.name ++ " with arguments " ++ arguments),
    userSays ("Tool argument schema error: " ++ message ++
      ". Please adjust parameters according to the tool's JSON schema.")]

section Loop

variable (handle : UUID → ToolInput → DbM ToolOutput)

/-- What a response leads to: the outcome, or the messages to ask again with. -/
def respond (dep : Deployment) (shopId : UUID) (last : Bool) :
    List NormalizedToolCall → DbM (AnalyticsOutcome ⊕ List LLMMessage)
  | [] => return .inl .noAnalyticsIntent
  | [call] =>
      if call.name ∉ defaultActiveTools then
        if last then
          return .inl (.invalidProposal ("Unknown tool '" ++ call.name ++ "'.") call.name)
        else return .inr (askForKnownTool call.name)
      else do
        match ← executeWith handle dep call.name call.arguments shopId with
        | .success _ data validated =>
            return .inl (answer call.name data validated call.arguments).1
        | .failure _ error =>
            if error.errorType = "SchemaValidationError" ∧ last = false then
              return .inr (askForValidArguments dep call error.message)
            else return .inl (outcomeOfFailure call error)
  | first :: second :: others =>
      if last then return .inl (.invalidProposal "Multiple tool calls proposed." none)
      else return .inr (askForOneCall (first :: second :: others))

/-- One pass of the loop. -/
def attempt (dep : Deployment) (shopId : UUID) (last : Bool) (messages : List LLMMessage) :
    DbM (AnalyticsOutcome ⊕ List LLMMessage) := do
  match ← generate messages with
  | .error e => return .inl (outcomeOfProviderError e)
  | .ok response => respond handle dep shopId last response.toolCalls

end Loop

/-- The question, after the call that answered the previous one. -/
def opening (dep : Deployment) (messageText : String) (prior : Option ToolCall) :
    List LLMMessage :=
  match prior with
  | none => [userSays messageText]
  | some call =>
      [assistantSays ("Previous tool executed: " ++ call.name ++ " with arguments " ++
        dep.dumps (.obj call.arguments)), userSays messageText]

/-- `AnalyticsOrchestrator.run`, with the handlers of the registry as a parameter. -/
def runWith (handle : UUID → ToolInput → DbM ToolOutput) (dep : Deployment)
    (messageText : String) (shopId : UUID) (prior : Option ToolCall) : DbM AnalyticsOutcome := do
  let messages := opening dep messageText prior
  match ← attempt handle dep shopId false messages with
  | .inl outcome => return outcome
  | .inr more =>
      match ← attempt handle dep shopId true (messages ++ more) with
      | .inl outcome => return outcome
      | .inr _ => return .invalidProposal "Exhausted retry attempts." none

def run (dep : Deployment) (messageText : String) (shopId : UUID) (prior : Option ToolCall) :
    DbM AnalyticsOutcome :=
  runWith (handler dep) dep messageText shopId prior

/-! ## What a run does -/

theorem answer_call (toolName : String) (data : ToolOutput) (validated rawArgs : Json.Object) :
    (answer toolName data validated rawArgs).2 =
      ⟨toolName, if validated.isEmpty then rawArgs else validated⟩ := by
  unfold answer
  dsimp only
  split <;> rfl

theorem generate_within (messages : List LLMMessage) :
    Within Backend.Observed (generate messages) := by
  exact .bind ((ask_within _).mono fun _ _ ↦ .of_untouched) fun _ ↦
    .bind (note_within rfl) fun _ ↦ .pure _

theorem respond_within (dep : Deployment) (shopId : UUID) (last : Bool)
    (calls : List NormalizedToolCall) :
    Within Backend.Observed (respond (handler dep) dep shopId last calls) := by
  unfold respond
  split
  · exact .pure _
  · split
    · split <;> exact .pure _
    · refine .bind (execute_within dep _ _ shopId) fun result ↦ ?_
      cases result with
      | success tool data validated => exact .pure _
      | failure tool error =>
          dsimp only
          split <;> exact .pure _
  · split <;> exact .pure _

theorem attempt_within (dep : Deployment) (shopId : UUID) (last : Bool)
    (messages : List LLMMessage) :
    Within Backend.Observed (attempt (handler dep) dep shopId last messages) := by
  refine .bind (generate_within messages) fun response ↦ ?_
  cases response with
  | error e => exact .pure _
  | ok response => exact respond_within dep shopId last response.toolCalls

theorem run_within (dep : Deployment) (messageText : String) (shopId : UUID)
    (prior : Option ToolCall) : Within Backend.Observed (run dep messageText shopId prior) := by
  refine .bind (attempt_within dep shopId false _) fun first ↦ ?_
  cases first with
  | inl outcome => exact .pure _
  | inr more =>
      refine .bind (attempt_within dep shopId true _) fun second ↦ ?_
      cases second <;> exact .pure _

section Returns

variable (handle : UUID → ToolInput → DbM ToolOutput)

theorem respond_returns (dep : Deployment) (shopId : UUID) (last : Bool)
    (calls : List NormalizedToolCall) (b : Backend) :
    ∃ r b', respond handle dep shopId last calls b = .ok r b' := by
  unfold respond
  split
  · exact ⟨_, _, rfl⟩
  · rename_i call
    split
    · split <;> exact ⟨_, _, rfl⟩
    · obtain ⟨result, b₁, he⟩ := executeWith_returns handle dep call.name call.arguments shopId b
      rw [bind_of_ok he]
      cases result with
      | success tool data validated => exact ⟨_, _, rfl⟩
      | failure tool error =>
          dsimp only
          split <;> exact ⟨_, _, rfl⟩
  · split <;> exact ⟨_, _, rfl⟩

theorem attempt_returns (dep : Deployment) (shopId : UUID) (last : Bool)
    (messages : List LLMMessage) (b : Backend) :
    ∃ r b', attempt handle dep shopId last messages b = .ok r b' := by
  obtain ⟨response, b₁, hg⟩ : ∃ response b₁, generate messages b = .ok response b₁ := ⟨_, _, rfl⟩
  unfold attempt
  rw [bind_of_ok hg]
  cases response with
  | error e => exact ⟨_, _, rfl⟩
  | ok response => exact respond_returns handle dep shopId last response.toolCalls b₁

theorem runWith_returns (dep : Deployment) (messageText : String) (shopId : UUID)
    (prior : Option ToolCall) (b : Backend) :
    ∃ outcome b', runWith handle dep messageText shopId prior b = .ok outcome b' := by
  obtain ⟨first, b₁, h₁⟩ := attempt_returns handle dep shopId false (opening dep messageText prior) b
  unfold runWith
  rw [bind_of_ok h₁]
  cases first with
  | inl outcome => exact ⟨_, _, rfl⟩
  | inr more =>
      obtain ⟨second, b₂, h₂⟩ := attempt_returns handle dep shopId true
        (opening dep messageText prior ++ more) b₁
      dsimp only
      rw [bind_of_ok h₂]
      cases second <;> exact ⟨_, _, rfl⟩

end Returns

theorem run_returns (dep : Deployment) (messageText : String) (shopId : UUID)
    (prior : Option ToolCall) (b : Backend) :
    ∃ outcome b', run dep messageText shopId prior b = .ok outcome b' :=
  runWith_returns (handler dep) dep messageText shopId prior b

/-- A selection is asked for between candidates, for a tool that takes one product. -/
def SelectionOk : AnalyticsOutcome → Prop
  | .needsSelection candidates _ tool => candidates ≠ [] ∧
      (tool = some "get_stock_level" ∨ tool = some "get_product_price")
  | _ => True

theorem outcomeOfFailure_selectionOk {dep : Deployment} {call : NormalizedToolCall}
    {shopId : UUID} {tool : String} {error : ToolExecutionError} {b b' : Backend}
    (h : execute dep call.name call.arguments shopId b = .ok (.failure tool error) b') :
    SelectionOk (outcomeOfFailure call error) := by
  unfold outcomeOfFailure
  split
  · trivial
  · split
    · rename_i ha
      obtain ⟨ht, candidates, hd, hne⟩ := execute_ambiguous h ha
      rw [hd]
      exact ⟨hne, by simpa using ht⟩
    · split <;> trivial

theorem respond_selectionOk {dep : Deployment} {shopId : UUID} {last : Bool}
    {calls : List NormalizedToolCall} {outcome : AnalyticsOutcome} {b b' : Backend}
    (h : respond (handler dep) dep shopId last calls b = .ok (.inl outcome) b') : SelectionOk outcome := by
  unfold respond at h
  split at h
  · cases h
    trivial
  · split at h
    · split at h <;> cases h
      trivial
    · obtain ⟨result, b₁, he, h⟩ := bind_eq_ok.mp h
      cases result with
      | success tool data validated =>
          cases h
          unfold answer
          dsimp only
          split <;> trivial
      | failure tool error =>
          dsimp only at h
          split at h <;> cases h
          exact outcomeOfFailure_selectionOk he
  · split at h <;> cases h
    trivial

theorem attempt_selectionOk {dep : Deployment} {shopId : UUID} {last : Bool}
    {messages : List LLMMessage} {outcome : AnalyticsOutcome} {b b' : Backend}
    (h : attempt (handler dep) dep shopId last messages b = .ok (.inl outcome) b') : SelectionOk outcome := by
  obtain ⟨response, b₁, _, h⟩ := bind_eq_ok.mp h
  cases response with
  | error e =>
      cases h
      unfold outcomeOfProviderError
      split <;> trivial
  | ok response => exact respond_selectionOk h

theorem run_selectionOk {dep : Deployment} {messageText : String} {shopId : UUID}
    {prior : Option ToolCall} {outcome : AnalyticsOutcome} {b b' : Backend}
    (h : run dep messageText shopId prior b = .ok outcome b') : SelectionOk outcome := by
  obtain ⟨first, b₁, h₁, h⟩ := bind_eq_ok.mp h
  cases first with
  | inl first =>
      cases h
      exact attempt_selectionOk h₁
  | inr more =>
      obtain ⟨second, b₂, h₂, h⟩ := bind_eq_ok.mp h
      cases second <;> cases h
      · exact attempt_selectionOk h₂
      · trivial

end SokoFlow.Analytics
