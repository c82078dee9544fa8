import SokoFlow.Analytics.Orchestrator

/-!
# The provider boundary (`llm_client.py`, `contracts/llm.py`)

The body of an answer is an arbitrary JSON object.  What has the shape of a
tool call becomes one, and an argument text that is not the text of an object
is refused; a field of the wrong type is left to pydantic.
-/

namespace SokoFlow

namespace Json

/-- `fields.get(name)` -/
def Object.field (fields : Object) (name : String) : Json :=
  (Object.get? fields name).getD .null

end Json

namespace LLMClient

open Analytics Validated

/-- What `json.loads` raises: its own `JSONDecodeError`, or an exception of
the interpreter such as the one about integers with too many digits. -/
inductive LoadsError
  | decode (msg : String)
  | other (className text : String)

/-- What the client takes from Python. -/
structure Libraries where
  loads : String → Except LoadsError Json
  /-- `float(value)`; `none` is its `ValueError` or `TypeError` -/
  float : Json → Option String
  str : Json → String
  loads_blank : ∀ s, Text.strip s = "" → ∃ msg, loads s = .error (.decode msg)

/-- A parser that knows the two empty texts of JSON. -/
def Libraries.sample : Libraries where
  loads s := if s = "{}" then .ok (.obj []) else if s = "[]" then .ok (.arr [])
    else .error (.decode "Expecting value")
  float _ := none
  str _ := ""
  loads_blank s h := by
    have hne (t : String) (ht : Text.strip t ≠ "") : s ≠ t := by
      rintro rfl
      exact ht h
    rw [if_neg (hne "{}" (by decide)), if_neg (hne "[]" (by decide))]
    exact ⟨_, rfl⟩

/-- A `NormalizedToolCall` with the identifier of the provider. -/
structure Call extends NormalizedToolCall where
  id : Option String

/-- `LLMResponse` -/
structure Response where
  text : Option String
  toolCalls : List Call
  promptTokens : Option ℤ
  completionTokens : Option ℤ
  costUsd : Option String
  rawResponse : Json.Object

/-- What the orchestrator reads of a response. -/
def Response.normalized (r : Response) : LLMResponse := ⟨r.toolCalls.map (·.toNormalizedToolCall)⟩

/-! ## Tool calls -/

/-- A name that is a text and not empty. -/
def toolName (func : Json.Object) : Option String :=
  match Json.Object.get? func "name" with
  | some (.str name) => if name = "" then none else some name
  | _ => none

/-- `func.get("arguments", {})` -/
def rawArguments (func : Json.Object) : Json := (Json.Object.get? func "arguments").getD (.obj [])

def parseArguments (lib : Libraries) (name : String) : Json → Except Exc Json.Object
  | .str s =>
      if Text.strip s = "" then .ok []
      else match lib.loads s with
        | .ok (.obj arguments) => .ok arguments
        | .ok _ => .error (.llmResponseFormat
            ("Tool call arguments for '" ++ name ++ "' must be a JSON object."))
        | .error (.decode msg) => .error (.llmResponseFormat
            ("Malformed tool call arguments JSON for '" ++ name ++ "': " ++ msg))
        | .error (.other className text) => .error (.other className text)
  | .obj arguments => .ok arguments
  | _ => .ok []

/-- One pass of the loop over the tool calls; `none` is a `continue`. -/
def parseCall (lib : Libraries) : Json → Except Exc (Option Call)
  | .obj call =>
      match Json.Object.get? call "function" with
      | some (.obj func) =>
          match toolName func with
          | none => .ok none
          | some name => do
              let arguments ← parseArguments lib name (rawArguments func)
              let id := Json.Object.field call "id"
              return some { name, arguments, id := if id.truthy then some (lib.str id) else none }
      | _ => .ok none
  | _ => .ok none

def parseCalls (lib : Libraries) : List Json → Except Exc (List Call)
  | [] => .ok []
  | tc :: rest => do
      let call ← parseCall lib tc
      let calls ← parseCalls lib rest
      return call.toList ++ calls

/-- The message of the first choice. -/
def message (payload : Json.Object) : Option Json.Object :=
  match Json.Object.get? payload "choices" with
  | some (.arr (.obj choice :: _)) =>
      match Json.Object.get? choice "message" with
      | some (.obj message) => some message
      | _ => none
  | _ => none

/-- The entries of its list of tool calls. -/
def proposals (payload : Json.Object) : List Json :=
  match (message payload).bind fun m ↦ Json.Object.get? m "tool_calls" with
  | some (.arr calls) => calls
  | _ => []

/-! ## Rejected generations -/

def failedGeneration (payload : Json.Object) : Json :=
  match Json.Object.get? payload "error" with
  | some (.obj error) => Json.Object.field error "failed_generation"
  | _ => .null

/-- The function object of `failed_generation`. -/
def failedFunction (lib : Libraries) (payload : Json.Object) : Except Exc (Option Json.Object) :=
  let generation := failedGeneration payload
  if generation.truthy then
    match generation with
    | .str s =>
        match lib.loads s with
        | .ok (.obj func) => .ok (some func)
        | .ok _ => .ok none
        | .error (.decode _) => .ok none
        | .error (.other className text) => .error (.other className text)
    | .obj func => .ok (some func)
    | _ => .ok none
  else .ok none

def failedArguments (lib : Libraries) : Json → Except Exc (Option Json.Object)
  | .str s =>
      match lib.loads s with
      | .ok (.obj arguments) => .ok (some arguments)
      | .ok _ => .ok none
      | .error (.decode _) => .ok (some [])
      | .error (.other className text) => .error (.other className text)
  | .obj arguments => .ok (some arguments)
  | _ => .ok (some [])

def failedCall (lib : Libraries) (payload : Json.Object) : Except Exc (Option Call) := do
  match ← failedFunction lib payload with
  | none => return none
  | some func =>
      match toolName func with
      | none => return none
      | some name => do
          let arguments ← failedArguments lib (rawArguments func)
          return arguments.map fun arguments ↦ { name, arguments, id := none }

def toolCalls (lib : Libraries) (payload : Json.Object) : Except Exc (List Call) := do
  let calls ← parseCalls lib (proposals payload)
  if calls.isEmpty then return (← failedCall lib payload).toList else return calls

/-! ## The response -/

def content (payload : Json.Object) : Json :=
  (message payload).elim .null fun m ↦ Json.Object.field m "content"

/-- A field of `usage`. -/
def usage (payload : Json.Object) (name : String) : Json :=
  match Json.Object.get? payload "usage" with
  | some (.obj fields) => Json.Object.field fields name
  | _ => .null

/-- The smallest integer that `float` rounds to a power too large for it. -/
def floatOverflow : ℕ := 2 ^ 1024 - 2 ^ 970

def costUsd (lib : Libraries) (payload : Json.Object) : Except Exc (Option String) :=
  match usage payload "cost" with
  | .null => .ok none
  | .int n =>
      if floatOverflow ≤ n.natAbs then
        .error (.other "OverflowError" "int too large to convert to float")
      else .ok (lib.float (.int n))
  | value => .ok (lib.float value)

/-- A field of type `T | None`. -/
def nullable {α : Type} (parse : Json → Validated α) : Json → Validated (Option α)
  | .null => ok none
  | value => (parse value).map some

def validateResponse (dep : Deployment) (payload : Json.Object) :
    Validated ((Option String × Option ℤ) × Option ℤ) :=
  let tokens name := under name (nullable (fun v ↦ ofExcept (dep.validators.int v))
    (usage payload name))
  both (both (under "text" (nullable parseStr (content payload))) (tokens "prompt_tokens"))
    (tokens "completion_tokens")

/-- `LLMClient._normalize_response` -/
def normalizeResponse (dep : Deployment) (lib : Libraries) (payload : Json.Object) :
    Except Exc Response := do
  let calls ← toolCalls lib payload
  let cost ← costUsd lib payload
  match validateResponse dep payload with
  | .ok ((text, promptTokens), completionTokens) =>
      return ⟨text, calls, promptTokens, completionTokens, cost, payload⟩
  | .issues list => throw (.other "ValidationError"
      (dep.validators.render "LLMResponse" (.obj [("text", content payload),
        ("prompt_tokens", usage payload "prompt_tokens"),
        ("completion_tokens", usage payload "completion_tokens")]) list))
  | .invalidDateRange text => throw (.invalidDateRange text)

end LLMClient

end SokoFlow
