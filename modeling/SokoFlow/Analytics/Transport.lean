import SokoFlow.Analytics.Bounded
import SokoFlow.Analytics.Provider

/-!
# Requests to the provider (`llm_client.py`)

A conversation that is not too long is posted to the provider, whose answer may
not come, be a refusal or not be an object.  A question posts two requests at
most, each within the limit, and a request that fails ends it.
-/

namespace SokoFlow.LLMClient

open Analytics DbM Effect

def defaultSystemPrompt : String :=
  "You select exactly one SokoFlow analytics function for each\n" ++
  "merchant question.\n" ++
  "Use only the supplied tools. Never provide shop_id; shop scope is controlled by the\n" ++
  "application.\n" ++
  "Return a function call when the request can be represented by a tool; " ++
  "otherwise reply briefly\n" ++
  "that clarification is needed.\n\n" ++
  "CRITICAL PARAMETER RULES:\n" ++
  "1. For tools requiring a 'period' parameter (get_sales_summary, get_top_products,\n" ++
  "   get_sales_trend, get_slow_moving_items):\n" ++
  "   'period' MUST be a JSON object with 'period_type' ('relative' or 'date_range') and\n" ++
  "   'relative_period' ('day', 'week', 'month', 'year').\n" ++
  "   Examples:\n" ++
  "   - 'today': \x7b\"period_type\": \"relative\", \"relative_period\": \"day\"\x7d\n" ++
  "   - 'this week': \x7b\"period_type\": \"relative\", \"relative_period\": \"week\"\x7d\n" ++
  "   - 'this month': \x7b\"period_type\": \"relative\", \"relative_period\": \"month\"\x7d\n" ++
  "   - 'last year' / 'this year': \x7b\"period_type\": \"relative\", " ++
  "\"relative_period\": \"year\"\x7d\n\n" ++
  "2. For get_stock_level (used for stock level or product price queries for a specific\n" ++
  "   product):\n" ++
  "   If a product UUID is not explicitly provided in user text, pass placeholder UUID\n" ++
  "   '00000000-0000-0000-0000-000000000000' for product_id.\n"

/-- A client and the tools it is given, with the settings it reads. -/
structure Connection where
  endpoint : String
  apiKey : String
  model : String
  /-- the timeout as `str` shows it -/
  timeout : String
  tools : List Json
  /-- `json.dumps(tools, default=str)` -/
  dumps : List Json → String
  maxInputChars : ℤ := 12000
  maxOutputTokens : ℤ := 256

/-- What is posted; without tools there is no `tool_choice` either. -/
structure Post where
  url : String
  authorization : String
  model : String
  messages : List LLMMessage
  temperature : ℚ
  maxTokens : ℤ
  stream : Bool
  tools : Option (List Json × String)

/-- The characters of the messages and of the tools. -/
def Post.chars (dumps : List Json → String) (post : Post) : ℤ :=
  (post.messages.map fun m ↦ (Text.len m.content : ℤ)).sum +
    post.tools.elim 0 fun tools ↦ (Text.len (dumps tools.1) : ℤ)

/-- What the HTTP library makes of a request: an answer has a status, a text
and a body that is JSON or cannot be read. -/
inductive Transport
  | timedOut
  | unreachable (text : String)
  | raised (className text : String)
  | answered (status : ℕ) (text : String) (body : Except String Json)

/-- The client at work, with the requests that are out. -/
abbrev WireM := EStateM Exc (List Post)

namespace Connection

variable (c : Connection)

def payloadMessages (messages : List LLMMessage) : List LLMMessage :=
  ⟨"system", defaultSystemPrompt⟩ :: messages

def inputChars (messages : List LLMMessage) : ℤ :=
  ((payloadMessages messages).map fun m ↦ (Text.len m.content : ℤ)).sum +
    if c.tools.isEmpty then 0 else Text.len (c.dumps c.tools)

def posting (messages : List LLMMessage) : Post where
  url := c.endpoint
  authorization := "Bearer " ++ c.apiKey
  model := c.model
  messages := payloadMessages messages
  temperature := 0
  maxTokens := c.maxOutputTokens
  stream := false
  tools := if c.tools.isEmpty then none else some (c.tools, "auto")

def tooLong : Exc :=
  .llmResponseFormat "Analytics provider input exceeds the configured size limit."

/-- What `_post_payload` makes of what came back. -/
def received : Transport → Except Exc Json.Object
  | .timedOut => .error (.llmTimeout ("LLM provider request timed out after " ++ c.timeout ++ "s."))
  | .unreachable text => .error (.llmUnavailable ("LLM provider is unreachable: " ++ text))
  | .raised className text => .error (.other className text)
  | .answered status text body =>
      if 500 ≤ status then
        .error (.llmUnavailable ("LLM provider service error: HTTP " ++ Text.ofInt status))
      else if 400 ≤ status then
        .error (.llmApi ("LLM provider API error: HTTP " ++ Text.ofInt status ++ " - " ++
          String.ofList (text.toList.take 200)))
      else match body with
        | .ok (.obj data) => .ok data
        | .ok _ => .error (.llmResponseFormat
            "Failed to parse LLM provider JSON response: Response body is not a JSON object")
        | .error e => .error (.llmResponseFormat
            ("Failed to parse LLM provider JSON response: " ++ e))

/-- `client.post`: the request is out, whatever becomes of it. -/
def post (answer : Post → Transport) (payload : Post) : WireM Transport := do
  modify fun sent ↦ sent ++ [payload]
  return answer payload

/-- `_post_payload` -/
def postPayload (answer : Post → Transport) (payload : Post) : WireM Json.Object := do
  let response ← post answer payload
  MonadExcept.ofExcept (c.received response)

/-- `LLMClient.generate`, on a network that answers a request with `answer`. -/
def generate (dep : Deployment) (lib : Libraries) (answer : Post → Transport)
    (messages : List LLMMessage) : WireM Response := do
  if c.maxInputChars < c.inputChars messages then throw tooLong
  let rawPayload ← c.postPayload answer (c.posting messages)
  MonadExcept.ofExcept (normalizeResponse dep lib rawPayload)

/-- One call of the client: what it posts, and what comes of it. -/
def call (dep : Deployment) (lib : Libraries) (answer : Post → Transport)
    (messages : List LLMMessage) : List Post × Except Exc LLMResponse :=
  match c.generate dep lib answer messages [] with
  | .ok response sent => (sent, .ok response.normalized)
  | .error e sent => (sent, .error e)

/-- What the orchestrator hears, when the network is at its `n`-th state. -/
def heard (dep : Deployment) (lib : Libraries) (wire : ℕ → Post → Transport) (n : ℕ)
    (messages : List LLMMessage) : Except Exc LLMResponse :=
  (c.call dep lib (wire n) messages).2

/-- The language model of the environment is reached through this client. -/
def Wires (dep : Deployment) (lib : Libraries) (wire : ℕ → Post → Transport) (env : Env) : Prop :=
  ∀ n messages, env.generate n messages = c.heard dep lib wire n messages

/-- What the calls of the model among the events post, one after the other. -/
inductive Sent (dep : Deployment) (lib : Libraries) (wire : ℕ → Post → Transport) :
    List Event → List Post → Prop
  | nil : Sent dep lib wire [] []
  | generated {said : List LLMMessage} {response : Except Exc LLMResponse} {sent posts : List Post}
      {events : List Event} (n : ℕ) (h : c.call dep lib (wire n) said = (sent, response))
      (rest : Sent dep lib wire events posts) :
      Sent dep lib wire (.generated said response :: events) (sent ++ posts)
  | other {event : Event} {posts : List Post} {events : List Event}
      (h : event.isGenerated = false) (rest : Sent dep lib wire events posts) :
      Sent dep lib wire (event :: events) posts

/-! ## One request -/

variable {c} {dep : Deployment} {lib : Libraries} {wire : ℕ → Post → Transport} {n : ℕ}
  {messages : List LLMMessage}

/-- A conversation that is too long is not posted, any other one is posted once. -/
theorem call_eq {answer : Post → Transport} : c.call dep lib answer messages =
    if c.maxInputChars < c.inputChars messages then ([], .error tooLong)
    else ([c.posting messages], (do
      let rawPayload ← c.received (answer (c.posting messages))
      normalizeResponse dep lib rawPayload).map Response.normalized) := by
  unfold call generate
  by_cases hlong : c.maxInputChars < c.inputChars messages
  · rw [if_pos hlong, if_pos hlong]
    rfl
  · rw [if_neg hlong, if_neg hlong]
    have hpost : c.postPayload answer (c.posting messages) [] =
        match c.received (answer (c.posting messages)) with
        | .ok data => .ok data [c.posting messages]
        | .error e => .error e [c.posting messages] := by
      cases h : c.received (answer (c.posting messages)) with
      | ok data => exact ofExcept_eq_ok.mpr ⟨h, rfl⟩
      | error e => exact ofExcept_eq_error.mpr ⟨h, rfl⟩
    cases h : c.received (answer (c.posting messages)) with
    | error e =>
        rw [h] at hpost
        simp only [bind_of_error hpost]
        rfl
    | ok data =>
        rw [h] at hpost
        simp only [bind_of_ok hpost]
        change _ = ([c.posting messages], (normalizeResponse dep lib data).map Response.normalized)
        cases hn : normalizeResponse dep lib data with
        | ok response => rfl
        | error e => rfl

theorem heard_tooLong (h : c.maxInputChars < c.inputChars messages) :
    c.heard dep lib wire n messages = .error tooLong := by
  rw [heard, call_eq, if_pos h]

/-- A request that fails is heard as its failure. -/
theorem heard_failed {e : Exc} (h : ¬ c.maxInputChars < c.inputChars messages)
    (he : c.received (wire n (c.posting messages)) = .error e) :
    c.heard dep lib wire n messages = .error e := by
  rw [heard, call_eq, if_neg h, he]
  rfl

/-- A response was read from the object of an answer that is no refusal. -/
structure Read (c : Connection) (dep : Deployment) (lib : Libraries)
    (wire : ℕ → Post → Transport) (n : ℕ) (post : Post) (response : LLMResponse) : Prop where
  answer : ∃ status text data read, wire n post = .answered status text (.ok (.obj data)) ∧
    status < 400 ∧ normalizeResponse dep lib data = .ok read ∧ read.normalized = response

theorem received_ok {t : Transport} {data : Json.Object} (h : c.received t = .ok data) :
    ∃ status text, t = .answered status text (.ok (.obj data)) ∧ status < 400 := by
  cases t with
  | timedOut => cases h
  | unreachable text => cases h
  | raised className text => cases h
  | answered status text body =>
      unfold received at h
      dsimp only at h
      by_cases hserver : 500 ≤ status
      · rw [if_pos hserver] at h
        cases h
      · by_cases hclient : 400 ≤ status
        · rw [if_neg hserver, if_pos hclient] at h
          cases h
        · rw [if_neg hserver, if_neg hclient] at h
          split at h <;> cases h
          exact ⟨status, text, rfl, not_le.mp hclient⟩

theorem read_of_heard {response : LLMResponse}
    (h : c.heard dep lib wire n messages = .ok response) :
    ¬ c.maxInputChars < c.inputChars messages ∧
      Read c dep lib wire n (c.posting messages) response := by
  have hfits : ¬ c.maxInputChars < c.inputChars messages := by
    intro hlong
    rw [heard_tooLong hlong] at h
    cases h
  rw [heard, call_eq, if_neg hfits] at h
  cases hp : c.received (wire n (c.posting messages)) with
  | error e =>
      rw [hp] at h
      cases h
  | ok data =>
      obtain ⟨status, text, hw, hstatus⟩ := received_ok hp
      rw [hp] at h
      change (normalizeResponse dep lib data).map Response.normalized = .ok response at h
      cases hn : normalizeResponse dep lib data with
      | error e =>
          rw [hn] at h
          cases h
      | ok read =>
          rw [hn] at h
          cases h
          exact ⟨hfits, status, text, data, read, hw, hstatus, hn, rfl⟩

/-! ## A question -/

theorem attempt_heard {shopId : UUID} {last : Bool} {r : AnalyticsOutcome ⊕ List LLMMessage}
    {b b' : Backend} (hw : c.Wires dep lib wire b.env)
    (h : attempt (handler dep) dep shopId last messages b = .ok r b') :
    ∃ n events, b'.journal =
        b.journal ++ .generated messages (c.heard dep lib wire n messages) :: events ∧
      Exchange (handler dep) dep shopId last (c.heard dep lib wire n messages) events r ∧
      b'.env = b.env := by
  have henv : b'.env = b.env := (Within.of_ok (attempt_within dep shopId last messages) h).env
  obtain ⟨response, b₁, hg, hr⟩ := bind_eq_ok.mp h
  obtain ⟨hresponse, hj⟩ : response = c.heard dep lib wire b.tick messages ∧
      b₁.journal = b.journal ++ [.generated messages response] := by
    cases hg
    exact ⟨hw _ _, rfl⟩
  refine ⟨b.tick, ?_⟩
  rw [← hresponse]
  cases response with
  | error e =>
      cases hr
      exact ⟨[], hj, .unanswered e, henv⟩
  | ok response =>
      have hrespond : respond (Handlers.default dep).run dep shopId last response.toolCalls b₁ =
          .ok r b' := hr
      obtain ⟨events, hev, hx⟩ := respond_exchange hrespond
      refine ⟨events, ?_, hx, henv⟩
      rw [hev, hj, List.append_assoc]
      rfl

/-- The exchanges of a question, with what was said in them. -/
inductive Spoken (c : Connection) (dep : Deployment) (lib : Libraries)
    (wire : ℕ → Post → Transport) (shopId : UUID) (messages : List LLMMessage) :
    List Event → AnalyticsOutcome → Prop
  | once {n : ℕ} {events : List Event} {outcome : AnalyticsOutcome}
      (h : Exchange (handler dep) dep shopId false (c.heard dep lib wire n messages) events
        (.inl outcome)) :
      Spoken c dep lib wire shopId messages
        (.generated messages (c.heard dep lib wire n messages) :: events) outcome
  | twice {n n' : ℕ} {more : List LLMMessage} {events : List Event} {outcome : AnalyticsOutcome}
      {response : LLMResponse} (hfirst : c.heard dep lib wire n messages = .ok response)
      (h : Exchange (handler dep) dep shopId true (c.heard dep lib wire n' (messages ++ more))
        events (.inl outcome)) :
      Spoken c dep lib wire shopId messages
        (.generated messages (c.heard dep lib wire n messages) ::
          .generated (messages ++ more) (c.heard dep lib wire n' (messages ++ more)) :: events)
        outcome

theorem run_spoken {shopId : UUID} {messageText : String} {prior : Option ToolCall}
    {outcome : AnalyticsOutcome} {b b' : Backend} (hw : c.Wires dep lib wire b.env)
    (h : run dep messageText shopId prior b = .ok outcome b') :
    ∃ events, b'.journal = b.journal ++ events ∧
      Spoken c dep lib wire shopId (opening dep messageText prior) events outcome := by
  obtain ⟨first, b₁, h₁, h⟩ := bind_eq_ok.mp h
  obtain ⟨n, events, hj, hx, henv⟩ := attempt_heard hw h₁
  cases first with
  | inl outcome₁ =>
      cases h
      exact ⟨_, hj, .once hx⟩
  | inr more =>
      obtain ⟨-, rfl, hrepair⟩ := hx.again_of_inr (lawful_default dep)
      obtain ⟨second, b₂, h₂, h⟩ := bind_eq_ok.mp h
      obtain ⟨n', events', hj', hx', -⟩ := attempt_heard (henv ▸ hw) h₂
      cases second with
      | inr more' => exact absurd (hx'.again_of_inr (lawful_default dep)).1 (by simp)
      | inl outcome₂ =>
          cases h
          cases hheard : c.heard dep lib wire n (opening dep messageText prior) with
          | error e =>
              rw [hheard] at hrepair
              exact hrepair.elim
          | ok response =>
              refine ⟨_, ?_, .twice hheard hx'⟩
              rw [hj', hj, List.append_assoc]
              rfl

theorem exchange_error {shopId : UUID} {last : Bool} {e : Exc} {events : List Event}
    {outcome : AnalyticsOutcome} {handle : UUID → ToolInput → DbM ToolOutput}
    (h : Exchange handle dep shopId last (.error e) events (.inl outcome)) :
    events = [] ∧ outcome = outcomeOfProviderError e := by
  cases h with
  | unanswered => exact ⟨rfl, rfl⟩

/-- The answer that was read to what was said proposed one call, with these
arguments once they are validated. -/
structure Proposed (c : Connection) (dep : Deployment) (lib : Libraries)
    (wire : ℕ → Post → Transport) (said : List LLMMessage) (response : LLMResponse)
    (tool : String) (arguments : Json.Object) : Prop where
  fits : ¬ c.maxInputChars < c.inputChars said
  read : ∃ n, Read c dep lib wire n (c.posting said) response
  call : ∃ call input, response.toolCalls = [call] ∧ call.name = tool ∧
    validateCall dep tool call.arguments = .ok input ∧ arguments = input.dump

theorem proposed_of_exchange {shopId : UUID} {last : Bool} {events : List Event}
    {r : AnalyticsOutcome ⊕ List LLMMessage}
    (h : Exchange (handler dep) dep shopId last (c.heard dep lib wire n messages) events r)
    {tool : String} {shop : UUID} {arguments : Json.Object}
    (hmem : .handled tool shop arguments ∈ events) :
    shop = shopId ∧ ∃ response, c.heard dep lib wire n messages = .ok response ∧
      Proposed c dep lib wire messages response tool arguments := by
  obtain ⟨-, -, hhandled⟩ := h.handled
  obtain ⟨hshop, response, call, input, hheard, hsingle, hname, hvalid, hdump⟩ :=
    hhandled tool shop arguments hmem
  obtain ⟨hfits, hread⟩ := read_of_heard hheard
  exact ⟨hshop, response, hheard, hfits, ⟨n, hread⟩, call, input, hsingle, hname, hvalid, hdump⟩

/-- What a question does on the wire: its events, and what it posted. -/
structure OnTheWire (c : Connection) (dep : Deployment) (lib : Libraries)
    (wire : ℕ → Post → Transport) (shopId : UUID) (messages : List LLMMessage)
    (events : List Event) (posts : List Post) (outcome : AnalyticsOutcome) : Prop where
  few : posts.length ≤ 2
  short : ∀ post ∈ posts, post.chars c.dumps ≤ c.maxInputChars
  /-- the prompt and the question come first -/
  asks : ∀ post ∈ posts, ∃ more, post.messages = payloadMessages messages ++ more
  silent : posts = [] ↔ c.maxInputChars < c.inputChars messages
  tooLong : c.maxInputChars < c.inputChars messages →
    outcome = .malformedResponse "Analytics provider input exceeds the configured size limit."
  /-- a handler is started on an answer to a request -/
  grounded : ∀ tool shop arguments, .handled tool shop arguments ∈ events → shop = shopId ∧
    ∃ said response, .generated said (.ok response) ∈ events ∧
      Proposed c dep lib wire said response tool arguments
  /-- what is heard is the answer to the request, or its failure -/
  heard : ∀ said response, .generated said response ∈ events →
    ∃ n, response = c.heard dep lib wire n said ∧
      (c.inputChars said ≤ c.maxInputChars → ∀ e,
        c.received (wire n (c.posting said)) = .error e → response = .error e)
  /-- a request that fails ends the question -/
  failed : ∀ said e, .generated said (.error e) ∈ events → outcome = outcomeOfProviderError e ∧
    ∀ event ∈ events, Event.isHandled event = false

theorem chars_posting (said : List LLMMessage) :
    (c.posting said).chars c.dumps = c.inputChars said := by
  unfold Post.chars posting inputChars
  by_cases h : c.tools.isEmpty
  · simp [h]
  · simp [h]

/-- A call posts what was said, unless it is too long. -/
theorem sent_of_call {said : List LLMMessage} {response : Except Exc LLMResponse}
    {answer : Post → Transport} {sent : List Post}
    (h : c.call dep lib answer said = (sent, response)) :
    sent = if c.maxInputChars < c.inputChars said then [] else [c.posting said] := by
  rw [call_eq] at h
  split at h
  · rename_i hlong
    rw [if_pos hlong]
    exact (congrArg Prod.fst h).symm
  · rename_i hshort
    rw [if_neg hshort]
    exact (congrArg Prod.fst h).symm

theorem sent_generated {said : List LLMMessage} {response : Except Exc LLMResponse}
    {events : List Event} {posts : List Post}
    (h : c.Sent dep lib wire (.generated said response :: events) posts) :
    ∃ rest, c.Sent dep lib wire events rest ∧ posts =
      (if c.maxInputChars < c.inputChars said then [] else [c.posting said]) ++ rest := by
  cases h with
  | generated n h rest => exact ⟨_, rest, by rw [sent_of_call h]⟩
  | other h rest => cases h

theorem sent_of_quiet {events : List Event} {posts : List Post}
    (hquiet : ∀ e ∈ events, Event.isGenerated e = false) :
    c.Sent dep lib wire events posts ↔ posts = [] := by
  constructor
  · intro h
    induction h with
    | nil => rfl
    | generated n h rest ih => cases hquiet _ List.mem_cons_self
    | other h rest ih => exact ih fun e he ↦ hquiet e (List.mem_cons_of_mem _ he)
  · rintro rfl
    induction events with
    | nil => exact .nil
    | cons e events ih =>
        exact .other (hquiet e List.mem_cons_self)
          (ih fun e he ↦ hquiet e (List.mem_cons_of_mem _ he))

theorem quiet_of_exchange {shopId : UUID} {last : Bool} {response : Except Exc LLMResponse}
    {events : List Event} {r : AnalyticsOutcome ⊕ List LLMMessage}
    (h : Exchange (handler dep) dep shopId last response events r) :
    ∀ e ∈ events, Event.isGenerated e = false := by
  obtain ⟨-, hgenerated, -⟩ := h.handled
  exact hgenerated

theorem generated_notMem {shopId : UUID} {last : Bool} {response response' : Except Exc LLMResponse}
    {events : List Event} {r : AnalyticsOutcome ⊕ List LLMMessage} {said : List LLMMessage}
    (h : Exchange (handler dep) dep shopId last response events r) :
    .generated said response' ∉ events := by
  intro hmem
  obtain ⟨-, hgenerated, -⟩ := h.handled
  have hquiet := hgenerated _ hmem
  cases hquiet

/-- What is posted is what was said, and not too long. -/
theorem posted_of_mem {post : Post} {events : List Event} {posts : List Post}
    (hsent : c.Sent dep lib wire events posts) (h : post ∈ posts) :
    ∃ said response, .generated said response ∈ events ∧ post = c.posting said ∧
      c.inputChars said ≤ c.maxInputChars := by
  induction hsent with
  | nil => cases h
  | @generated said response sent posts events n hcall rest ih =>
      rcases List.mem_append.mp h with h | h
      · rw [sent_of_call hcall] at h
        split at h
        · cases h
        · rename_i hshort
          exact ⟨said, response, List.mem_cons_self, List.mem_singleton.mp h, not_lt.mp hshort⟩
      · obtain ⟨said, response, hmem, hpost⟩ := ih h
        exact ⟨said, response, List.mem_cons_of_mem _ hmem, hpost⟩
  | other hquiet rest ih =>
      obtain ⟨said, response, hmem, hpost⟩ := ih h
      exact ⟨said, response, List.mem_cons_of_mem _ hmem, hpost⟩

/-- The model was only asked the question, or the question and something more. -/
theorem Spoken.said {shopId : UUID} {events : List Event} {outcome : AnalyticsOutcome}
    (h : Spoken c dep lib wire shopId messages events outcome) {said : List LLMMessage}
    {response : Except Exc LLMResponse} (hmem : .generated said response ∈ events) :
    (∃ more, said = messages ++ more) ∧ ∃ n, response = c.heard dep lib wire n said := by
  cases h with
  | @once n events outcome h =>
      rcases List.mem_cons.mp hmem with hmem | hmem
      · cases hmem
        exact ⟨⟨[], (List.append_nil _).symm⟩, n, rfl⟩
      · exact absurd hmem (generated_notMem h)
  | @twice n n' more events outcome first hfirst h =>
      rcases List.mem_cons.mp hmem with hmem | hmem
      · cases hmem
        exact ⟨⟨[], (List.append_nil _).symm⟩, n, rfl⟩
      · rcases List.mem_cons.mp hmem with hmem | hmem
        · cases hmem
          exact ⟨⟨more, rfl⟩, n', rfl⟩
        · exact absurd hmem (generated_notMem h)

theorem Spoken.grounded {shopId : UUID} {events : List Event} {outcome : AnalyticsOutcome}
    (h : Spoken c dep lib wire shopId messages events outcome) {tool : String} {shop : UUID}
    {arguments : Json.Object} (hmem : .handled tool shop arguments ∈ events) : shop = shopId ∧
    ∃ said response, .generated said (.ok response) ∈ events ∧
      Proposed c dep lib wire said response tool arguments := by
  cases h with
  | @once n events outcome h =>
      rcases List.mem_cons.mp hmem with hmem | hmem
      · cases hmem
      · obtain ⟨hshop, response, hheard, hproposed⟩ := proposed_of_exchange h hmem
        refine ⟨hshop, messages, response, ?_, hproposed⟩
        rw [hheard]
        exact List.mem_cons_self
  | @twice n n' more events outcome first hfirst h =>
      rcases List.mem_cons.mp hmem with hmem | hmem
      · cases hmem
      · rcases List.mem_cons.mp hmem with hmem | hmem
        · cases hmem
        · obtain ⟨hshop, response, hheard, hproposed⟩ := proposed_of_exchange h hmem
          refine ⟨hshop, messages ++ more, response, ?_, hproposed⟩
          rw [hheard]
          exact List.mem_cons_of_mem _ List.mem_cons_self

/-- After a failure nothing more is asked and nothing is started. -/
theorem Spoken.failed {shopId : UUID} {events : List Event} {outcome : AnalyticsOutcome}
    (h : Spoken c dep lib wire shopId messages events outcome) {said : List LLMMessage} {e : Exc}
    (hmem : .generated said (.error e) ∈ events) : outcome = outcomeOfProviderError e ∧
    ∀ event ∈ events, Event.isHandled event = false := by
  cases h with
  | @once n events outcome h =>
      rcases List.mem_cons.mp hmem with hmem | hmem
      · have hheard : c.heard dep lib wire n messages = .error e := by
          injection hmem with _ hr
          exact hr.symm
        rw [hheard] at h ⊢
        obtain ⟨rfl, rfl⟩ := exchange_error h
        refine ⟨rfl, fun event he ↦ ?_⟩
        rw [List.mem_singleton.mp he]
        rfl
      · exact absurd hmem (generated_notMem h)
  | @twice n n' more events outcome first hfirst h =>
      rcases List.mem_cons.mp hmem with hmem | hmem
      · injection hmem with _ hr
        rw [hfirst] at hr
        cases hr
      · rcases List.mem_cons.mp hmem with hmem | hmem
        · have hheard : c.heard dep lib wire n' (messages ++ more) = .error e := by
            injection hmem with _ hr
            exact hr.symm
          rw [hheard] at h ⊢
          obtain ⟨rfl, rfl⟩ := exchange_error h
          refine ⟨rfl, fun event he ↦ ?_⟩
          rcases List.mem_cons.mp he with rfl | he
          · rfl
          · rw [List.mem_singleton.mp he]
            rfl
        · exact absurd hmem (generated_notMem h)

theorem sent_of_heard (n : ℕ) (said : List LLMMessage) {events : List Event} {rest : List Post}
    (h : c.Sent dep lib wire events rest) :
    ∃ posts, c.Sent dep lib wire (.generated said (c.heard dep lib wire n said) :: events) posts :=
  ⟨_, .generated n (Prod.mk.eta (p := c.call dep lib (wire n) said)).symm h⟩

theorem Spoken.sent {shopId : UUID} {events : List Event} {outcome : AnalyticsOutcome}
    (h : Spoken c dep lib wire shopId messages events outcome) :
    ∃ posts, c.Sent dep lib wire events posts := by
  cases h with
  | @once n events outcome h =>
      exact sent_of_heard n _ ((sent_of_quiet (quiet_of_exchange h)).mpr rfl)
  | @twice n n' more events outcome first hfirst h =>
      obtain ⟨rest, hrest⟩ :=
        sent_of_heard n' (messages ++ more) ((sent_of_quiet (quiet_of_exchange h)).mpr rfl)
      exact sent_of_heard n _ hrest

theorem Spoken.posts {shopId : UUID} {events : List Event} {outcome : AnalyticsOutcome}
    {posts : List Post} (h : Spoken c dep lib wire shopId messages events outcome)
    (hsent : c.Sent dep lib wire events posts) :
    posts.length ≤ 2 ∧ (posts = [] ↔ c.maxInputChars < c.inputChars messages) := by
  cases h with
  | @once n events outcome h =>
      obtain ⟨rest, hrest, rfl⟩ := sent_generated hsent
      rw [(sent_of_quiet (quiet_of_exchange h)).mp hrest, List.append_nil]
      by_cases hlong : c.maxInputChars < c.inputChars messages
      · simp [hlong]
      · simp [hlong]
  | @twice n n' more events outcome first hfirst h =>
      obtain ⟨hfits, -⟩ := read_of_heard hfirst
      obtain ⟨rest, hrest, rfl⟩ := sent_generated hsent
      obtain ⟨rest', hrest', rfl⟩ := sent_generated hrest
      rw [(sent_of_quiet (quiet_of_exchange h)).mp hrest', List.append_nil, if_neg hfits]
      by_cases hlong : c.maxInputChars < c.inputChars (messages ++ more)
      · simp [hlong, not_lt.mp hfits]
      · simp [hlong, not_lt.mp hfits]

/-- A question that is too long has been refused. -/
theorem Spoken.tooLong {shopId : UUID} {events : List Event} {outcome : AnalyticsOutcome}
    (h : Spoken c dep lib wire shopId messages events outcome)
    (hlong : c.maxInputChars < c.inputChars messages) :
    .generated messages (.error Connection.tooLong) ∈ events := by
  cases h with
  | @once n events outcome h =>
      rw [heard_tooLong hlong]
      exact List.mem_cons_self
  | @twice n n' more events outcome first hfirst h =>
      rw [heard_tooLong hlong] at hfirst
      cases hfirst

theorem Spoken.onTheWire {shopId : UUID} {events : List Event} {outcome : AnalyticsOutcome}
    {posts : List Post} (h : Spoken c dep lib wire shopId messages events outcome)
    (hsent : c.Sent dep lib wire events posts) :
    OnTheWire c dep lib wire shopId messages events posts outcome := by
  obtain ⟨hfew, hsilent⟩ := h.posts hsent
  refine ⟨hfew, ?_, ?_, hsilent, ?_, ?_, ?_, ?_⟩
  · intro post hpost
    obtain ⟨said, response, -, rfl, hshort⟩ := posted_of_mem hsent hpost
    rw [chars_posting]
    exact hshort
  · intro post hpost
    obtain ⟨said, response, hmem, rfl, -⟩ := posted_of_mem hsent hpost
    obtain ⟨⟨more, rfl⟩, -⟩ := h.said hmem
    exact ⟨more, rfl⟩
  · intro hlong
    exact (h.failed (h.tooLong hlong)).1
  · intro tool shop arguments hmem
    exact h.grounded hmem
  · intro said response hmem
    obtain ⟨-, n, rfl⟩ := h.said hmem
    exact ⟨n, rfl, fun hshort e he ↦ heard_failed (not_lt.mpr hshort) he⟩
  · intro said e hmem
    exact h.failed hmem

/-- Whatever the network does to its requests, a question posts one request or
two, each within the limit and with the question in it, or none when it is too
long; a tool is started only on an answer that was read, and a request that
fails ends the question with its failure. -/
theorem question_on_the_wire {b : Backend} (hw : c.Wires dep lib wire b.env)
    (messageText : String) (shopId : UUID) (prior : Option ToolCall) :
    ∃ outcome b' events, run dep messageText shopId prior b = .ok outcome b' ∧
      b'.journal = b.journal ++ events ∧ (∃ posts, c.Sent dep lib wire events posts) ∧
      ∀ posts, c.Sent dep lib wire events posts →
        OnTheWire c dep lib wire shopId (opening dep messageText prior) events posts outcome := by
  obtain ⟨outcome, b', h⟩ := run_returns dep messageText shopId prior b
  obtain ⟨events, hj, hspoken⟩ := run_spoken hw h
  exact ⟨outcome, b', events, h, hj, hspoken.sent, fun posts hsent ↦ hspoken.onTheWire hsent⟩

/-- The client with a limit that these messages just meet. -/
def meeting (c : Connection) (messages : List LLMMessage) : Connection :=
  { c with maxInputChars := c.inputChars messages }

theorem meeting_fits (c : Connection) (messages : List LLMMessage) :
    ¬ (c.meeting messages).maxInputChars < (c.meeting messages).inputChars messages :=
  lt_irrefl (c.inputChars messages)

/-- A client with one tool. -/
def stocktaking : Connection where
  endpoint := "https://api.groq.com/openai/v1/chat/completions"
  apiKey := ""
  model := "openai/gpt-oss-20b"
  timeout := "30.0"
  tools := [.obj [("type", .str "function"),
    ("function", .obj [("name", .str "get_low_stock_items")])]]
  dumps _ := "[\x7b\"type\": \"function\"\x7d]"

def sample : Connection := stocktaking.meeting (opening .sample "low stock?" none)

/-- An answer that proposes a call of the tool. -/
def proposal : Json.Object :=
  [("choices", .arr [.obj [("message", .obj [("tool_calls", .arr [.obj [("id", .str "call_1"),
    ("function", .obj [("name", .str "get_low_stock_items"), ("arguments", .str "\x7b\x7d")])]])])]])]

/-- A provider that proposes the call whatever it is asked. -/
def answering (_ : ℕ) (_ : Post) : Transport := .answered 200 "" (.ok (.obj proposal))

/-- What is heard of this provider; the first case is what the second one computes. -/
def heardAnswer (n : ℕ) (messages : List LLMMessage) : Except Exc LLMResponse :=
  if messages = opening .sample "low stock?" none then .ok ⟨[⟨"get_low_stock_items", []⟩]⟩
  else sample.heard .sample .sample answering n messages

def throughAnswering : Env := { Env.calm with generate := heardAnswer }

theorem wires_answering : sample.Wires .sample .sample answering throughAnswering := by
  intro n messages
  by_cases hm : messages = opening .sample "low stock?" none
  · subst hm
    have hfits : ¬ sample.maxInputChars < sample.inputChars (opening .sample "low stock?" none) :=
      meeting_fits stocktaking _
    change heardAnswer n (opening .sample "low stock?" none) = _
    rw [heardAnswer, if_pos rfl, heard, call_eq, if_neg hfits]
    rfl
  · exact if_neg hm

theorem question_on_the_wire_answered :
    ∃ outcome b' events, run .sample "low stock?" ⟨1⟩ none
        (Backend.connect throughAnswering .sample) = .ok outcome b' ∧
      b'.journal = events ∧ events.any Event.isHandled = true ∧
      (∃ posts, sample.Sent .sample .sample answering events posts) ∧
      ∀ posts, sample.Sent .sample .sample answering events posts →
        OnTheWire sample .sample .sample answering ⟨1⟩ (opening .sample "low stock?" none) events
          posts outcome := by
  obtain ⟨outcome, b', events, hrun, hj, hsent, hwire⟩ :=
    question_on_the_wire (b := Backend.connect throughAnswering .sample) wires_answering
      "low stock?" ⟨1⟩ none
  have hstarted : (final (run .sample "low stock?" ⟨1⟩ none
      (Backend.connect throughAnswering .sample))).journal.any Event.isHandled = true := by
    decide +kernel
  rw [hrun, final_ok, hj] at hstarted
  exact ⟨outcome, b', events, hrun, hj, hstarted, hsent, hwire⟩

end Connection

end SokoFlow.LLMClient
