import SokoFlow.Config
import SokoFlow.Backend

/-!
# `routes/webhook.py`

A delivery is checked, the message it carries is marked as seen in Redis, and
only then handed to the broker.  Redis and the broker fail independently of
each other; every answer but 200 makes the provider deliver again.
-/

namespace SokoFlow

open Effect

/-! ## The accepted format (`fsm/models.py`) -/

/-- A message, with the body of its `text`. -/
structure Message where
  from_ : String
  id : String
  type : String
  text : String
  deriving DecidableEq

structure Value where
  messages : List Message

structure Change where
  value : Value

structure Entry where
  changes : List Change

structure WhatsAppWebhook where
  object : String
  entry : List Entry

namespace Json

def asStr : Json → Option String
  | str s => some s
  | _ => none

def asArr : Json → Option (List Json)
  | arr items => some items
  | _ => none

/-- A required field of an object. -/
def field (name : String) : Json → Option Json
  | obj fields => Object.get? fields name
  | _ => none

end Json

namespace WhatsAppWebhook

def readMessage (j : Json) : Option Message := do
  let from_ ← (← j.field "from").asStr
  let id ← (← j.field "id").asStr
  let type ← (← j.field "type").asStr
  let text ← (← (← j.field "text").field "body").asStr
  return ⟨from_, id, type, text⟩

def readValue (j : Json) : Option Value := do
  let messages ← (← (← j.field "messages").asArr).mapM readMessage
  return ⟨messages⟩

def readChange (j : Json) : Option Change := do
  let value ← readValue (← j.field "value")
  return ⟨value⟩

def readEntry (j : Json) : Option Entry := do
  let changes ← (← (← j.field "changes").asArr).mapM readChange
  return ⟨changes⟩

/-- What pydantic accepts: every field is required, and unknown ones are ignored. -/
def read (j : Json) : Option WhatsAppWebhook := do
  let object ← (← j.field "object").asStr
  let entry ← (← (← j.field "entry").asArr).mapM readEntry
  return ⟨object, entry⟩

/-- The messages in all positions of a body. -/
def messages (w : WhatsAppWebhook) : List Message :=
  w.entry.flatMap fun e ↦ e.changes.flatMap fun c ↦ c.value.messages

/-- `webhook.entry[0].changes[0].value.messages[0]` -/
def first (w : WhatsAppWebhook) : Option Message := do
  (← (← w.entry.head?).changes.head?).value.messages.head?

end WhatsAppWebhook

structure InboundMessagePayload where
  sender : String
  messageText : String
  messageId : String
  correlationId : Option String
  deriving DecidableEq

namespace InboundMessagePayload

def ofMessage (correlationId : Option String) (m : Message) : InboundMessagePayload :=
  ⟨m.from_, m.text, m.id, correlationId⟩

/-- `from_whatsapp_webhook` -/
def fromWhatsappWebhook (w : WhatsAppWebhook) (correlationId : Option String) :
    Option InboundMessagePayload :=
  w.first.map (ofMessage correlationId)

end InboundMessagePayload

/-! ## Redis and the queue -/

/-- The marks Redis keeps, each until its time, and the tasks handed to the
conversation queue. -/
structure Gateway where
  marks : List (String × Timestamp) := []
  queue : List InboundMessagePayload := []

/-- What one delivery meets. -/
structure Conditions where
  now : Timestamp
  uuid : UUID
  redis : Delivery
  broker : Delivery

abbrev GatewayM := EStateM Exc Gateway

namespace ConversationStore

/-- `_dedup_key` -/
def dedupKey (messageId : String) : String := "dedup:" ++ messageId

end ConversationStore

open ConversationStore

namespace Gateway

/-- A mark for the message is alive. -/
def Seen (g : Gateway) (messageId : String) (now : Timestamp) : Prop :=
  ∃ m ∈ g.marks, m.1 = dedupKey messageId ∧ now ≤ m.2

instance (g : Gateway) (messageId : String) (now : Timestamp) : Decidable (g.Seen messageId now) :=
  inferInstanceAs (Decidable (∃ m ∈ g.marks, m.1 = dedupKey messageId ∧ now ≤ m.2))

/-- `SET key "1" NX EX ttl` -/
def mark (g : Gateway) (messageId : String) (now : Timestamp) (ttl : ℤ) : Gateway :=
  if g.Seen messageId now then g
  else { g with
    marks := (dedupKey messageId, now + ttl * 1000000) ::
      g.marks.filter (·.1 ≠ dedupKey messageId) }

def push (g : Gateway) (p : InboundMessagePayload) : Gateway := { g with queue := g.queue ++ [p] }

/-- How often a task was enqueued for a message id. -/
def enqueued (g : Gateway) (messageId : String) : ℕ :=
  g.queue.countP (·.messageId = messageId)

@[simp] theorem mark_queue (g : Gateway) (id : String) (now : Timestamp) (ttl : ℤ) :
    (g.mark id now ttl).queue = g.queue := by
  unfold mark
  split <;> rfl

@[simp] theorem enqueued_mark (g : Gateway) (id id' : String) (now : Timestamp) (ttl : ℤ) :
    (g.mark id now ttl).enqueued id' = g.enqueued id' := by
  simp [enqueued]

@[simp] theorem push_marks (g : Gateway) (p : InboundMessagePayload) :
    (g.push p).marks = g.marks := rfl

@[simp] theorem enqueued_push (g : Gateway) (p : InboundMessagePayload) (id : String) :
    (g.push p).enqueued id = g.enqueued id + if p.messageId = id then 1 else 0 := by
  simp [enqueued, push, List.countP_append, List.countP_cons]

theorem mark_of_seen {g : Gateway} {id : String} {now : Timestamp} (h : g.Seen id now) (ttl : ℤ) :
    g.mark id now ttl = g := if_pos h

end Gateway

namespace ConversationStore

/-- `is_duplicate`; Redis refuses a time to live that is not positive. -/
def isDuplicate (c : Conditions) (messageId : String) (ttl : ℤ) : GatewayM Bool := fun g ↦
  if ttl ≤ 0 then .error (.other "ResponseError" "invalid expire time in 'set' command") g
  else match c.redis with
    | .refused text => .error (.other "ConnectionError" text) g
    | .lost text => .error (.other "ConnectionError" text) (g.mark messageId c.now ttl)
    | .done => .ok (decide (g.Seen messageId c.now)) (g.mark messageId c.now ttl)

end ConversationStore

/-- `conversation_task.apply_async` -/
def applyAsync (c : Conditions) (payload : InboundMessagePayload) : GatewayM Unit := fun g ↦
  match c.broker with
  | .refused text => .error (.other "OperationalError" text) g
  | .lost text => .error (.other "OperationalError" text) (g.push payload)
  | .done => .ok () (g.push payload)

/-! ## The route -/

abbrev Bytes := List UInt8

/-- The digest and the JSON parser of the libraries. -/
structure Codec where
  /-- `hmac.new(secret, payload, "sha256").hexdigest()` -/
  hexdigest : String → Bytes → String
  loads : Bytes → Option Json

structure Request where
  rawBody : Bytes
  signature : Option String
  correlationId : Option String

inductive Answer
  | response (status message : String)
  | error (statusCode : ℕ) (detail : String)
  deriving DecidableEq

namespace Answer

def code : Answer → ℕ
  | response .. => 200
  | error statusCode _ => statusCode

/-- `WebhookResponse()` -/
def success : Answer := response "success" "accepted"

def ignored : Answer := response "ignored" "Duplicate message ignored"

def dedupFailed : Answer := error 500 "Infrastructure error during deduplication"

def dispatchFailed : Answer := error 500 "Infrastructure error during task dispatch"

end Answer

def isAscii (s : String) : Bool := s.toList.all fun c ↦ decide (c.toNat < 128)

/-- `hmac.compare_digest` -/
def compareDigest (a b : String) : Except Exc Bool :=
  if isAscii a && isAscii b then .ok (a == b)
  else .error (.other "TypeError" "comparing strings with non-ASCII characters is not supported")

def verifyHmacSignature (codec : Codec) (payload : Bytes) (signatureHeader appSecret : Option String) :
    Except Exc Bool :=
  match signatureHeader, appSecret with
  | some signature, some secret =>
      if signature = "" ∨ secret = "" then .ok false
      else if signature.toList.take 7 ≠ "sha256=".toList then .ok false
      else compareDigest (codec.hexdigest secret payload)
        (Text.strip (String.ofList (signature.toList.drop 7)))
  | _, _ => .ok false

/-- `request.headers.get(...) or str(uuid4())` -/
def correlationId (c : Conditions) (r : Request) : String :=
  match r.correlationId with
  | some id => if id = "" then c.uuid.text else id
  | none => c.uuid.text

/-- Whether the message was seen, `none` if Redis cannot tell. -/
def judge (dep : Deployment) (c : Conditions) (messageId : String) : GatewayM (Option Bool) :=
  tryCatch (do
      let duplicate ← isDuplicate c messageId dep.settings.dedupTtlSeconds
      return some duplicate)
    fun _ ↦ return none

def dispatch (c : Conditions) (payload : InboundMessagePayload) : GatewayM Answer :=
  tryCatch (do
      applyAsync c payload
      return .success)
    fun _ ↦ return .dispatchFailed

/-- The part of the route that talks to Redis and the broker. -/
def accept (dep : Deployment) (c : Conditions) (payload : InboundMessagePayload) :
    GatewayM Answer := do
  match ← judge dep c payload.messageId with
  | none => return .dedupFailed
  | some true => return .ignored
  | some false => dispatch c payload

def webhook (dep : Deployment) (codec : Codec) (c : Conditions) (r : Request) :
    GatewayM Answer := do
  let verified ← MonadExcept.ofExcept
    (verifyHmacSignature codec r.rawBody r.signature dep.settings.whatsappAppSecret)
  if !verified then return .error 401 "Invalid or missing HMAC signature"
  else match (codec.loads r.rawBody).bind WhatsAppWebhook.read with
    | none => return .error 422 "Malformed webhook payload"
    | some body =>
        match InboundMessagePayload.fromWhatsappWebhook body (some (correlationId c r)) with
        | none => return .error 422 "Missing required message fields in payload"
        | some payload => accept dep c payload

/-! ## One delivery -/

/-- The body is correctly signed and has the accepted format. -/
structure Accepted (dep : Deployment) (codec : Codec) (r : Request) (body : WhatsAppWebhook) :
    Prop where
  signed : verifyHmacSignature codec r.rawBody r.signature dep.settings.whatsappAppSecret = .ok true
  read : (codec.loads r.rawBody).bind WhatsAppWebhook.read = some body

variable {dep : Deployment} {codec : Codec} {c : Conditions} {r : Request} {body : WhatsAppWebhook}
  {payload : InboundMessagePayload} {g : Gateway}

theorem judge_apply (dep : Deployment) (c : Conditions) (id : String) (g : Gateway) :
    judge dep c id g =
      let ttl := dep.settings.dedupTtlSeconds
      if ttl ≤ 0 then .ok none g
      else match c.redis with
        | .refused _ => .ok none g
        | .lost _ => .ok none (g.mark id c.now ttl)
        | .done => .ok (some (decide (g.Seen id c.now))) (g.mark id c.now ttl) := by
  dsimp only
  by_cases httl : dep.settings.dedupTtlSeconds ≤ 0
  · have hd : isDuplicate c id dep.settings.dedupTtlSeconds g =
        .error (.other "ResponseError" "invalid expire time in 'set' command") g := if_pos httl
    rw [if_pos httl]
    exact (tryCatch_of_error (bind_of_error hd)).trans rfl
  · have hd : isDuplicate c id dep.settings.dedupTtlSeconds g = _ := if_neg httl
    rw [if_neg httl]
    cases hr : c.redis with
    | done =>
        rw [hr] at hd
        exact tryCatch_of_ok ((bind_of_ok hd).trans rfl)
    | refused text =>
        rw [hr] at hd
        exact (tryCatch_of_error (bind_of_error hd)).trans rfl
    | lost text =>
        rw [hr] at hd
        exact (tryCatch_of_error (bind_of_error hd)).trans rfl

theorem dispatch_apply (c : Conditions) (payload : InboundMessagePayload) (g : Gateway) :
    dispatch c payload g = match c.broker with
      | .refused _ => .ok .dispatchFailed g
      | .lost _ => .ok .dispatchFailed (g.push payload)
      | .done => .ok .success (g.push payload) := by
  have ha : applyAsync c payload g = match c.broker with
      | .refused text => .error (.other "OperationalError" text) g
      | .lost text => .error (.other "OperationalError" text) (g.push payload)
      | .done => .ok () (g.push payload) := rfl
  cases hb : c.broker with
  | done =>
      rw [hb] at ha
      exact tryCatch_of_ok ((bind_of_ok ha).trans rfl)
  | refused text =>
      rw [hb] at ha
      exact (tryCatch_of_error (bind_of_error ha)).trans rfl
  | lost text =>
      rw [hb] at ha
      exact (tryCatch_of_error (bind_of_error ha)).trans rfl

/-- What happens to a message, by what works. -/
theorem accept_apply (dep : Deployment) (c : Conditions) (payload : InboundMessagePayload)
    (g : Gateway) : accept dep c payload g =
      let ttl := dep.settings.dedupTtlSeconds
      let marked := g.mark payload.messageId c.now ttl
      if ttl ≤ 0 then .ok .dedupFailed g
      else match c.redis with
        | .refused _ => .ok .dedupFailed g
        | .lost _ => .ok .dedupFailed marked
        | .done => if g.Seen payload.messageId c.now then .ok .ignored g
            else dispatch c payload marked := by
  have hj := judge_apply dep c payload.messageId g
  unfold accept
  dsimp only at hj ⊢
  by_cases httl : dep.settings.dedupTtlSeconds ≤ 0
  · rw [if_pos httl] at hj ⊢
    exact bind_of_ok hj
  · rw [if_neg httl] at hj ⊢
    cases hr : c.redis with
    | refused text =>
        rw [hr] at hj
        exact bind_of_ok hj
    | lost text =>
        rw [hr] at hj
        exact bind_of_ok hj
    | done =>
        rw [hr] at hj
        by_cases hseen : g.Seen payload.messageId c.now
        · rw [decide_eq_true hseen, Gateway.mark_of_seen hseen] at hj
          rw [if_pos hseen]
          exact bind_of_ok hj
        · rw [decide_eq_false hseen] at hj
          rw [if_neg hseen]
          exact bind_of_ok hj

theorem webhook_of_first (h : Accepted dep codec r body) {m : Message} (hm : body.first = some m)
    (c : Conditions) (g : Gateway) : webhook dep codec c r g =
      accept dep c (.ofMessage (some (correlationId c r)) m) g := by
  have hp : InboundMessagePayload.fromWhatsappWebhook body (some (correlationId c r)) =
      some (.ofMessage (some (correlationId c r)) m) := congrArg (Option.map _) hm
  unfold webhook
  rw [h.signed, h.read]
  dsimp only
  rw [hp]
  rfl

theorem webhook_of_empty (h : Accepted dep codec r body) (hm : body.first = none)
    (c : Conditions) (g : Gateway) : webhook dep codec c r g =
      .ok (.error 422 "Missing required message fields in payload") g := by
  have hp : InboundMessagePayload.fromWhatsappWebhook body (some (correlationId c r)) = none :=
    congrArg (Option.map _) hm
  unfold webhook
  rw [h.signed, h.read]
  dsimp only
  rw [hp]
  rfl

/-! ## A batch of messages -/

/-- The delivery works, from its checks to the broker. -/
structure GoesThrough (dep : Deployment) (c : Conditions) (body : WhatsAppWebhook) (m : Message)
    (g : Gateway) : Prop where
  ttl : 0 < dep.settings.dedupTtlSeconds
  redis : c.redis = .done
  broker : c.broker = .done
  first : body.first = some m
  unseen : ¬ g.Seen m.id c.now

/-- The gateway after a delivery that works. -/
def Gateway.handed (g : Gateway) (dep : Deployment) (c : Conditions) (r : Request) (m : Message) :
    Gateway :=
  (g.mark m.id c.now dep.settings.dedupTtlSeconds).push
    (.ofMessage (some (correlationId c r)) m)

theorem webhook_success_iff (h : Accepted dep codec r body) {g' : Gateway} :
    webhook dep codec c r g = .ok .success g' ↔
      ∃ m, GoesThrough dep c body m g ∧ g' = g.handed dep c r m := by
  cases hm : body.first with
  | none =>
      rw [webhook_of_empty h hm]
      constructor
      · intro hs
        cases hs
      · rintro ⟨m, hgo, -⟩
        rw [hgo.first] at hm
        cases hm
  | some m =>
      rw [webhook_of_first h hm, accept_apply]
      dsimp only
      constructor
      · intro hs
        split at hs
        · cases hs
        · rename_i httl
          cases hr : c.redis with
          | refused text => simp [hr, Answer.dedupFailed, Answer.success] at hs
          | lost text => simp [hr, Answer.dedupFailed, Answer.success] at hs
          | done =>
              rw [hr] at hs
              dsimp only at hs
              split at hs
              · simp [Answer.ignored, Answer.success] at hs
              · rename_i hseen
                rw [dispatch_apply] at hs
                cases hb : c.broker with
                | refused text => simp [hb, Answer.dispatchFailed, Answer.success] at hs
                | lost text => simp [hb, Answer.dispatchFailed, Answer.success] at hs
                | done =>
                    rw [hb] at hs
                    cases hs
                    exact ⟨m, ⟨by omega, hr, hb, hm, hseen⟩, rfl⟩
      · rintro ⟨m', hgo, rfl⟩
        cases hm.symm.trans hgo.first
        have httl := hgo.ttl
        have hunseen : ¬ g.Seen (InboundMessagePayload.ofMessage (some (correlationId c r)) m).messageId
            c.now := hgo.unseen
        rw [if_neg (by omega), hgo.redis]
        dsimp only
        rw [if_neg hunseen, dispatch_apply, hgo.broker]
        rfl

/-- If the delivery is answered as a success, each of its messages was enqueued
once or had been seen. -/
def NoneLost (dep : Deployment) (codec : Codec) (c : Conditions) (r : Request)
    (body : WhatsAppWebhook) (g : Gateway) : Prop :=
  ∀ g', webhook dep codec c r g = .ok .success g' →
    ∀ m ∈ body.messages, g'.enqueued m.id = g.enqueued m.id + 1 ∨ g.Seen m.id c.now

/-- A success that leaves another new message behind. -/
def LeavesBehind (dep : Deployment) (c : Conditions) (body : WhatsAppWebhook) (g : Gateway) : Prop :=
  ∃ m, GoesThrough dep c body m g ∧
    ∃ other ∈ body.messages, other.id ≠ m.id ∧ ¬ g.Seen other.id c.now

/-- Of a batch only the message in first position is handled. -/
theorem none_lost_iff (h : Accepted dep codec r body) :
    NoneLost dep codec c r body g ↔ ¬ LeavesBehind dep c body g := by
  constructor
  · rintro hnone ⟨m, hgo, other, hmem, hne, hunseen⟩
    have hs := (webhook_success_iff h).mpr ⟨m, hgo, rfl⟩
    rcases hnone _ hs other hmem with hcount | hseen
    · rw [Gateway.handed, Gateway.enqueued_push, Gateway.enqueued_mark] at hcount
      rw [if_neg (by exact fun he ↦ hne he.symm)] at hcount
      omega
    · exact hunseen hseen
  · intro hleft g' hs m hmem
    obtain ⟨first, hgo, rfl⟩ := (webhook_success_iff h).mp hs
    by_cases hseen : g.Seen m.id c.now
    · exact .inr hseen
    · refine .inl ?_
      have hsame : m.id = first.id := by
        by_contra hne
        exact hleft ⟨first, hgo, m, hmem, hne, hseen⟩
      rw [Gateway.handed, Gateway.enqueued_push, Gateway.enqueued_mark]
      rw [if_pos (by exact hsame.symm)]

/-! Two bodies of the provider, the second with another message after the first. -/

def hello : Message := ⟨"254700000001", "wamid.1", "text", "add product"⟩

def milk : Message := ⟨"254700000001", "wamid.2", "text", "milk"⟩

def messageJson (m : Message) : Json :=
  .obj [("from", .str m.from_), ("id", .str m.id), ("type", .str m.type),
    ("text", .obj [("body", .str m.text)])]

def bodyJson (messages : List Message) : Json :=
  .obj [("object", .str "whatsapp_business_account"), ("entry", .arr [.obj [("changes",
    .arr [.obj [("value", .obj [("messages", .arr (messages.map messageJson))])]])]])]

def bodyOf (messages : List Message) : WhatsAppWebhook :=
  ⟨"whatsapp_business_account", [⟨[⟨⟨messages⟩⟩]⟩]⟩

def bytesOf (text : String) : Bytes := text.toList.map fun c ↦ c.toNat.toUInt8

def oneText : String :=
  "\x7b\"object\":\"whatsapp_business_account\",\"entry\":[\x7b\"changes\":[\x7b\"value\":\x7b" ++
    "\"messages\":[\x7b\"from\":\"254700000001\",\"id\":\"wamid.1\",\"type\":\"text\"," ++
    "\"text\":\x7b\"body\":\"add product\"\x7d\x7d]\x7d\x7d]\x7d]\x7d"

def twoText : String :=
  "\x7b\"object\":\"whatsapp_business_account\",\"entry\":[\x7b\"changes\":[\x7b\"value\":\x7b" ++
    "\"messages\":[\x7b\"from\":\"254700000001\",\"id\":\"wamid.1\",\"type\":\"text\"," ++
    "\"text\":\x7b\"body\":\"add product\"\x7d\x7d,\x7b\"from\":\"254700000001\"," ++
    "\"id\":\"wamid.2\",\"type\":\"text\",\"text\":\x7b\"body\":\"milk\"\x7d\x7d]\x7d\x7d]\x7d]\x7d"

/-- What the libraries compute for one body. -/
def Codec.knowing (digest : String) (parsed : Json) : Codec where
  hexdigest _ _ := digest
  loads _ := some parsed

def oneDigest : String := "fff256bb35c00bd67cda4bd09fe1f279be193f02757099cab4ed39a61fbd804b"

def twoDigest : String := "f8115d28d0e3c4a015f67e108a8d92a3a03cde74593b405253c476730c6189d3"

def oneCodec : Codec := .knowing oneDigest (bodyJson [hello])

def twoCodec : Codec := .knowing twoDigest (bodyJson [hello, milk])

def secured : Deployment :=
  { Deployment.sample with settings := { whatsappAppSecret := some "app-secret" } }

def oneRequest : Request := ⟨bytesOf oneText, some ("sha256=" ++ oneDigest), none⟩

def twoRequest : Request := ⟨bytesOf twoText, some ("sha256=" ++ twoDigest), none⟩

/-- Redis and the broker answer. -/
def Conditions.fine (now : Timestamp) : Conditions := ⟨now, ⟨1⟩, .done, .done⟩

theorem oneRequest_accepted : Accepted secured oneCodec oneRequest (bodyOf [hello]) :=
  ⟨by decide +kernel, rfl⟩

theorem twoRequest_accepted : Accepted secured twoCodec twoRequest (bodyOf [hello, milk]) :=
  ⟨by decide +kernel, rfl⟩

theorem nothing_seen (id : String) (now : Timestamp) : ¬ ({} : Gateway).Seen id now := by
  rintro ⟨m, hm, -⟩
  cases hm

/-- The only message of a body is enqueued, the second of two is not. -/
theorem none_lost_iff_of_bodies :
    NoneLost secured oneCodec (.fine 0) oneRequest (bodyOf [hello]) {} ∧
      ¬ NoneLost secured twoCodec (.fine 0) twoRequest (bodyOf [hello, milk]) {} := by
  constructor
  · apply (none_lost_iff oneRequest_accepted).mpr
    rintro ⟨m, hgo, other, hmem, hne, -⟩
    cases hgo.first
    cases List.mem_singleton.mp hmem
    exact hne rfl
  · intro hnone
    have hgo : GoesThrough secured (.fine 0) (bodyOf [hello, milk]) hello {} :=
      ⟨by decide, rfl, rfl, rfl, nothing_seen _ _⟩
    exact (none_lost_iff twoRequest_accepted).mp hnone
      ⟨hello, hgo, milk, by decide, by decide, nothing_seen _ _⟩

/-- The second message of an accepted body: the delivery is a success, and the
message is neither enqueued nor marked. -/
theorem second_message_lost :
    Accepted secured twoCodec twoRequest (bodyOf [hello, milk]) ∧
      milk ∈ (bodyOf [hello, milk]).messages ∧
      ∃ g, webhook secured twoCodec (.fine 0) twoRequest {} = .ok .success g ∧
        g.enqueued milk.id = 0 ∧ ¬ ({} : Gateway).Seen milk.id 0 ∧ ¬ g.Seen milk.id 0 := by
  have hs : webhook secured twoCodec (.fine 0) twoRequest {} =
      .ok .success (({} : Gateway).handed secured (.fine 0) twoRequest hello) := by
    rw [webhook_of_first (m := hello) twoRequest_accepted rfl]
    rfl
  exact ⟨twoRequest_accepted, by decide, _, hs, by decide +kernel⟩

/-! ## The signature -/

/-- A digest of SHA-256 is written with 64 hexadecimal digits in lower case. -/
def Codec.Hexadecimal (codec : Codec) : Prop :=
  ∀ secret payload, (codec.hexdigest secret payload).toList.length = 64 ∧
    ∀ d ∈ (codec.hexdigest secret payload).toList, d ∈ "0123456789abcdef".toList

/-- A secret is configured, and this follows `sha256=` in the header. -/
def Presents (dep : Deployment) (r : Request) (secret rest : String) : Prop :=
  dep.settings.whatsappAppSecret = some secret ∧ secret ≠ "" ∧ r.signature = some ("sha256=" ++ rest)

/-- The header presents the digest of the body, with white space around it or not. -/
def Signed (dep : Deployment) (codec : Codec) (r : Request) : Prop :=
  ∃ secret rest, Presents dep r secret rest ∧ Text.strip rest = codec.hexdigest secret r.rawBody

/-- The header presents a digest with characters that are not ASCII. -/
def Garbled (dep : Deployment) (r : Request) : Prop :=
  ∃ secret rest, Presents dep r secret rest ∧ isAscii (Text.strip rest) = false

/-- What is not signed is answered with 401 and without any effect; what is
signed passes the check. -/
structure ChecksSignature (dep : Deployment) (codec : Codec) (r : Request) : Prop where
  refused : ¬ Signed dep codec r → ∀ c g,
    webhook dep codec c r g = .ok (.error 401 "Invalid or missing HMAC signature") g
  passed : Signed dep codec r →
    verifyHmacSignature codec r.rawBody r.signature dep.settings.whatsappAppSecret = .ok true

theorem Presents.unique {secret rest secret' rest' : String} (h : Presents dep r secret rest)
    (h' : Presents dep r secret' rest') : secret = secret' ∧ rest = rest' := by
  have hheader := h.2.2.symm.trans h'.2.2
  rw [Option.some.injEq, ← String.toList_inj, String.toList_append, String.toList_append,
    List.append_cancel_left_eq, String.toList_inj] at hheader
  exact ⟨Option.some.inj (h.1.symm.trans h'.1), hheader⟩

theorem verify_of_presents {secret rest : String} (h : Presents dep r secret rest) :
    verifyHmacSignature codec r.rawBody r.signature dep.settings.whatsappAppSecret =
      compareDigest (codec.hexdigest secret r.rawBody) (Text.strip rest) := by
  obtain ⟨hsecret, hne, hheader⟩ := h
  have hnonempty : "sha256=" ++ rest ≠ "" := by
    intro hempty
    have hlist := congrArg String.toList hempty
    simp at hlist
  have hmark : ("sha256=" ++ rest).toList = "sha256=".toList ++ rest.toList :=
    String.toList_append
  have htake : ("sha256=" ++ rest).toList.take 7 = "sha256=".toList := by
    rw [hmark]
    rfl
  have hdrop : ("sha256=" ++ rest).toList.drop 7 = rest.toList := by
    rw [hmark]
    rfl
  rw [hsecret, hheader, verifyHmacSignature, if_neg (by simp [hnonempty, hne]),
    if_neg (not_not.mpr htake), hdrop, String.ofList_toList]

theorem verify_of_absent (h : ∀ secret rest, ¬ Presents dep r secret rest) :
    verifyHmacSignature codec r.rawBody r.signature dep.settings.whatsappAppSecret = .ok false := by
  unfold verifyHmacSignature
  split
  · rename_i header secret hheader hsecret
    split
    · rfl
    · rename_i hne
      split
      · rfl
      · rename_i hmark
        refine absurd ⟨hsecret, ?_, ?_⟩ (h secret (String.ofList (header.toList.drop 7)))
        · intro hempty
          exact hne (.inr hempty)
        · have hsplit := List.take_append_drop 7 header.toList
          rw [not_not.mp hmark] at hsplit
          have hrest : (String.ofList (header.toList.drop 7)).toList = header.toList.drop 7 :=
            String.toList_ofList
          rw [hheader, Option.some.injEq, ← String.toList_inj, String.toList_append, hrest]
          exact hsplit.symm
  · rfl

theorem Codec.Hexadecimal.isAscii (h : codec.Hexadecimal) (secret : String) (payload : Bytes) :
    isAscii (codec.hexdigest secret payload) = true := by
  have hdigits : ("0123456789abcdef".toList.all fun d ↦ decide (d.toNat < 128)) = true := by
    decide
  apply List.all_eq_true.mpr
  intro d hd
  exact List.all_eq_true.mp hdigits d ((h secret payload).2 d hd)

theorem webhook_of_refused
    (h : verifyHmacSignature codec r.rawBody r.signature dep.settings.whatsappAppSecret = .ok false) :
    webhook dep codec c r g = .ok (.error 401 "Invalid or missing HMAC signature") g := by
  unfold webhook
  rw [h]
  rfl

theorem webhook_of_raised {e : Exc}
    (h : verifyHmacSignature codec r.rawBody r.signature dep.settings.whatsappAppSecret = .error e) :
    webhook dep codec c r g = .error e g := by
  unfold webhook
  rw [h]
  rfl

/-- The signature is checked as it should be unless it has characters that the
comparison does not take. -/
theorem checksSignature_iff (hex : codec.Hexadecimal) :
    ChecksSignature dep codec r ↔ ¬ Garbled dep r := by
  constructor
  · rintro h ⟨secret, rest, hp, hgarbled⟩
    have hverify : verifyHmacSignature codec r.rawBody r.signature dep.settings.whatsappAppSecret =
        .error (.other "TypeError" "comparing strings with non-ASCII characters is not supported") := by
      rw [verify_of_presents hp, compareDigest, if_neg (by simp [hgarbled])]
    have hunsigned : ¬ Signed dep codec r := by
      rintro ⟨secret', rest', hp', hdigest⟩
      obtain ⟨rfl, rfl⟩ := hp.unique hp'
      rw [hdigest, hex.isAscii] at hgarbled
      cases hgarbled
    have hanswer := h.refused hunsigned ⟨0, ⟨0⟩, .done, .done⟩ {}
    rw [webhook_of_raised hverify] at hanswer
    cases hanswer
  · intro hclean
    constructor
    · intro hunsigned c g
      apply webhook_of_refused
      by_cases hp : ∃ secret rest, Presents dep r secret rest
      · obtain ⟨secret, rest, hp⟩ := hp
        have hascii : isAscii (Text.strip rest) = true := by
          rw [← Bool.not_eq_false]
          intro hgarbled
          exact hclean ⟨secret, rest, hp, hgarbled⟩
        have hother : codec.hexdigest secret r.rawBody ≠ Text.strip rest := by
          intro hdigest
          exact hunsigned ⟨secret, rest, hp, hdigest.symm⟩
        rw [verify_of_presents hp, compareDigest, if_pos (by simp [hex.isAscii, hascii])]
        simp [hother]
      · apply verify_of_absent
        intro secret rest hpresents
        exact hp ⟨secret, rest, hpresents⟩
    · rintro ⟨secret, rest, hp, hdigest⟩
      rw [verify_of_presents hp, hdigest, compareDigest, if_pos (by simp [hex.isAscii])]
      simp

theorem oneCodec_hexadecimal : oneCodec.Hexadecimal := by
  have hdigits : (oneDigest.toList.all fun d ↦ "0123456789abcdef".toList.contains d) = true := by
    decide +kernel
  have hlength : oneDigest.toList.length = 64 := by decide
  intro secret payload
  refine ⟨hlength, ?_⟩
  intro d hd
  exact List.contains_iff_mem.mp (List.all_eq_true.mp hdigits d hd)

theorem checksSignature_oneRequest : ChecksSignature secured oneCodec oneRequest := by
  apply (checksSignature_iff oneCodec_hexadecimal).mpr
  rintro ⟨secret, rest, hp, hgarbled⟩
  have hrest : Presents secured oneRequest "app-secret" oneDigest := ⟨rfl, by decide, rfl⟩
  obtain ⟨-, rfl⟩ := hrest.unique hp
  revert hgarbled
  decide +kernel

/-- A digest that ends in an accented letter. -/
def accentedRequest : Request := ⟨bytesOf oneText, some "sha256=café", none⟩

/-- The accented digest is not refused: the check raises. -/
theorem accentedRequest_raises : ¬ Signed secured oneCodec accentedRequest ∧
    webhook secured oneCodec (.fine 0) accentedRequest {} =
      .error (.other "TypeError" "comparing strings with non-ASCII characters is not supported") {} ∧
    ¬ ChecksSignature secured oneCodec accentedRequest := by
  have hp : Presents secured accentedRequest "app-secret" "café" := ⟨rfl, by decide, rfl⟩
  have hraised : webhook secured oneCodec (.fine 0) accentedRequest {} =
      .error (.other "TypeError" "comparing strings with non-ASCII characters is not supported") {} := by
    apply webhook_of_raised
    rw [verify_of_presents hp]
    rfl
  have hunsigned : ¬ Signed secured oneCodec accentedRequest := by
    rintro ⟨secret, rest, hp', hdigest⟩
    obtain ⟨-, rfl⟩ := hp.unique hp'
    have hne : Text.strip "caf\u00e9" ≠ oneDigest := by decide +kernel
    exact hne hdigest
  refine ⟨hunsigned, hraised, ?_⟩
  intro h
  have hanswer := h.refused hunsigned (.fine 0) {}
  rw [hraised] at hanswer
  cases hanswer

end SokoFlow
