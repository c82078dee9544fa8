import SokoFlow.Conversation.Countable
import SokoFlow.Webhook
import SokoFlow.Worker

/-!
# The stored session and its script (`conversation_store.py`, `update_session_state.lua`)

Python and Lua read the same bytes by different rules: pydantic wants a whole
session, the script a value with the expected state.  A session that a worker
saved passes both, and there the store is the compare-and-set of sessions; on
other bytes the script has the last word.
-/

namespace SokoFlow

def SessionState.value : SessionState → String
  | IDLE => "IDLE"
  | START_ADD_PRODUCT => "START_ADD_PRODUCT"
  | ADD_PRODUCT_NAME => "ADD_PRODUCT_NAME"
  | ADD_PRODUCT_PRICE => "ADD_PRODUCT_PRICE"
  | ADD_PRODUCT_QTY => "ADD_PRODUCT_QTY"
  | CONFIRM_ADD_PRODUCT => "CONFIRM_ADD_PRODUCT"
  | RECORD_SALE_PRODUCT => "RECORD_SALE_PRODUCT"
  | RECORD_SALE_PRODUCT_SELECTION => "RECORD_SALE_PRODUCT_SELECTION"
  | RECORD_SALE_QTY => "RECORD_SALE_QTY"
  | CONFIRM_SALE => "CONFIRM_SALE"
  | CHECK_STOCK_PRODUCT => "CHECK_STOCK_PRODUCT"
  | CHECK_STOCK_PRODUCT_SELECTION => "CHECK_STOCK_PRODUCT_SELECTION"
  | REPORT_PENDING => "REPORT_PENDING"
  | ANALYTICS_PRODUCT_SELECTION => "ANALYTICS_PRODUCT_SELECTION"

theorem SessionState.value_injective : Function.Injective SessionState.value := by
  intro a b h
  cases a <;> cases b <;> first | rfl | exact absurd h (by decide)

namespace SessionStore

open ConversationStore

/-- How the bytes under a key are read. -/
structure SessionCodec where
  /-- `decode_responses=True`; `none` is its `UnicodeDecodeError` -/
  utf8 : Bytes → Option String
  /-- `UserSession.model_validate_json`; `none` is its `ValidationError` -/
  decodeSession : String → Option UserSession
  encodeSession : UserSession → Bytes
  /-- `cjson.decode`; `none` is its error -/
  cjson : Bytes → Option Json

/-- `current_session.state`: a table may have the field, a text has only what
its library has, and any other value cannot be indexed. -/
def indexState : Json → Except String (Option Json)
  | .obj fields => .ok (Json.Object.get? fields "state")
  | .arr _ => .ok none
  | .str _ => .ok none
  | .null => .error "attempt to index local 'current_session' (a userdata value)"
  | .bool _ => .error "attempt to index local 'current_session' (a boolean value)"
  | .int _ | .float _ => .error "attempt to index local 'current_session' (a number value)"

/-- What Redis answers a script with. -/
inductive Reply
  | result (n : ℤ)
  | error (text : String)

/-- `SET key value EX ttl` -/
def set (stored : Option Bytes) (payload : Bytes) (ttl : ℤ) : Reply × Option Bytes :=
  if 0 < ttl then (.result 1, some payload)
  else (.error "invalid expire time in 'set' command", stored)

/-- `update_session_state.lua`: the reply, and what the key holds then. -/
def updateSessionState (codec : SessionCodec) (stored : Option Bytes) (expectedOldState : String)
    (payload : Bytes) (ttl : ℤ) : Reply × Option Bytes :=
  match stored with
  | none => set stored payload ttl
  | some raw =>
      match codec.cjson raw with
      | none => (.result (-1), stored)
      | some session =>
          match indexState session with
          | .error text => (.error text, stored)
          | .ok (some (.str state)) =>
              if state = expectedOldState then set stored payload ttl else (.result 0, stored)
          | .ok _ => (.result 0, stored)

/-- `get_session` -/
def getSession (codec : SessionCodec) (stored : Option Bytes) : Except Exc (Option UserSession) :=
  match stored with
  | none => .ok none
  | some raw =>
      match codec.utf8 raw with
      | none => .error (.other "UnicodeDecodeError" "invalid start byte")
      | some text => if text = "" then .ok none else .ok (codec.decodeSession text)

/-- `_handle_lua_result`, and what redis-py raises for an error of the script. -/
def handleReply (sessionId : String) : Reply → Except Exc Unit
  | .result 1 => .ok ()
  | .result 0 => .error (.sessionStateMismatch sessionId)
  | .result (-1) => .error (.corruptedSession sessionId)
  | .result n => .error (.other "RuntimeError" ("Invalid or unmapped Lua response " ++ Text.ofInt n))
  | .error text => .error (.other "ResponseError" text)

/-- `save_session`: what it returns or raises, and what the key holds then. -/
def saveSession (codec : SessionCodec) (ttl : ℤ) (sessionId : String) (newSession : UserSession)
    (oldSession : Option UserSession) (stored : Option Bytes) : Except Exc Unit × Option Bytes :=
  let r := updateSessionState codec stored (expectedState oldSession).value
    (codec.encodeSession newSession) ttl
  (handleReply sessionId r.1, r.2)

/-! ## The script -/

variable {codec : SessionCodec} {raw payload : Bytes} {expected : String} {ttl : ℤ} {value : Json}

/-- The value is an object with this state. -/
def HasState (value : Json) (state : String) : Prop :=
  ∃ fields, value = .obj fields ∧ Json.Object.get? fields "state" = some (.str state)

/-- An object, an array or a text. -/
def Indexable : Json → Prop
  | .obj _ | .arr _ | .str _ => True
  | _ => False

theorem updateSessionState_corrupted (h : codec.cjson raw = none) :
    updateSessionState codec (some raw) expected payload ttl = (.result (-1), some raw) := by
  simp [updateSessionState, h]

theorem updateSessionState_same (h : codec.cjson raw = some value) (hs : HasState value expected) :
    updateSessionState codec (some raw) expected payload ttl = set (some raw) payload ttl := by
  obtain ⟨fields, rfl, hstate⟩ := hs
  simp [updateSessionState, h, indexState, hstate]

theorem updateSessionState_other (h : codec.cjson raw = some value) (hi : Indexable value)
    (hs : ¬ HasState value expected) :
    updateSessionState codec (some raw) expected payload ttl = (.result 0, some raw) := by
  simp only [updateSessionState, h]
  cases value with
  | obj fields =>
      simp only [indexState]
      cases hstate : Json.Object.get? fields "state" with
      | none => rfl
      | some state =>
          cases state with
          | str state =>
              have hne : state ≠ expected := by
                rintro rfl
                exact hs ⟨fields, rfl, hstate⟩
              simp [hne]
          | _ => rfl
  | arr items => rfl
  | str s => rfl
  | _ => exact hi.elim

/-! ## The sessions workers save -/

/-- A saved session is read back by Python, and has its state for Lua. -/
structure SessionCodec.Lawful (codec : SessionCodec) : Prop where
  read : ∀ s, ∃ text, codec.utf8 (codec.encodeSession s) = some text ∧ text ≠ "" ∧
    codec.decodeSession text = some s
  state : ∀ s : UserSession, ∃ fields, codec.cjson (codec.encodeSession s) = some (.obj fields) ∧
    Json.Object.get? fields "state" = some (.str s.state.value)

theorem getSession_of_saved (hc : codec.Lawful) (stored : Option UserSession) :
    getSession codec (stored.map codec.encodeSession) = .ok stored := by
  cases stored with
  | none => rfl
  | some s =>
      obtain ⟨text, hutf8, hne, hdecode⟩ := hc.read s
      simp [getSession, hutf8, hne, hdecode]

/-- On saved sessions the script is the compare-and-set of their states. -/
theorem saveSession_refines (hc : codec.Lawful) (httl : 0 < ttl) (newSession : UserSession)
    (oldSession stored : Option UserSession) :
    saveSession codec ttl newSession.phone newSession oldSession (stored.map codec.encodeSession) =
      match ConversationStore.saveSession newSession oldSession stored with
      | .ok stored' => (.ok (), stored'.map codec.encodeSession)
      | .error e => (.error e, stored.map codec.encodeSession) := by
  unfold saveSession ConversationStore.saveSession
  cases stored with
  | none => simp [updateSessionState, set, httl, handleReply, accepts]
  | some s =>
      obtain ⟨fields, hcjson, hstate⟩ := hc.state s
      by_cases hs : s.state = expectedState oldSession
      · have hsame : HasState (.obj fields) (expectedState oldSession).value :=
          ⟨fields, rfl, hs ▸ hstate⟩
        simp [updateSessionState_same hcjson hsame, set, httl, handleReply, accepts, hs]
      · have hother : ¬ HasState (.obj fields) (expectedState oldSession).value := by
          rintro ⟨_, heq, h⟩
          cases heq
          rw [hstate] at h
          exact hs (SessionState.value_injective (Json.str.inj (Option.some.inj h)))
        simp [updateSessionState_other hcjson trivial hother, handleReply, accepts, hs]

/-! ## A codec

The bytes are JSON with the state and, for the rest, the number of the session. -/

/-- A number for each session. -/
noncomputable def number : UserSession → ℕ := (exists_injective_nat UserSession).choose

theorem number_injective : Function.Injective number := (exists_injective_nat UserSession).choose_spec

/-- What stands before and after the number of a session. -/
def textHead : List Char := "\x7b\"session\":\"".toList

def textTail (state : SessionState) : List Char :=
  "\",\"state\":\"".toList ++ state.value.toList ++ "\"\x7d".toList

/-- A session in JSON: its state, and its number for the rest. -/
noncomputable def text (s : UserSession) : List Char :=
  textHead ++ Nat.toDigits 10 (number s) ++ textTail s.state

theorem filter_text (s : UserSession) :
    (text s).filter Char.isDigit = Nat.toDigits 10 (number s) := by
  have hhead : textHead.filter Char.isDigit = [] := by decide
  have htail : ∀ state, (textTail state).filter Char.isDigit = [] := by
    intro state
    cases state <;> decide
  have hdigits : (Nat.toDigits 10 (number s)).filter Char.isDigit = Nat.toDigits 10 (number s) :=
    List.filter_eq_self.mpr fun c hc ↦ Nat.isDigit_of_mem_toDigits (by decide) (by decide) hc
  simp only [text, List.filter_append, hhead, hdigits, htail, List.nil_append, List.append_nil]

theorem text_injective : Function.Injective text := by
  intro s s' h
  have hdigits : Nat.toDigits 10 (number s) = Nat.toDigits 10 (number s') := by
    rw [← filter_text, h, filter_text]
  have hnumber := congrArg (Nat.ofDigitChars 10 · 0) hdigits
  simp only [Nat.ofDigitChars_toDigits (by decide : 1 < 10) (by decide)] at hnumber
  exact number_injective hnumber

theorem ofList_text_injective : Function.Injective fun s ↦ String.ofList (text s) :=
  fun _ _ h ↦ text_injective (String.ofList_injective h)

theorem ascii_text (s : UserSession) : ∀ c ∈ text s, c.toNat < 128 := by
  have hhead : (textHead.all fun c ↦ decide (c.toNat < 128)) = true := by decide
  have htail : ∀ state, ((textTail state).all fun c ↦ decide (c.toNat < 128)) = true := by
    intro state
    cases state <;> decide
  intro c hc
  rcases List.mem_append.mp hc with hc | hc
  · rcases List.mem_append.mp hc with hc | hc
    · exact of_decide_eq_true (List.all_eq_true.mp hhead c hc)
    · have hdigit : c.isDigit = true := Nat.isDigit_of_mem_toDigits (by decide) (by decide) hc
      simp only [Char.isDigit, Bool.and_eq_true, decide_eq_true_eq] at hdigit
      have hle : c.toNat ≤ 57 := hdigit.2
      omega
  · exact of_decide_eq_true (List.all_eq_true.mp (htail s.state) c hc)

noncomputable def bytes (s : UserSession) : Bytes := (text s).map fun c ↦ UInt8.ofNat c.toNat

def chars (raw : Bytes) : List Char := raw.map fun b ↦ Char.ofNat b.toNat

/-- The text of bytes below 128. -/
def ascii (raw : Bytes) : Option String :=
  if raw.all (· < 128) then some (String.ofList (chars raw)) else none

theorem toNat_ofNat_of_mem_text {s : UserSession} {c : Char} (hc : c ∈ text s) :
    (UInt8.ofNat c.toNat).toNat = c.toNat :=
  UInt8.toNat_ofNat_of_lt' ((ascii_text s c hc).trans (by decide))

theorem chars_bytes (s : UserSession) : chars (bytes s) = text s := by
  calc chars (bytes s)
    _ = (text s).map fun c ↦ Char.ofNat (UInt8.ofNat c.toNat).toNat := List.map_map
    _ = (text s).map id := by
        apply List.map_congr_left
        intro c hc
        rw [toNat_ofNat_of_mem_text hc, Char.ofNat_toNat, id_eq]
    _ = text s := List.map_id _

theorem ascii_bytes (s : UserSession) : ascii (bytes s) = some (String.ofList (text s)) := by
  have hall : (bytes s).all (· < 128) = true := by
    rw [List.all_eq_true]
    intro b hb
    obtain ⟨c, hc, rfl⟩ := List.mem_map.mp hb
    rw [decide_eq_true_eq, UInt8.lt_iff_toNat_lt, toNat_ofNat_of_mem_text hc]
    exact ascii_text s c hc
  rw [ascii, if_pos hall, chars_bytes]

theorem bytes_injective : Function.Injective bytes := by
  intro s s' h
  apply text_injective
  rw [← chars_bytes, h, chars_bytes]

/-- What is not the text of a session is refused by both readers. -/
noncomputable def numberedSessions : SessionCodec where
  utf8 := ascii
  decodeSession := Function.partialInv fun s ↦ String.ofList (text s)
  encodeSession := bytes
  cjson raw := (Function.partialInv bytes raw).map fun s ↦
    .obj [("session", .str (String.ofList (Nat.toDigits 10 (number s)))),
      ("state", .str s.state.value)]

theorem numberedSessions_lawful : numberedSessions.Lawful where
  read s := by
    refine ⟨_, ascii_bytes s, ?_, Function.partialInv_left ofList_text_injective s⟩
    intro h
    have hlist := congrArg String.toList h
    rw [String.toList_ofList] at hlist
    cases hlist
  state s := by
    refine ⟨_, congrArg (Option.map _) (Function.partialInv_left bytes_injective s), ?_⟩
    rfl

-- what was saved over nothing is found
example (s : UserSession) :
    getSession numberedSessions (saveSession numberedSessions 1800 s.phone s none none).2 = .ok (some s) :=
  getSession_of_saved numberedSessions_lawful (some s)

theorem take_text (s : UserSession) : (text s).take 12 = textHead := by
  rw [text, List.append_assoc]
  exact List.take_left' (by decide)

/-- Lua does not decode bytes that do not begin as a saved session, -/
theorem cjson_numberedSessions (h : (chars raw).take 12 ≠ textHead) :
    numberedSessions.cjson raw = none := by
  have hnone : Function.partialInv bytes raw = none := by
    apply Option.eq_none_iff_forall_ne_some.mpr
    intro s hs
    have hbytes : bytes s = raw := (bytes_injective.isPartialInv s raw).mp hs
    apply h
    rw [← hbytes, chars_bytes, take_text]
  exact congrArg (Option.map _) hnone

/-- and Python reads them as no session. -/
theorem getSession_numberedSessions (h : (chars raw).take 12 ≠ textHead)
    (hascii : raw.all (· < 128) = true) :
    getSession numberedSessions (some raw) = .ok none := by
  have hutf8 : numberedSessions.utf8 raw = some (String.ofList (chars raw)) := if_pos hascii
  have hdecode : numberedSessions.decodeSession (String.ofList (chars raw)) = none := by
    apply Option.eq_none_iff_forall_ne_some.mpr
    intro s hs
    have htext : text s = chars raw :=
      String.ofList_injective ((ofList_text_injective.isPartialInv s _).mp hs)
    apply h
    rw [← htext, take_text]
  simp [getSession, hutf8, hdecode]

/-! ## Unreadable sessions -/

/-- The script always replies with one of its results and writes only on
success; and the session of a message on an unreadable stored one is saved. -/
def NeverLocksOut (codec : SessionCodec) (ttl : ℤ) (raw : Bytes) : Prop :=
  (∀ expected payload, ∃ n, (updateSessionState codec (some raw) expected payload ttl).1 = .result n ∧
    (n = 1 ∨ n = 0 ∨ n = -1) ∧
    (n ≠ 1 → (updateSessionState codec (some raw) expected payload ttl).2 = some raw)) ∧
  (getSession codec (some raw) = .ok none → ∀ sessionId newSession,
    saveSession codec ttl sessionId newSession none (some raw) =
      (.ok (), some (codec.encodeSession newSession)))

/-- An opening brace, on which both readers fail. -/
theorem open_brace_locks_out : ¬ NeverLocksOut numberedSessions 1800 [123] := by
  intro h
  have hforeign : (chars [123]).take 12 ≠ textHead := by decide
  have hcjson := cjson_numberedSessions hforeign
  have hnone := getSession_numberedSessions hforeign (by decide)
  have hsave := h.2 hnone "254700000001" (.fresh "254700000001")
  simp only [saveSession, updateSessionState_corrupted hcjson, handleReply] at hsave
  cases hsave

/-- How the script ends on bytes that Lua can index, or not decode. -/
inductive Scripted (codec : SessionCodec) (ttl : ℤ) (raw : Bytes) (expected : String)
    (payload : Bytes) : Prop
  | corrupted (h : codec.cjson raw = none)
      (hr : updateSessionState codec (some raw) expected payload ttl = (.result (-1), some raw))
  | mismatch {value : Json} (h : codec.cjson raw = some value) (hs : ¬ HasState value expected)
      (hr : updateSessionState codec (some raw) expected payload ttl = (.result 0, some raw))
  | success {value : Json} (h : codec.cjson raw = some value) (hs : HasState value expected)
      (hr : updateSessionState codec (some raw) expected payload ttl = (.result 1, some payload))

theorem updateSessionState_scripted (httl : 0 < ttl)
    (hi : ∀ value, codec.cjson raw = some value → Indexable value) (expected : String)
    (payload : Bytes) : Scripted codec ttl raw expected payload := by
  cases h : codec.cjson raw with
  | none => exact .corrupted h (updateSessionState_corrupted h)
  | some value =>
      by_cases hs : HasState value expected
      · apply Scripted.success h hs
        simp [updateSessionState_same h hs, set, httl]
      · exact .mismatch h hs (updateSessionState_other h (hi value h) hs)

/-- How the first message after an unreadable session is saved. -/
inductive SavedOver (codec : SessionCodec) (ttl : ℤ) (raw : Bytes) (sessionId : String)
    (newSession : UserSession) : Prop
  | corrupted (h : codec.cjson raw = none) (hr : saveSession codec ttl sessionId newSession none
      (some raw) = (.error (.corruptedSession sessionId), some raw))
  | mismatch {value : Json} (h : codec.cjson raw = some value) (hs : ¬ HasState value "IDLE")
      (hr : saveSession codec ttl sessionId newSession none (some raw) =
        (.error (.sessionStateMismatch sessionId), some raw))
  | success {value : Json} (h : codec.cjson raw = some value) (hs : HasState value "IDLE")
      (hr : saveSession codec ttl sessionId newSession none (some raw) =
        (.ok (), some (codec.encodeSession newSession)))

/-- Unless the bytes are a number, a boolean or null to Lua, the script ends
with one of its results, each in its case, and writes only on success.  The
session of a message on an unreadable stored one replaces it exactly if the
bytes have the state `IDLE` to Lua; else they stay as they are. -/
theorem unreadable_session (httl : 0 < ttl)
    (hi : ∀ value, codec.cjson raw = some value → Indexable value) :
    (∀ expected payload, Scripted codec ttl raw expected payload) ∧
    (getSession codec (some raw) = .ok none → ∀ sessionId newSession,
      SavedOver codec ttl raw sessionId newSession) := by
  have hscripted := updateSessionState_scripted httl hi
  refine ⟨hscripted, ?_⟩
  intro _ sessionId newSession
  have hexpected : (expectedState none).value = "IDLE" := rfl
  cases hscripted "IDLE" (codec.encodeSession newSession) with
  | corrupted h hr =>
      apply SavedOver.corrupted h
      simp [saveSession, hexpected, hr, handleReply]
  | mismatch h hs hr =>
      apply SavedOver.mismatch h hs
      simp [saveSession, hexpected, hr, handleReply]
  | success h hs hr =>
      apply SavedOver.success h hs
      simp [saveSession, hexpected, hr, handleReply]

def stateOnlyBytes : Bytes := [123, 34, 115, 116, 97, 116, 101, 34, 58, 34, 73, 68, 76, 69, 34, 125]

/-- Lua also reads an object with a state and nothing else. -/
noncomputable def stateOnly : SessionCodec :=
  { numberedSessions with
    cjson := fun raw ↦
      if raw = stateOnlyBytes then some (.obj [("state", .str "IDLE")]) else numberedSessions.cjson raw }

theorem state_only_saved_over :
    getSession stateOnly (some stateOnlyBytes) = .ok none ∧
      SavedOver stateOnly 1800 stateOnlyBytes "254700000001" (.fresh "254700000001") := by
  have hforeign : (chars stateOnlyBytes).take 12 ≠ textHead := by decide
  have hnone : getSession stateOnly (some stateOnlyBytes) = .ok none :=
    getSession_numberedSessions hforeign (by decide)
  refine ⟨hnone, (unreadable_session (by decide) ?_).2 hnone _ _⟩
  intro value hvalue
  have hobj : stateOnly.cjson stateOnlyBytes = some (.obj [("state", .str "IDLE")]) := by
    simp [stateOnly]
  cases hobj.symm.trans hvalue
  trivial

end SessionStore

end SokoFlow
