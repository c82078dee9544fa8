import SokoFlow.Conversation.Confirmation

/-!
# `conversation_tasks.py` and `conversation_store.py`

A worker reads the session of a phone, processes one message in a database
transaction of its own, and then saves the session by compare-and-set: the
script looks at the name of the stored state, and at nothing if no session is
stored.  What is stored is always a session some worker saved.
-/

namespace SokoFlow

open DbM Effect

/-- A handler on a session of its own, which it returns. -/
def FlowM.runOn {α : Type} (s : UserSession) (x : FlowM α) : DbM (α × UserSession) := fun b ↦
  match x ⟨s, b⟩ with
  | .ok a t => .ok (a, t.session) t.backend
  | .error e t => .error e t.backend

structure Processed where
  result : FSMResult
  session : UserSession
  locale : ShopLocale

/-- The transaction of a worker: the message, and the locale of the reply. -/
def handleMessage (dep : Deployment) (phone text : String) (current : UserSession) :
    DbM Processed :=
  getWorkerDb do
    let (result, session) ← FlowM.runOn current (FSMEngine.processMessage dep text)
    let locale ← select fun db ↦ ((db.shopByPhone phone).map Shop.locale).getD .en
    return ⟨result, session, locale⟩

/-! ## The session store -/

namespace ConversationStore

/-- `old_session.state if old_session else SessionState.IDLE` -/
def expectedState (oldSession : Option UserSession) : SessionState :=
  (oldSession.map UserSession.state).getD .IDLE

/-- `update_session_state.lua`: whether the write goes through. -/
def accepts (stored : Option UserSession) (expected : SessionState) : Bool :=
  match stored with
  | none => true
  | some current => current.state = expected

/-- `save_session` -/
def saveSession (newSession : UserSession) (oldSession : Option UserSession)
    (stored : Option UserSession) : Except Exc (Option UserSession) :=
  if accepts stored (expectedState oldSession) then .ok (some newSession)
  else .error (.sessionStateMismatch newSession.phone)

/-- The session a worker starts from. -/
def current (phone : String) (oldSession : Option UserSession) : UserSession :=
  oldSession.getD (UserSession.fresh phone)

theorem accepts_self (stored : Option UserSession) : accepts stored (expectedState stored) := by
  cases stored <;> simp [accepts, expectedState]

theorem state_of_current (phone : String) (old : Option UserSession) :
    (current phone old).state = expectedState old := by
  cases old <;> rfl

end ConversationStore

open ConversationStore

/-! ## The task -/

/-- What a worker works on: the key of the phone, and a database session. -/
structure Desk where
  stored : Option UserSession
  backend : Backend

/-- `conversation`, up to rendering and sending the reply. -/
def conversation (dep : Deployment) (phone text : String) : EStateM Exc Desk Processed := do
  let oldSession ← reads Desk.stored
  let processed ← zoom Desk.backend (fun b d ↦ { d with backend := b })
    (handleMessage dep phone text (current phone oldSession))
  fun d ↦ match saveSession processed.session oldSession d.stored with
    | .ok stored => .ok processed { d with stored := stored }
    | .error e => .error e d

variable {dep : Deployment} {phone text : String} {s : UserSession} {b b' : Backend}
  {p : Processed} {e : Exc}

/-! ## What the transaction does -/

theorem runOn_ok {α : Type} {x : FlowM α} {a : α} {s' : UserSession}
    (h : FlowM.runOn s x b = .ok (a, s') b') :
    ∃ t, x ⟨s, b⟩ = .ok a t ∧ t.session = s' ∧ t.backend = b' := by
  unfold FlowM.runOn at h
  split at h <;> cases h
  exact ⟨_, by assumption, rfl, rfl⟩

theorem runOn_error {α : Type} {x : FlowM α} (h : FlowM.runOn s x b = .error e b') :
    ∃ t, x ⟨s, b⟩ = .error e t ∧ t.backend = b' := by
  unfold FlowM.runOn at h
  split at h <;> cases h
  exact ⟨_, by assumption, rfl⟩

/-- A message that is handled is committed. -/
theorem handleMessage_ok (h : handleMessage dep phone text s b = .ok p b') :
    ∃ t, FSMEngine.processMessage dep text ⟨s, b⟩ = .ok p.result t ∧ p.session = t.session ∧
      b'.committed = t.backend.working ∧ b'.working = t.backend.working ∧
      b'.journal = t.backend.journal := by
  obtain ⟨b₁, h₁, hc⟩ := getWorkerDb_eq_ok.mp h
  obtain ⟨⟨r, s'⟩, b₂, h₂, h₁⟩ := bind_eq_ok.mp h₁
  obtain ⟨locale, b₃, h₃, h₁⟩ := bind_eq_ok.mp h₁
  cases h₁
  obtain ⟨t, ht, rfl, rfl⟩ := runOn_ok h₂
  have hl := commit_ok hc (select_aborted h₃)
  have hu := (select_ok h₃).2
  exact ⟨t, ht, rfl, hl.committed.trans hu.working, hl.working.trans hu.working,
    hl.journal.trans hu.journal⟩

/-- A message that is not handled commits what it had committed when it raised. -/
theorem handleMessage_error (h : handleMessage dep phone text s b = .error e b') :
    ∃ t, (FSMEngine.processMessage dep text ⟨s, b⟩ = .error e t ∨
        ∃ r, FSMEngine.processMessage dep text ⟨s, b⟩ = .ok r t) ∧
      b'.committed = t.backend.committed ∧ b'.journal = t.backend.journal := by
  obtain ⟨b₁, h₁ | ⟨_, b₀, h₀, h₁⟩, rfl⟩ := getWorkerDb_error h
  · rcases bind_eq_error.mp h₁ with h₁ | ⟨⟨r, s'⟩, b₂, h₂, h₁⟩
    · obtain ⟨t, ht, rfl⟩ := runOn_error h₁
      exact ⟨t, .inl ht, rfl, rfl⟩
    · obtain ⟨t, ht, rfl, rfl⟩ := runOn_ok h₂
      rcases bind_eq_error.mp h₁ with h₁ | ⟨_, _, _, h₁⟩
      · have hu := (select_error h₁).1
        exact ⟨t, .inr ⟨r, ht⟩, hu.committed, hu.journal⟩
      · cases h₁
  · obtain ⟨⟨r, s'⟩, b₂, h₂, h₀⟩ := bind_eq_ok.mp h₀
    obtain ⟨locale, b₃, h₃, h₀⟩ := bind_eq_ok.mp h₀
    cases h₀
    obtain ⟨t, ht, rfl, rfl⟩ := runOn_ok h₂
    have hu := (select_ok h₃).2
    have hk := (commit_error h₁).2.2
    exact ⟨t, .inr ⟨r, ht⟩, hk.committed.trans hu.committed, hk.journal.trans hu.journal⟩

/-- The rows a worker commits, from rows that are all committed: it records
the sale its session had ordered, or none. -/
theorem handleMessage_ok_effect (hb : b.working = b.committed)
    (h : handleMessage dep phone text s b = .ok p b') :
    KeepsStock b.committed b'.committed ∨ ∃ o product row sale,
      Sells dep text s b.committed b'.committed o product row sale ∧
        p.session.state = .IDLE ∧ p.result.messageKey = .SALE_RECORDED := by
  obtain ⟨t, ht, hs, hc, -, -⟩ := handleMessage_ok h
  rcases FSMEngine.processMessage_ok_effect ht with hg | ⟨o, product, row, sale, hsell, -, -, hi, hk⟩
  · rw [hc]
    exact .inl (hg b.committed (.refl _) (hb ▸ .refl _)).2
  · refine .inr ⟨o, product, row, sale, ?_, by rw [hs, hi], hk⟩
    rw [hc, ← hb]
    exact hsell

theorem handleMessage_error_effect (hb : b.working = b.committed)
    (h : handleMessage dep phone text s b = .error e b') :
    KeepsStock b.committed b'.committed := by
  obtain ⟨t, ht | ⟨r, ht⟩, hc, -⟩ := handleMessage_error h
  · rw [hc]
    exact FSMEngine.processMessage_error_effect ht (.refl _) (hb ▸ .refl _)
  · rw [hc]
    rcases FSMEngine.processMessage_ok_effect ht with hg | ⟨_, _, _, _, -, hcom, -, -, -⟩
    · exact (hg b.committed (.refl _) (hb ▸ .refl _)).1
    · rw [hcom]
      exact .refl _

/-! ## What the task does -/

/-- Alone, a worker saves what it processed. -/
theorem conversation_ok {d d' : Desk} (h : conversation dep phone text d = .ok p d') :
    handleMessage dep phone text (current phone d.stored) d.backend = .ok p d'.backend ∧
      d'.stored = some p.session := by
  unfold conversation at h
  rw [bind_of_ok (reads_apply Desk.stored d)] at h
  obtain ⟨p', d₁, h₁, h⟩ := bind_eq_ok.mp h
  obtain ⟨b, hb, rfl⟩ := zoom_eq_ok.mp h₁
  simp only [saveSession, accepts_self, if_true] at h
  cases h
  exact ⟨hb, rfl⟩

theorem conversation_error {d d' : Desk} (h : conversation dep phone text d = .error e d') :
    handleMessage dep phone text (current phone d.stored) d.backend = .error e d'.backend ∧
      d'.stored = d.stored := by
  unfold conversation at h
  rw [bind_of_ok (reads_apply Desk.stored d)] at h
  rcases bind_eq_error.mp h with h | ⟨p', d₁, h₁, h⟩
  · obtain ⟨b, hb, rfl⟩ := zoom_eq_error.mp h
    exact ⟨hb, rfl⟩
  · obtain ⟨b, hb, rfl⟩ := zoom_eq_ok.mp h₁
    simp only [saveSession, accepts_self, if_true] at h
    cases h

end SokoFlow
