import SokoFlow.Config
import SokoFlow.Transactions

/-!
# Sessions (`models.py`, `primitives.py`)

A handler runs on a `Turn`: the session it changes in place and the database
session it shares with the worker.  What it changed in the session before it
raised stays changed.
-/

namespace SokoFlow

structure PriorCallContext where
  toolName : String
  arguments : Json.Object
  timestamp : Timestamp

structure PendingCallContext where
  toolName : String
  arguments : Json.Object
  candidates : List ScoredProductMatch

structure SessionContext where
  shopId : Option UUID := none
  productId : Option UUID := none
  productName : Option String := none
  productPrice : Option ℚ := none
  productQty : Option ℤ := none
  flowStartedAt : Option Timestamp := none
  history : List SessionState := []
  errorCount : ℤ := 0
  lastActivity : Option Timestamp := none
  productCandidates : List ScoredProductMatch := []
  lastAnalyticsCall : Option PriorCallContext := none
  pendingAnalyticsCall : Option PendingCallContext := none

structure UserSession where
  phone : String
  state : SessionState
  context : SessionContext

structure FSMResult where
  previousState : SessionState
  newState : SessionState
  context : SessionContext
  messageKey : MessageKey
  messageParams : Params

namespace UserSession

/-- The session of a phone that has none. -/
def fresh (phone : String) : UserSession := ⟨phone, .IDLE, {}⟩

/-- `_transition`, at the given time. -/
def moved (s : UserSession) (newState : SessionState) (now : Timestamp) : UserSession :=
  { s with
    state := newState
    context := { s.context with
      history := if s.state = newState then s.context.history else s.context.history ++ [s.state]
      lastActivity := some now } }

/-- `_clear_context_preserving_history`, at the given time. -/
def cleared (s : UserSession) (now : Timestamp) : UserSession :=
  { s with
    context := {
      shopId := s.context.shopId
      history := s.context.history
      lastActivity := some now } }

/-- Change the context. -/
def edit (s : UserSession) (f : SessionContext → SessionContext) : UserSession :=
  { s with context := f s.context }

/-- `session.context.error_count = 0` -/
def accepted (s : UserSession) : UserSession := s.edit fun c ↦ { c with errorCount := 0 }

/-- `session.context.error_count += 1` -/
def refused (s : UserSession) : UserSession :=
  s.edit fun c ↦ { c with errorCount := c.errorCount + 1 }

/-- `_build_result` -/
def result (s : UserSession) (previousState : SessionState) (messageKey : MessageKey)
    (messageParams : Params) : FSMResult :=
  ⟨previousState, s.state, s.context, messageKey, messageParams⟩

end UserSession

structure Turn where
  session : UserSession
  backend : Backend

abbrev FlowM := EStateM Exc Turn

namespace FlowM

open Effect

/-- Work on the database session. -/
def onDb {α : Type} (x : DbM α) : FlowM α :=
  zoom Turn.backend (fun b t ↦ { t with backend := b }) x

def session : FlowM UserSession := reads Turn.session

def setSession (f : UserSession → UserSession) : FlowM Unit :=
  modify fun t ↦ { t with session := f t.session }

def editContext (f : SessionContext → SessionContext) : FlowM Unit := setSession (·.edit f)

def transition (newState : SessionState) : FlowM Unit := do
  let now ← onDb DbM.now
  setSession (·.moved newState now)

def clearContextPreservingHistory : FlowM Unit := do
  let now ← onDb DbM.now
  setSession (·.cleared now)

def buildResult (previousState : SessionState) (messageKey : MessageKey)
    (messageParams : Params := []) : FlowM FSMResult := do
  let s ← session
  return s.result previousState messageKey messageParams

def corrupted {α : Type} : FlowM α := do
  let s ← session
  throw (.corruptedSession s.phone)

end FlowM

def invalidInput {α : Type} (message : String) (key : MessageKey) (params : Params) :
    Except Exc α :=
  .error (.invalidInput message (some key) params)

/-- `_resolve_product_choice`, on the candidates of the session. -/
def resolveProductChoice (u : Unicode) (candidates : List ScoredProductMatch) (message : String) :
    Except Exc ScoredProductMatch :=
  if candidates.isEmpty then
    invalidInput "Session lost choice context. Please start again by typing 'sale'."
      MessageKey.SESSION_CONTEXT_LOST []
  else match Text.readInt u (Text.strip message) with
    | none => invalidInput "Choice must be a number" MessageKey.INVALID_CHOICE []
    | some choice =>
        if choice < 1 then invalidInput "Invalid Choice" MessageKey.INVALID_CHOICE []
        else match candidates[(choice - 1).toNat]? with
          | none => invalidInput "Invalid Choice" MessageKey.INVALID_CHOICE []
          | some selected => .ok selected

/-- `get_shop_id` -/
def getShopId (sender : String) : DbM UUID := do
  match ← DbM.select fun db ↦ db.shopByPhone sender with
  | some shop => return shop.id
  | none => do
      let id ← DbM.ask Env.uuid
      let shop ← DbM.update
        (Database.insertShop sender (some "SokoFlow Demo Shop") .en id)
      DbM.commit
      match ← DbM.select fun db ↦ Table.lookup Shop.id shop.id db.shops with
      | some shop => return shop.id
      | none => throw (.other "InvalidRequestError" "Could not refresh instance")

/-! ## Rules -/

open DbM Effect

/-- An exception the engine answers by an error message. -/
def Exc.isInvalidInput : Exc → Bool
  | invalidInput .. => true
  | _ => false

theorem Exc.not_invalidInput_of_technical {e : Exc} (h : e.isTechnical = true) :
    e.isInvalidInput = false := by
  cases e <;> first | rfl | cases h

theorem resolveProductChoice_ok {u : Unicode} {candidates : List ScoredProductMatch}
    {message : String} {selected : ScoredProductMatch}
    (h : resolveProductChoice u candidates message = .ok selected) :
    ∃ i : ℕ, Text.readInt u (Text.strip message) = some ((i : ℤ) + 1) ∧
      candidates[i]? = some selected := by
  unfold resolveProductChoice at h
  split at h
  · cases h
  · split at h
    · cases h
    · rename_i choice hchoice
      split at h
      · cases h
      · rename_i hpos
        split at h <;> cases h
        rename_i hget
        refine ⟨(choice - 1).toNat, ?_, hget⟩
        rw [hchoice, Option.some.injEq]
        omega

namespace FlowM

variable {t t' : Turn} {e : Exc}

theorem onDb_ok {α : Type} {x : DbM α} {a : α} (h : onDb x t = .ok a t') :
    x t.backend = .ok a t'.backend ∧ t'.session = t.session := by
  obtain ⟨b, hx, rfl⟩ := zoom_eq_ok.mp h
  exact ⟨hx, rfl⟩

theorem onDb_bind_ok {α β : Type} {x : DbM α} {f : α → FlowM β} {c : β}
    (h : (onDb x >>= f) t = .ok c t') :
    ∃ a b, x t.backend = .ok a b ∧ f a { t with backend := b } = .ok c t' := by
  obtain ⟨a, t₁, h₁, h⟩ := bind_eq_ok.mp h
  obtain ⟨b, hx, rfl⟩ := zoom_eq_ok.mp h₁
  exact ⟨a, b, hx, h⟩

theorem onDb_bind_error {α β : Type} {x : DbM α} {f : α → FlowM β}
    (h : (onDb x >>= f) t = .error e t') :
    (∃ b, x t.backend = .error e b ∧ t' = { t with backend := b }) ∨
      ∃ a b, x t.backend = .ok a b ∧ f a { t with backend := b } = .error e t' := by
  rcases bind_eq_error.mp h with h | ⟨a, t₁, h₁, h⟩
  · exact .inl (zoom_eq_error.mp h)
  · obtain ⟨b, hx, rfl⟩ := zoom_eq_ok.mp h₁
    exact .inr ⟨a, b, hx, h⟩

theorem ofExcept_bind_ok {α β : Type} {x : Except Exc α} {f : α → FlowM β} {c : β}
    (h : (MonadExcept.ofExcept x >>= f) t = .ok c t') : ∃ a, x = .ok a ∧ f a t = .ok c t' := by
  cases x with
  | ok a => exact ⟨a, rfl, h⟩
  | error e => cases h

theorem ofExcept_bind_error {α β : Type} {x : Except Exc α} {f : α → FlowM β}
    (h : (MonadExcept.ofExcept x >>= f) t = .error e t') :
    (x = .error e ∧ t' = t) ∨ ∃ a, x = .ok a ∧ f a t = .error e t' := by
  cases x with
  | ok a => exact .inr ⟨a, rfl, h⟩
  | error e' =>
      cases h
      exact .inl ⟨rfl, rfl⟩

/-- The same turn at a later tick. -/
def later (t : Turn) : Turn := { t with backend := { t.backend with tick := t.backend.tick + 1 } }

/-- The current time. -/
def time (t : Turn) : Timestamp := t.backend.env.clock t.backend.tick

section Bind

variable {β : Type}

@[simp] theorem session_bind (f : UserSession → FlowM β) (t : Turn) :
    (session >>= f) t = f t.session t := rfl

@[simp] theorem setSession_bind (g : UserSession → UserSession) (f : Unit → FlowM β) (t : Turn) :
    (setSession g >>= f) t = f () { t with session := g t.session } := rfl

@[simp] theorem editContext_bind (g : SessionContext → SessionContext) (f : Unit → FlowM β)
    (t : Turn) : (editContext g >>= f) t = f () { t with session := t.session.edit g } := rfl

@[simp] theorem transition_bind (newState : SessionState) (f : Unit → FlowM β) (t : Turn) :
    (transition newState >>= f) t =
      f () { later t with session := t.session.moved newState (time t) } := rfl

@[simp] theorem clear_bind (f : Unit → FlowM β) (t : Turn) :
    (clearContextPreservingHistory >>= f) t =
      f () { later t with session := t.session.cleared (time t) } := rfl

end Bind

@[simp] theorem later_session (t : Turn) : (later t).session = t.session := rfl

@[simp] theorem buildResult_apply (previousState : SessionState) (key : MessageKey)
    (params : Params) (t : Turn) :
    buildResult previousState key params t = .ok (t.session.result previousState key params) t :=
  rfl

/-! ### Refusing an input -/

/-- No invalid input is reported. -/
abbrev Silent {α : Type} (x : FlowM α) : Prop := Raises (fun e ↦ e.isInvalidInput = false) x

/-- An invalid input is reported before anything was changed. -/
def Refuses {α : Type} (x : FlowM α) : Prop :=
  ∀ t e t', x t = .error e t' → e.isInvalidInput = true →
    t'.session = t.session ∧ Backend.Untouched t.backend t'.backend

theorem silent_onDb {α : Type} {x : DbM α} (h : ∀ b e b', x b = .error e b' → e.isTechnical = true) :
    Silent (onDb x) := fun _ _ _ hx ↦ by
  obtain ⟨b, hx, -⟩ := zoom_eq_error.mp hx
  exact Exc.not_invalidInput_of_technical (h _ _ _ hx)

theorem silent_editContext (f : SessionContext → SessionContext) : Silent (editContext f) :=
  .modify _

theorem silent_transition (newState : SessionState) : Silent (transition newState) :=
  fun _ _ _ h ↦ by cases h

theorem silent_clear : Silent clearContextPreservingHistory := fun _ _ _ h ↦ by cases h

theorem silent_session : Silent session := .reads _

theorem silent_buildResult (previousState : SessionState) (key : MessageKey) (params : Params) :
    Silent (buildResult previousState key params) := fun _ _ _ h ↦ by cases h

theorem silent_corrupted {α : Type} : Silent (corrupted : FlowM α) := fun _ _ _ h ↦ by
  cases h
  rfl

namespace Refuses

variable {α β : Type} {x : FlowM α} {f : α → FlowM β}

theorem of_silent (h : Silent x) : Refuses x := fun t e t' hx hi ↦ by
  rw [h t e t' hx] at hi
  cases hi

theorem ofExcept (y : Except Exc α) : Refuses (MonadExcept.ofExcept y : FlowM α) := by
  intro t e t' h _
  obtain ⟨-, rfl⟩ := ofExcept_eq_error.mp h
  exact ⟨rfl, refl_of Backend.Untouched _⟩

theorem session_bind {f : UserSession → FlowM β} (h : ∀ s, Refuses (f s)) :
    Refuses (session >>= f) := fun t e t' hx ↦ h t.session t e t' hx

theorem ofExcept_bind {y : Except Exc α} (h : ∀ a, Refuses (f a)) :
    Refuses (MonadExcept.ofExcept y >>= f) := by
  intro t e t' hx hi
  rcases ofExcept_bind_error hx with ⟨-, rfl⟩ | ⟨a, -, hx⟩
  · exact ⟨rfl, refl_of Backend.Untouched _⟩
  · exact h a t e t' hx hi

theorem onDb_bind {y : DbM α} (hy : Within Backend.Untouched y)
    (he : ∀ b e b', y b = .error e b' → e.isInvalidInput = false) (h : ∀ a, Refuses (f a)) :
    Refuses (onDb y >>= f) := by
  intro t e t' hx hi
  rcases onDb_bind_error hx with ⟨b, hy', rfl⟩ | ⟨a, b, hy', hx⟩
  · rw [he _ _ _ hy'] at hi
    cases hi
  · obtain ⟨hs, hu⟩ := h a _ e t' hx hi
    exact ⟨hs, trans_of Backend.Untouched (hy.of_ok hy') hu⟩

end Refuses

end FlowM

end SokoFlow
