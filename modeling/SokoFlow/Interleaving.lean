import SokoFlow.Foundation.Runs
import SokoFlow.Worker

/-!
# Workers side by side

The workers of one phone, each with one message: a worker reads the session,
processes its message in a transaction of its own and saves the session, and
the steps of different workers come in any order.  Between them the key may
expire and other sessions may change the database.
-/

namespace SokoFlow.Interleaving

open DbM Effect ConversationStore Runs

/-- A worker that has read the session, `seen` changes of the key ago from the start. -/
structure Started where
  text : String
  old : Option UserSession
  seen : ℕ

/-- A worker whose transaction is over: the world and the rows it met, the
session it will save, and how many sales it has committed. -/
structure Handled extends Started where
  env : Env
  rows : Database
  session : UserSession
  sales : ℕ

inductive Worker
  | waiting
  | reading (w : Started)
  | saving (w : Handled)
  | ended

structure System where
  stored : Option UserSession
  /-- how often the key has changed -/
  changes : ℕ
  committed : Database
  workers : List Worker

namespace System

/-- Nothing is stored and no worker has begun. -/
def Fresh (s : System) : Prop := s.stored = none ∧ s.workers = []

def start (db : Database) : System := ⟨none, 0, db, []⟩

theorem start_fresh (db : Database) : (start db).Fresh := ⟨rfl, rfl⟩

def set (s : System) (i : ℕ) (w : Worker) : System := { s with workers := s.workers.set i w }

@[simp] theorem set_stored (s : System) (i : ℕ) (w : Worker) : (s.set i w).stored = s.stored := rfl

@[simp] theorem set_changes (s : System) (i : ℕ) (w : Worker) :
    (s.set i w).changes = s.changes := rfl

@[simp] theorem set_committed (s : System) (i : ℕ) (w : Worker) :
    (s.set i w).committed = s.committed := rfl

/-- Worker `i` has yet to process its message. -/
abbrev Reads (s : System) (i : ℕ) (w : Started) : Prop := s.workers[i]? = some (.reading w)

/-- Worker `i` has yet to save what it has done. -/
abbrev Saves (s : System) (i : ℕ) (w : Handled) : Prop := s.workers[i]? = some (.saving w)

theorem set_worker {s : System} {i j : ℕ} {w v : Worker} (h : (s.set i w).workers[j]? = some v) :
    (j = i ∧ v = w) ∨ (j ≠ i ∧ s.workers[j]? = some v) :=
  party_of_set h

theorem set_worker_self {s : System} {i : ℕ} {v : Worker} (h : s.workers[i]? = some v)
    (w : Worker) : (s.set i w).workers[i]? = some w :=
  party_of_set_self h w

theorem set_worker_ne {s : System} {i j : ℕ} {v w : Worker} (hj : s.workers[j]? = some v)
    (h : s.workers[i]? ≠ some v) : (s.set i w).workers[j]? = some v := by
  have hij : i ≠ j := by
    rintro rfl
    exact h hj
  rw [set, List.getElem?_set_ne hij, hj]

end System

inductive Action
  | read (text : String)
  | process (i : ℕ) (env : Env)
  | save (i : ℕ)
  | expire
  | outside (db : Database)

/-- The transaction of a worker on the committed rows. -/
def transact (dep : Deployment) (phone : String) (w : Started) (session : Option UserSession)
    (env : Env) (db : Database) : EStateM.Result Exc Backend Processed :=
  handleMessage dep phone w.text (current phone session) (Backend.connect env db)

/-- The system after a transaction; a worker whose message raises is gone. -/
def settle (s : System) (i : ℕ) (w : Started) (env : Env) :
    EStateM.Result Exc Backend Processed → System
  | .ok p b => { s with committed := b.committed }.set i (.saving
      { w with
        env := env
        rows := s.committed
        session := p.session
        sales := b.committed.sales.length - s.committed.sales.length })
  | .error _ b => { s with committed := b.committed }.set i .ended

/-- The system after the compare-and-set; a worker it rejects is gone. -/
def write (s : System) (i : ℕ) (w : Handled) : System :=
  match saveSession w.session w.old s.stored with
  | .ok stored => { s with stored := stored, changes := s.changes + 1 }.set i .ended
  | .error _ => s.set i .ended

def step (dep : Deployment) (phone : String) (s : System) : Action → Option System
  | .read text =>
      some { s with workers := s.workers ++ [.reading ⟨text, s.stored, s.changes⟩] }
  | .process i env => match s.workers[i]? with
      | some (.reading w) => some (settle s i w env (transact dep phone w w.old env s.committed))
      | _ => none
  | .save i => match s.workers[i]? with
      | some (.saving w) => some (write s i w)
      | _ => none
  | .expire => match s.stored with
      | some _ => some { s with stored := none, changes := s.changes + 1 }
      | none => none
  | .outside db => some { s with committed := db }

/-- What one action can do. -/
inductive Step (dep : Deployment) (phone : String) (s : System) : Action → System → Prop
  | read (text : String) : Step dep phone s (.read text)
      { s with workers := s.workers ++ [.reading ⟨text, s.stored, s.changes⟩] }
  | handled {i : ℕ} {env : Env} {w : Started} {p : Processed} {b : Backend}
      (h : s.Reads i w)
      (ht : transact dep phone w w.old env s.committed = .ok p b) :
      Step dep phone s (.process i env) ({ s with committed := b.committed }.set i (.saving
        { w with
          env := env
          rows := s.committed
          session := p.session
          sales := b.committed.sales.length - s.committed.sales.length }))
  | raised {i : ℕ} {env : Env} {w : Started} {e : Exc} {b : Backend}
      (h : s.Reads i w)
      (ht : transact dep phone w w.old env s.committed = .error e b) :
      Step dep phone s (.process i env) ({ s with committed := b.committed }.set i .ended)
  | saved {i : ℕ} {w : Handled} (h : s.Saves i w)
      (ha : accepts s.stored (expectedState w.old) = true) :
      Step dep phone s (.save i)
        ({ s with stored := some w.session, changes := s.changes + 1 }.set i .ended)
  | rejected {i : ℕ} {w : Handled} (h : s.Saves i w)
      (ha : accepts s.stored (expectedState w.old) = false) :
      Step dep phone s (.save i) (s.set i .ended)
  | expire {session : UserSession} (h : s.stored = some session) :
      Step dep phone s .expire { s with stored := none, changes := s.changes + 1 }
  | outside (db : Database) : Step dep phone s (.outside db) { s with committed := db }

variable {dep : Deployment} {phone : String} {s s' : System} {a : Action}

theorem step_cases (h : step dep phone s a = some s') : Step dep phone s a s' := by
  cases a with
  | read text =>
      simp only [step, Option.some.injEq] at h
      exact h ▸ .read text
  | process i env =>
      simp only [step] at h
      split at h
      · rename_i w hw
        cases h
        cases ht : transact dep phone w w.old env s.committed with
        | ok p b => exact .handled hw ht
        | error e b => exact .raised hw ht
      · cases h
  | save i =>
      simp only [step] at h
      split at h
      · rename_i w hw
        cases h
        cases ha : accepts s.stored (expectedState w.old) with
        | true => simpa [write, saveSession, ha] using Step.saved hw ha
        | false => simpa [write, saveSession, ha] using Step.rejected hw ha
      · cases h
  | expire =>
      cases hs : s.stored with
      | some session =>
          simp only [step, hs, Option.some.injEq] at h
          exact h ▸ .expire hs
      | none => simp [step, hs] at h
  | outside db =>
      simp only [step, Option.some.injEq] at h
      exact h ▸ .outside db

/-- A worker that has just begun is the last one. -/
theorem worker_of_read {w v : Worker} {i : ℕ} (h : (s.workers ++ [w])[i]? = some v) :
    s.workers[i]? = some v ∨ (i = s.workers.length ∧ v = w) := by
  rw [List.getElem?_append] at h
  split at h
  · exact .inl h
  · obtain ⟨hi, hv⟩ := List.getElem?_eq_some_iff.mp h
    simp only [List.length_singleton] at hi
    exact .inr ⟨by omega, by simpa using hv.symm⟩

/-! ## What the transaction of a worker commits -/

/-- A transaction commits at most the sale its session had ordered. -/
theorem transact_ok {w : Started} {session : Option UserSession} {env : Env} {db : Database}
    {p : Processed} {b : Backend} (h : transact dep phone w session env db = .ok p b) :
    b.committed.sales = db.sales ∨ ∃ o product row sale,
      Sells dep w.text (current phone session) db b.committed o product row sale ∧
        p.session.state = .IDLE := by
  rcases handleMessage_ok_effect rfl h with hk | ⟨o, product, row, sale, hsell, hi, -⟩
  · exact .inl hk.sales
  · exact .inr ⟨o, product, row, sale, hsell, hi⟩

theorem transact_error {w : Started} {session : Option UserSession} {env : Env} {db : Database}
    {e : Exc} {b : Backend} (h : transact dep phone w session env db = .error e b) :
    b.committed.sales = db.sales :=
  (handleMessage_error_effect rfl h).sales

/-! ## Saving -/

/-- The worker of a save, and whether the compare-and-set accepts it. -/
def attempt (s : System) : Action → Option (Handled × Bool)
  | .save i => match s.workers[i]? with
      | some (.saving w) => some (w, accepts s.stored (expectedState w.old))
      | _ => none
  | _ => none

def saver (m : Moment System Action) : Option (Handled × Bool) := attempt m.before m.label

theorem attempt_of_saves {i : ℕ} {w : Handled} (h : s.Saves i w) :
    attempt s (.save i) = some (w, accepts s.stored (expectedState w.old)) := by
  simp [attempt, h]

theorem saver_of_save {i : ℕ} {w : Handled} (h : s.Saves i w) (s' : System) :
    saver ⟨s, .save i, s'⟩ = some (w, accepts s.stored (expectedState w.old)) :=
  attempt_of_saves h

end SokoFlow.Interleaving
