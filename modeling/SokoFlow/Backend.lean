import SokoFlow.Foundation.Effect
import SokoFlow.Statements

/-!
# Database sessions and the services they meet

A `Backend` is what one database session sees: the committed rows, the rows
of its own open transaction, and the world outside, which answers each
question (the time, a random id, whether a statement, a commit or the broker
fails, what the language model replies) by an oracle indexed by a counter.
-/

namespace SokoFlow

/-- How a call to a service outside the process ends; `lost` is a call that
took effect although the caller gets an exception. -/
inductive Delivery
  | done
  | refused (text : String)
  | lost (text : String)
  deriving DecidableEq

structure LLMMessage where
  role : String
  content : String
  deriving DecidableEq

structure NormalizedToolCall where
  name : String
  arguments : Json.Object

structure LLMResponse where
  toolCalls : List NormalizedToolCall

structure Env where
  clock : ℕ → Timestamp
  uuid : ℕ → UUID
  /-- the index `random.choices` picks at its `i`-th draw -/
  random : ℕ → ℕ → ℕ
  statementFault : ℕ → Option String
  commitFault : ℕ → Option String
  broker : ℕ → Delivery
  generate : ℕ → List LLMMessage → Except Exc LLMResponse

/-- Nothing fails, the clock counts, and no language model answers. -/
def Env.calm : Env where
  clock n := 63870000000000000 + n
  uuid n := ⟨n⟩
  random _ _ := 0
  statementFault _ := none
  commitFault _ := none
  broker _ := .done
  generate _ _ := .error (.llmUnavailable "no provider")

inductive Task
  | conversation (sender messageText messageId : String)
  | report (shopId : UUID) (recipient : String)
  | lowStockAlert (phone productId : String) (remainingStock : ℤ)
  deriving DecidableEq

/-- What a session did outside the database, in order: tasks handed to the
broker, with the rows that were committed at that moment, requests to the
language model with its answers, and tool handlers started and returned. -/
inductive Event
  | enqueued (task : Task) (committed : Database)
  | generated (messages : List LLMMessage) (response : Except Exc LLMResponse)
  | handled (tool : String) (shopId : UUID) (arguments : Json.Object)
  | completed (tool : String) (arguments : Json.Object)

def Event.isTask : Event → Bool
  | enqueued .. => true
  | _ => false

def Event.isGenerated : Event → Bool
  | .generated .. => true
  | _ => false

def Event.isHandled : Event → Bool
  | .handled .. => true
  | _ => false

def Event.isCompleted : Event → Bool
  | .completed .. => true
  | _ => false

structure Backend where
  env : Env
  tick : ℕ := 0
  committed : Database
  working : Database
  /-- `now()` of the open transaction, which is the time it began -/
  began : Option Timestamp := none
  /-- a statement failed: PostgreSQL refuses the rest of the transaction -/
  aborted : Bool := false
  journal : List Event := []

/-- A new session on the committed rows. -/
def Backend.connect (env : Env) (db : Database) : Backend :=
  { env := env, committed := db, working := db }

/-- The session with one more event in its journal. -/
def Backend.noted (b : Backend) (event : Event) : Backend :=
  { b with journal := b.journal ++ [event] }

abbrev DbM := EStateM Exc Backend

namespace DbM

/-- Ask the world; every question has its own number. -/
def ask {α : Type} (question : Env → ℕ → α) : DbM α := fun b ↦
  .ok (question b.env b.tick) { b with tick := b.tick + 1 }

/-- Enter an event in the journal. -/
def note (event : Event) : DbM Unit := modify fun b ↦ b.noted event

/-- `datetime.now(timezone.utc)` -/
def now : DbM Timestamp := ask Env.clock

/-- The first statement begins the transaction. -/
def autobegin : DbM Timestamp := do
  let clock ← now
  modify fun b ↦ { b with began := some (b.began.getD clock) }
  Effect.reads fun b ↦ b.began.getD clock

/-- The session's rows, or the exception of a statement that fails. -/
def execute {α : Type} (run : Timestamp → Database → Except Exc (α × Database)) : DbM α := do
  let started ← autobegin
  let fault ← ask Env.statementFault
  fun b ↦
    if b.aborted then
      .error (.other "DBAPIError" "current transaction is aborted") b
    else match fault with
      | some text => .error (.other "OperationalError" text) { b with aborted := true }
      | none => match run started b.working with
        | .ok (a, db) => .ok a { b with working := db }
        | .error e => .error e { b with aborted := true }

def update {α : Type} (run : Database → Except Exc (α × Database)) : DbM α :=
  execute fun _ db ↦ run db

def select {α : Type} (query : Database → α) : DbM α :=
  execute fun _ db ↦ .ok (query db, db)

/-- Discard what the session has not committed. -/
def rollback : DbM Unit :=
  modify fun b ↦ { b with working := b.committed, began := none, aborted := false }

/-- `COMMIT`, which ends an aborted transaction by a rollback. -/
def commit : DbM Unit := do
  let fault ← ask Env.commitFault
  let aborted ← Effect.reads Backend.aborted
  match fault with
  | some text => do
      rollback
      throw (.other "OperationalError" text)
  | none =>
      if aborted then rollback
      else modify fun b ↦ { b with committed := b.working, began := none }

/-- `async with db.begin_nested()` -/
def beginNested {α : Type} (body : DbM α) : DbM α := do
  select fun _ ↦ ()
  let saved ← Effect.reads Backend.working
  tryCatch (do
      let a ← body
      select fun _ ↦ ()
      return a)
    fun e ↦ do
      modify fun b ↦ { b with working := saved, aborted := false }
      throw e

/-- `async with get_worker_db() as db` -/
def getWorkerDb {α : Type} (body : DbM α) : DbM α :=
  tryCatch (do
      let a ← body
      commit
      return a)
    fun e ↦ do
      rollback
      throw e

/-- `Depends(get_db)`: closing the session discards what is not committed. -/
def getDb {α : Type} (body : DbM α) : DbM α :=
  tryCatch (do
      let a ← body
      rollback
      return a)
    fun e ↦ do
      rollback
      throw e

/-- `task.apply_async`, `task.delay` -/
def enqueue (task : Task) : DbM Unit := do
  let record : Backend → Backend := fun b ↦
    { b with journal := b.journal ++ [.enqueued task b.committed] }
  match ← ask Env.broker with
  | .done => modify record
  | .refused text => throw (.other "OperationalError" text)
  | .lost text => do
      modify record
      throw (.other "OperationalError" text)

end DbM

end SokoFlow
