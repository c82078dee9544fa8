import SokoFlow.Backend

/-!
# What a database session can do

Every statement either runs on the session's rows or raises and leaves the
committed rows alone; only a commit moves them.  The rules below say exactly
which, so that the services are verified without unfolding a statement.
-/

namespace SokoFlow

namespace Backend

/-- The time of the open transaction, or of the one a statement begins now. -/
def started (b : Backend) : Timestamp := b.began.getD (b.env.clock b.tick)

/-- After a statement has asked the clock and whether it fails. -/
def served (b : Backend) : Backend :=
  { b with tick := b.tick + 2, began := some b.started }

/-- Rows, journal and world are the same; only the counters of the session moved. -/
structure Untouched (b b' : Backend) : Prop where
  env : b'.env = b.env
  committed : b'.committed = b.committed
  working : b'.working = b.working
  journal : b'.journal = b.journal

namespace Untouched

instance : IsPreorder Backend Untouched where
  refl _ := ⟨rfl, rfl, rfl, rfl⟩
  trans _ _ _ h h' := ⟨h'.env.trans h.env, h'.committed.trans h.committed,
    h'.working.trans h.working, h'.journal.trans h.journal⟩

end Untouched

/-- The world and the committed rows are the same, and nothing was posted. -/
structure Uncommitted (b b' : Backend) : Prop where
  env : b'.env = b.env
  committed : b'.committed = b.committed
  journal : b'.journal = b.journal

namespace Uncommitted

instance : IsPreorder Backend Uncommitted where
  refl _ := ⟨rfl, rfl, rfl⟩
  trans _ _ _ h h' :=
    ⟨h'.env.trans h.env, h'.committed.trans h.committed, h'.journal.trans h.journal⟩

theorem of_untouched {b b' : Backend} (h : Untouched b b') : Uncommitted b b' :=
  ⟨h.env, h.committed, h.journal⟩

end Uncommitted

/-- Rows and world are the same, and no task was handed to the broker. -/
structure Observed (b b' : Backend) : Prop where
  env : b'.env = b.env
  committed : b'.committed = b.committed
  working : b'.working = b.working
  journal : ∃ more, b'.journal = b.journal ++ more ∧ ∀ e ∈ more, e.isTask = false

namespace Observed

instance : IsPreorder Backend Observed where
  refl b := ⟨rfl, rfl, rfl, [], by simp⟩
  trans _ _ _ h h' := by
    obtain ⟨more, hj, hm⟩ := h.journal
    obtain ⟨more', hj', hm'⟩ := h'.journal
    refine ⟨h'.env.trans h.env, h'.committed.trans h.committed, h'.working.trans h.working,
      more ++ more', by rw [hj', hj, List.append_assoc], fun e he ↦ ?_⟩
    rcases List.mem_append.mp he with he | he
    · exact hm e he
    · exact hm' e he

theorem of_untouched {b b' : Backend} (h : Untouched b b') : Observed b b' :=
  ⟨h.env, h.committed, h.working, [], by simp [h.journal]⟩

end Observed

/-- The session's rows are now `db`, and so are the committed ones if it
committed; it can go on. -/
structure Landed (commit : Bool) (db : Database) (b b' : Backend) : Prop where
  env : b'.env = b.env
  journal : b'.journal = b.journal
  working : b'.working = db
  committed : b'.committed = if commit then db else b.committed
  aborted : b'.aborted = false

theorem Landed.trans {b b' b'' : Backend} {commit : Bool} {db db' : Database}
    (h : Landed false db b b') (h' : Landed commit db' b' b'') : Landed commit db' b b'' where
  env := h'.env.trans h.env
  journal := h'.journal.trans h.journal
  working := h'.working
  committed := by rw [h'.committed, h.committed]; rfl
  aborted := h'.aborted

theorem Landed.untouched {b b' b'' : Backend} {commit : Bool} {db : Database}
    (h : Landed commit db b b') (h' : Untouched b' b'') (ha : b''.aborted = false) :
    Landed commit db b b'' where
  env := h'.env.trans h.env
  journal := h'.journal.trans h.journal
  working := h'.working.trans h.working
  committed := h'.committed.trans h.committed
  aborted := ha

theorem Landed.of_untouched {b b' b'' : Backend} {commit : Bool} {db : Database}
    (h : Untouched b b') (h' : Landed commit db b' b'') : Landed commit db b b'' where
  env := h'.env.trans h.env
  journal := h'.journal.trans h.journal
  working := h'.working
  committed := by rw [h'.committed, h.committed]
  aborted := h'.aborted

end Backend

/-- No statement and no commit fails. -/
structure Env.Faultless (env : Env) : Prop where
  statement : ∀ n, env.statementFault n = none
  commit : ∀ n, env.commitFault n = none

theorem Env.calm_faultless : Env.calm.Faultless := ⟨fun _ ↦ rfl, fun _ ↦ rfl⟩

namespace DbM

open Effect

variable {α : Type} {b b' : Backend} {e : Exc}

@[simp] theorem ask_apply (q : Env → ℕ → α) (b : Backend) :
    ask q b = .ok (q b.env b.tick) { b with tick := b.tick + 1 } := rfl

theorem execute_apply (run : Timestamp → Database → Except Exc (α × Database)) (b : Backend) :
    execute run b =
      if b.aborted then
        .error (.other "DBAPIError" "current transaction is aborted") b.served
      else match b.env.statementFault (b.tick + 1) with
        | some text => .error (.other "OperationalError" text) { b.served with aborted := true }
        | none => match run b.started b.working with
          | .ok (a, db) => .ok a { b.served with working := db }
          | .error e => .error e { b.served with aborted := true } := rfl

theorem execute_eq_ok {run : Timestamp → Database → Except Exc (α × Database)} {a : α} :
    execute run b = .ok a b' ↔
      b.aborted = false ∧ b.env.statementFault (b.tick + 1) = none ∧
        ∃ db, run b.started b.working = .ok (a, db) ∧ b' = { b.served with working := db } := by
  rw [execute_apply]
  by_cases ha : b.aborted = true
  · simp [ha]
  · cases hf : b.env.statementFault (b.tick + 1) with
    | some text => simp [ha]
    | none =>
        cases hr : run b.started b.working with
        | error e => simp [ha]
        | ok r => simp [ha, Prod.ext_iff, eq_comm, and_assoc]

theorem execute_error {run : Timestamp → Database → Except Exc (α × Database)}
    (h : execute run b = .error e b') :
    Backend.Untouched b b' ∧
      (e.isTechnical = true ∨ run b.started b.working = .error e) := by
  rw [execute_apply] at h
  split at h
  · cases h
    exact ⟨⟨rfl, rfl, rfl, rfl⟩, .inl rfl⟩
  · split at h
    · cases h
      exact ⟨⟨rfl, rfl, rfl, rfl⟩, .inl rfl⟩
    · split at h
      · cases h
      · rename_i hr
        cases h
        exact ⟨⟨rfl, rfl, rfl, rfl⟩, .inr hr⟩

theorem update_eq_ok {run : Database → Except Exc (α × Database)} {a : α} :
    update run b = .ok a b' ↔
      b.aborted = false ∧ b.env.statementFault (b.tick + 1) = none ∧
        ∃ db, run b.working = .ok (a, db) ∧ b' = { b.served with working := db } :=
  execute_eq_ok

theorem update_error {run : Database → Except Exc (α × Database)} (h : update run b = .error e b') :
    Backend.Untouched b b' ∧ (e.isTechnical = true ∨ run b.working = .error e) :=
  execute_error h

/-- A violated constraint is one of the statement itself. -/
theorem update_integrityError {run : Database → Except Exc (α × Database)} {text : String}
    (h : update run b = .error (.integrityError text) b') :
    run b.working = .error (.integrityError text) := by
  rw [update, execute_apply] at h
  split at h
  · cases h
  · split at h
    · cases h
    · split at h
      · cases h
      · rename_i hr
        cases h
        exact hr

theorem select_eq_ok {q : Database → α} {a : α} :
    select q b = .ok a b' ↔
      b.aborted = false ∧ b.env.statementFault (b.tick + 1) = none ∧ a = q b.working ∧
        b' = b.served := by
  unfold select
  rw [execute_eq_ok]
  constructor
  · rintro ⟨ha, hf, db, hr, rfl⟩
    cases hr
    exact ⟨ha, hf, rfl, rfl⟩
  · rintro ⟨ha, hf, rfl, rfl⟩
    exact ⟨ha, hf, b.working, rfl, rfl⟩

theorem select_error {q : Database → α} (h : select q b = .error e b') :
    Backend.Untouched b b' ∧ e.isTechnical = true := by
  obtain ⟨hu, he | he⟩ := execute_error h
  · exact ⟨hu, he⟩
  · cases he

theorem select_ok {q : Database → α} {a : α} (h : select q b = .ok a b') :
    a = q b.working ∧ Backend.Untouched b b' := by
  obtain ⟨_, _, rfl, rfl⟩ := select_eq_ok.mp h
  exact ⟨rfl, ⟨rfl, rfl, rfl, rfl⟩⟩

theorem select_aborted {q : Database → α} {a : α} (h : select q b = .ok a b') :
    b'.aborted = false := by
  obtain ⟨ha, _, _, rfl⟩ := select_eq_ok.mp h
  exact ha

theorem update_ok {run : Database → Except Exc (α × Database)} {a : α}
    (h : update run b = .ok a b') :
    ∃ db, run b.working = .ok (a, db) ∧ Backend.Landed false db b b' := by
  obtain ⟨ha, _, db, hr, rfl⟩ := update_eq_ok.mp h
  exact ⟨db, hr, ⟨rfl, rfl, rfl, rfl, ha⟩⟩

theorem select_calm (q : Database → α) (hf : b.env.Faultless) (ha : b.aborted = false) :
    ∃ b', select q b = .ok (q b.working) b' ∧ Backend.Untouched b b' ∧ b'.aborted = false :=
  ⟨b.served, select_eq_ok.mpr ⟨ha, hf.statement _, rfl, rfl⟩, ⟨rfl, rfl, rfl, rfl⟩, ha⟩

theorem update_calm {run : Database → Except Exc (α × Database)} {a : α} {db : Database}
    (hr : run b.working = .ok (a, db)) (hf : b.env.Faultless) (ha : b.aborted = false) :
    ∃ b', update run b = .ok a b' ∧ Backend.Landed false db b b' :=
  ⟨{ b.served with working := db }, update_eq_ok.mpr ⟨ha, hf.statement _, db, hr, rfl⟩,
    ⟨rfl, rfl, rfl, rfl, ha⟩⟩

theorem update_calm_error {run : Database → Except Exc (α × Database)}
    (hr : run b.working = .error e) (hf : b.env.Faultless) (ha : b.aborted = false) :
    ∃ b', update run b = .error e b' ∧ Backend.Untouched b b' := by
  refine ⟨{ b.served with aborted := true }, ?_, ⟨rfl, rfl, rfl, rfl⟩⟩
  rw [update, execute_apply, ha, hf.statement]
  simp only [Bool.false_eq_true, if_false, hr]

theorem select_within (q : Database → α) : Within Backend.Untouched (select q) := by
  intro b
  cases h : select q b with
  | ok a b' => exact (select_ok h).2
  | error e b' => exact (select_error h).1

/-- A query leaves the committed rows alone, and so does what reads its answer. -/
theorem within_select_bind {β : Type} {q : Database → α} {f : α → DbM β}
    (h : ∀ a, Within Backend.Uncommitted (f a)) :
    Within Backend.Uncommitted (select q >>= f) :=
  ((select_within q).mono fun _ _ ↦ .of_untouched).bind h

theorem ask_within (q : Env → ℕ → α) : Within Backend.Untouched (ask q) :=
  fun _ ↦ ⟨rfl, rfl, rfl, rfl⟩

theorem note_within {event : Event} (h : event.isTask = false) :
    Within Backend.Observed (note event) :=
  fun _ ↦ ⟨rfl, rfl, rfl, [event], rfl, by simpa using h⟩

theorem execute_within (run : Timestamp → Database → Except Exc (α × Database)) :
    Within Backend.Uncommitted (execute run) := by
  intro b
  cases h : execute run b with
  | ok a b' =>
      obtain ⟨_, _, db, _, rfl⟩ := execute_eq_ok.mp h
      exact ⟨rfl, rfl, rfl⟩
  | error e b' => exact .of_untouched (execute_error h).1

/-! ## Ending a transaction -/

@[simp] theorem rollback_apply (b : Backend) :
    rollback b = .ok () { b with working := b.committed, began := none, aborted := false } := rfl

theorem commit_apply (b : Backend) :
    commit b = match b.env.commitFault b.tick with
      | some text => .error (.other "OperationalError" text)
          { b with tick := b.tick + 1, working := b.committed, began := none, aborted := false }
      | none =>
          if b.aborted then
            .ok () { b with tick := b.tick + 1, working := b.committed, began := none, aborted := false }
          else .ok () { b with tick := b.tick + 1, committed := b.working, began := none } := by
  unfold commit
  simp only [bind_of_ok (ask_apply Env.commitFault b), bind_of_ok (reads_apply Backend.aborted _)]
  cases b.env.commitFault b.tick with
  | some text => rfl
  | none => cases b.aborted <;> rfl

theorem commit_ok (h : commit b = .ok () b') (ha : b.aborted = false) :
    Backend.Landed true b.working b b' := by
  rw [commit_apply] at h
  split at h
  · cases h
  · rw [ha] at h
    cases h
    exact ⟨rfl, rfl, rfl, rfl, rfl⟩

theorem commit_calm (hf : b.env.Faultless) (ha : b.aborted = false) :
    ∃ b', commit b = .ok () b' ∧ Backend.Landed true b.working b b' := by
  rw [commit_apply, hf.commit, ha]
  exact ⟨_, rfl, ⟨rfl, rfl, rfl, rfl, rfl⟩⟩

theorem commit_error (h : commit b = .error e b') :
    e.isTechnical = true ∧ b'.working = b.committed ∧ Backend.Uncommitted b b' := by
  rw [commit_apply] at h
  split at h
  · cases h
    exact ⟨rfl, rfl, ⟨rfl, rfl, rfl⟩⟩
  · split at h <;> cases h

/-- The broker decides: a task is posted, refused, or posted with an exception. -/
theorem enqueue_apply (task : Task) (b : Backend) :
    enqueue task b =
      let posted : Backend := { b with
        tick := b.tick + 1
        journal := b.journal ++ [.enqueued task b.committed] }
      match b.env.broker b.tick with
      | .done => .ok () posted
      | .refused text => .error (.other "OperationalError" text) { b with tick := b.tick + 1 }
      | .lost text => .error (.other "OperationalError" text) posted := by
  unfold enqueue
  rw [bind_of_ok (ask_apply _ _)]
  cases b.env.broker b.tick <;> rfl

/-- A worker's body that returns is followed by the commit. -/
theorem getWorkerDb_eq_ok {body : DbM α} {a : α} :
    getWorkerDb body b = .ok a b' ↔ ∃ b₁, body b = .ok a b₁ ∧ commit b₁ = .ok () b' := by
  unfold getWorkerDb
  rw [tryCatch_eq_ok]
  constructor
  · rintro (h | ⟨e, b₁, _, h⟩)
    · obtain ⟨a', b₁, h₁, h⟩ := bind_eq_ok.mp h
      obtain ⟨_, b₂, h₂, h⟩ := bind_eq_ok.mp h
      cases h
      exact ⟨b₁, h₁, h₂⟩
    · rw [bind_of_ok (rollback_apply b₁)] at h
      cases h
  · rintro ⟨b₁, h₁, h₂⟩
    refine .inl ?_
    rw [bind_of_ok h₁, bind_of_ok h₂]
    rfl

/-- A worker's body or commit that raises is rolled back. -/
theorem getWorkerDb_error {body : DbM α} (h : getWorkerDb body b = .error e b') :
    ∃ b₁, (body b = .error e b₁ ∨ ∃ a b₀, body b = .ok a b₀ ∧ commit b₀ = .error e b₁) ∧
      b' = { b₁ with working := b₁.committed, began := none, aborted := false } := by
  unfold getWorkerDb at h
  obtain ⟨e', b₁, h₁, h⟩ := tryCatch_eq_error.mp h
  rw [bind_of_ok (rollback_apply b₁)] at h
  cases h
  refine ⟨b₁, ?_, rfl⟩
  rcases bind_eq_error.mp h₁ with h₁ | ⟨a, b₀, h₀, h₁⟩
  · exact .inl h₁
  · rcases bind_eq_error.mp h₁ with h₁ | ⟨_, b₂, _, h₁⟩
    · exact .inr ⟨a, b₀, h₀, h₁⟩
    · cases h₁

/-- Closing the session of a request keeps what is committed. -/
theorem getDb_eq_ok {body : DbM α} {a : α} :
    getDb body b = .ok a b' ↔ ∃ b₁, body b = .ok a b₁ ∧
      b' = { b₁ with working := b₁.committed, began := none, aborted := false } := by
  unfold getDb
  rw [tryCatch_eq_ok]
  constructor
  · rintro (h | ⟨e, b₁, _, h⟩)
    · obtain ⟨a', b₁, h₁, h⟩ := bind_eq_ok.mp h
      rw [bind_of_ok (rollback_apply b₁)] at h
      cases h
      exact ⟨b₁, h₁, rfl⟩
    · rw [bind_of_ok (rollback_apply b₁)] at h
      cases h
  · rintro ⟨b₁, h₁, rfl⟩
    refine .inl ?_
    rw [bind_of_ok h₁]
    rfl

/-! ## Savepoints -/

theorem beginNested_eq_ok {body : DbM α} {a : α} :
    beginNested body b = .ok a b' ↔ ∃ b₁ b₂, select (fun _ ↦ ()) b = .ok () b₁ ∧
      body b₁ = .ok a b₂ ∧ select (fun _ ↦ ()) b₂ = .ok () b' := by
  unfold beginNested
  rw [bind_eq_ok]
  constructor
  · rintro ⟨_, b₁, h₁, h⟩
    rw [bind_of_ok (reads_apply Backend.working b₁)] at h
    rcases tryCatch_eq_ok.mp h with h | ⟨e, b₂, _, h⟩
    · obtain ⟨a', b₂, h₂, h⟩ := bind_eq_ok.mp h
      obtain ⟨_, b₃, h₃, h⟩ := bind_eq_ok.mp h
      cases h
      exact ⟨b₁, b₂, h₁, h₂, h₃⟩
    · cases h
  · rintro ⟨b₁, b₂, h₁, h₂, h₃⟩
    refine ⟨(), b₁, h₁, ?_⟩
    rw [bind_of_ok (reads_apply Backend.working b₁)]
    apply tryCatch_of_ok
    rw [bind_of_ok h₂, bind_of_ok h₃]
    rfl

theorem beginNested_raises {body : DbM α} {b₁ : Backend}
    (h₁ : select (fun _ ↦ ()) b = .ok () b₁) (h : ∃ b₂, body b₁ = .error e b₂) :
    ∃ b', beginNested body b = .error e b' := by
  obtain ⟨b₂, h⟩ := h
  refine ⟨{ b₂ with working := b₁.working, aborted := false }, ?_⟩
  unfold beginNested
  rw [bind_of_ok h₁, bind_of_ok (reads_apply Backend.working b₁),
    tryCatch_of_error (bind_of_error h)]
  rfl

/-- A savepoint that is not released restores the rows it started from. -/
theorem beginNested_error {body : DbM α} (hb : Within Backend.Uncommitted body)
    (h : beginNested body b = .error e b') :
    Backend.Untouched b b' ∧ (e.isTechnical = true ∨
      ∃ b₁ b₂, select (fun _ ↦ ()) b = .ok () b₁ ∧ body b₁ = .error e b₂) := by
  unfold beginNested at h
  rcases bind_eq_error.mp h with h | ⟨_, b₁, h₁, h⟩
  · exact ⟨(select_error h).1, .inl (select_error h).2⟩
  · have hu := (select_ok h₁).2
    rw [bind_of_ok (reads_apply Backend.working b₁)] at h
    obtain ⟨e', b₂, h₂, h⟩ := tryCatch_eq_error.mp h
    cases h
    rcases bind_eq_error.mp h₂ with h₂ | ⟨a, b₃, h₃, h₂⟩
    · have hk := hb.of_error h₂
      exact ⟨⟨hk.env.trans hu.env, hk.committed.trans hu.committed, hu.working,
        hk.journal.trans hu.journal⟩, .inr ⟨b₁, b₂, h₁, h₂⟩⟩
    · rcases bind_eq_error.mp h₂ with h₂ | ⟨_, b₄, _, h₂⟩
      · have hk := hb.of_ok h₃
        have hs := (select_error h₂).1
        exact ⟨⟨(hs.env.trans hk.env).trans hu.env, (hs.committed.trans hk.committed).trans
          hu.committed, hu.working, (hs.journal.trans hk.journal).trans hu.journal⟩,
          .inl (select_error h₂).2⟩
      · cases h₂

end DbM

end SokoFlow
