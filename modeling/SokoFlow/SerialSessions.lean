import SokoFlow.Interleaving

/-!
# The session store and the order of messages

The compare-and-set looks at the name of the state only, so a save can replace
a session it was not computed from.  It does not when the key has not changed
since the worker read it; then the stored sessions are those of processing the
saved messages one after the other.
-/

namespace SokoFlow.Interleaving

open DbM Effect ConversationStore Runs

variable {dep : Deployment} {phone : String} {s s' : System} {a : Action}
  {history : List (Moment System Action)}

/-- The session a message leads to from a session, in the world it met. -/
def processed (dep : Deployment) (phone : String) (w : Handled) (stored : Option UserSession) :
    Option UserSession :=
  match transact dep phone w.toStarted stored w.env w.rows with
  | .ok p _ => some p.session
  | .error _ _ => none

/-- A save that is accepted writes what its message makes of the stored session. -/
def Serial (dep : Deployment) (phone : String) (m : Moment System Action) : Prop :=
  ∀ w, saver m = some (w, true) → processed dep phone w m.before.stored = some w.session

/-- The stored session after the saved messages, processed one after the
other, and the expiries between them. -/
def replay (dep : Deployment) (phone : String) (history : List (Moment System Action)) :
    Option UserSession :=
  history.foldl (fun stored m ↦ match m.label, saver m with
    | .expire, _ => none
    | _, some (w, true) => processed dep phone w stored
    | _, _ => stored) none

/-- Every save is serial, and so is what is stored. -/
def Serialises (dep : Deployment) (phone : String) (history : List (Moment System Action))
    (s : System) : Prop :=
  (∀ m ∈ history, Serial dep phone m) ∧ s.stored = replay dep phone history

/-- A save that would be accepted finds the key as its worker had read it. -/
def Unchanged (s : System) (a : Action) : Prop :=
  ∀ r ∈ attempt s a, r.2 = true → r.1.seen = s.changes

instance (s : System) (a : Action) : Decidable (Unchanged s a) :=
  inferInstanceAs (Decidable (∀ r ∈ attempt s a, _))

/-! ## The invariant -/

/-- The worker holds the session that was stored after `seen` changes. -/
def Recent (s : System) (w : Started) : Prop :=
  w.seen ≤ s.changes ∧ (w.seen = s.changes → w.old = s.stored)

structure Ordered (dep : Deployment) (phone : String) (s : System) : Prop where
  reading : ∀ i w, s.Reads i w → Recent s w
  saving : ∀ i w, s.Saves i w → Recent s w.toStarted
  session : ∀ i w, s.Saves i w → processed dep phone w w.old = some w.session

theorem ordered_start (h : s.Fresh) : Ordered dep phone s where
  reading i w hw := by simp [System.Reads, h.2] at hw
  saving i w hw := by simp [System.Saves, h.2] at hw
  session i w hw := by simp [System.Saves, h.2] at hw

theorem Recent.change {w : Started} (h : Recent s w) (stored : Option UserSession) :
    Recent { s with stored := stored, changes := s.changes + 1 } w := by
  refine ⟨h.1.trans (Nat.le_succ _), fun hseen ↦ ?_⟩
  have := h.1
  simp only at hseen
  omega

theorem Ordered.change (h : Ordered dep phone s) (stored : Option UserSession) :
    Ordered dep phone { s with stored := stored, changes := s.changes + 1 } where
  reading i w hw := (h.reading i w hw).change stored
  saving i w hw := (h.saving i w hw).change stored
  session := h.session

theorem Ordered.rows (h : Ordered dep phone s) (db : Database) :
    Ordered dep phone { s with committed := db } := ⟨h.reading, h.saving, h.session⟩

theorem Ordered.set {i : ℕ} {w : Worker} (h : Ordered dep phone s) (hr : ∀ v, w ≠ .reading v)
    (hs : ∀ v, w = .saving v →
      Recent s v.toStarted ∧ processed dep phone v v.old = some v.session) :
    Ordered dep phone (s.set i w) := by
  refine ⟨fun j v hv ↦ ?_, fun j v hv ↦ ?_, fun j v hv ↦ ?_⟩ <;>
    rcases System.set_worker hv with ⟨-, he⟩ | ⟨-, hv⟩
  · exact absurd he.symm (hr v)
  · exact h.reading j v hv
  · exact (hs v he.symm).1
  · exact h.saving j v hv
  · exact (hs v he.symm).2
  · exact h.session j v hv

theorem Ordered.retire {i : ℕ} (h : Ordered dep phone s) : Ordered dep phone (s.set i .ended) :=
  h.set (fun _ h ↦ by cases h) fun _ h ↦ by cases h

theorem ordered_step (hs : Step dep phone s a s') (h : Ordered dep phone s) :
    Ordered dep phone s' := by
  cases hs with
  | read text =>
      refine ⟨fun i w hw ↦ ?_, fun i w hw ↦ ?_, fun i w hw ↦ ?_⟩ <;>
        rcases worker_of_read hw with hw | ⟨-, he⟩
      · exact h.reading i w hw
      · cases he
        exact ⟨le_refl _, fun _ ↦ rfl⟩
      · exact h.saving i w hw
      · cases he
      · exact h.session i w hw
      · cases he
  | outside db => exact h.rows db
  | raised hi ht => exact (h.rows _).retire
  | @handled i env w p b hi ht =>
      refine (h.rows _).set (fun _ h ↦ by cases h) fun v hv ↦ ?_
      cases hv
      exact ⟨h.reading i w hi, by simp [processed, ht]⟩
  | rejected hi ha => exact h.retire
  | saved hi ha => exact (h.change _).retire
  | expire hst => exact h.change _

/-! ## Saves -/

theorem replay_append (m : Moment System Action) :
    replay dep phone (history ++ [m]) = match m.label, saver m with
      | .expire, _ => none
      | _, some (w, true) => processed dep phone w (replay dep phone history)
      | _, _ => replay dep phone history := by
  simp [replay]

theorem Serialises.quiet {m : Moment System Action} (h : Serialises dep phone history s)
    (hst : s'.stored = s.stored) (hl : m.label ≠ .expire)
    (hm : ∀ w, saver m ≠ some (w, true)) : Serialises dep phone (history ++ [m]) s' := by
  refine ⟨forall_mem_append h.1 fun w hw ↦ absurd hw (hm w), ?_⟩
  rw [hst, h.2, replay_append]
  split
  · exact absurd ‹_› hl
  · exact absurd ‹_› (hm _)
  · rfl

theorem serialises_step (hs : Step dep phone s a s') (hu : Unchanged s a)
    (ho : Ordered dep phone s) (h : Serialises dep phone history s) :
    Serialises dep phone (history ++ [⟨s, a, s'⟩]) s' := by
  cases hs with
  | read text => exact h.quiet rfl (by simp) fun w hw ↦ by cases hw
  | outside db => exact h.quiet rfl (by simp) fun w hw ↦ by cases hw
  | raised hi ht => exact h.quiet rfl (by simp) fun w hw ↦ by cases hw
  | handled hi ht => exact h.quiet rfl (by simp) fun w hw ↦ by cases hw
  | @rejected i w hi ha =>
      apply h.quiet rfl (by simp)
      intro v hv
      rw [saver_of_save hi, ha] at hv
      cases hv
  | @saved i w hi ha =>
      have hseen : w.seen = s.changes := hu (w, _) (attempt_of_saves hi) ha
      have hold : w.old = s.stored := (ho.saving i w hi).2 hseen
      have hp : processed dep phone w s.stored = some w.session := hold ▸ ho.session i w hi
      have hsaver := saver_of_save hi ({ s with
        stored := some w.session, changes := s.changes + 1 }.set i .ended)
      rw [ha] at hsaver
      refine ⟨forall_mem_append h.1 fun v hv ↦ ?_, ?_⟩
      · rw [hsaver] at hv
        cases hv
        exact hp
      · rw [replay_append, hsaver, ← h.2]
        exact hp.symm
  | @expire session hst =>
      refine ⟨forall_mem_append h.1 fun w hw ↦ (by cases hw), ?_⟩
      rw [replay_append]

/-- When no accepted save finds the key changed, the sessions are serial. -/
theorem serialises_of_unchanged
    (run : Run System.Fresh (Steps (step dep phone) Unchanged) history s) :
    Serialises dep phone history s := by
  have h := run.invariant (I := fun history s ↦ Ordered dep phone s ∧ Serialises dep phone history s)
    (fun _ h ↦ ⟨ordered_start h, fun _ hm ↦ (by cases hm), h.1⟩) fun _ _ _ _ ih hs ↦
      ⟨ordered_step (step_cases hs.1) ih.1, serialises_step (step_cases hs.1) hs.2 ih.1 ih.2⟩
  exact h.2

/-! ## Two runs -/

theorem serialises_of_two_messages :
    ∃ history s, history.length = 6 ∧ Serialises .sample "254700000001" history s := by
  have hrun : ∃ history s, Run System.Fresh (Steps (step .sample "254700000001") Unchanged)
      history s ∧ history.length = 6 :=
    exists_run_of_trace [.read "record sale", .process 0 .calm, .save 0, .read "milk",
      .process 1 .calm, .save 1] (System.start_fresh .sample) (by decide +kernel)
  obtain ⟨history, s, run, hlength⟩ := hrun
  exact ⟨history, s, hlength, serialises_of_unchanged run⟩

/-- The step saves a session whose errors are not those of the stored one, counted on. -/
def Miscounts (dep : Deployment) (phone : String) (m : Moment System Action) : Bool :=
  (saver m).any fun (w, accepted) ↦ accepted &&
    (processed dep phone w m.before.stored).map (·.context.errorCount) ≠
      some w.session.context.errorCount

theorem not_serial_of_miscounts {m : Moment System Action} (h : Miscounts dep phone m = true) :
    ¬ Serial dep phone m := by
  intro hserial
  obtain ⟨⟨w, accepted⟩, hsaver, hw⟩ := (Option.any_eq_true _ _).mp h
  simp only [Bool.and_eq_true] at hw
  obtain ⟨rfl, hw⟩ := hw
  rw [hserial w hsaver] at hw
  simp at hw

/-- Two messages that are not understood, read side by side, count as one error. -/
theorem error_lost :
    ∃ history s, Run System.Fresh (Steps (step .sample "254700000001") fun _ _ ↦ True) history s ∧
      ¬ Serialises .sample "254700000001" history s := by
  have hrun : ∃ history s, Run System.Fresh
      (Steps (step .sample "254700000001") fun _ _ ↦ True) history s ∧
        history.any (Miscounts .sample "254700000001") = true :=
    exists_run_of_trace [.read "hm", .read "what", .process 0 .calm, .process 1 .calm, .save 0,
      .save 1] (System.start_fresh .sample) (by decide +kernel)
  obtain ⟨history, s, run, hany⟩ := hrun
  obtain ⟨m, hm, hmis⟩ := List.any_eq_true.mp hany
  exact ⟨history, s, run, fun h ↦ not_serial_of_miscounts hmis (h.1 m hm)⟩

end SokoFlow.Interleaving
