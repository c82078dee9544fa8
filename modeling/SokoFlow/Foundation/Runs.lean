import Mathlib.Algebra.BigOperators.Group.List.Basic
import Mathlib.Algebra.GroupWithZero.Nat

/-!
# Runs with their history

A system makes one labelled step after another; a run keeps what every step
started from and led to.  A property of the history and the state that each
step preserves holds of every run.
-/

namespace Runs

variable {σ ℓ : Type}

/-- One step of a run. -/
structure Moment (σ ℓ : Type) where
  before : σ
  label : ℓ
  after : σ

/-- The steps of `history` lead from a state of `init` to a state. -/
inductive Run (init : σ → Prop) (step : σ → ℓ → σ → Prop) : List (Moment σ ℓ) → σ → Prop
  | start {s : σ} (h : init s) : Run init step [] s
  | next {history : List (Moment σ ℓ)} {s s' : σ} {l : ℓ} (run : Run init step history s)
      (h : step s l s') : Run init step (history ++ [⟨s, l, s'⟩]) s'

variable {init : σ → Prop} {step step' : σ → ℓ → σ → Prop} {history : List (Moment σ ℓ)} {s : σ}

namespace Run

/-- What holds at the start and is preserved by every step holds after every run. -/
theorem invariant {I : List (Moment σ ℓ) → σ → Prop} (h₀ : ∀ s, init s → I [] s)
    (hstep : ∀ history s l s', I history s → step s l s' → I (history ++ [⟨s, l, s'⟩]) s')
    (run : Run init step history s) : I history s := by
  induction run with
  | start h => exact h₀ _ h
  | next _ h ih => exact hstep _ _ _ _ ih h

/-- More steps, more runs. -/
theorem mono (h : ∀ s l s', step s l s' → step' s l s') (run : Run init step history s) :
    Run init step' history s := by
  induction run with
  | start h₀ => exact .start h₀
  | next _ hs ih => exact ih.next (h _ _ _ hs)

end Run

/-- Every step of a longer history. -/
theorem forall_mem_append {P : Moment σ ℓ → Prop} {m : Moment σ ℓ} (h : ∀ m ∈ history, P m)
    (hm : P m) : ∀ m' ∈ history ++ [m], P m' :=
  List.forall_mem_append.mpr ⟨h, fun _ hm' ↦ List.mem_singleton.mp hm' ▸ hm⟩

/-! ## The last step of a kind -/

/-- `m`, after `pre`, is the last step of the history with `P`. -/
def Last (P : Moment σ ℓ → Prop) (history pre : List (Moment σ ℓ)) (m : Moment σ ℓ) : Prop :=
  ∃ post, history = pre ++ m :: post ∧ P m ∧ ∀ m' ∈ post, ¬ P m'

theorem Last.here {P : Moment σ ℓ → Prop} {m : Moment σ ℓ} (h : P m) :
    Last P (history ++ [m]) history m := ⟨[], rfl, h, by simp⟩

theorem Last.earlier {P : Moment σ ℓ → Prop} {pre : List (Moment σ ℓ)} {m m' : Moment σ ℓ}
    (h : Last P history pre m) (hm' : ¬ P m') : Last P (history ++ [m']) pre m := by
  obtain ⟨post, rfl, hm, hpost⟩ := h
  refine ⟨post ++ [m'], by simp, hm, ?_⟩
  exact List.forall_mem_append.mpr ⟨hpost, fun x hx ↦ List.mem_singleton.mp hx ▸ hm'⟩

/-- A step of a history, with what came before it. -/
def At (history pre : List (Moment σ ℓ)) (m : Moment σ ℓ) : Prop := ∃ post, history = pre ++ m :: post

theorem At.cases {pre : List (Moment σ ℓ)} {m m' : Moment σ ℓ} (h : At (history ++ [m']) pre m) :
    At history pre m ∨ history = pre ∧ m = m' := by
  obtain ⟨post, h⟩ := h
  rcases List.eq_nil_or_concat post with rfl | ⟨post', x, rfl⟩
  · obtain ⟨h₁, h₂⟩ := List.append_inj' h (by simp)
    cases h₂
    exact .inr ⟨h₁, rfl⟩
  · rw [List.concat_eq_append, ← List.cons_append, ← List.append_assoc] at h
    exact .inl ⟨post', (List.append_inj' h (by simp)).1⟩

theorem At.of_mem {m : Moment σ ℓ} (h : m ∈ history) : ∃ pre, At history pre m := by
  obtain ⟨pre, post, rfl⟩ := List.append_of_mem h
  exact ⟨pre, post, rfl⟩

namespace Run

/-- Every step of a run was made from the end of the run before it. -/
theorem at_step {pre : List (Moment σ ℓ)} {m : Moment σ ℓ} (run : Run init step history s)
    (h : At history pre m) : Run init step pre m.before ∧ step m.before m.label m.after := by
  induction run with
  | start h₀ =>
      obtain ⟨post, h⟩ := h
      exact absurd h.symm (by simp)
  | next run hs ih =>
      rcases h.cases with h | ⟨rfl, rfl⟩
      · exact ih h
      · exact ⟨run, hs⟩

/-- A run is a run from the state it started in. -/
theorem exists_start (run : Run init step history s) :
    ∃ s₀, init s₀ ∧ Run (· = s₀) step history s := by
  induction run with
  | start h => exact ⟨_, h, .start rfl⟩
  | next _ hs ih =>
      obtain ⟨s₀, h₀, hrun⟩ := ih
      exact ⟨s₀, h₀, hrun.next hs⟩

/-- A run splits at its last step that says something: after it nothing is said. -/
theorem split_said {χ : Type} {said : ℓ → Option χ} {past : List χ} {c : χ}
    (run : Run init step history s)
    (h : history.filterMap (fun m ↦ said m.label) = past ++ [c]) :
    ∃ before m after, history = before ++ m :: after ∧ said m.label = some c ∧
      before.filterMap (fun m ↦ said m.label) = past ∧ (∀ m' ∈ after, said m'.label = none) ∧
      Run init step before m.before ∧ step m.before m.label m.after ∧
      Run (· = m.after) step after s := by
  induction run with
  | start h₀ => exact absurd h.symm (List.append_ne_nil_of_right_ne_nil past (List.cons_ne_nil c []))
  | @next history s s' l run hs ih =>
      rw [List.filterMap_append] at h
      cases hl : said l with
      | none =>
          have hnone : [(⟨s, l, s'⟩ : Moment σ ℓ)].filterMap (fun m ↦ said m.label) = [] := by
            simp [hl]
          rw [hnone, List.append_nil] at h
          obtain ⟨before, m, after, rfl, hm, hpast, hafter, hrun, hstep, hrest⟩ := ih h
          refine ⟨before, m, after ++ [⟨s, l, s'⟩], by simp, hm, hpast, ?_, hrun, hstep, ?_⟩
          · exact List.forall_mem_append.mpr ⟨hafter, fun m' hm' ↦ List.mem_singleton.mp hm' ▸ hl⟩
          · exact hrest.next hs
      | some c' =>
          have hone : [(⟨s, l, s'⟩ : Moment σ ℓ)].filterMap (fun m ↦ said m.label) = [c'] := by
            simp [hl]
          rw [hone] at h
          obtain ⟨hpast, hc⟩ := List.append_inj' h rfl
          refine ⟨history, ⟨s, l, s'⟩, [], rfl, ?_, hpast, ?_, run, hs, .start rfl⟩
          · exact hl.trans (congrArg some (List.singleton_inj.mp hc))
          · intro m' hm'
            cases hm'

/-- A run with steps ends where the last of them led to. -/
theorem exists_after {pre mid : List (Moment σ ℓ)} {m : Moment σ ℓ}
    (run : Run init step (pre ++ m :: mid) s) : ∃ x ∈ m :: mid, x.after = s := by
  generalize hh : pre ++ m :: mid = history at run
  cases run with
  | start h₀ => exact absurd hh (by simp)
  | @next history s₀ s l run hs =>
      refine ⟨⟨s₀, l, s⟩, ?_, rfl⟩
      have hlast : (m :: mid).getLast? = some ⟨s₀, l, s⟩ := by
        have h := congrArg List.getLast? hh
        rwa [List.getLast?_append_of_ne_nil _ (List.cons_ne_nil m mid), List.getLast?_concat] at h
      exact List.mem_of_getLast? hlast

end Run

/-! ## Parties -/

/-- One party of a list has moved: a party is the one that moved or as it was. -/
theorem party_of_set {α : Type} {parties : List α} {i j : ℕ} {a b : α}
    (h : (parties.set i a)[j]? = some b) : (j = i ∧ b = a) ∨ (j ≠ i ∧ parties[j]? = some b) := by
  rw [List.getElem?_set] at h
  split at h
  · rename_i hij
    split at h <;> cases h
    exact .inl ⟨hij.symm, rfl⟩
  · rename_i hij
    exact .inr ⟨Ne.symm hij, h⟩

theorem party_of_set_self {α : Type} {parties : List α} {i : ℕ} {a : α}
    (h : parties[i]? = some a) (b : α) : (parties.set i b)[i]? = some b := by
  have hlt := (List.getElem?_eq_some_iff.mp h).1
  simp [hlt]

/-! ## Counting along a history -/

/-- What the steps of a history add up to. -/
def count (amount : Moment σ ℓ → ℕ) (history : List (Moment σ ℓ)) : ℕ :=
  (history.map amount).sum

@[simp] theorem count_nil (amount : Moment σ ℓ → ℕ) : count amount [] = 0 := rfl

@[simp] theorem count_append (amount : Moment σ ℓ → ℕ) (m : Moment σ ℓ) :
    count amount (history ++ [m]) = count amount history + amount m := by
  simp [count]

/-! ## Runs of a step function -/

/-- The history and the end of the run with these labels, if every step is possible. -/
def trace (next : σ → ℓ → Option σ) (s : σ) : List ℓ → Option (List (Moment σ ℓ) × σ)
  | [] => some ([], s)
  | l :: labels => do
      let s' ← next s l
      let (history, s'') ← trace next s' labels
      return (⟨s, l, s'⟩ :: history, s'')

/-- The steps of a function that meet a condition on the state before. -/
def Steps (next : σ → ℓ → Option σ) (ok : σ → ℓ → Prop) (s : σ) (l : ℓ) (s' : σ) : Prop :=
  next s l = some s' ∧ ok s l

theorem run_append {next : σ → ℓ → Option σ} {ok : σ → ℓ → Prop}
    (run : Run init (Steps next ok) history s) {labels : List ℓ} {more : List (Moment σ ℓ)} {s' : σ}
    (h : trace next s labels = some (more, s')) (hok : ∀ m ∈ more, ok m.before m.label) :
    Run init (Steps next ok) (history ++ more) s' := by
  induction labels generalizing history s more with
  | nil =>
      cases h
      simpa using run
  | cons l labels ih =>
      simp only [trace, Option.bind_eq_bind, Option.bind_eq_some_iff] at h
      obtain ⟨s₁, h₁, ⟨more₁, s₂⟩, h₂, h⟩ := h
      cases h
      have := ih (run.next ⟨h₁, hok _ List.mem_cons_self⟩) h₂
        fun m hm ↦ hok m (List.mem_cons_of_mem _ hm)
      simpa using this

theorem run_of_trace {next : σ → ℓ → Option σ} {ok : σ → ℓ → Prop} (h₀ : init s)
    {labels : List ℓ} {s' : σ} (h : trace next s labels = some (history, s'))
    (hok : ∀ m ∈ history, ok m.before m.label) : Run init (Steps next ok) history s' :=
  run_append (.start h₀) h hok

/-- What a trace and its end show is shown by a run. -/
theorem exists_run_of_trace_end {next : σ → ℓ → Option σ} {ok : σ → ℓ → Prop}
    {P : List (Moment σ ℓ) → σ → Prop} [∀ s l, Decidable (ok s l)]
    [∀ history s, Decidable (P history s)] (labels : List ℓ) (h₀ : init s)
    (h : ((trace next s labels).any fun r ↦
      decide ((∀ m ∈ r.1, ok m.before m.label) ∧ P r.1 r.2)) = true) :
    ∃ history s', Run init (Steps next ok) history s' ∧ P history s' := by
  obtain ⟨⟨history, s'⟩, ht, hr⟩ := (Option.any_eq_true _ _).mp h
  rw [decide_eq_true_eq] at hr
  exact ⟨history, s', run_of_trace h₀ ht hr.1, hr.2⟩

/-- The steps of a trace have its labels. -/
theorem label_mem_of_trace {next : σ → ℓ → Option σ} {labels : List ℓ} {s' : σ}
    (h : trace next s labels = some (history, s')) : ∀ m ∈ history, m.label ∈ labels := by
  induction labels generalizing s history with
  | nil =>
      cases h
      simp
  | cons l labels ih =>
      simp only [trace, Option.bind_eq_bind, Option.bind_eq_some_iff] at h
      obtain ⟨s₁, -, ⟨history₁, s₂⟩, h₂, h⟩ := h
      cases h
      intro m hm
      rcases List.mem_cons.mp hm with rfl | hm
      · exact List.mem_cons_self
      · exact List.mem_cons_of_mem _ (ih h₂ m hm)

/-- What a trace and its end show is shown by a run, when its labels may be taken anywhere. -/
theorem exists_run_of_labels {next : σ → ℓ → Option σ} {ok : σ → ℓ → Prop}
    {P : List (Moment σ ℓ) → σ → Prop} [∀ history s, Decidable (P history s)] (labels : List ℓ)
    (hok : ∀ s, ∀ l ∈ labels, ok s l) (h₀ : init s)
    (h : ((trace next s labels).any fun r ↦ decide (P r.1 r.2)) = true) :
    ∃ history s', Run init (Steps next ok) history s' ∧ P history s' := by
  obtain ⟨⟨history, s'⟩, ht, hr⟩ := (Option.any_eq_true _ _).mp h
  rw [decide_eq_true_eq] at hr
  exact ⟨history, s', run_of_trace h₀ ht fun m hm ↦ hok _ _ (label_mem_of_trace ht m hm), hr⟩

/-- What a trace shows is shown by a run. -/
theorem exists_run_of_trace {next : σ → ℓ → Option σ} {ok : σ → ℓ → Prop}
    {P : List (Moment σ ℓ) → Prop} [∀ s l, Decidable (ok s l)] [DecidablePred P]
    (labels : List ℓ) (h₀ : init s)
    (h : ((trace next s labels).any fun r ↦
      decide ((∀ m ∈ r.1, ok m.before m.label) ∧ P r.1)) = true) :
    ∃ history s', Run init (Steps next ok) history s' ∧ P history :=
  exists_run_of_trace_end labels h₀ h

end Runs
