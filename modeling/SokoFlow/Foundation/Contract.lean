import SokoFlow.Foundation.Effect

/-!
# Contracts of programs that may raise

A contract has a precondition, a postcondition for what is returned and one
for the state an exception leaves.  `Keeping I` is the contract of an
invariant, which holds however the program ends.
-/

namespace Effect

variable {ε σ α β : Type}

structure Contract (P : σ → Prop) (x : EStateM ε σ α) (Q : α → σ → Prop) (E : σ → Prop) :
    Prop where
  returns : ∀ s a s', P s → x s = .ok a s' → Q a s'
  raises : ∀ s e s', P s → x s = .error e s' → E s'

namespace Contract

variable {P P' : σ → Prop} {E E' : σ → Prop} {x : EStateM ε σ α} {f : α → EStateM ε σ β}
variable {Q Q' : α → σ → Prop} {R : β → σ → Prop}

theorem weaken (hx : Contract P x Q E) (hP : ∀ s, P' s → P s) (hQ : ∀ a s, Q a s → Q' a s)
    (hE : ∀ s, E s → E' s) : Contract P' x Q' E' where
  returns s a s' hs h := hQ a s' (hx.returns s a s' (hP s hs) h)
  raises s e s' hs h := hE s' (hx.raises s e s' (hP s hs) h)

theorem pure {a : α} (h : ∀ s, P s → Q a s) :
    Contract P (Pure.pure a : EStateM ε σ α) Q E where
  returns s a' s' hs hx := by
    cases hx
    exact h s hs
  raises s e s' hs hx := by cases hx

theorem throw {e : ε} (h : ∀ s, P s → E s) :
    Contract P (MonadExcept.throw e : EStateM ε σ α) Q E where
  returns s a s' hs hx := by cases hx
  raises s e' s' hs hx := by
    cases hx
    exact h s hs

theorem bind (hx : Contract P x Q E) (hf : ∀ a, Contract (Q a) (f a) R E) :
    Contract P (x >>= f) R E where
  returns s b s'' hs h := by
    obtain ⟨a, s', hxs, hfs⟩ := bind_eq_ok.mp h
    have hmid := hx.returns s a s' hs hxs
    exact (hf a).returns s' b s'' hmid hfs
  raises s e s'' hs h := by
    rcases bind_eq_error.mp h with hxs | ⟨a, s', hxs, hfs⟩
    · exact hx.raises s e s'' hs hxs
    · have hmid := hx.returns s a s' hs hxs
      exact (hf a).raises s' e s'' hmid hfs

/-- A fact about the values at hand may be used without a state. -/
theorem given {p : Prop} (hx : p → Contract P x Q E) : Contract (fun s ↦ P s ∧ p) x Q E where
  returns s a s' hs h := (hx hs.2).returns s a s' hs.1 h
  raises s e s' hs h := (hx hs.2).raises s e s' hs.1 h

theorem tryCatch {h : ε → EStateM ε σ α} (hx : Contract P x Q E')
    (hh : ∀ e, Contract E' (h e) Q E) : Contract P (MonadExcept.tryCatch x h) Q E where
  returns s a s'' hs htry := by
    rcases tryCatch_eq_ok.mp htry with hxs | ⟨e, s', hxs, hhs⟩
    · exact hx.returns s a s'' hs hxs
    · exact (hh e).returns s' a s'' (hx.raises s e s' hs hxs) hhs
  raises s e s'' hs htry := by
    obtain ⟨e', s', hxs, hhs⟩ := tryCatch_eq_error.mp htry
    exact (hh e').raises s' e s'' (hx.raises s e' s' hs hxs) hhs

theorem reads {g : σ → α} (h : ∀ s, P s → Q (g s) s) :
    Contract P (Effect.reads g : EStateM ε σ α) Q E where
  returns s a s' hs hx := by
    cases hx
    exact h s hs
  raises s e s' hs hx := by cases hx

theorem modify {g : σ → σ} {Q : PUnit → σ → Prop} (h : ∀ s, P s → Q ⟨⟩ (g s)) :
    Contract P (modify g : EStateM ε σ PUnit) Q E where
  returns s a s' hs hx := by
    cases hx
    exact h s hs
  raises s e s' hs hx := by cases hx

end Contract

/-! ## Invariants -/

abbrev Keeping (I : σ → Prop) (x : EStateM ε σ α) : Prop := Contract I x (fun _ ↦ I) I

namespace Keeping

variable {I : σ → Prop} {x : EStateM ε σ α} {f : α → EStateM ε σ β}

theorem pure (a : α) : Keeping I (Pure.pure a : EStateM ε σ α) := Contract.pure fun _ h ↦ h

theorem throw (e : ε) : Keeping I (MonadExcept.throw e : EStateM ε σ α) := Contract.throw fun _ h ↦ h

theorem bind (hx : Keeping I x) (hf : ∀ a, Keeping I (f a)) : Keeping I (x >>= f) :=
  Contract.bind hx hf

theorem tryCatch {h : ε → EStateM ε σ α} (hx : Keeping I x) (hh : ∀ e, Keeping I (h e)) :
    Keeping I (MonadExcept.tryCatch x h) :=
  Contract.tryCatch hx hh

/-- What the part is known to do to its state keeps the invariant of the whole. -/
theorem zoom_of_within {τ : Type} {I : τ → Prop} {R : σ → σ → Prop} {get : τ → σ}
    {put : σ → τ → τ} (hx : Within R x) (h : ∀ t s, I t → R (get t) s → I (put s t)) :
    Keeping I (zoom get put x) where
  returns t a t' ht hz := by
    obtain ⟨s, hs, rfl⟩ := zoom_eq_ok.mp hz
    exact h t s ht (hx.of_ok hs)
  raises t e t' ht hz := by
    obtain ⟨s, hs, rfl⟩ := zoom_eq_error.mp hz
    exact h t s ht (hx.of_error hs)

theorem final (hx : Keeping I x) {s : σ} (hs : I s) : I (final (x s)) := by
  cases h : x s with
  | ok a s' => exact hx.returns s a s' hs h
  | error e s' => exact hx.raises s e s' hs h

end Keeping

end Effect
