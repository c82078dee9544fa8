import SokoFlow.Foundation.Contract

/-!
# Contracts that know what was raised

A contract whose postcondition for exceptions speaks about the exception and
the state it leaves, for programs whose callers tell exceptions apart.
-/

namespace Effect

variable {ε σ α β : Type}

structure Outcome (P : σ → Prop) (x : EStateM ε σ α) (Q : α → σ → Prop) (E : ε → σ → Prop) :
    Prop where
  returns : ∀ s a s', P s → x s = .ok a s' → Q a s'
  raises : ∀ s e s', P s → x s = .error e s' → E e s'

namespace Outcome

variable {P P' : σ → Prop} {E E' : ε → σ → Prop} {x : EStateM ε σ α} {f : α → EStateM ε σ β}
variable {Q Q' : α → σ → Prop} {R : β → σ → Prop}

theorem weaken (hx : Outcome P x Q E) (hP : ∀ s, P' s → P s) (hQ : ∀ a s, Q a s → Q' a s)
    (hE : ∀ e s, E e s → E' e s) : Outcome P' x Q' E' where
  returns s a s' hs h := hQ a s' (hx.returns s a s' (hP s hs) h)
  raises s e s' hs h := hE e s' (hx.raises s e s' (hP s hs) h)

theorem pure {a : α} (h : ∀ s, P s → Q a s) : Outcome P (Pure.pure a : EStateM ε σ α) Q E where
  returns s a' s' hs hx := by
    cases hx
    exact h s hs
  raises s e s' hs hx := by cases hx

theorem throw {e : ε} (h : ∀ s, P s → E e s) :
    Outcome P (MonadExcept.throw e : EStateM ε σ α) Q E where
  returns s a s' hs hx := by cases hx
  raises s e' s' hs hx := by
    cases hx
    exact h s hs

theorem bind (hx : Outcome P x Q E) (hf : ∀ a, Outcome (Q a) (f a) R E) :
    Outcome P (x >>= f) R E where
  returns s b s'' hs h := by
    obtain ⟨a, s', hxs, hfs⟩ := bind_eq_ok.mp h
    have hmid := hx.returns s a s' hs hxs
    exact (hf a).returns s' b s'' hmid hfs
  raises s e s'' hs h := by
    rcases bind_eq_error.mp h with hxs | ⟨a, s', hxs, hfs⟩
    · exact hx.raises s e s'' hs hxs
    · have hmid := hx.returns s a s' hs hxs
      exact (hf a).raises s' e s'' hmid hfs

theorem given {p : Prop} (hx : p → Outcome P x Q E) : Outcome (fun s ↦ P s ∧ p) x Q E where
  returns s a s' hs h := (hx hs.2).returns s a s' hs.1 h
  raises s e s' hs h := (hx hs.2).raises s e s' hs.1 h

theorem tryCatch {h : ε → EStateM ε σ α} (hx : Outcome P x Q E')
    (hh : ∀ e, Outcome (E' e) (h e) Q E) : Outcome P (MonadExcept.tryCatch x h) Q E where
  returns s a s'' hs htry := by
    rcases tryCatch_eq_ok.mp htry with hxs | ⟨e, s', hxs, hhs⟩
    · exact hx.returns s a s'' hs hxs
    · exact (hh e).returns s' a s'' (hx.raises s e s' hs hxs) hhs
  raises s e s'' hs htry := by
    obtain ⟨e', s', hxs, hhs⟩ := tryCatch_eq_error.mp htry
    exact (hh e').raises s' e s'' (hx.raises s e' s' hs hxs) hhs

theorem modify {g : σ → σ} {Q : PUnit → σ → Prop} (h : ∀ s, P s → Q ⟨⟩ (g s)) :
    Outcome P (modify g : EStateM ε σ PUnit) Q E where
  returns s a s' hs hx := by
    cases hx
    exact h s hs
  raises s e s' hs hx := by cases hx

end Outcome

end Effect
