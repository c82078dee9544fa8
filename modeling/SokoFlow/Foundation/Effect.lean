import Mathlib.Order.Defs.Unbundled
import Mathlib.Tactic.Common

/-!
# Programs with a state and exceptions

`EStateM ε σ` runs on a state that survives a raised exception.  The rules
below invert a finished run (`bind_eq_ok`, `bind_eq_error`), bound what a
program does to its state whatever the outcome (`Within`), bound what it
raises (`Raises`), and compare two runs step by step (`Agree`).
-/

namespace Effect

variable {ε σ τ α β : Type}

/-- The state in which a run ended, by return or by raise. -/
def final : EStateM.Result ε σ α → σ
  | .ok _ s => s
  | .error _ s => s

@[simp] theorem final_ok (a : α) (s : σ) : final (.ok a s : EStateM.Result ε σ α) = s := rfl

@[simp] theorem final_error (e : ε) (s : σ) :
    final (.error e s : EStateM.Result ε σ α) = s := rfl

/-- Read a value off the state. -/
def reads (f : σ → α) : EStateM ε σ α := fun s ↦ .ok (f s) s

/-- Run a program on one component of a larger state. -/
def zoom (get : τ → σ) (put : σ → τ → τ) (x : EStateM ε σ α) : EStateM ε τ α := fun t ↦
  match x (get t) with
  | .ok a s => .ok a (put s t)
  | .error e s => .error e (put s t)

/-! ## Inverting a finished run -/

theorem bind_eq_ok {x : EStateM ε σ α} {f : α → EStateM ε σ β} {s s'' : σ} {b : β} :
    (x >>= f) s = .ok b s'' ↔ ∃ a s', x s = .ok a s' ∧ f a s' = .ok b s'' := by
  change EStateM.bind x f s = _ ↔ _
  unfold EStateM.bind
  cases x s <;> simp

theorem bind_eq_error {x : EStateM ε σ α} {f : α → EStateM ε σ β} {s s'' : σ} {e : ε} :
    (x >>= f) s = .error e s'' ↔
      x s = .error e s'' ∨ ∃ a s', x s = .ok a s' ∧ f a s' = .error e s'' := by
  change EStateM.bind x f s = _ ↔ _
  unfold EStateM.bind
  cases x s <;> simp

theorem bind_of_ok {x : EStateM ε σ α} {f : α → EStateM ε σ β} {s s' : σ} {a : α}
    (h : x s = .ok a s') : (x >>= f) s = f a s' := by
  change EStateM.bind x f s = _
  simp only [EStateM.bind, h]

theorem bind_of_error {x : EStateM ε σ α} {f : α → EStateM ε σ β} {s s' : σ} {e : ε}
    (h : x s = .error e s') : (x >>= f) s = .error e s' := by
  change EStateM.bind x f s = _
  simp only [EStateM.bind, h]

/-- What comes after a computation only has to agree on the values it returns. -/
theorem bind_congr_of_ok {x : EStateM ε σ α} {f g : α → EStateM ε σ β}
    (h : ∀ s a s', x s = .ok a s' → f a = g a) : x >>= f = x >>= g := by
  funext s
  cases hx : x s with
  | ok a s' => rw [bind_of_ok hx, bind_of_ok hx, h s a s' hx]
  | error e s' => rw [bind_of_error hx, bind_of_error hx]

@[simp] theorem pure_apply (a : α) (s : σ) : (pure a : EStateM ε σ α) s = .ok a s := rfl

@[simp] theorem throw_apply (e : ε) (s : σ) : (throw e : EStateM ε σ α) s = .error e s := rfl

@[simp] theorem get_apply (s : σ) : (get : EStateM ε σ σ) s = .ok s s := rfl

@[simp] theorem modify_apply (f : σ → σ) (s : σ) :
    (modify f : EStateM ε σ PUnit) s = .ok ⟨⟩ (f s) := rfl

@[simp] theorem reads_apply (f : σ → α) (s : σ) :
    (reads f : EStateM ε σ α) s = .ok (f s) s := rfl

theorem tryCatch_of_ok {x : EStateM ε σ α} {h : ε → EStateM ε σ α} {s s' : σ} {a : α}
    (hx : x s = .ok a s') : (tryCatch x h) s = .ok a s' := by
  change EStateM.tryCatch x h s = _
  simp only [EStateM.tryCatch, hx]

theorem tryCatch_of_error {x : EStateM ε σ α} {h : ε → EStateM ε σ α} {s s' : σ} {e : ε}
    (hx : x s = .error e s') : (tryCatch x h) s = h e s' := by
  change EStateM.tryCatch x h s = _
  simp only [EStateM.tryCatch, hx]
  rfl

theorem tryCatch_eq_ok {x : EStateM ε σ α} {h : ε → EStateM ε σ α} {s s'' : σ} {a : α} :
    (tryCatch x h) s = .ok a s'' ↔
      x s = .ok a s'' ∨ ∃ e s', x s = .error e s' ∧ h e s' = .ok a s'' := by
  cases hx : x s with
  | ok b s' => simp [tryCatch_of_ok hx]
  | error e s' => simp [tryCatch_of_error hx]

theorem tryCatch_eq_error {x : EStateM ε σ α} {h : ε → EStateM ε σ α} {s s'' : σ} {e' : ε} :
    (tryCatch x h) s = .error e' s'' ↔
      ∃ e s', x s = .error e s' ∧ h e s' = .error e' s'' := by
  cases hx : x s with
  | ok b s' => simp [tryCatch_of_ok hx]
  | error e s' => simp [tryCatch_of_error hx]

theorem ofExcept_eq_ok {y : Except ε α} {s s' : σ} {a : α} :
    (MonadExcept.ofExcept y : EStateM ε σ α) s = .ok a s' ↔ y = .ok a ∧ s' = s := by
  cases y with
  | ok a' =>
      change EStateM.Result.ok a' s = .ok a s' ↔ _
      simp [eq_comm]
  | error e =>
      change EStateM.Result.error e s = .ok a s' ↔ _
      simp

theorem ofExcept_eq_error {y : Except ε α} {s s' : σ} {e : ε} :
    (MonadExcept.ofExcept y : EStateM ε σ α) s = .error e s' ↔ y = .error e ∧ s' = s := by
  cases y with
  | ok a =>
      change EStateM.Result.ok a s = .error e s' ↔ _
      simp
  | error e' =>
      change EStateM.Result.error e' s = .error e s' ↔ _
      simp [eq_comm]

theorem zoom_eq_ok {get : τ → σ} {put : σ → τ → τ} {x : EStateM ε σ α} {t t' : τ} {a : α} :
    zoom get put x t = .ok a t' ↔ ∃ s, x (get t) = .ok a s ∧ t' = put s t := by
  unfold zoom
  cases x (get t) <;> simp [eq_comm]

theorem zoom_eq_error {get : τ → σ} {put : σ → τ → τ} {x : EStateM ε σ α} {t t' : τ} {e : ε} :
    zoom get put x t = .error e t' ↔ ∃ s, x (get t) = .error e s ∧ t' = put s t := by
  unfold zoom
  cases x (get t) <;> simp [eq_comm]

/-! ## What a program does to its state -/

/-- Every run, returned or raised, relates its start to its end by `R`. -/
def Within (R : σ → σ → Prop) (x : EStateM ε σ α) : Prop :=
  ∀ s, R s (final (x s))

namespace Within

variable {R : σ → σ → Prop} {x : EStateM ε σ α} {f : α → EStateM ε σ β}

theorem of_ok (hx : Within R x) {s s' : σ} {a : α} (h : x s = .ok a s') : R s s' := by
  simpa [h] using hx s

theorem of_error (hx : Within R x) {s s' : σ} {e : ε} (h : x s = .error e s') : R s s' := by
  simpa [h] using hx s

theorem mono {R' : σ → σ → Prop} (hx : Within R x) (h : ∀ s s', R s s' → R' s s') :
    Within R' x :=
  fun s ↦ h _ _ (hx s)

theorem modify {g : σ → σ} (h : ∀ s, R s (g s)) :
    Within R (modify g : EStateM ε σ PUnit) := fun s ↦ h s

section Preorder

variable [IsPreorder σ R]

theorem pure (a : α) : Within R (Pure.pure a : EStateM ε σ α) := fun s ↦ refl_of R s

theorem throw (e : ε) : Within R (MonadExcept.throw e : EStateM ε σ α) := fun s ↦ refl_of R s

theorem get : Within R (MonadState.get : EStateM ε σ σ) := fun s ↦ refl_of R s

theorem reads (g : σ → α) : Within R (Effect.reads g : EStateM ε σ α) := fun s ↦ refl_of R s

theorem bind (hx : Within R x) (hf : ∀ a, Within R (f a)) : Within R (x >>= f) := by
  intro s
  cases h : x s with
  | ok a s' =>
      rw [bind_of_ok h]
      exact trans_of R (hx.of_ok h) (hf a s')
  | error e s' =>
      rw [bind_of_error h]
      exact hx.of_error h

theorem tryCatch {h : ε → EStateM ε σ α} (hx : Within R x) (hh : ∀ e, Within R (h e)) :
    Within R (MonadExcept.tryCatch x h) := by
  intro s
  cases hs : x s with
  | ok a s' =>
      rw [tryCatch_of_ok hs]
      exact hx.of_ok hs
  | error e s' =>
      rw [tryCatch_of_error hs]
      exact trans_of R (hx.of_error hs) (hh e s')

end Preorder

theorem zoom {get : τ → σ} {put : σ → τ → τ} {R' : τ → τ → Prop} (hx : Within R x)
    (h : ∀ t s, R (get t) s → R' t (put s t)) : Within R' (zoom get put x) := by
  intro t
  unfold Effect.zoom
  cases hs : x (get t) with
  | ok a s => exact h t s (hx.of_ok hs)
  | error e s => exact h t s (hx.of_error hs)

end Within

/-! ## What a program raises -/

/-- Every exception the program lets escape satisfies `E`. -/
def Raises (E : ε → Prop) (x : EStateM ε σ α) : Prop :=
  ∀ s e s', x s = .error e s' → E e

namespace Raises

variable {E : ε → Prop} {x : EStateM ε σ α} {f : α → EStateM ε σ β}

theorem mono {E' : ε → Prop} (hx : Raises E x) (h : ∀ e, E e → E' e) : Raises E' x :=
  fun s e s' hs ↦ h e (hx s e s' hs)

theorem pure (a : α) : Raises E (Pure.pure a : EStateM ε σ α) := fun _ _ _ h ↦ by cases h

theorem throw {e : ε} (he : E e) : Raises E (MonadExcept.throw e : EStateM ε σ α) := by
  intro s e' s' h
  cases h
  exact he

theorem get : Raises E (MonadState.get : EStateM ε σ σ) := fun _ _ _ h ↦ by cases h

theorem reads (g : σ → α) : Raises E (Effect.reads g : EStateM ε σ α) := fun _ _ _ h ↦ by cases h

theorem modify (g : σ → σ) : Raises E (modify g : EStateM ε σ PUnit) := fun _ _ _ h ↦ by cases h

theorem bind (hx : Raises E x) (hf : ∀ a, Raises E (f a)) : Raises E (x >>= f) := by
  intro s e s'' h
  rcases bind_eq_error.mp h with h | ⟨a, s', _, h⟩
  · exact hx s e s'' h
  · exact hf a s' e s'' h

theorem tryCatch {h : ε → EStateM ε σ α} (hh : ∀ e, Raises E (h e)) :
    Raises E (MonadExcept.tryCatch x h) := by
  intro s e' s'' hs
  obtain ⟨e, s', _, hs⟩ := tryCatch_eq_error.mp hs
  exact hh e s' e' s'' hs

theorem zoom {get : τ → σ} {put : σ → τ → τ} (hx : Raises E x) :
    Raises E (zoom get put x) := by
  intro t e t' h
  obtain ⟨s, hs, _⟩ := zoom_eq_error.mp h
  exact hx _ _ _ hs

/-- An exception the first program does not raise comes from the second. -/
theorem second (hx : Raises E x) {s s'' : σ} {e : ε} (he : ¬ E e)
    (h : (x >>= f) s = .error e s'') : ∃ a s', x s = .ok a s' ∧ f a s' = .error e s'' := by
  rcases bind_eq_error.mp h with h | h
  · exact absurd (hx s e s'' h) he
  · exact h

/-- An exception the second program does not raise comes from the first. -/
theorem first (hf : ∀ a, Raises E (f a)) {s s'' : σ} {e : ε} (he : ¬ E e)
    (h : (x >>= f) s = .error e s'') : x s = .error e s'' := by
  rcases bind_eq_error.mp h with h | ⟨a, s', -, h⟩
  · exact h
  · exact absurd (hf a s' e s'' h) he

end Raises

/-- Every error of a pure computation satisfies `E`. -/
def Fails (E : ε → Prop) (x : Except ε α) : Prop :=
  ∀ e, x = .error e → E e

namespace Fails

variable {E : ε → Prop}

theorem ok (a : α) : Fails E (Except.ok a) := fun _ h ↦ by cases h

theorem error {e : ε} (he : E e) : Fails E (Except.error e : Except ε α) := by
  intro e' h
  cases h
  exact he

theorem bind {x : Except ε α} {f : α → Except ε β} (hx : Fails E x) (hf : ∀ a, Fails E (f a)) :
    Fails E (x >>= f) := by
  cases x with
  | ok a => exact hf a
  | error e => exact .error (hx e rfl)

end Fails

theorem Raises.ofExcept {E : ε → Prop} {y : Except ε α} (hy : Fails E y) :
    Raises E (MonadExcept.ofExcept y : EStateM ε σ α) := by
  intro s e s' h
  obtain ⟨he, -⟩ := ofExcept_eq_error.mp h
  exact hy e he

/-- The program moves its state along `R` and raises only what satisfies `E`. -/
structure Bounded (R : σ → σ → Prop) (E : ε → Prop) (x : EStateM ε σ α) : Prop where
  within : Within R x
  raises : Raises E x

namespace Bounded

variable {R : σ → σ → Prop} {E : ε → Prop} {x : EStateM ε σ α}

theorem mono {E' : ε → Prop} (hx : Bounded R E x) (h : ∀ e, E e → E' e) : Bounded R E' x :=
  ⟨hx.within, hx.raises.mono h⟩

variable [IsPreorder σ R]

theorem pure (a : α) : Bounded R E (Pure.pure a : EStateM ε σ α) := ⟨.pure a, .pure a⟩

theorem throw {e : ε} (he : E e) : Bounded R E (MonadExcept.throw e : EStateM ε σ α) :=
  ⟨.throw e, .throw he⟩

theorem bind {f : α → EStateM ε σ β} (hx : Bounded R E x) (hf : ∀ a, Bounded R E (f a)) :
    Bounded R E (x >>= f) :=
  ⟨hx.within.bind fun a ↦ (hf a).within, hx.raises.bind fun a ↦ (hf a).raises⟩

theorem ofExcept {y : Except ε α} (hy : Fails E y) :
    Bounded R E (MonadExcept.ofExcept y : EStateM ε σ α) := by
  cases y with
  | ok a => exact .pure a
  | error e => exact .throw (hy e rfl)

end Bounded

/-! ## What a program returns -/

/-- Every value the program returns satisfies `P`, and every exception `E`. -/
structure Yields (P : α → Prop) (E : ε → Prop) (x : EStateM ε σ α) : Prop where
  returns : ∀ s a s', x s = .ok a s' → P a
  raises : Raises E x

namespace Yields

variable {P : α → Prop} {Q : β → Prop} {E : ε → Prop}

theorem pure {a : α} (h : P a) : Yields P E (Pure.pure a : EStateM ε σ α) :=
  ⟨fun _ _ _ hs ↦ (by cases hs; exact h), .pure a⟩

theorem throw {e : ε} (h : E e) : Yields P E (MonadExcept.throw e : EStateM ε σ α) :=
  ⟨fun _ _ _ hs ↦ (by cases hs), .throw h⟩

/-- Only what the last step returns matters. -/
theorem bind {x : EStateM ε σ α} {f : α → EStateM ε σ β} (hx : Raises E x)
    (hf : ∀ a, Yields Q E (f a)) : Yields Q E (x >>= f) where
  returns s b s'' h := by
    obtain ⟨a, s', -, h⟩ := bind_eq_ok.mp h
    exact (hf a).returns s' b s'' h
  raises := hx.bind fun a ↦ (hf a).raises

/-- What the first step returns may be used. -/
theorem bind_of {x : EStateM ε σ α} {f : α → EStateM ε σ β} (hx : Yields P E x)
    (hf : ∀ a, P a → Yields Q E (f a)) : Yields Q E (x >>= f) where
  returns s b s'' h := by
    obtain ⟨a, s', ha, h⟩ := bind_eq_ok.mp h
    exact (hf a (hx.returns s a s' ha)).returns s' b s'' h
  raises s e s'' h := by
    rcases bind_eq_error.mp h with h | ⟨a, s', ha, h⟩
    · exact hx.raises s e s'' h
    · exact (hf a (hx.returns s a s' ha)).raises s' e s'' h

theorem ofExcept {y : Except ε α} (hy : Fails E y) (hP : ∀ a, y = .ok a → P a) :
    Yields P E (MonadExcept.ofExcept y : EStateM ε σ α) := by
  cases y with
  | ok a => exact .pure (hP a rfl)
  | error e => exact .throw (hy e rfl)

end Yields

/-! ## What a run that returns keeps -/

/-- A run that returns leaves this part of the state as it was. -/
def Keeps {γ : Type} (part : σ → γ) (x : EStateM ε σ α) : Prop :=
  ∀ s a s', x s = .ok a s' → part s' = part s

namespace Keeps

variable {γ : Type} {part : σ → γ} {x : EStateM ε σ α}

theorem pure (a : α) : Keeps part (Pure.pure a : EStateM ε σ α) := fun _ _ _ h ↦ by
  cases h
  rfl

theorem throw (e : ε) : Keeps part (MonadExcept.throw e : EStateM ε σ α) := fun _ _ _ h ↦ by cases h

theorem reads (g : σ → α) : Keeps part (Effect.reads g : EStateM ε σ α) := fun _ _ _ h ↦ by
  cases h
  rfl

theorem modify {g : σ → σ} (h : ∀ s, part (g s) = part s) :
    Keeps part (modify g : EStateM ε σ PUnit) := fun s _ _ hs ↦ by
  cases hs
  exact h s

theorem bind {f : α → EStateM ε σ β} (hx : Keeps part x) (hf : ∀ a, Keeps part (f a)) :
    Keeps part (x >>= f) := by
  intro s b s'' h
  obtain ⟨a, s', h₁, h₂⟩ := bind_eq_ok.mp h
  exact (hf a s' b s'' h₂).trans (hx s a s' h₁)

theorem zoom {get : τ → σ} {put : σ → τ → τ} {part : τ → γ} (h : ∀ s t, part (put s t) = part t)
    (x : EStateM ε σ α) : Keeps part (zoom get put x) := by
  intro t a t' ht
  obtain ⟨s, -, rfl⟩ := zoom_eq_ok.mp ht
  exact h s t

end Keeps

/-! ## Two runs in step -/

/-- From `R`-related states both programs end the same way, with the same
value or the same exception, in `R`-related states. -/
def Agree (R : σ → τ → Prop) (x : EStateM ε σ α) (y : EStateM ε τ α) : Prop :=
  ∀ s t, R s t → match x s, y t with
    | .ok a s', .ok b t' => a = b ∧ R s' t'
    | .error e s', .error e' t' => e = e' ∧ R s' t'
    | _, _ => False

namespace Agree

variable {R : σ → τ → Prop} {x : EStateM ε σ α} {y : EStateM ε τ α}

theorem pure (a : α) : Agree R (Pure.pure a : EStateM ε σ α) (Pure.pure a : EStateM ε τ α) :=
  fun _ _ h ↦ ⟨rfl, h⟩

theorem throw (e : ε) :
    Agree R (MonadExcept.throw e : EStateM ε σ α) (MonadExcept.throw e : EStateM ε τ α) :=
  fun _ _ h ↦ ⟨rfl, h⟩

theorem of_iff {R' : σ → τ → Prop} (hx : Agree R x y) (h : ∀ s t, R' s t ↔ R s t) :
    Agree R' x y := by
  intro s t hst
  have hr := hx s t ((h s t).mp hst)
  revert hr
  cases x s <;> cases y t <;> simp +contextual [h]

theorem reads {g : σ → α} {k : τ → α} (h : ∀ s t, R s t → g s = k t) :
    Agree R (Effect.reads g : EStateM ε σ α) (Effect.reads k : EStateM ε τ α) :=
  fun s t hst ↦ ⟨h s t hst, hst⟩

theorem modify {g : σ → σ} {k : τ → τ} (h : ∀ s t, R s t → R (g s) (k t)) :
    Agree R (modify g : EStateM ε σ PUnit) (modify k : EStateM ε τ PUnit) :=
  fun s t hst ↦ ⟨rfl, h s t hst⟩

theorem bind {f : α → EStateM ε σ β} {g : α → EStateM ε τ β} (hx : Agree R x y)
    (hf : ∀ a, Agree R (f a) (g a)) : Agree R (x >>= f) (y >>= g) := by
  intro s t hst
  have h := hx s t hst
  cases hs : x s with
  | ok a s' =>
      cases ht : y t with
      | ok b t' =>
          rw [hs, ht] at h
          obtain ⟨rfl, h⟩ := h
          rw [bind_of_ok hs, bind_of_ok ht]
          exact hf a s' t' h
      | error e t' => simp [hs, ht] at h
  | error e s' =>
      cases ht : y t with
      | ok b t' => simp [hs, ht] at h
      | error e' t' =>
          rw [hs, ht] at h
          rw [bind_of_error hs, bind_of_error ht]
          exact h

theorem tryCatch {h : ε → EStateM ε σ α} {k : ε → EStateM ε τ α} (hx : Agree R x y)
    (hh : ∀ e, Agree R (h e) (k e)) :
    Agree R (MonadExcept.tryCatch x h) (MonadExcept.tryCatch y k) := by
  intro s t hst
  have h' := hx s t hst
  cases hs : x s with
  | ok a s' =>
      cases ht : y t with
      | ok b t' =>
          rw [hs, ht] at h'
          rw [tryCatch_of_ok hs, tryCatch_of_ok ht]
          exact h'
      | error e t' => simp [hs, ht] at h'
  | error e s' =>
      cases ht : y t with
      | ok b t' => simp [hs, ht] at h'
      | error e' t' =>
          rw [hs, ht] at h'
          obtain ⟨rfl, h'⟩ := h'
          rw [tryCatch_of_error hs, tryCatch_of_error ht]
          exact hh e s' t' h'

theorem ofExcept (e : Except ε α) : Agree R (MonadExcept.ofExcept e : EStateM ε σ α)
    (MonadExcept.ofExcept e : EStateM ε τ α) := by
  cases e with
  | ok a => exact .pure a
  | error e => exact .throw e

/-- What is known of the states after the first programs may be used for the
second ones. -/
theorem bind_of {Q : α → σ → τ → Prop} {f : α → EStateM ε σ β} {g : α → EStateM ε τ β}
    (hx : Agree R x y) (hQ : ∀ s t a s' t', R s t → x s = .ok a s' → y t = .ok a t' → Q a s' t')
    (hf : ∀ a, Agree (fun s t ↦ R s t ∧ Q a s t) (f a) (g a)) : Agree R (x >>= f) (y >>= g) := by
  intro s t hst
  have h := hx s t hst
  cases hs : x s with
  | ok a s' =>
      cases ht : y t with
      | ok b t' =>
          rw [hs, ht] at h
          obtain ⟨rfl, h⟩ := h
          rw [bind_of_ok hs, bind_of_ok ht]
          have hrest := hf a s' t' ⟨h, hQ s t a s' t' hst hs ht⟩
          revert hrest
          cases f a s' <;> cases g a t' <;> simp +contextual
      | error e t' => simp [hs, ht] at h
  | error e s' =>
      cases ht : y t with
      | ok b t' => simp [hs, ht] at h
      | error e' t' =>
          rw [hs, ht] at h
          rw [bind_of_error hs, bind_of_error ht]
          exact h

/-- What two runs in step return or raise is the same. -/
theorem outcome_eq (hx : Agree R x y) {s : σ} {t : τ} (h : R s t) :
    (∀ a, (∃ s', x s = .ok a s') ↔ ∃ t', y t = .ok a t') ∧
      ∀ e, (∃ s', x s = .error e s') ↔ ∃ t', y t = .error e t' := by
  have h' := hx s t h
  cases hs : x s <;> cases ht : y t <;> simp_all

end Agree

end Effect
