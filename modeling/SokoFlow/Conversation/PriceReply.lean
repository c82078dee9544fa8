import SokoFlow.Conversation.Confirmation

/-!
# Replies to the price question

What is left of a reply is handed to `Decimal`, whose language has NaN in it:
a NaN is quantized without complaint and raises when it is compared.
-/

namespace SokoFlow

open Effect FlowM FSMEngine

/-! ## The word NaN -/

/-- Digits of any script. -/
def AreDigits (u : Unicode) (s : List Char) : Prop := ∀ c ∈ s, (u.decimal c).isSome = true

/-- NaN in any case, with the digits of its payload. -/
def IsNaN (u : Unicode) (s : List Char) : Prop :=
  ∃ word digits, s = word ++ digits ∧ word.map Char.toLower = "nan".toList ∧ AreDigits u digits

/-- What is left of the text is NaN, perhaps with a sign, and with underscores anywhere. -/
def SpellsNaN (u : Unicode) (text : String) : Prop :=
  ∃ sign s, (Text.stripChars (cleanPrice u text).toList).filter (· ≠ '_') = sign ++ s ∧
    sign ∈ [[], ['+'], ['-']] ∧ IsNaN u s

theorem allDigits_isSome {u : Unicode} {s : List Char} :
    (Decimal.allDigits u s).isSome = true ↔ AreDigits u s := by
  unfold Decimal.allDigits AreDigits
  induction s with
  | nil => simp
  | cons c s ih =>
      rw [List.mapM_cons, List.forall_mem_cons, ← ih]
      cases u.decimal c with
      | none => simp
      | some d => cases s.mapM u.decimal <;> simp

theorem readFinite_ne_nan {u : Unicode} {negative : Bool} {s : List Char} :
    Decimal.readFinite u negative s ≠ some .nan := by
  intro h
  obtain ⟨⟨ds, places⟩, -, h⟩ := Option.bind_eq_some_iff.mp h
  dsimp only at h
  split at h
  · obtain ⟨exponent, -, h⟩ := Option.bind_eq_some_iff.mp h
    split at h <;> cases h
  · obtain ⟨exponent, -, h⟩ := Option.bind_eq_some_iff.mp h
    split at h <;> cases h

theorem readUnsigned_eq_nan {u : Unicode} {negative : Bool} {s : List Char} :
    Decimal.readUnsigned u negative s = some .nan ↔ IsNaN u s := by
  unfold Decimal.readUnsigned
  constructor
  · intro h
    dsimp only at h
    split at h
    · cases h
    · split at h
      · rename_i hword
        obtain ⟨ds, hds, -⟩ := Option.map_eq_some_iff.mp h
        refine ⟨s.take 3, s.drop 3, (List.take_append_drop 3 s).symm, ?_, ?_⟩
        · rw [List.map_take]
          exact hword
        · apply allDigits_isSome.mp
          rw [hds]
          rfl
      · split at h
        · obtain ⟨ds, -, h⟩ := Option.map_eq_some_iff.mp h
          cases h
        · exact absurd h readFinite_ne_nan
  · rintro ⟨word, digits, rfl, hword, hdigits⟩
    have hlen : word.length = 3 := by
      rw [← List.length_map (f := Char.toLower), hword]
      rfl
    have hlow : (word ++ digits).map Char.toLower = "nan".toList ++ digits.map Char.toLower := by
      rw [List.map_append, hword]
    obtain ⟨ds, hds⟩ := Option.isSome_iff_exists.mp (allDigits_isSome.mpr hdigits)
    simp only [hlow, List.drop_left' hlen, hds]
    rw [if_neg, if_pos]
    · rfl
    · simp
    · simp

theorem IsNaN.head {u : Unicode} {s : List Char} (h : IsNaN u s) :
    ∀ rest, s ≠ '-' :: rest ∧ s ≠ '+' :: rest := by
  intro rest
  obtain ⟨word, digits, rfl, hword, -⟩ := h
  cases word with
  | nil => cases hword
  | cons c word =>
      rw [List.map_cons] at hword
      have hc : c.toLower = 'n' := (List.cons.inj hword).1
      constructor <;>
      · intro h
        rw [(List.cons.inj h).1] at hc
        cases hc

theorem read_eq_nan {u : Unicode} {text : String} :
    Decimal.read u (cleanPrice u text) = some .nan ↔ SpellsNaN u text := by
  unfold Decimal.read SpellsNaN
  generalize (Text.stripChars (cleanPrice u text).toList).filter (· ≠ '_') = s
  constructor
  · intro h
    split at h
    · rename_i rest
      exact ⟨['-'], rest, rfl, by simp, readUnsigned_eq_nan.mp h⟩
    · rename_i rest
      exact ⟨['+'], rest, rfl, by simp, readUnsigned_eq_nan.mp h⟩
    · exact ⟨[], s, rfl, by simp, readUnsigned_eq_nan.mp h⟩
  · rintro ⟨sign, rest, rfl, hsign, hnan⟩
    simp only [List.mem_cons, List.not_mem_nil, or_false] at hsign
    rcases hsign with rfl | rfl | rfl
    · rw [List.nil_append]
      split
      · exact absurd rfl (hnan.head _).1
      · exact absurd rfl (hnan.head _).2
      · exact readUnsigned_eq_nan.mpr hnan
    · exact readUnsigned_eq_nan.mpr hnan
    · exact readUnsigned_eq_nan.mpr hnan

/-! ## The parser -/

/-- The parser answers: a positive amount of whole cents, or an invalid input. -/
def AnswersPrice (u : Unicode) (text : String) : Prop :=
  (∃ price, parsePrice u text = .ok price ∧
      ∃ cents : ℤ, 0 < cents ∧ price.val = Decimal.ofCents cents) ∨
    ∃ message key params, parsePrice u text = .error (.invalidInput message key params)

theorem ofCents_pos {n : ℤ} : 0 < Decimal.ofCents n ↔ 0 < n := by
  rw [Decimal.ofCents, Rat.mkRat_eq_div]
  constructor
  · intro h
    have : (0 : ℚ) < (n : ℤ) := by simpa using h
    exact_mod_cast this
  · intro h
    have : (0 : ℚ) < (n : ℤ) := by exact_mod_cast h
    positivity

theorem answers_of_finite {u : Unicode} {text : String} {negative : Bool} {coefficient : ℕ}
    {exponent : ℤ}
    (h : Decimal.read u (cleanPrice u text) = some (.finite negative coefficient exponent)) :
    AnswersPrice u text := by
  unfold AnswersPrice parsePrice
  simp only [h]
  cases Decimal.quantize negative coefficient exponent with
  | none => exact .inr ⟨_, _, _, rfl⟩
  | some cents =>
      dsimp only
      split
      · rename_i hpos
        exact .inl ⟨_, rfl, cents, ofCents_pos.mp hpos, rfl⟩
      · exact .inr ⟨_, _, _, rfl⟩

theorem parsePrice_answers_iff (u : Unicode) (text : String) :
    AnswersPrice u text ↔ ¬ SpellsNaN u text := by
  rw [← read_eq_nan]
  cases h : Decimal.read u (cleanPrice u text) with
  | none =>
      unfold AnswersPrice parsePrice
      simp [h, invalidInput]
  | some literal =>
      cases literal with
      | finite negative coefficient exponent => simp [answers_of_finite h]
      | infinite =>
          unfold AnswersPrice parsePrice
          simp [h, invalidInput]
      | nan =>
          unfold AnswersPrice parsePrice
          simp [h]
      | signalling =>
          unfold AnswersPrice parsePrice
          simp [h, invalidInput]

/-! ## The conversation -/

variable {dep : Deployment} {text : String} {t t' : Turn} {e : Exc}

theorem handlePrice_error (h : AddProductFlow.handlePrice dep text t = .error e t') :
    parsePrice dep.unicode text = .error e := by
  unfold AddProductFlow.handlePrice at h
  rw [session_bind] at h
  rcases ofExcept_bind_error h with ⟨he, -⟩ | ⟨price, -, h⟩
  · exact he
  · cases h

/-- The conversation goes on after the reply to the price question. -/
def Alive (dep : Deployment) (text : String) : Prop :=
  ∀ t : Turn, t.session.state = .ADD_PRODUCT_PRICE → ∃ r t', processMessage dep text t = .ok r t'

theorem alive_of_answers (h : AnswersPrice dep.unicode text) : Alive dep text := by
  intro t ht
  cases hp : processMessage dep text t with
  | ok r t' => exact ⟨r, t', rfl⟩
  | error e t' =>
      obtain ⟨-, hh, he⟩ := processMessage_raised hp
      rw [ht] at hh
      have hparse := handlePrice_error hh
      rcases h with ⟨price, hok, -⟩ | ⟨message, key, params, hinvalid⟩
      · rw [hparse] at hok
        cases hok
      · rw [hparse] at hinvalid
        cases hinvalid
        cases he

/-- The parser answers and the conversation goes on, unless the reply spells NaN. -/
theorem answers_alive_iff (dep : Deployment) (text : String) :
    (AnswersPrice dep.unicode text ∧ Alive dep text) ↔ ¬ SpellsNaN dep.unicode text := by
  constructor
  · intro h
    exact (parsePrice_answers_iff dep.unicode text).mp h.1
  · intro h
    have hanswers := (parsePrice_answers_iff dep.unicode text).mpr h
    exact ⟨hanswers, alive_of_answers hanswers⟩

/-- The reply `NaN` escapes both the parser and the engine. -/
theorem nan_escapes :
    parsePrice .ascii "NaN" =
        .error (.other "InvalidOperation" "[<class 'decimal.InvalidOperation'>]") ∧
      ¬ AnswersPrice .ascii "NaN" ∧ ¬ Alive .sample "NaN" := by
  have hnan : parsePrice .ascii "NaN" =
      .error (.other "InvalidOperation" "[<class 'decimal.InvalidOperation'>]") := rfl
  refine ⟨hnan, ?_, ?_⟩
  · simp [AnswersPrice, hnan]
  · intro halive
    obtain ⟨r, t', h⟩ :=
      halive ⟨⟨"254700000001", .ADD_PRODUCT_PRICE, {}⟩, .connect .calm .sample⟩ rfl
    cases h

end SokoFlow
