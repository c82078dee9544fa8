import SokoFlow.Foundation.Digits
import SokoFlow.Conversation.Parsing

/-!
# The spellings of a price

A price is written with or without a currency before it, commas between its
digits, cents and `/=` after it.  Cleaning takes all of this away but the
digits and the point, whatever was there.
-/

namespace SokoFlow

/-- White space inside a price. -/
abbrev Gap := { s : List Char // ∀ c ∈ s, Text.isSpace c = true ∧ c.toNat < 128 }

/-- `KES` or `KSH` in any letter case, a full stop or none, and white space. -/
structure CurrencyPrefix where
  letters : List Char
  currency : letters.map Char.toUpper = "KES".toList ∨ letters.map Char.toUpper = "KSH".toList
  dot : Bool
  gap : Gap

/-- A way to write `n` cents. -/
structure PriceSpelling (n : ℕ) where
  before : Text.WhiteSpace
  currency : Option CurrencyPrefix
  /-- the digits before the point, in the groups that commas separate -/
  groups : List (List Char)
  nonempty : ∀ g ∈ groups, g ≠ []
  whole : groups.flatten = Nat.toDigits 10 (n / 100)
  /-- the digits after the point, if there is one -/
  fraction : Option (List Char)
  cents : fraction.getD [] ++ List.replicate (2 - (fraction.getD []).length) '0' =
    Decimal.padded 2 (n % 100)
  /-- the white space before `/=`, if that is there -/
  slash : Option Gap
  after : Text.WhiteSpace

namespace PriceSpelling

variable {n : ℕ} {u : Unicode}

def markOf (currency : CurrencyPrefix) : List Char :=
  (if currency.dot then ['.'] else []) ++ currency.gap.val

def pointed : Option (List Char) → List Char
  | none => []
  | some fraction => '.' :: fraction

def slashed : Option Gap → List Char
  | none => []
  | some gap => gap.val ++ "/=".toList

/-- The digits, with commas and point. -/
def number (s : PriceSpelling n) : List Char := [','].intercalate s.groups ++ pointed s.fraction

def body (s : PriceSpelling n) : List Char :=
  (s.currency.elim [] fun c ↦ c.letters ++ markOf c) ++ (s.number ++ slashed s.slash)

def text (s : PriceSpelling n) : String :=
  String.ofList (s.before.val ++ s.body ++ s.after.val)

/-- The digits and the point. -/
def plain (s : PriceSpelling n) : List Char := Nat.toDigits 10 (n / 100) ++ pointed s.fraction

/-! ## Its characters -/

/-- What a number is written with. -/
def Numeral (c : Char) : Prop := c ∈ "0123456789,.".toList

instance (c : Char) : Decidable (Numeral c) := inferInstanceAs (Decidable (c ∈ _))

theorem Numeral.all {p : Char → Bool} (h : "0123456789,.".toList.all p = true) {c : Char}
    (hc : Numeral c) : p c = true := List.all_eq_true.mp h c hc

theorem numeral_digitChar {d : ℕ} (hd : d < 10) : Numeral (Nat.digitChar d) := by
  have hall : ∀ d < 10, Nat.digitChar d ∈ "0123456789,.".toList := by decide
  exact hall d hd

/-- Dropping the separators leaves the parts. -/
theorem filter_intercalate {p : Char → Bool} {sep : List Char} {parts : List (List Char)}
    (hsep : ∀ c ∈ sep, p c = false) (hparts : ∀ c ∈ parts.flatten, p c = true) :
    (sep.intercalate parts).filter p = parts.flatten := by
  have hnone : sep.filter p = [] := List.filter_eq_nil_iff.mpr fun c hc ↦ by simp [hsep c hc]
  induction parts with
  | nil => rfl
  | cons part parts ih =>
      rw [List.flatten_cons, List.forall_mem_append] at hparts
      have hpart : part.filter p = part := List.filter_eq_self.mpr hparts.1
      have hrest := ih hparts.2
      cases parts with
      | nil => simpa using hparts.1
      | cons next parts =>
          rw [List.intercalate_cons_cons, List.filter_append, List.filter_append, hpart, hnone,
            List.append_nil, hrest]
          rfl

theorem digits_whole (n : ℕ) : ∃ ds : List ℕ, Nat.toDigits 10 n = ds.map Nat.digitChar ∧
    (∀ d ∈ ds, d < 10) ∧ Digits.value 10 ds = n := Digits.exists_digits (by decide) n

/-- The digits after the point, and what they are worth. -/
theorem digits_fraction (s : PriceSpelling n) : ∃ fs : List ℕ,
    s.fraction.getD [] = fs.map Nat.digitChar ∧ (∀ d ∈ fs, d < 10) ∧ fs.length ≤ 2 ∧
      Digits.value 10 fs * 10 ^ (2 - fs.length) = n % 100 := by
  obtain ⟨ds, hds, hlen, hlt, hvalue⟩ :=
    Digits.exists_padded (b := 10) (by decide) (by decide : 0 < 2) (Nat.mod_lt n (by decide))
  have hcents : s.fraction.getD [] ++ List.replicate (2 - (s.fraction.getD []).length) '0' =
      ds.map Nat.digitChar := s.cents.trans hds
  generalize s.fraction.getD [] = fraction at hcents
  have hsum := congrArg List.length hcents
  rw [List.length_append, List.length_replicate, List.length_map, hlen] at hsum
  have htake := congrArg (List.take fraction.length) hcents
  rw [List.take_left, ← List.map_take] at htake
  have hdrop := congrArg (List.drop fraction.length) hcents
  rw [List.drop_left, ← List.map_drop] at hdrop
  have hzeros : ds.drop fraction.length = List.replicate (2 - fraction.length) 0 := by
    have hzero : ∀ d < 10, Nat.digitChar d = '0' → d = 0 := by decide
    apply List.eq_replicate_iff.mpr
    refine ⟨by simp [hlen], ?_⟩
    intro d hd
    apply hzero d (hlt d (List.mem_of_mem_drop hd))
    have hmem : Nat.digitChar d ∈ List.replicate (2 - fraction.length) '0' := by
      rw [hdrop]
      exact List.mem_map_of_mem hd
    exact List.eq_of_mem_replicate hmem
  have hlength : (ds.take fraction.length).length = fraction.length := by
    rw [List.length_take]
    omega
  refine ⟨ds.take fraction.length, htake, fun d hd ↦ hlt d (List.mem_of_mem_take hd), by omega, ?_⟩
  have hsplit := Digits.value_append (b := 10) (ds.take fraction.length) (ds.drop fraction.length)
  rw [List.take_append_drop, hvalue, hzeros, Digits.value_zeros, List.length_replicate] at hsplit
  rw [hlength]
  exact hsplit.symm

theorem exists_number (s : PriceSpelling n) : ∃ c rest, s.number = c :: rest ∧
    c ∈ "0123456789".toList := by
  have hdigit : ∀ d < 10, Nat.digitChar d ∈ "0123456789".toList := by decide
  obtain ⟨ds, hds, hlt, -⟩ := digits_whole (n / 100)
  have hwhole : s.groups.flatten = ds.map Nat.digitChar := s.whole.trans hds
  have hne : s.groups.flatten ≠ [] := by
    rw [s.whole]
    exact List.ne_nil_of_length_pos Nat.length_toDigits_pos
  cases hg : s.groups with
  | nil => simp [hg] at hne
  | cons g gs =>
      obtain ⟨c, g', rfl⟩ := List.exists_cons_of_ne_nil (s.nonempty g (by simp [hg]))
      have hc : c ∈ ds.map Nat.digitChar := by
        rw [← hwhole, hg]
        simp
      obtain ⟨d, hd, rfl⟩ := List.mem_map.mp hc
      rw [number, hg]
      cases gs with
      | nil => exact ⟨d.digitChar, _, rfl, hdigit d (hlt d hd)⟩
      | cons next gs =>
          rw [List.intercalate_cons_cons]
          exact ⟨d.digitChar, _, rfl, hdigit d (hlt d hd)⟩

theorem numeral_number (s : PriceSpelling n) : ∀ c ∈ s.number, Numeral c := by
  obtain ⟨ds, hds, hlt, -⟩ := digits_whole (n / 100)
  obtain ⟨fs, hfs, hlt', -⟩ := s.digits_fraction
  intro c hc
  rcases List.mem_append.mp hc with hc | hc
  · rcases Text.mem_intercalate hc with hc | ⟨g, hg, hc⟩
    · rw [List.mem_singleton.mp hc]
      decide
    · have hmem : c ∈ ds.map Nat.digitChar := by
        rw [← hds, ← s.whole]
        exact List.mem_flatten.mpr ⟨g, hg, hc⟩
      obtain ⟨d, hd, rfl⟩ := List.mem_map.mp hmem
      exact numeral_digitChar (hlt d hd)
  · cases hf : s.fraction with
    | none =>
        rw [hf] at hc
        cases hc
    | some fraction =>
        rw [hf] at hc hfs
        rcases List.mem_cons.mp hc with rfl | hc
        · decide
        · have hmem : c ∈ fs.map Nat.digitChar := by
            rw [← hfs]
            exact hc
          obtain ⟨d, hd, rfl⟩ := List.mem_map.mp hmem
          exact numeral_digitChar (hlt' d hd)

/-! ## Cleaning -/

theorem toUpper_numeral {c : Char} (hc : Numeral c) : c.toUpper = c := by
  have h := hc.all (p := fun c ↦ c.toUpper == c) (by decide)
  exact eq_of_beq h

theorem isSpace_numeral {c : Char} (hc : Numeral c) : Text.isSpace c = false := by
  have h := hc.all (p := fun c ↦ !Text.isSpace c) (by decide)
  simpa using h

theorem ascii_numeral {c : Char} (hc : Numeral c) : c.toNat < 128 := by
  have h := hc.all (p := fun c ↦ decide (c.toNat < 128)) (by decide)
  simpa using h

theorem ascii_of_toUpper {c : Char} (h : c.toUpper.toNat < 128) : c.toNat < 128 := by
  unfold Char.toUpper at h
  split at h
  · rename_i hrange
    have hle : c.toNat ≤ 122 := hrange.2
    omega
  · exact h

theorem toUpper_space {c : Char} (h : Text.isSpace c = true) : c.toUpper = c := by
  unfold Char.toUpper
  rw [dif_neg]
  rintro ⟨hlow, hhigh⟩
  have hlow : 97 ≤ c.toNat := hlow
  have hhigh : c.toNat ≤ 122 := hhigh
  simp only [Text.isSpace, Bool.or_eq_true, Bool.and_eq_true, decide_eq_true_eq, beq_iff_eq] at h
  omega

theorem capital_letter (c : CurrencyPrefix) {p : Char → Bool} (h : "KESH".toList.all p = true) :
    ∀ x ∈ c.letters, p x.toUpper = true := by
  intro x hx
  apply List.all_eq_true.mp h
  have hmem : x.toUpper ∈ c.letters.map Char.toUpper := List.mem_map_of_mem hx
  rcases c.currency with hkes | hksh
  · rw [hkes] at hmem
    exact List.mem_append_left ['H'] hmem
  · rw [hksh] at hmem
    exact List.mem_of_mem_erase (b := 'E') hmem

theorem ascii_letter (c : CurrencyPrefix) : ∀ x ∈ c.letters, x.toNat < 128 := by
  intro x hx
  apply ascii_of_toUpper
  have h := capital_letter c (p := fun x ↦ decide (x.toNat < 128)) (by decide) x hx
  exact of_decide_eq_true h

theorem isSpace_letter (c : CurrencyPrefix) : ∀ x ∈ c.letters, Text.isSpace x = false := by
  intro x hx
  by_contra hspace
  rw [Bool.not_eq_false] at hspace
  have h := capital_letter c (p := fun x ↦ !Text.isSpace x) (by decide) x hx
  rw [toUpper_space hspace, hspace] at h
  cases h

theorem ascii_body (s : PriceSpelling n) : ∀ c ∈ s.body, c.toNat < 128 := by
  intro c hc
  rcases List.mem_append.mp hc with hc | hc
  · cases hcur : s.currency with
    | none =>
        rw [hcur] at hc
        cases hc
    | some currency =>
        rw [hcur] at hc
        rcases List.mem_append.mp hc with hc | hc
        · exact ascii_letter currency c hc
        · rcases List.mem_append.mp hc with hc | hc
          · split at hc
            · rw [List.mem_singleton.mp hc]
              decide
            · cases hc
          · exact (currency.gap.property c hc).2
  · rcases List.mem_append.mp hc with hc | hc
    · exact ascii_numeral (s.numeral_number c hc)
    · cases hslash : s.slash with
      | none =>
          rw [hslash] at hc
          cases hc
      | some gap =>
          rw [hslash] at hc
          rcases List.mem_append.mp hc with hc | hc
          · exact (gap.property c hc).2
          · have hall : ("/=".toList.all fun c ↦ decide (c.toNat < 128)) = true := by decide
            exact of_decide_eq_true (List.all_eq_true.mp hall c hc)

theorem head_body (s : PriceSpelling n) : ∀ c ∈ s.body.head?, Text.isSpace c = false := by
  obtain ⟨d, rest, hnumber, -⟩ := s.exists_number
  have hd : Text.isSpace d = false := by
    apply isSpace_numeral
    apply s.numeral_number
    rw [hnumber]
    exact List.mem_cons_self
  intro c hc
  rw [body, hnumber] at hc
  cases hcur : s.currency with
  | none =>
      rw [hcur] at hc
      cases hc
      exact hd
  | some currency =>
      rw [hcur] at hc
      cases hletters : currency.letters with
      | nil =>
          rcases currency.currency with h | h
          · rw [hletters] at h
            cases h
          · rw [hletters] at h
            cases h
      | cons x letters =>
          rw [Option.elim_some, hletters] at hc
          cases hc
          apply isSpace_letter currency
          rw [hletters]
          exact List.mem_cons_self

theorem last_body (s : PriceSpelling n) : ∀ c ∈ s.body.getLast?, Text.isSpace c = false := by
  obtain ⟨d, rest, hnumber, -⟩ := s.exists_number
  have hne : s.number ≠ [] := by
    rw [hnumber]
    exact List.cons_ne_nil d rest
  intro c hc
  rw [body, List.getLast?_append_of_ne_nil _ (by simp [hne])] at hc
  cases hslash : s.slash with
  | none =>
      rw [hslash, slashed, List.append_nil] at hc
      exact isSpace_numeral (s.numeral_number c (List.mem_of_getLast? hc))
  | some gap =>
      rw [hslash, slashed, ← List.append_assoc, List.getLast?_append_of_ne_nil _ (by simp)] at hc
      cases hc
      decide

theorem strip_text (s : PriceSpelling n) : Text.strip s.text = String.ofList s.body := by
  rw [Text.strip, text, String.toList_ofList]
  congr 1
  exact Text.stripChars_surrounded s.before.property s.after.property s.head_body s.last_body

theorem map_toUpper_eq {l : List Char} (h : ∀ c ∈ l, c.toUpper = c) : l.map Char.toUpper = l := by
  rw [List.map_congr_left h, List.map_id']

theorem toUpper_gap (gap : Gap) : gap.val.map Char.toUpper = gap.val := by
  apply map_toUpper_eq
  intro c hc
  exact toUpper_space (gap.property c hc).1

theorem upper_body (s : PriceSpelling n) : s.body.map Char.toUpper =
    (s.currency.elim [] fun c ↦ c.letters.map Char.toUpper ++ markOf c) ++
      (s.number ++ slashed s.slash) := by
  have hnumber : s.number.map Char.toUpper = s.number :=
    map_toUpper_eq fun c hc ↦ toUpper_numeral (s.numeral_number c hc)
  have hslash : (slashed s.slash).map Char.toUpper = slashed s.slash := by
    cases s.slash with
    | none => rfl
    | some gap =>
        rw [slashed, List.map_append, toUpper_gap]
        rfl
  rw [body, List.map_append, List.map_append, hnumber, hslash]
  congr 1
  cases s.currency with
  | none => rfl
  | some c =>
      rw [Option.elim_some, Option.elim_some, List.map_append, markOf, List.map_append, toUpper_gap]
      cases c.dot <;> rfl

theorem dropMark_markOf (c : CurrencyPrefix) {d : Char} {rest : List Char}
    (hd : d ∈ "0123456789".toList) :
    dropCurrency.dropMark (markOf c ++ d :: rest) = d :: rest := by
  have hall : ("0123456789".toList.all fun d ↦ !Text.isSpace d && d != '.') = true := by decide
  have hboth := List.all_eq_true.mp hall d hd
  simp only [Bool.and_eq_true, Bool.not_eq_true', bne_iff_ne] at hboth
  have hdrop : (c.gap.val ++ d :: rest).dropWhile Text.isSpace = d :: rest := by
    rw [List.dropWhile_append_of_pos fun x hx ↦ (c.gap.property x hx).1,
      List.dropWhile_cons_of_neg (by simp [hboth.1])]
  unfold markOf
  cases c.dot with
  | true => exact hdrop
  | false =>
      rw [if_neg (by simp), List.nil_append]
      unfold dropCurrency.dropMark
      split
      · rename_i rest' heq
        have hhead := congrArg List.head? heq
        cases hgap : c.gap.val with
        | nil =>
            rw [hgap] at hhead
            exact absurd (Option.some.inj hhead) hboth.2
        | cons x gap =>
            rw [hgap] at hhead
            have hspace := (c.gap.property x (by simp [hgap])).1
            have hdot : Text.isSpace '.' = false := by decide
            rw [Option.some.inj hhead] at hspace
            exact absurd (hspace.symm.trans hdot) (by decide)
      · exact hdrop

theorem dropCurrency_body (s : PriceSpelling n) :
    dropCurrency (s.body.map Char.toUpper) = s.number ++ slashed s.slash := by
  obtain ⟨d, rest, hnumber, hd⟩ := s.exists_number
  rw [upper_body, hnumber, List.cons_append]
  cases s.currency with
  | some c =>
      rw [Option.elim_some]
      rcases c.currency with h | h
      · rw [h]
        exact dropMark_markOf c hd
      · rw [h]
        exact dropMark_markOf c hd
  | none =>
      have hall : ("0123456789".toList.all fun d ↦ d != 'K') = true := by decide
      have hk := List.all_eq_true.mp hall d hd
      rw [bne_iff_ne] at hk
      rw [Option.elim_none, List.nil_append]
      unfold dropCurrency
      split
      · rename_i heq
        exact absurd (List.cons.inj heq).1 hk
      · rename_i heq
        exact absurd (List.cons.inj heq).1 hk
      · rfl

/-- What the white space before `/=` leaves behind. -/
def trail : Option Gap → List Char
  | none => []
  | some gap => gap.val

theorem dropSlash_body (s : PriceSpelling n) :
    dropSlash (s.number ++ slashed s.slash) = s.number ++ trail s.slash := by
  cases hslash : s.slash with
  | some gap =>
      have hreverse : (s.number ++ (gap.val ++ "/=".toList)).reverse =
          '=' :: '/' :: (s.number ++ gap.val).reverse := by
        rw [← List.append_assoc, List.reverse_append]
        rfl
      rw [slashed, dropSlash, hreverse, trail]
      exact List.reverse_reverse _
  | none =>
      have hends : ("0123456789,.".toList.all fun c ↦ c != '=' && c != '\n') = true := by decide
      rw [slashed, trail, List.append_nil, dropSlash]
      split
      · rename_i rest heq
        have hmem : '=' ∈ s.number := by
          rw [← List.mem_reverse, heq]
          exact List.mem_cons_self
        have hc := (s.numeral_number _ hmem).all hends
        exact absurd hc (by decide)
      · rename_i rest heq
        have hmem : '\n' ∈ s.number := by
          rw [← List.mem_reverse, heq]
          exact List.mem_cons_self
        have hc := (s.numeral_number _ hmem).all hends
        exact absurd hc (by decide)
      · rfl

theorem numeral_plain (s : PriceSpelling n) : ∀ c ∈ s.plain, Numeral c ∧ c ≠ ',' := by
  have hdigit : ∀ d < 10, Numeral (Nat.digitChar d) ∧ Nat.digitChar d ≠ ',' := by decide
  obtain ⟨ds, hds, hlt, -⟩ := digits_whole (n / 100)
  obtain ⟨fs, hfs, hlt', -⟩ := s.digits_fraction
  intro c hc
  rcases List.mem_append.mp hc with hc | hc
  · rw [hds] at hc
    obtain ⟨d, hd, rfl⟩ := List.mem_map.mp hc
    exact hdigit d (hlt d hd)
  · cases hf : s.fraction with
    | none =>
        rw [hf] at hc
        cases hc
    | some fraction =>
        have hfraction : fraction = fs.map Nat.digitChar := by
          rw [hf] at hfs
          exact hfs
        rw [hf, pointed, hfraction] at hc
        rcases List.mem_cons.mp hc with rfl | hc
        · decide
        · obtain ⟨d, hd, rfl⟩ := List.mem_map.mp hc
          exact hdigit d (hlt' d hd)

theorem filter_number (s : PriceSpelling n) : (s.number ++ trail s.slash).filter (· ≠ ',') =
    s.plain ++ trail s.slash := by
  have hplain := s.numeral_plain
  have hgroups : ([','].intercalate s.groups).filter (· ≠ ',') = s.groups.flatten := by
    apply filter_intercalate
    · simp
    · intro c hc
      rw [s.whole] at hc
      simpa using (hplain c (List.mem_append_left _ hc)).2
  have hpoint : (pointed s.fraction).filter (· ≠ ',') = pointed s.fraction := by
    apply List.filter_eq_self.mpr
    intro c hc
    simpa using (hplain c (List.mem_append_right _ hc)).2
  have htrail : (trail s.slash).filter (· ≠ ',') = trail s.slash := by
    have hcomma : Text.isSpace ',' = false := by decide
    apply List.filter_eq_self.mpr
    intro c hc
    cases hslash : s.slash with
    | none =>
        rw [hslash] at hc
        cases hc
    | some gap =>
        rw [hslash] at hc
        have hspace := (gap.property c hc).1
        have hne : c ≠ ',' := by
          rintro rfl
          exact absurd (hspace.symm.trans hcomma) (by decide)
        simpa using hne
  rw [number, List.filter_append, List.filter_append, hgroups, hpoint, htrail, s.whole, plain]

theorem cleanPrice_text (s : PriceSpelling n) : cleanPrice u s.text = String.ofList s.plain := by
  have hupper : (Text.upper u (Text.strip s.text)).toList = s.body.map Char.toUpper := by
    rw [strip_text, Text.upper, String.toList_ofList, String.toList_ofList]
    exact u.upper_ascii _ s.ascii_body
  have hspace : ∀ c ∈ s.plain, Text.isSpace c = false :=
    fun c hc ↦ isSpace_numeral (s.numeral_plain c hc).1
  have htrail : ∀ c ∈ trail s.slash, Text.isSpace c = true := by
    intro c hc
    cases hslash : s.slash with
    | none =>
        rw [hslash] at hc
        cases hc
    | some gap =>
        rw [hslash] at hc
        exact (gap.property c hc).1
  rw [cleanPrice, hupper, dropCurrency_body, dropSlash_body, filter_number, Text.strip,
    String.toList_ofList]
  congr 1
  have h := @Text.stripChars_surrounded [] s.plain (trail s.slash) (by simp) htrail
    (fun c hc ↦ hspace c (List.mem_of_mem_head? hc)) fun c hc ↦ hspace c (List.mem_of_getLast? hc)
  rwa [List.nil_append] at h

/-! ## Reading -/

theorem allDigits_digitChar {ds : List ℕ} (h : ∀ d ∈ ds, d < 10) :
    Decimal.allDigits u (ds.map Nat.digitChar) = some ds := by
  have hchar : ∀ d < 10, (Nat.digitChar d).toNat < 128 ∧ (Nat.digitChar d).isDigit = true ∧
      (Nat.digitChar d).toNat - 48 = d := by decide
  refine Digits.mapM_digitChar (b := 10) ?_ h
  intro d hd
  obtain ⟨hascii, hdigit, hvalue⟩ := hchar d hd
  rw [u.decimal_ascii _ hascii, if_pos hdigit, hvalue]

theorem readUnsigned_digit {c : Char} {rest : List Char} (hc : c ∈ "0123456789".toList) :
    Decimal.readUnsigned u false (c :: rest) = Decimal.readFinite u false (c :: rest) := by
  have hall : ("0123456789".toList.all fun c ↦
      c.toLower != 'i' && c.toLower != 'n' && c.toLower != 's') = true := by decide
  have hlower := List.all_eq_true.mp hall c hc
  simp only [Bool.and_eq_true, bne_iff_ne] at hlower
  obtain ⟨⟨hi, hn⟩, hs⟩ := hlower
  unfold Decimal.readUnsigned
  dsimp only
  rw [if_neg, if_neg, if_neg]
  · intro h
    exact hs (List.cons.inj h).1
  · intro h
    exact hn (List.cons.inj h).1
  · rintro (h | h)
    · exact hi (List.cons.inj h).1
    · exact hi (List.cons.inj h).1

theorem readMantissa_pointed {ds fs : List ℕ} {fraction : Option (List Char)} (hne : ds ≠ [])
    (hlt : ∀ d ∈ ds, d < 10) (hfraction : fraction.getD [] = fs.map Nat.digitChar)
    (hlt' : ∀ d ∈ fs, d < 10) :
    Decimal.readMantissa u (ds.map Nat.digitChar ++ pointed fraction) =
      some (ds ++ fs, fs.length) := by
  have hpoint : ∀ d < 10, Nat.digitChar d ≠ '.' := by decide
  have hdigits : ∀ c ∈ ds.map Nat.digitChar, (c ≠ '.' : Bool) = true := by
    intro c hc
    obtain ⟨d, hd, rfl⟩ := List.mem_map.mp hc
    simp [hpoint d (hlt d hd)]
  unfold Decimal.readMantissa
  rw [List.takeWhile_append_of_pos hdigits, List.dropWhile_append_of_pos hdigits]
  cases fraction with
  | none =>
      have hnil : fs = [] := List.map_eq_nil_iff.mp hfraction.symm
      subst hnil
      rw [pointed, List.takeWhile_nil, List.append_nil, allDigits_digitChar hlt]
      simp [hne]
  | some fraction =>
      have hfs : fraction = fs.map Nat.digitChar := hfraction
      rw [pointed, List.takeWhile_cons_of_neg (by simp), List.append_nil, allDigits_digitChar hlt,
        List.dropWhile_cons_of_neg (by simp)]
      simp [hfs, allDigits_digitChar hlt', hne]

theorem read_plain (s : PriceSpelling n) (hn : n < 10 ^ 10) : ∃ ds fs : List ℕ,
    Decimal.read u (String.ofList s.plain) =
      some (.finite false (Digits.value 10 (ds ++ fs)) (-(fs.length : ℤ))) ∧
    Digits.value 10 ds = n / 100 ∧ fs.length ≤ 2 ∧
    Digits.value 10 fs * 10 ^ (2 - fs.length) = n % 100 := by
  obtain ⟨ds, hds, hlt, hvalue⟩ := digits_whole (n / 100)
  obtain ⟨fs, hfs, hlt', hlen, hcents⟩ := s.digits_fraction
  refine ⟨ds, fs, ?_, hvalue, hlen, hcents⟩
  have hwidth : ds.length ≤ 8 := by
    have h := (Nat.length_toDigits_le_iff (b := 10) (by decide) (by decide : 0 < 8)).mpr
      (by omega : n / 100 < 10 ^ 8)
    rwa [hds, List.length_map] at h
  have hne : ds ≠ [] := by
    rintro rfl
    exact absurd hds (List.ne_nil_of_length_pos Nat.length_toDigits_pos)
  have hspace : ∀ c ∈ s.plain, Text.isSpace c = false :=
    fun c hc ↦ isSpace_numeral (s.numeral_plain c hc).1
  have hmark : ∀ c ∈ s.plain, (!Decimal.isMark c) = true :=
    fun c hc ↦ (s.numeral_plain c hc).1.all (p := fun c ↦ !Decimal.isMark c) (by decide)
  have hunder : s.plain.filter (· ≠ '_') = s.plain := by
    apply List.filter_eq_self.mpr
    intro c hc
    exact (s.numeral_plain c hc).1.all (p := fun c ↦ c ≠ '_') (by decide)
  have hplain : s.plain = ds.map Nat.digitChar ++ pointed s.fraction := by rw [plain, hds]
  have hfinite : Decimal.readFinite u false s.plain =
      some (.finite false (Digits.value 10 (ds ++ fs)) (-(fs.length : ℤ))) := by
    unfold Decimal.readFinite
    rw [List.takeWhile_eq_self_iff.mpr hmark, List.dropWhile_eq_nil_iff.mpr hmark, hplain,
      readMantissa_pointed hne hlt hfs hlt']
    have hsignificant : Decimal.significant (ds ++ fs) ≤ 10 := by
      apply max_le (by decide)
      calc ((ds ++ fs).dropWhile (· = 0)).length
        _ ≤ (ds ++ fs).length := (List.dropWhile_sublist _).length_le
        _ = ds.length + fs.length := List.length_append
        _ ≤ 10 := by omega
    have hrange : Decimal.inRange (Decimal.significant (ds ++ fs)) (-(fs.length : ℤ)) = true := by
      simp only [Decimal.inRange, Bool.and_eq_true, decide_eq_true_eq]
      omega
    simp only [Option.bind_eq_bind, Option.bind_some, zero_sub]
    exact if_pos hrange
  have hstrip : Text.stripChars s.plain = s.plain :=
    Text.stripChars_self (fun c hc ↦ hspace c (List.mem_of_mem_head? hc))
      fun c hc ↦ hspace c (List.mem_of_getLast? hc)
  have hdigit : ∀ d < 10, Nat.digitChar d ∈ "0123456789".toList := by decide
  rw [Decimal.read, String.toList_ofList, hstrip, hunder]
  cases ds with
  | nil => exact absurd rfl hne
  | cons d ds =>
      have hd := hdigit d (hlt d List.mem_cons_self)
      have hall : ("0123456789".toList.all fun c ↦ c != '-' && c != '+') = true := by decide
      have hsign := List.all_eq_true.mp hall _ hd
      simp only [Bool.and_eq_true, bne_iff_ne] at hsign
      rw [hplain] at hfinite ⊢
      rw [List.map_cons, List.cons_append] at hfinite ⊢
      split
      · rename_i heq
        exact absurd (List.cons.inj heq).1 hsign.1
      · rename_i heq
        exact absurd (List.cons.inj heq).1 hsign.2
      · rw [readUnsigned_digit hd]
        exact hfinite

/-- Every spelling of an amount is read as this amount. -/
theorem parsePrice_spelling (u : Unicode) {n : ℕ} (hpos : 1 ≤ n) (hn : n < 10 ^ 10)
    (s : PriceSpelling n) : ∃ price, parsePrice u s.text = .ok price ∧ price.val = mkRat n 100 := by
  obtain ⟨ds, fs, hread, hwhole, hlen, hcents⟩ := s.read_plain (u := u) hn
  have hvalue : Digits.value 10 (ds ++ fs) * 10 ^ (2 - fs.length) = n := by
    have hpow : 10 ^ fs.length * 10 ^ (2 - fs.length) = 100 := by
      rw [← pow_add, Nat.add_sub_cancel' hlen]
      norm_num
    have hsplit : Digits.value 10 (ds ++ fs) * 10 ^ (2 - fs.length) = n / 100 * 100 + n % 100 := by
      rw [Digits.value_append, hwhole, Nat.add_mul, Nat.mul_assoc, hpow, hcents]
    omega
  have hk : Digits.value 10 (ds ++ fs) ≠ 0 := by
    intro hzero
    rw [hzero, Nat.zero_mul] at hvalue
    omega
  have hwidth : Decimal.width (Digits.value 10 (ds ++ fs)) ≤ 10 := by
    apply (Decimal.width_le_iff (by decide)).mpr
    apply Nat.lt_of_le_of_lt _ hn
    rw [← hvalue]
    exact Nat.le_mul_of_pos_right _ (by positivity)
  have hquantize : Decimal.quantize false (Digits.value 10 (ds ++ fs)) (-(fs.length : ℤ)) =
      some (n : ℤ) := by
    have hshift : (-(fs.length : ℤ) + 2).toNat = 2 - fs.length := by omega
    rw [Decimal.quantize, if_neg hk, if_pos (by omega), hshift]
    dsimp only
    rw [if_pos (by omega), hvalue]
    rfl
  have hcentsPos : 0 < Decimal.ofCents n := by
    rw [Decimal.ofCents, Rat.mkRat_eq_div]
    have hn' : (0 : ℚ) < (n : ℤ) := by exact_mod_cast hpos
    positivity
  unfold parsePrice
  rw [cleanPrice_text, hread]
  dsimp only
  rw [hquantize]
  dsimp only
  rw [dif_pos hcentsPos]
  exact ⟨_, rfl, rfl⟩

def oneSpace : Gap where
  val := [' ']
  property := by
    intro c hc
    rw [List.mem_singleton.mp hc]
    decide

/-- ` KSh. 1,500.5 /=` -/
def sample : PriceSpelling 150050 where
  before := Text.oneBlank
  currency := some ⟨"KSh".toList, by decide, true, oneSpace⟩
  groups := ["1".toList, "500".toList]
  nonempty := by decide
  whole := by decide
  fraction := some ['5']
  cents := by decide
  slash := some oneSpace
  after := Text.noSpace

theorem parsePrice_sample : sample.text = " KSh. 1,500.5 /=" ∧
    ∃ price, parsePrice .ascii sample.text = .ok price ∧ price.val = mkRat 150050 100 :=
  ⟨by decide, parsePrice_spelling .ascii (by decide) (by decide) sample⟩

end PriceSpelling

end SokoFlow
