import Mathlib.Data.List.DropRight
import Mathlib.Tactic.Common

/-!
# Python text

Strings are sequences of code points.  What depends on the Unicode character
database (case mapping, letters and digits) is a structure of functions whose
laws pin them down on ASCII; white space is a fixed set of characters.
-/

/-- The part of the Unicode character database that `str` methods, `int` and
`re` consult. -/
structure Unicode where
  lower : List Char → List Char
  upper : List Char → List Char
  isAlnum : Char → Bool
  isDigit : Char → Bool
  decimal : Char → Option ℕ
  lower_ascii : ∀ s, (∀ c ∈ s, c.toNat < 128) → lower s = s.map Char.toLower
  upper_ascii : ∀ s, (∀ c ∈ s, c.toNat < 128) → upper s = s.map Char.toUpper
  isAlnum_ascii : ∀ c, c.toNat < 128 → isAlnum c = c.isAlphanum
  isDigit_ascii : ∀ c, c.toNat < 128 → isDigit c = c.isDigit
  decimal_ascii : ∀ c, c.toNat < 128 →
    decimal c = if c.isDigit then some (c.toNat - 48) else none
  decimal_lt : ∀ c d, decimal c = some d → d < 10

namespace Unicode

/-- The database of a system that knows ASCII only. -/
def ascii : Unicode where
  lower := List.map Char.toLower
  upper := List.map Char.toUpper
  isAlnum := Char.isAlphanum
  isDigit := Char.isDigit
  decimal c := if c.isDigit then some (c.toNat - 48) else none
  lower_ascii _ _ := rfl
  upper_ascii _ _ := rfl
  isAlnum_ascii _ _ := rfl
  isDigit_ascii _ _ := rfl
  decimal_ascii _ _ := rfl
  decimal_lt c d h := by
    by_cases hc : c.isDigit = true
    · simp only [hc, if_true, Option.some.injEq] at h
      simp only [Char.isDigit, Bool.and_eq_true, decide_eq_true_eq, ge_iff_le,
        UInt32.le_iff_toNat_le] at hc
      change 48 ≤ c.toNat ∧ c.toNat ≤ 57 at hc
      omega
    · simp [hc] at h

end Unicode

namespace Text

/-- `str.isspace` for one character, also `\s` of `re`. -/
def isSpace (c : Char) : Bool :=
  let n := c.toNat
  (9 ≤ n && n ≤ 13) || (28 ≤ n && n ≤ 32) || n == 0x85 || n == 0xA0 || n == 0x1680 ||
    (0x2000 ≤ n && n ≤ 0x200A) || n == 0x2028 || n == 0x2029 || n == 0x202F || n == 0x205F ||
    n == 0x3000

/-- A run of white space. -/
abbrev WhiteSpace := { s : List Char // ∀ c ∈ s, isSpace c = true }

def noSpace : WhiteSpace := ⟨[], List.forall_mem_nil _⟩

def oneBlank : WhiteSpace := ⟨[' '], List.all_eq_true.mp (by decide)⟩

/-! ## Methods of `str` -/

def stripChars (s : List Char) : List Char :=
  (s.dropWhile isSpace).rdropWhile isSpace

/-- `str.split()`: the maximal runs of characters that are not white space. -/
def splitChars (s : List Char) : List (List Char) :=
  (s.splitOnP isSpace).filter (· ≠ [])

def strip (s : String) : String := String.ofList (stripChars s.toList)

theorem stripChars_stripChars (s : List Char) : stripChars (stripChars s) = stripChars s := by
  unfold stripChars
  have hfront : ((s.dropWhile isSpace).rdropWhile isSpace).dropWhile isSpace =
      (s.dropWhile isSpace).rdropWhile isSpace := by
    have hinit := List.rdropWhile_prefix isSpace (s.dropWhile isSpace)
    rw [List.dropWhile_eq_self_iff]
    intro hpos
    rw [hinit.getElem hpos]
    exact List.dropWhile_get_zero_not isSpace s _
  rw [hfront, List.rdropWhile_idempotent]

theorem strip_strip (s : String) : strip (strip s) = strip s := by
  unfold strip
  rw [String.toList_ofList, stripChars_stripChars]

/-- White space is stripped from both sides of a text that neither begins nor
ends with any. -/
theorem stripChars_surrounded {before s after : List Char}
    (hbefore : ∀ c ∈ before, isSpace c = true) (hafter : ∀ c ∈ after, isSpace c = true)
    (hhead : ∀ c ∈ s.head?, isSpace c = false) (hlast : ∀ c ∈ s.getLast?, isSpace c = false) :
    stripChars (before ++ s ++ after) = s := by
  unfold stripChars
  cases s with
  | nil =>
      have hall : (before ++ [] ++ after).dropWhile isSpace = [] := by
        rw [List.append_nil, List.dropWhile_append_of_pos hbefore, List.dropWhile_eq_nil_iff]
        exact hafter
      rw [hall, List.rdropWhile_nil]
  | cons c s =>
      have hc := hhead c rfl
      have hend : ¬ isSpace ((c :: s).getLast (List.cons_ne_nil c s)) = true := by
        rw [hlast _ (List.getLast?_eq_some_getLast (List.cons_ne_nil c s))]
        simp
      have hself := List.rdropWhile_eq_self_iff.mpr fun _ ↦ hend
      rw [List.append_assoc, List.dropWhile_append_of_pos hbefore, List.cons_append,
        List.dropWhile_cons_of_neg (by simp [hc])]
      rw [← List.cons_append, List.rdropWhile, List.reverse_append,
        List.dropWhile_append_of_pos (by simpa using hafter)]
      exact hself

theorem stripChars_self {s : List Char} (hhead : ∀ c ∈ s.head?, isSpace c = false)
    (hlast : ∀ c ∈ s.getLast?, isSpace c = false) : stripChars s = s := by
  have h := @stripChars_surrounded [] s [] (by simp) (by simp) hhead hlast
  rwa [List.nil_append, List.append_nil] at h

def lower (u : Unicode) (s : String) : String := String.ofList (u.lower s.toList)

def upper (u : Unicode) (s : String) : String := String.ofList (u.upper s.toList)

/-- `len`. -/
def len (s : String) : ℕ := s.toList.length

/-- `" ".join(s.split())` -/
def collapse (s : String) : String :=
  String.ofList ([' '].intercalate (splitChars s.toList))

/-! ### The words of a text -/

theorem splitChars_append_space {word : List Char} (h : ∀ c ∈ word, isSpace c = false) {c : Char}
    (hc : isSpace c = true) (s : List Char) :
    splitChars (word ++ c :: s) = if word = [] then splitChars s else word :: splitChars s := by
  rw [splitChars, List.splitOnP_append_cons _ _ hc, List.splitOnP_eq_singleton h,
    List.singleton_append, List.filter_cons]
  simp only [ne_eq, decide_not, Bool.not_eq_true', decide_eq_false_iff_not]
  split <;> simp_all [splitChars]

theorem splitChars_spaces {spaces : List Char} (h : ∀ c ∈ spaces, isSpace c = true) (s : List Char) :
    splitChars (spaces ++ s) = splitChars s := by
  induction spaces with
  | nil => rfl
  | cons c spaces ih =>
      obtain ⟨hc, h⟩ := List.forall_mem_cons.mp h
      have hdrop := splitChars_append_space (List.forall_mem_nil _) hc (spaces ++ s)
      rw [List.cons_append]
      exact hdrop.trans (ih h)

theorem splitChars_word {word : List Char} (hne : word ≠ []) (h : ∀ c ∈ word, isSpace c = false) :
    splitChars word = [word] := by
  rw [splitChars, List.splitOnP_eq_singleton h]
  simp [hne]

theorem isSpace_of_mem_splitOnP (s : List Char) :
    ∀ word ∈ s.splitOnP isSpace, ∀ c ∈ word, isSpace c = false := by
  induction s with
  | nil => simp
  | cons c s ih =>
      rw [List.splitOnP_cons_eq_if_modifyHead]
      by_cases hc : isSpace c = true
      · rw [if_pos hc]
        exact List.forall_mem_cons.mpr ⟨by simp, ih⟩
      · rw [if_neg hc]
        cases hs : s.splitOnP isSpace with
        | nil => simp
        | cons first others =>
            rw [hs] at ih
            obtain ⟨hfirst, hothers⟩ := List.forall_mem_cons.mp ih
            have hfirst' : ∀ d ∈ c :: first, isSpace d = false :=
              List.forall_mem_cons.mpr ⟨Bool.eq_false_iff.mpr hc, hfirst⟩
            exact List.forall_mem_cons.mpr ⟨hfirst', hothers⟩

theorem mem_intercalate {sep : List Char} {parts : List (List Char)} {c : Char}
    (h : c ∈ sep.intercalate parts) : c ∈ sep ∨ ∃ part ∈ parts, c ∈ part := by
  induction parts with
  | nil => cases h
  | cons part parts ih =>
      cases parts with
      | nil =>
          rw [List.intercalate_singleton] at h
          exact .inr ⟨part, List.mem_cons_self, h⟩
      | cons next parts =>
          rw [List.intercalate_cons_cons, List.mem_append, List.mem_append] at h
          rcases h with (h | h) | h
          · exact .inr ⟨part, List.mem_cons_self, h⟩
          · exact .inl h
          · rcases ih h with h | ⟨other, hmem, h⟩
            · exact .inl h
            · exact .inr ⟨other, List.mem_cons_of_mem part hmem, h⟩

/-- A collapsed text has blanks between its words and no other white space. -/
theorem eq_blank_of_mem_collapse {s : String} {c : Char} (h : c ∈ (collapse s).toList)
    (hc : isSpace c = true) : c = ' ' := by
  rw [collapse, String.toList_ofList] at h
  rcases mem_intercalate h with h | ⟨word, hword, h⟩
  · exact List.mem_singleton.mp h
  · have hnot := isSpace_of_mem_splitOnP s.toList word (List.mem_of_mem_filter hword) c h
    rw [hc] at hnot
    cases hnot

/-- `str.isdigit` -/
def isDigits (u : Unicode) (s : String) : Bool :=
  !s.toList.isEmpty && s.toList.all u.isDigit

/-- `sep.join(parts)` -/
def join (sep : String) (parts : List String) : String :=
  String.ofList (sep.toList.intercalate (parts.map String.toList))

/-- `str(n)` of an integer. -/
def ofInt : ℤ → String
  | .ofNat n => String.ofList (Nat.toDigits 10 n)
  | .negSucc n => String.ofList ('-' :: Nat.toDigits 10 (n + 1))

/-! ## `int(text)` -/

/-- The values of a run of digits in which single underscores may stand
between two digits. -/
def readDigits (u : Unicode) : List Char → Option (List ℕ)
  | [] => none
  | [c] => (u.decimal c).map ([·])
  | c :: '_' :: rest => do
      let d ← u.decimal c
      let ds ← readDigits u rest
      return d :: ds
  | c :: rest => do
      let d ← u.decimal c
      let ds ← readDigits u rest
      return d :: ds

def ofDigits (ds : List ℕ) : ℕ := ds.foldl (fun n d ↦ 10 * n + d) 0

/-- The longest decimal text `int` converts (`sys.get_int_max_str_digits`). -/
def maxStrDigits : ℕ := 4300

def readNat (u : Unicode) (s : List Char) : Option ℕ := do
  let ds ← readDigits u s
  if ds.length ≤ maxStrDigits then some (ofDigits ds) else none

/-- `int(text)`; `none` is its `ValueError`. -/
def readInt (u : Unicode) (s : String) : Option ℤ :=
  match stripChars s.toList with
  | '-' :: rest => (readNat u rest).map fun n ↦ -(n : ℤ)
  | '+' :: rest => (readNat u rest).map fun n ↦ (n : ℤ)
  | rest => (readNat u rest).map fun n ↦ (n : ℤ)

example : readInt .ascii " +1_000 " = some 1000 ∧ readInt .ascii "1__0" = none := by decide

end Text
