import Mathlib.Tactic.Common

/-!
# Searching for a regular expression

The fragment of Python's `re` without groups that are read back: whether a
pattern occurs somewhere in a text.  A match is tried against a continuation,
which gets the character before the rest (`none` at the start) and the rest.
-/

inductive Pattern
  | char (p : Char → Bool)
  /-- any number of characters of a class -/
  | many (p : Char → Bool)
  | empty
  | seq (a b : Pattern)
  | alt (a b : Pattern)
  /-- `\b`, for the given word characters -/
  | boundary (isWord : Char → Bool)
  | start
  | stop

namespace Pattern

/-- Where a match stands: the character just read and what is left. -/
structure Cursor where
  before : Option Char
  rest : List Char

def skim (p : Char → Bool) (k : Cursor → Bool) : Option Char → List Char → Bool
  | before, [] => k ⟨before, []⟩
  | before, c :: rest => k ⟨before, c :: rest⟩ || (p c && skim p k (some c) rest)

def accepts : Pattern → (Cursor → Bool) → Cursor → Bool
  | char p, k, ⟨_, c :: rest⟩ => p c && k ⟨some c, rest⟩
  | char _, _, ⟨_, []⟩ => false
  | many p, k, ⟨before, rest⟩ => skim p k before rest
  | empty, k, cur => k cur
  | seq a b, k, cur => a.accepts (b.accepts k) cur
  | alt a b, k, cur => a.accepts k cur || b.accepts k cur
  | boundary isWord, k, cur =>
      (cur.before.any isWord != cur.rest.head?.any isWord) && k cur
  | start, k, cur => cur.before.isNone && k cur
  | stop, k, cur => cur.rest.isEmpty && k cur

/-- `re.search(pattern, text) is not None` -/
def search (p : Pattern) (text : List Char) : Bool :=
  (many fun _ ↦ true).accepts (p.accepts fun _ ↦ true) ⟨none, text⟩

/-! ## Building patterns -/

def literal (s : String) : Pattern :=
  s.toList.foldr (fun c p ↦ seq (char (· == c)) p) empty

def oneOf : List String → Pattern
  | [] => char fun _ ↦ false
  | [w] => literal w
  | w :: ws => alt (literal w) (oneOf ws)

def inOrder : List Pattern → Pattern
  | [] => empty
  | p :: ps => seq p (inOrder ps)

/-- One character of the class or more. -/
def atLeastOne (p : Char → Bool) : Pattern := seq (char p) (many p)

example : search (inOrder [literal "a", atLeastOne (· == ' '), literal "b"]) "xa  by".toList = true := by
  decide


/-! ## What a pattern matches -/

/-- The pattern matches `mid` where `pre` stands before it and `post` after it. -/
def Spans : Pattern → List Char → List Char → List Char → Prop
  | char p, _, mid, _ => ∃ c, mid = [c] ∧ p c = true
  | many p, _, mid, _ => ∀ c ∈ mid, p c = true
  | empty, _, mid, _ => mid = []
  | seq a b, pre, mid, post => ∃ m₁ m₂, mid = m₁ ++ m₂ ∧ a.Spans pre m₁ (m₂ ++ post) ∧
      b.Spans (pre ++ m₁) m₂ post
  | alt a b, pre, mid, post => a.Spans pre mid post ∨ b.Spans pre mid post
  | boundary isWord, pre, mid, post => mid = [] ∧
      pre.getLast?.any isWord ≠ post.head?.any isWord
  | start, pre, mid, _ => mid = [] ∧ pre = []
  | stop, _, mid, post => mid = [] ∧ post = []

/-- Where a match stands after `pre`. -/
def Cursor.after (pre rest : List Char) : Cursor := ⟨pre.getLast?, rest⟩

theorem skim_iff {p : Char → Bool} {k : Cursor → Bool} (pre rest : List Char) :
    skim p k pre.getLast? rest = true ↔
      ∃ mid post, rest = mid ++ post ∧ (∀ c ∈ mid, p c = true) ∧
        k (Cursor.after (pre ++ mid) post) = true := by
  induction rest generalizing pre with
  | nil =>
      constructor
      · intro h
        refine ⟨[], [], rfl, by simp, ?_⟩
        rw [List.append_nil]
        exact h
      · rintro ⟨mid, post, hsplit, -, hk⟩
        obtain ⟨rfl, rfl⟩ := List.append_eq_nil_iff.mp hsplit.symm
        rwa [List.append_nil] at hk
  | cons c rest ih =>
      have hlast : (some c : Option Char) = (pre ++ [c]).getLast? := by simp
      rw [skim, Bool.or_eq_true, Bool.and_eq_true, hlast, ih]
      constructor
      · rintro (hk | ⟨hc, mid, post, rfl, hmid, hk⟩)
        · refine ⟨[], c :: rest, rfl, by simp, ?_⟩
          rw [List.append_nil]
          exact hk
        · refine ⟨c :: mid, post, rfl, List.forall_mem_cons.mpr ⟨hc, hmid⟩, ?_⟩
          rwa [List.append_assoc, List.singleton_append] at hk
      · rintro ⟨mid, post, hsplit, hmid, hk⟩
        cases mid with
        | nil =>
            rw [List.nil_append] at hsplit
            rw [List.append_nil, ← hsplit] at hk
            exact .inl hk
        | cons d mid =>
            obtain ⟨rfl, rfl⟩ := List.cons.inj hsplit
            obtain ⟨hd, hmid⟩ := List.forall_mem_cons.mp hmid
            refine .inr ⟨hd, mid, post, rfl, hmid, ?_⟩
            rwa [List.append_assoc, List.singleton_append]

/-- A pattern is accepted if what it matches is followed by what is accepted next. -/
theorem accepts_iff (p : Pattern) (k : Cursor → Bool) (pre rest : List Char) :
    p.accepts k (Cursor.after pre rest) = true ↔
      ∃ mid post, rest = mid ++ post ∧ p.Spans pre mid post ∧
        k (Cursor.after (pre ++ mid) post) = true := by
  induction p generalizing k pre rest with
  | char p =>
      cases rest with
      | nil => simp [accepts, Cursor.after, Spans]
      | cons c rest => simp [accepts, Cursor.after, Spans]
  | many p => exact skim_iff pre rest
  | empty => simp [accepts, Spans]
  | seq a b iha ihb =>
      rw [accepts, iha]
      constructor
      · rintro ⟨m₁, post, rfl, ha, hk⟩
        obtain ⟨m₂, post, rfl, hb, hk⟩ := (ihb k (pre ++ m₁) post).mp hk
        refine ⟨m₁ ++ m₂, post, (List.append_assoc ..).symm, ⟨m₁, m₂, rfl, ha, hb⟩, ?_⟩
        rwa [List.append_assoc] at hk
      · rintro ⟨_, post, rfl, ⟨m₁, m₂, rfl, ha, hb⟩, hk⟩
        refine ⟨m₁, m₂ ++ post, List.append_assoc .., ha, (ihb k _ _).mpr ⟨m₂, post, rfl, hb, ?_⟩⟩
        rwa [List.append_assoc]
  | alt a b iha ihb =>
      rw [accepts, Bool.or_eq_true, iha, ihb]
      constructor
      · rintro (⟨mid, post, h, hs, hk⟩ | ⟨mid, post, h, hs, hk⟩)
        · exact ⟨mid, post, h, .inl hs, hk⟩
        · exact ⟨mid, post, h, .inr hs, hk⟩
      · rintro ⟨mid, post, h, hs | hs, hk⟩
        · exact .inl ⟨mid, post, h, hs, hk⟩
        · exact .inr ⟨mid, post, h, hs, hk⟩
  | boundary isWord => simp [accepts, Spans, Cursor.after]
  | start => simp [accepts, Spans, Cursor.after]
  | stop => cases rest <;> simp [accepts, Spans, Cursor.after]

/-- A search succeeds if the pattern matches somewhere. -/
theorem search_iff (p : Pattern) (text : List Char) :
    p.search text = true ↔ ∃ pre mid post, text = pre ++ (mid ++ post) ∧ p.Spans pre mid post := by
  unfold search
  have h := accepts_iff (many fun _ ↦ true) (p.accepts fun _ ↦ true) [] text
  rw [show (⟨none, text⟩ : Cursor) = Cursor.after [] text from rfl, h]
  constructor
  · rintro ⟨pre, rest, rfl, -, hp⟩
    obtain ⟨mid, post, rfl, hs, -⟩ := (accepts_iff p _ pre rest).mp hp
    exact ⟨pre, mid, post, rfl, hs⟩
  · rintro ⟨pre, mid, post, rfl, hs⟩
    exact ⟨pre, mid ++ post, rfl, by simp [Spans],
      (accepts_iff p _ pre _).mpr ⟨mid, post, rfl, hs, rfl⟩⟩

/-! ### The builders -/

theorem spans_literal (w : String) (pre mid post : List Char) :
    (literal w).Spans pre mid post ↔ mid = w.toList := by
  unfold literal
  induction w.toList generalizing pre mid with
  | nil => rfl
  | cons c cs ih =>
      rw [List.foldr_cons]
      constructor
      · rintro ⟨m₁, m₂, rfl, ⟨d, rfl, hd⟩, h⟩
        rw [(ih _ _).mp h, eq_of_beq hd]
        rfl
      · rintro rfl
        exact ⟨[c], cs, rfl, ⟨c, rfl, beq_self_eq_true c⟩, (ih _ _).mpr rfl⟩

theorem spans_oneOf (ws : List String) (pre mid post : List Char) :
    (oneOf ws).Spans pre mid post ↔ ∃ w ∈ ws, mid = w.toList := by
  induction ws with
  | nil => simp [oneOf, Spans]
  | cons w ws ih =>
      cases ws with
      | nil => simp [oneOf, spans_literal]
      | cons next ws =>
          rw [oneOf]
          · change (literal w).Spans pre mid post ∨ (oneOf (next :: ws)).Spans pre mid post ↔ _
            rw [spans_literal, ih]
            simp
          · simp

theorem spans_atLeastOne (p : Char → Bool) (pre mid post : List Char) :
    (atLeastOne p).Spans pre mid post ↔ mid ≠ [] ∧ ∀ c ∈ mid, p c = true := by
  constructor
  · rintro ⟨m₁, m₂, rfl, ⟨c, rfl, hc⟩, h⟩
    exact ⟨by simp, List.forall_mem_cons.mpr ⟨hc, h⟩⟩
  · rintro ⟨hne, h⟩
    obtain ⟨c, mid, rfl⟩ := List.exists_cons_of_ne_nil hne
    obtain ⟨hc, h⟩ := List.forall_mem_cons.mp h
    exact ⟨[c], mid, rfl, ⟨c, rfl, hc⟩, h⟩

end Pattern
