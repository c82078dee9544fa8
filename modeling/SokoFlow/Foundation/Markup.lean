import Mathlib.Tactic.Common

/-!
# Texts with markup

A text is read from the left.  Most characters stand for themselves; at a
special one begins a tag, which opens or closes an element, or something that
is shown as other characters.  A text is well formed when this can be read to
its end with every element closed in the order of nesting.
-/

namespace Markup

variable {α τ : Type}

inductive Item (α τ : Type)
  | shown (s : List α)
  | opening (tag : τ)
  | closing (tag : τ)

/-- What stands at a special character, and the text after it.  It is read
past the character at least. -/
structure Dialect (special : α → Prop) (τ : Type) where
  item : List α → Option (Item α τ × List α)
  progress : ∀ {s i rest}, item s = some (i, rest) → rest.length < s.length

namespace Dialect

/-- Whatever is read at a special character is shown as it is written. -/
inductive Literal {special : α → Prop} (d : Dialect special τ) : List α → Prop
  | nil : Literal d []
  | plain {c : α} {s : List α} (hc : ¬ special c) (hs : Literal d s) : Literal d (c :: s)
  | shown {c : α} {s t rest : List α} (hc : special c)
      (h : d.item (c :: s) = some (.shown t, rest)) (ht : t ++ rest = c :: s)
      (hs : Literal d rest) : Literal d (c :: s)

/-- Plain characters before a literal text. -/
theorem literal_append {special : α → Prop} {d : Dialect special τ} {s rest : List α}
    (h : ∀ c ∈ s, ¬ special c) (hrest : Literal d rest) : Literal d (s ++ rest) := by
  induction s with
  | nil => exact hrest
  | cons c s ih =>
      obtain ⟨hc, hs⟩ := List.forall_mem_cons.mp h
      exact .plain hc (ih hs)

/-- Without special characters a text is literal. -/
theorem literal_of_plain {special : α → Prop} {d : Dialect special τ} {s : List α}
    (h : ∀ c ∈ s, ¬ special c) : Literal d s := by
  rw [← List.append_nil s]
  exact literal_append h .nil

variable {special : α → Prop} [DecidablePred special] [DecidableEq τ] (d : Dialect special τ)

/-- The displayed text, given the elements that are still open; `none` is
malformed markup. -/
def readIn (tags : List τ) : List α → Option (List α)
  | [] => if tags = [] then some [] else none
  | c :: s =>
      if special c then
        match _h : d.item (c :: s) with
        | none => none
        | some (.shown shown, rest) => (readIn tags rest).map (shown ++ ·)
        | some (.opening tag, rest) => readIn (tag :: tags) rest
        | some (.closing tag, rest) => if tags.head? = some tag then readIn tags.tail rest else none
      else (readIn tags s).map (c :: ·)
termination_by s => s.length
decreasing_by
  all_goals first
    | exact d.progress ‹_›
    | exact Nat.lt_succ_self _

def read (s : List α) : Option (List α) := d.readIn [] s

variable {d} {c : α} {s t rest : List α} {tag : τ} {tags : List τ}

@[simp] theorem readIn_nil : d.readIn [] [] = some [] := by
  rw [readIn, if_pos rfl]

theorem readIn_plain (tags : List τ) (hs : ∀ c ∈ s, ¬ special c) (rest : List α) :
    d.readIn tags (s ++ rest) = (d.readIn tags rest).map (s ++ ·) := by
  induction s with
  | nil =>
      rw [List.nil_append]
      cases d.readIn tags rest <;> rfl
  | cons c s ih =>
      obtain ⟨hc, hs⟩ := List.forall_mem_cons.mp hs
      rw [List.cons_append, readIn, if_neg hc, ih hs, Option.map_map]
      rfl

theorem readIn_shown (hc : special c) (h : d.item (c :: s) = some (.shown t, rest)) :
    d.readIn tags (c :: s) = (d.readIn tags rest).map (t ++ ·) := by
  rw [readIn, if_pos hc]
  split <;> simp_all

theorem readIn_opening (hc : special c) (h : d.item (c :: s) = some (.opening tag, rest)) :
    d.readIn tags (c :: s) = d.readIn (tag :: tags) rest := by
  rw [readIn, if_pos hc]
  split <;> simp_all

theorem readIn_closing (hc : special c) (h : d.item (c :: s) = some (.closing tag, rest)) :
    d.readIn (tag :: tags) (c :: s) = d.readIn tags rest := by
  rw [readIn, if_pos hc]
  split <;> simp_all

/-- A literal text is displayed as it is. -/
theorem read_literal (h : Literal d s) : d.read s = some s := by
  unfold read
  induction h with
  | nil => exact readIn_nil
  | @plain c s hc hs ih =>
      have hread := readIn_plain (d := d) [] (List.forall_mem_singleton.mpr hc) s
      rw [ih] at hread
      exact hread
  | shown hc h ht hs ih =>
      rw [readIn_shown hc h, ih, Option.map_some, ht]

end Dialect

end Markup
