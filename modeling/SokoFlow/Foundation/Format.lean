import Mathlib.Data.List.Basic
import Mathlib.Tactic.Common

/-!
# Templates

A template is a text with replacement fields `{name}` or `{name:spec}`, and
with `{{` and `}}` for single braces.  Filling it in asks for the text of each
field once, so it succeeds when every field has one.
-/

namespace Format

inductive Segment
  | char (c : Char)
  | field (name spec : String)
  deriving DecidableEq

/-- A field without its braces. -/
def Segment.ofField (s : List Char) : Segment :=
  .field (String.ofList (s.takeWhile (· ≠ ':')))
    (String.ofList ((s.dropWhile (· ≠ ':')).drop 1))

/-- The segments of a template, the open field first if there is one; `none`
for a brace without its partner. -/
def scan : Option (List Char) → List Char → Option (List Segment)
  | none, [] => some []
  | none, '{' :: '{' :: rest => (scan none rest).map (.char '{' :: ·)
  | none, '{' :: rest => scan (some []) rest
  | none, '}' :: '}' :: rest => (scan none rest).map (.char '}' :: ·)
  | none, '}' :: _ => none
  | none, c :: rest => (scan none rest).map (.char c :: ·)
  | some _, [] => none
  | some field, '}' :: rest => (scan none rest).map (.ofField field.reverse :: ·)
  | some _, '{' :: _ => none
  | some field, c :: rest => scan (some (c :: field)) rest

/-- A template is written in pieces that are joined. -/
def parse (pieces : List String) : Option (List Segment) :=
  scan none (pieces.flatMap String.toList)

variable {ε : Type}

/-- Fill in the fields, from left to right. -/
def fill (value : String → String → Except ε String) : List Segment → Except ε String
  | [] => .ok ""
  | .char c :: rest => (fill value rest).map (String.singleton c ++ ·)
  | .field name spec :: rest => do
      let shown ← value name spec
      let tail ← fill value rest
      return shown ++ tail

/-- A template can be filled in when each of its fields has a text. -/
theorem fill_ok_iff {value : String → String → Except ε String} {segments : List Segment} :
    (∃ text, fill value segments = .ok text) ↔
      ∀ name spec, .field name spec ∈ segments → ∃ shown, value name spec = .ok shown := by
  induction segments with
  | nil => simp [fill]
  | cons segment rest ih =>
      cases segment with
      | char c =>
          have hrest : (∃ text, fill value (.char c :: rest) = .ok text) ↔
              ∃ text, fill value rest = .ok text := by
            rw [fill]
            cases fill value rest <;> simp [Except.map]
          rw [hrest, ih]
          simp
      | field name spec =>
          have hrest : (∃ text, fill value (.field name spec :: rest) = .ok text) ↔
              (∃ shown, value name spec = .ok shown) ∧ ∃ text, fill value rest = .ok text := by
            rw [fill]
            cases value name spec with
            | error e => simp [bind, Except.bind]
            | ok shown => cases fill value rest <;> simp [bind, Except.bind, pure, Except.pure]
          rw [hrest, ih]
          constructor
          · rintro ⟨h, hall⟩ name' spec' hmem
            rcases List.mem_cons.mp hmem with heq | hmem
            · cases heq
              exact h
            · exact hall name' spec' hmem
          · intro hall
            exact ⟨hall name spec List.mem_cons_self,
              fun name' spec' hmem ↦ hall name' spec' (List.mem_cons_of_mem _ hmem)⟩

end Format
