import Mathlib.Data.Countable.Basic
import Mathlib.Data.Rat.Encodable
import Mathlib.Logic.Equiv.List
import Mathlib.Logic.Equiv.Nat
import Mathlib.Tactic.DeriveCountable
import SokoFlow.Conversation.Session

/-!
# Sessions are countable

A JSON value has a number of its own, by recursion over the value, and with it
every session: a session can be stored as bytes and read back.
-/

namespace SokoFlow

namespace Json

/-- A number for each text. -/
def textCode (s : String) : ℕ := Encodable.encode (s.toList.map Char.toNat)

theorem textCode_injective : Function.Injective textCode := by
  intro s s' h
  have hmap : s.toList.map Char.toNat = s'.toList.map Char.toNat := Encodable.encode_injective h
  have hlist := List.map_injective_iff.mpr (fun _ _ hcd ↦ Char.toNat_inj.mp hcd) hmap
  exact String.toList_inj.mp hlist

mutual

/-- A number for each value. -/
def code : Json → ℕ
  | null => Nat.pair 0 0
  | bool b => Nat.pair 1 b.toNat
  | int n => Nat.pair 2 (Equiv.intEquivNat n)
  | float repr => Nat.pair 3 (textCode repr)
  | str s => Nat.pair 4 (textCode s)
  | arr items => Nat.pair 5 (codeItems items)
  | obj fields => Nat.pair 6 (codeFields fields)

def codeItems : List Json → ℕ
  | [] => 0
  | item :: items => Nat.pair item.code (codeItems items) + 1

def codeFields : List (String × Json) → ℕ
  | [] => 0
  | (name, value) :: fields =>
      Nat.pair (textCode name) (Nat.pair value.code (codeFields fields)) + 1

end

mutual

theorem code_inj : ∀ j j' : Json, j.code = j'.code → j = j'
  | null, j', h => by
      cases j' <;> simp only [code, Nat.pair_eq_pair] at h <;> first | rfl | omega
  | bool b, j', h => by
      cases j' <;> simp only [code, Nat.pair_eq_pair] at h <;> try omega
      rename_i b'
      cases b <;> cases b' <;> first | rfl | exact absurd h.2 (by decide)
  | int n, j', h => by
      cases j' <;> simp only [code, Nat.pair_eq_pair] at h <;> try omega
      exact congrArg int (Equiv.intEquivNat.injective h.2)
  | float repr, j', h => by
      cases j' <;> simp only [code, Nat.pair_eq_pair] at h <;> try omega
      exact congrArg float (textCode_injective h.2)
  | str s, j', h => by
      cases j' <;> simp only [code, Nat.pair_eq_pair] at h <;> try omega
      exact congrArg str (textCode_injective h.2)
  | arr items, j', h => by
      cases j' <;> simp only [code, Nat.pair_eq_pair] at h <;> try omega
      exact congrArg arr (codeItems_inj _ _ h.2)
  | obj fields, j', h => by
      cases j' <;> simp only [code, Nat.pair_eq_pair] at h <;> try omega
      exact congrArg obj (codeFields_inj _ _ h.2)

theorem codeItems_inj : ∀ items items' : List Json, codeItems items = codeItems items' → items = items'
  | [], [], _ => rfl
  | [], _ :: _, h => by simp [codeItems] at h
  | _ :: _, [], h => by simp [codeItems] at h
  | item :: items, item' :: items', h => by
      obtain ⟨hitem, hitems⟩ := Nat.pair_eq_pair.mp (Nat.succ.inj h)
      rw [code_inj item item' hitem, codeItems_inj items items' hitems]

theorem codeFields_inj : ∀ fields fields' : List (String × Json),
    codeFields fields = codeFields fields' → fields = fields'
  | [], [], _ => rfl
  | [], _ :: _, h => by simp [codeFields] at h
  | _ :: _, [], h => by simp [codeFields] at h
  | (name, value) :: fields, (name', value') :: fields', h => by
      obtain ⟨hname, hrest⟩ := Nat.pair_eq_pair.mp (Nat.succ.inj h)
      obtain ⟨hvalue, hfields⟩ := Nat.pair_eq_pair.mp hrest
      rw [textCode_injective hname, code_inj value value' hvalue, codeFields_inj fields fields' hfields]

end

theorem code_injective : Function.Injective code := fun j j' ↦ code_inj j j'

instance json_countable : Countable Json := code_injective.countable

end Json

instance text_countable : Countable String := Json.textCode_injective.countable

deriving instance Countable for UUID, SessionState, ScoredProductMatch, PriorCallContext,
  PendingCallContext, SessionContext, UserSession

end SokoFlow
