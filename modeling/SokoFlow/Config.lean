import Mathlib.Data.Char
import Mathlib.Data.List.Lex
import SokoFlow.Types

/-!
# Settings and the libraries the code calls

The thresholds of fuzzy search are those of the settings' defaults; what a
deployment varies is in `Settings`.  `Deployment` collects the functions the
code takes from PostgreSQL, pydantic and Python's Unicode and time zone data.
-/

namespace SokoFlow

def productMatchThreshold : ℚ := mkRat 55 100

def confidentMatchThreshold : ℚ := mkRat 75 100

structure Settings where
  maxFsmErrors : ℤ := 3
  sessionTtlSeconds : ℤ := 1800
  dedupTtlSeconds : ℤ := 60
  whatsappAppSecret : Option String := none
  groqApiKey : Option String := none
  openrouterApiKey : Option String := none
  analyticsEnabled : Bool := true
  analyticsFollowUpTtlSeconds : ℤ := 600

/-- `similarity` of `pg_trgm` and `lower` of PostgreSQL; a text without
trigrams is similar to nothing. -/
structure Trigram where
  similarity : String → String → Score
  lower : String → String
  similarity_empty : ∀ s, (similarity "" s).val = 0
  lower_empty : lower "" = ""

/-- How pydantic reads a single value: the value, or the message and type of
the error. -/
structure Validators where
  uuid : Json → Except (String × String) UUID
  date : Json → Except (String × String) Calendar.Date
  int : Json → Except (String × String) ℤ
  /-- `str` of a `ValidationError` about one model and its input -/
  render : String → Json → List SchemaIssue → String

structure Deployment where
  settings : Settings
  unicode : Unicode
  trigram : Trigram
  /-- the order of `ORDER BY` on a name -/
  nameLe : String → String → Bool
  /-- `ZoneInfo("Africa/Nairobi")` -/
  nairobi : Calendar.Zone
  validators : Validators
  /-- `json.dumps` -/
  dumps : Json → String
  /-- `repr` -/
  repr : Json → String

/-- `str(value)` -/
def Deployment.str (dep : Deployment) : Json → String
  | .str s => s
  | value => dep.repr value

/-! ## `pg_trgm` on ASCII -/

namespace Trigram

def words (s : List Char) : List (List Char) :=
  (s.splitOnP fun c ↦ !c.isAlphanum).filter (· ≠ [])

def windows : List Char → List (List Char)
  | a :: b :: c :: rest => [a, b, c] :: windows (b :: c :: rest)
  | _ => []

/-- The distinct trigrams of a text: each word has two blanks before and one after it. -/
def trigrams (s : String) : List (List Char) :=
  ((words (s.toList.map Char.toLower)).flatMap fun w ↦ windows (' ' :: ' ' :: w ++ [' '])).dedup

/-- The share of the trigrams of two texts that both have. -/
def shared (a b : List (List Char)) : Score :=
  let common := (a.filter (· ∈ b)).length
  let either := a.length + b.length - common
  if either = 0 then ⟨0, by decide⟩
  else ⟨min (mkRat common either) 1, by
    refine ⟨le_min ?_ zero_le_one, min_le_right _ _⟩
    exact Rat.mkRat_nonneg (Int.natCast_nonneg _) _⟩

/-- Similarity and lower case as PostgreSQL computes them on ASCII texts. -/
def ascii : Trigram where
  similarity a b := shared (trigrams a) (trigrams b)
  lower s := String.ofList (s.toList.map Char.toLower)
  similarity_empty s := by
    have h : trigrams "" = [] := by decide
    by_cases hb : (trigrams s).length = 0
    · simp [shared, h, hb]
    · simp [shared, h, hb]
  lower_empty := by decide

example : ((ascii.similarity "sugar 2kg" "sugar").val, (ascii.similarity "sugar" "sugar").val) =
    (mkRat 6 10, 1) := by decide +kernel

end Trigram

/-! ## A deployment to run the model on -/

namespace Validators

def hexDigit (c : Char) : Option ℕ :=
  if c.isDigit then some (c.toNat - 48)
  else if 'a' ≤ c ∧ c ≤ 'f' then some (c.toNat - 87) else none

/-- The canonical text of a UUID. -/
def readUUID (s : String) : Option UUID := do
  let ds ← (s.toList.filter (· ≠ '-')).mapM hexDigit
  if ds.length = 32 ∧ Text.len s = 36 then some ⟨ds.foldl (fun n d ↦ 16 * n + d) 0⟩ else none

/-- `YYYY-MM-DD` -/
def readDate (s : String) : Option Calendar.Date := do
  match s.toList with
  | [a, b, c, d, '-', e, f, '-', g, h] =>
      let y ← Text.readNat .ascii [a, b, c, d]
      let m ← Text.readNat .ascii [e, f]
      let day ← Text.readNat .ascii [g, h]
      Calendar.Date.ofYmd y m day
  | _ => none

/-- What pydantic does with values in their usual form. -/
def usual : Validators where
  uuid
    | .str s => match readUUID s with
      | some id => .ok id
      | none => .error ("Input should be a valid UUID", "uuid_parsing")
    | _ => .error ("UUID input should be a string, bytes or UUID object", "uuid_type")
  date
    | .str s => match readDate s with
      | some d => .ok d
      | none => .error ("Input should be a valid date or datetime", "date_from_datetime_parsing")
    | _ => .error ("Input should be a valid date", "date_type")
  int
    | .int n => .ok n
    | _ => .error ("Input should be a valid integer", "int_type")
  render model _ issues :=
    Text.ofInt issues.length ++ " validation errors for " ++ model

end Validators

def Deployment.sample : Deployment where
  settings := {}
  unicode := .ascii
  trigram := .ascii
  nameLe a b := decide (a.toList ≤ b.toList)
  nairobi := .constant 10800000000
  validators := .usual
  dumps _ := "{}"
  repr _ := "{}"

end SokoFlow
