import SokoFlow.Conversation.Session
import SokoFlow.Foundation.Pattern

/-!
# Reading a message (`fsm_utils.py`, `intent_resolver.py`)
-/

namespace SokoFlow

/-! ## Values -/

/-- The answers `parse_product_name` gives. -/
abbrev ProductName := { s : String // 2 ≤ Text.len s ∧ Text.len s ≤ 100 }

def parseProductName (rawText : String) : Except Exc ProductName :=
  let cleaned := Text.strip rawText
  if h : 2 ≤ Text.len cleaned ∧ Text.len cleaned ≤ 100 then .ok ⟨cleaned, h⟩
  else invalidInput "Product name must be between 2 and 100 characters."
    MessageKey.PRODUCT_NAME_INVALID []

/-- `re.sub(r"^(KES|KSH)\.?\s*", "", text)` -/
def dropCurrency (s : List Char) : List Char :=
  match s with
  | 'K' :: 'E' :: 'S' :: rest => dropMark rest
  | 'K' :: 'S' :: 'H' :: rest => dropMark rest
  | s => s
where
  dropMark : List Char → List Char
    | '.' :: rest => rest.dropWhile Text.isSpace
    | rest => rest.dropWhile Text.isSpace

/-- `re.sub(r"/=$", "", text)`; `$` also stands before a final newline. -/
def dropSlash (s : List Char) : List Char :=
  match s.reverse with
  | '=' :: '/' :: rest => rest.reverse
  | '\n' :: '=' :: '/' :: rest => rest.reverse ++ ['\n']
  | _ => s

/-- The text handed to `Decimal`. -/
def cleanPrice (u : Unicode) (rawText : String) : String :=
  let cleaned := (Text.upper u (Text.strip rawText)).toList
  Text.strip (String.ofList ((dropSlash (dropCurrency cleaned)).filter (· ≠ ',')))

/-- A positive amount of whole cents. -/
abbrev Price := { q : ℚ // 0 < q ∧ Decimal.round q = q }

/-- An infinity cannot be quantized, nor can a number that needs more digits
than the context has.  A quiet NaN can, and then its comparison raises. -/
def parsePrice (u : Unicode) (rawText : String) : Except Exc Price :=
  let unreadable := invalidInput "Please enter a valid price, e.g. '150', 'KES 150', or '150/='."
    MessageKey.PRICE_INVALID []
  match Decimal.read u (cleanPrice u rawText) with
  | some (.finite negative coefficient exponent) =>
      match Decimal.quantize negative coefficient exponent with
      | some cents =>
          if h : 0 < Decimal.ofCents cents then
            .ok ⟨Decimal.ofCents cents, h, Decimal.round_ofCents cents⟩
          else invalidInput "Price must be greater than 0" MessageKey.PRICE_NON_POSITIVE []
      | none => unreadable
  | some .nan => .error (.other "InvalidOperation" "[<class 'decimal.InvalidOperation'>]")
  | _ => unreadable

def parseQuantity (u : Unicode) (rawText : String) : Except Exc { n : ℤ // 0 ≤ n } :=
  match Text.readInt u (Text.strip rawText) with
  | none => invalidInput "Please enter a whole number, e.g. 0, 1, or 25."
      MessageKey.QUANTITY_INVALID []
  | some quantity =>
      if h : 0 ≤ quantity then .ok ⟨quantity, h⟩
      else invalidInput "Quantity cannot be negative." MessageKey.QUANTITY_NEGATIVE []

def parseConfirmation (u : Unicode) (rawText : String) : Except Exc Bool :=
  let cleaned := Text.lower u (Text.strip rawText)
  if cleaned ∈ ["yes", "y", "ndio", "1"] then .ok true
  else if cleaned ∈ ["no", "n", "zii", "2"] then .ok false
  else invalidInput "Please reply with Yes/Y/Ndio/1 or No/N/Zii/2."
    MessageKey.CONFIRMATION_INVALID []

/-! ## Intents -/

inductive Intent
  | UNKNOWN
  | ADD_PRODUCT
  | RECORD_SALE
  | GENERATE_REPORT
  | CHECK_STOCK
  deriving DecidableEq

namespace IntentResolver

open Pattern

variable (u : Unicode)

/-- `\w` -/
def isWord (c : Char) : Bool := u.isAlnum c || c == '_'

def edge : Pattern := boundary (isWord u)

/-- `\b(...)\b` -/
def word (choices : Pattern) : Pattern := inOrder [edge u, choices, edge u]

/-- `.*` -/
def anything : Pattern := many (· ≠ '\n')

def spaces : Pattern := atLeastOne Text.isSpace

/-- `\bfirst\s+second\b` -/
def phrase (first second : String) : Pattern :=
  inOrder [edge u, literal first, spaces, literal second, edge u]

/-- `\b(...)\b.*\b(...)\b` -/
def wordThenWord (first second : Pattern) : Pattern :=
  inOrder [word u first, anything, word u second]

def addProductPatterns : List Pattern :=
  let verbs := oneOf ["add", "create", "new", "register", "enter", "stock"]
  let nouns := oneOf ["product", "item"]
  [phrase u "add" "product", wordThenWord u verbs nouns, wordThenWord u nouns verbs]

def recordSalePatterns : List Pattern :=
  let verbs := oneOf ["add", "record", "create", "new", "log", "capture", "sell", "sold"]
  let nouns := oneOf ["sale", "transaction", "payment"]
  [phrase u "record" "sale", wordThenWord u verbs nouns, wordThenWord u nouns verbs]

def generateReportPatterns : List Pattern :=
  let verbs := oneOf ["generate", "create", "get", "send", "show", "view", "nataka", "nipe"]
  [phrase u "generate" "report",
    wordThenWord u verbs (oneOf ["report", "ripoti", "summary"]),
    wordThenWord u (oneOf ["report", "ripoti"]) verbs,
    word u (oneOf ["daily report", "sales report", "summary report"])]

def checkStockPatterns : List Pattern :=
  let verbs := alt (oneOf ["check", "view", "lookup", "query", "search", "find", "count"])
    (alt (inOrder [literal "how", spaces, literal "many"]) (oneOf ["show", "nataka", "nipe"]))
  [phrase u "check" "stock",
    phrase u "stock" "lookup",
    wordThenWord u verbs
      (oneOf ["stock", "inventory", "quantity", "left", "remaining", "items"]),
    wordThenWord u (oneOf ["stock", "inventory", "quantity", "remaining"]) verbs,
    inOrder [start, oneOf ["stock", "inventory"], stop]]

def matchesAny (text : String) (patterns : List Pattern) : Bool :=
  patterns.any fun p ↦ p.search text.toList

def resolve (text : String) : Intent :=
  let normalized := Text.collapse (Text.lower u text)
  if normalized = "" then .UNKNOWN
  else if matchesAny normalized (addProductPatterns u) then .ADD_PRODUCT
  else if matchesAny normalized (recordSalePatterns u) then .RECORD_SALE
  else if matchesAny normalized (generateReportPatterns u) then .GENERATE_REPORT
  else if matchesAny normalized (checkStockPatterns u) then .CHECK_STOCK
  else .UNKNOWN

example : resolve .ascii " Record  a sale" = .RECORD_SALE ∧ resolve .ascii "stocks" = .UNKNOWN := by
  decide +kernel

end IntentResolver

end SokoFlow
