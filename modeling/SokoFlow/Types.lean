import Mathlib.Data.Rat.Init
import Mathlib.Data.Nat.Digits.Defs
import SokoFlow.Foundation.Calendar

/-!
# Values shared by the services, the conversation and the analytics layer

Money is an exact rational (`Decimal` and `numeric` columns), a similarity
score is a rational between 0 and 1, an instant is a number of microseconds.
-/

namespace SokoFlow

abbrev Timestamp := ℤ

structure UUID where
  val : ℕ
  deriving DecidableEq, Repr

namespace UUID

/-- The 32 hexadecimal digits in groups of 8, 4, 4, 4 and 12. -/
def text (id : UUID) : String :=
  let ds := Nat.toDigits 16 id.val
  let ds := List.replicate (32 - ds.length) '0' ++ ds
  String.ofList (ds.take 8 ++ '-' :: (ds.drop 8).take 4 ++ '-' :: (ds.drop 12).take 4 ++
    '-' :: (ds.drop 16).take 4 ++ '-' :: ds.drop 20)

def nil : UUID := ⟨0⟩

end UUID

/-- A parsed JSON value; objects keep the order of their keys, floats their text. -/
inductive Json
  | null
  | bool (b : Bool)
  | int (n : ℤ)
  | float (repr : String)
  | str (s : String)
  | arr (items : List Json)
  | obj (fields : List (String × Json))

namespace Json

abbrev Object := List (String × Json)

/-- `fields.get(name)` -/
def Object.get? (fields : Object) (name : String) : Option Json :=
  (fields.find? (·.1 = name)).map (·.2)

/-- `fields[name] = value`: a key keeps its place, a new one goes last. -/
def Object.set (fields : Object) (name : String) (value : Json) : Object :=
  if fields.any (·.1 = name) then
    fields.map fun f ↦ if f.1 = name then (name, value) else f
  else fields ++ [(name, value)]

/-- `bool(value)` -/
def truthy : Json → Bool
  | .null => false
  | .bool b => b
  | .int n => n ≠ 0
  | .float repr => repr ≠ "0.0" ∧ repr ≠ "-0.0"
  | .str s => s ≠ ""
  | .arr items => !items.isEmpty
  | .obj fields => !fields.isEmpty

/-- `type(value).__name__` -/
def typeName : Json → String
  | .null => "NoneType"
  | .bool _ => "bool"
  | .int _ => "int"
  | .float _ => "float"
  | .str _ => "str"
  | .arr _ => "list"
  | .obj _ => "dict"

end Json

inductive SessionState
  | IDLE
  | START_ADD_PRODUCT
  | ADD_PRODUCT_NAME
  | ADD_PRODUCT_PRICE
  | ADD_PRODUCT_QTY
  | CONFIRM_ADD_PRODUCT
  | RECORD_SALE_PRODUCT
  | RECORD_SALE_PRODUCT_SELECTION
  | RECORD_SALE_QTY
  | CONFIRM_SALE
  | CHECK_STOCK_PRODUCT
  | CHECK_STOCK_PRODUCT_SELECTION
  | REPORT_PENDING
  | ANALYTICS_PRODUCT_SELECTION
  deriving DecidableEq, Repr

inductive MessageKey
  | FLOW_CANCELLED
  | TOO_MANY_INVALID
  | UNKNOWN_INTENT
  | START_SALE
  | START_STOCK_CHECK
  | REPORT_GENERATING
  | START_ADD_PRODUCT
  | ASK_PRICE
  | ASK_STOCK_QUANTITY
  | CONFIRM_PRODUCT
  | PRODUCT_CANCELLED
  | PRODUCT_ADDED
  | ASK_SALE_QUANTITY
  | ASK_QUANTITY
  | PRODUCT_NOT_FOUND
  | PRODUCT_CHOICES
  | CONFIRM_SALE
  | SALE_CANCELLED
  | SALE_RECORDED
  | STOCK_NOT_FOUND
  | STOCK_REMAINING
  | PRODUCT_NAME_INVALID
  | PRICE_INVALID
  | PRICE_NON_POSITIVE
  | QUANTITY_INVALID
  | QUANTITY_NEGATIVE
  | CONFIRMATION_INVALID
  | UNKNOWN_ERROR
  | INVALID_CHOICE
  | QUANTITY_TOO_LOW
  | SESSION_CONTEXT_LOST
  | SHOP_NOT_FOUND
  | INSUFFICIENT_STOCK
  | LOW_STOCK_ALERT
  | ANALYTICS_SALES_SUMMARY
  | ANALYTICS_SALES_SUMMARY_EMPTY
  | ANALYTICS_STOCK_LEVEL
  | ANALYTICS_STOCK_LEVEL_LOW
  | ANALYTICS_TOP_PRODUCTS
  | ANALYTICS_TOP_PRODUCTS_EMPTY
  | ANALYTICS_LOW_STOCK_ITEMS
  | ANALYTICS_LOW_STOCK_ITEMS_EMPTY
  | ANALYTICS_SALES_TREND
  | ANALYTICS_SALES_TREND_EMPTY
  | ANALYTICS_SLOW_MOVING_ITEMS
  | ANALYTICS_SLOW_MOVING_ITEMS_EMPTY
  | ANALYTICS_PRODUCT_PRICE
  | ANALYTICS_INVALID_PROPOSAL
  | ANALYTICS_PROVIDER_UNAVAILABLE
  | ANALYTICS_DOMAIN_ERROR
  | ANALYTICS_INFRASTRUCTURE_ERROR
  | ANALYTICS_DAILY_LIMIT
  | ANALYTICS_TEMPORARILY_UNAVAILABLE
  deriving DecidableEq, Repr

abbrev Score := { q : ℚ // 0 ≤ q ∧ q ≤ 1 }

structure ScoredProductMatch where
  id : UUID
  shopId : UUID
  name : String
  sku : String
  price : ℚ
  similarityScore : Score
  deriving DecidableEq

/-- `ProductResolution`, one constructor for each status. -/
inductive ProductResolution
  | notFound
  | exactMatch (product : ScoredProductMatch)
  | ambiguous (candidates : List ScoredProductMatch)

/-- A value of `message_params`. -/
inductive Param
  | text (s : String)
  | int (n : ℤ)
  | decimal (q : ℚ)
  | candidates (shown : List ScoredProductMatch)
  deriving DecidableEq

abbrev Params := List (String × Param)

/-- An error pydantic finds in an input. -/
structure SchemaIssue where
  loc : List String
  message : String
  type : String
  deriving DecidableEq

/-- A detail of `SchemaValidationError`, its location joined by arrows. -/
structure ErrorDetail where
  loc : String
  message : String
  type : String
  deriving DecidableEq

/-- The exceptions the modelled code raises or meets.  `infrastructureError` is
an `InfrastructureError` or a subclass, `other` any failure of the database
driver, the broker or another library, both with the name of the class. -/
inductive Exc
  | resourceNotFound (entityName identifier : String)
  | resourceAlreadyExists (entityName fieldName value : String)
  | resourceConflict (message : String)
  | insufficientStock (productId : String) (requested available : ℤ)
  | sessionStateMismatch (sessionId : String)
  | corruptedSession (sessionId : String)
  | invalidInput (message : String) (key : Option MessageKey) (params : Params)
  | integrityError (text : String)
  | toolNotFound (toolName : String)
  | schemaValidation (message : String) (errors : List ErrorDetail)
  | invalidDateRange (message : String)
  | productNotFound (productId : String)
  | productAmbiguous (searchTerm : String) (candidates : List ScoredProductMatch)
  | infrastructureError (className message : String)
  | llmTimeout (message : String)
  | llmUnavailable (message : String)
  | llmApi (message : String)
  | llmResponseFormat (message : String)
  | other (className text : String)
  deriving DecidableEq

namespace Exc

/-- `str(exc)` -/
def message : Exc → String
  | resourceNotFound entity id => entity ++ " with identifier '" ++ id ++ "' was not found."
  | resourceAlreadyExists entity field value =>
      entity ++ " with " ++ field ++ " '" ++ value ++ "' already exists."
  | resourceConflict m => m
  | insufficientStock _ requested available =>
      "Cannot deduct " ++ Text.ofInt requested ++ " units. Only " ++ Text.ofInt available ++
        " units available."
  | sessionStateMismatch id => "Session " ++ id ++ " changed before save"
  | corruptedSession id => "Session " ++ id ++ " was corrupted"
  | invalidInput m _ _ => m
  | integrityError text => text
  | toolNotFound name => "Tool '" ++ name ++ "' is not registered in the AI tool surface."
  | schemaValidation m _ => m
  | invalidDateRange m => m
  | productNotFound id => "Product with ID '" ++ id ++ "' was not found for this shop."
  | productAmbiguous term candidates =>
      "Product '" ++ term ++ "' is ambiguous with " ++ Text.ofInt candidates.length ++
        " candidates."
  | infrastructureError _ m => m
  | llmTimeout m => m
  | llmUnavailable m => m
  | llmApi m => m
  | llmResponseFormat m => m
  | other _ text => text

/-- `type(exc).__name__` -/
def className : Exc → String
  | resourceNotFound .. => "ResourceNotFoundException"
  | resourceAlreadyExists .. => "ResourceAlreadyExistsException"
  | resourceConflict .. => "ResourceConflictException"
  | insufficientStock .. => "InsufficientStockException"
  | sessionStateMismatch .. => "SessionStateMismatchError"
  | corruptedSession .. => "CorruptedSessionError"
  | invalidInput .. => "InvalidInputError"
  | integrityError .. => "IntegrityError"
  | toolNotFound .. => "ToolNotFoundError"
  | schemaValidation .. => "SchemaValidationError"
  | invalidDateRange .. => "InvalidDateRangeError"
  | productNotFound .. => "ProductNotFoundError"
  | productAmbiguous .. => "ProductAmbiguousError"
  | infrastructureError name _ => name
  | llmTimeout .. => "LLMProviderTimeoutError"
  | llmUnavailable .. => "LLMProviderUnavailableError"
  | llmApi .. => "LLMProviderAPIError"
  | llmResponseFormat .. => "LLMResponseFormatError"
  | other name _ => name

/-- The four business exceptions of the services. -/
def isBusiness : Exc → Bool
  | resourceNotFound .. | resourceAlreadyExists .. | resourceConflict .. | insufficientStock .. =>
      true
  | _ => false

/-- The exceptions of the database driver, the broker and the libraries. -/
def isTechnical : Exc → Bool
  | integrityError .. | other .. => true
  | _ => false

end Exc

end SokoFlow
