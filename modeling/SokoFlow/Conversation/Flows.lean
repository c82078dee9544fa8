import SokoFlow.Conversation.Parsing
import SokoFlow.Services.Sales
import SokoFlow.Services.Catalogue
import SokoFlow.Analytics.Formatter

/-!
# The five flows (`fsm/flows`)

Every flow runs on the database session of the worker.  A handler ends by
building the result from the session as it is then.
-/

namespace SokoFlow

open Effect FlowM

/-! ## Adding a product -/

namespace AddProductFlow

def handleName (text : String) : FlowM FSMResult := do
  let s ← session
  let name ← MonadExcept.ofExcept (parseProductName text)
  editContext fun c ↦ { c with productName := some name.val }
  transition .ADD_PRODUCT_PRICE
  buildResult s.state .ASK_PRICE

def handlePrice (dep : Deployment) (text : String) : FlowM FSMResult := do
  let s ← session
  let price ← MonadExcept.ofExcept (parsePrice dep.unicode text)
  editContext fun c ↦ { c with productPrice := some price.val }
  transition .ADD_PRODUCT_QTY
  buildResult s.state .ASK_STOCK_QUANTITY

def lostDetails {α : Type} : Except Exc α :=
  invalidInput "I lost some product details. Type 'add product' to start again."
    .SESSION_CONTEXT_LOST []

def productParams (name : String) (price : ℚ) (quantity : ℤ) : Params :=
  [("product_name", .text name), ("price", .decimal price), ("quantity", .int quantity)]

def handleQty (dep : Deployment) (text : String) : FlowM FSMResult := do
  let s ← session
  match s.context.productName, s.context.productPrice with
  | some name, some price => do
      let quantity ← MonadExcept.ofExcept (parseQuantity dep.unicode text)
      editContext fun c ↦ { c with productQty := some quantity.val }
      transition .CONFIRM_ADD_PRODUCT
      buildResult s.state .CONFIRM_PRODUCT (productParams name price quantity.val)
  | _, _ => MonadExcept.ofExcept lostDetails

/-- `ProductCreate(...)` and the two service calls of `_persist_product_db`,
each of which commits. -/
def createStocked (dep : Deployment) (shopId : UUID) (name : String) (price : ℚ) (quantity : ℤ) :
    DbM Unit := do
  if h : 0 < price then
    let product ← ProductService.createProduct dep ⟨name, price, shopId, h⟩
    if 0 < quantity then
      let _ ← InventoryService.addStock product.id quantity
    else pure ()
  else throw (.other "ValidationError" "price: Value error, The price must be a positive number")

/-- The shop of the session, or the sender's one, which the session then keeps. -/
def shopOfSession : FlowM UUID := do
  let s ← session
  match s.context.shopId with
  | some shopId => return shopId
  | none => do
      let shopId ← onDb (getShopId s.phone)
      editContext fun c ↦ { c with shopId := some shopId }
      return shopId

def persistProductDb (dep : Deployment) (name : String) (price : ℚ) (quantity : ℤ) :
    FlowM Unit := do
  let shopId ← shopOfSession
  onDb (createStocked dep shopId name price quantity)

def handleConfirm (dep : Deployment) (text : String) : FlowM FSMResult := do
  let s ← session
  let isConfirmed ← MonadExcept.ofExcept (parseConfirmation dep.unicode text)
  if !isConfirmed then do
    transition .IDLE
    clearContextPreservingHistory
    buildResult s.state .PRODUCT_CANCELLED
  else match s.context.productName, s.context.productPrice, s.context.productQty with
    | some name, some price, some quantity => do
        persistProductDb dep name price quantity
        transition .IDLE
        clearContextPreservingHistory
        buildResult s.state .PRODUCT_ADDED (productParams name price quantity)
    | _, _, _ => MonadExcept.ofExcept lostDetails

end AddProductFlow

/-! ## Recording a sale -/

namespace RecordSaleFlow

/-- Set `product_id`, `product_name` and `product_price`. -/
def withProduct (m : ScoredProductMatch) (c : SessionContext) : SessionContext :=
  { c with productId := some m.id, productName := some m.name, productPrice := some m.price }

def handleSaleProductName (dep : Deployment) (text : String) : FlowM FSMResult := do
  let s ← session
  let shopId ← onDb (getShopId s.phone)
  editContext fun c ↦ { c with shopId := some shopId }
  match ← onDb (ProductService.findProductsByFuzzyName dep shopId text) with
  | .exactMatch product => do
      editContext (withProduct product)
      transition .RECORD_SALE_QTY
      buildResult s.state .ASK_SALE_QUANTITY
  | .ambiguous candidates => do
      editContext fun c ↦ { c with productCandidates := candidates }
      transition .RECORD_SALE_PRODUCT_SELECTION
      buildResult s.state .PRODUCT_CHOICES [("candidates", .candidates candidates)]
  | .notFound => buildResult s.state .PRODUCT_NOT_FOUND

def handleSaleProductSelection (dep : Deployment) (text : String) : FlowM FSMResult := do
  let s ← session
  let selected ← MonadExcept.ofExcept
    (resolveProductChoice dep.unicode s.context.productCandidates text)
  editContext (withProduct selected)
  transition .RECORD_SALE_QTY
  editContext fun c ↦ { c with productCandidates := [] }
  buildResult s.state .ASK_QUANTITY

/-- The quantity of a sale, which is not zero. -/
def parseSaleQuantity (u : Unicode) (text : String) : Except Exc Quantity := do
  let quantity ← parseQuantity u text
  if h : 0 < quantity.val then .ok ⟨quantity.val, h⟩
  else invalidInput "Please enter a quantity greater than 0." .QUANTITY_TOO_LOW []

/-- The text shows the inventory object, less its address, where it means its quantity. -/
def insufficientStock {α : Type} (row : Inventory) (name : String) : Except Exc α :=
  invalidInput ("Insufficient stock! Only *<app.models.inventory.Inventory object>* units of " ++
      name ++ " remaining. Please enter a valid quantity.") .INSUFFICIENT_STOCK
    [("available", .int row.quantity), ("product_name", .text name)]

def handleSaleProductQty (dep : Deployment) (text : String) : FlowM FSMResult := do
  let quantity ← MonadExcept.ofExcept (parseSaleQuantity dep.unicode text)
  let s ← session
  match s.context.productId, s.context.productName, s.context.productPrice with
  | some productId, some name, some price => do
      if name = "" then corrupted
      else
        let availableStock ← onDb (InventoryService.getStock productId)
        if availableStock.quantity < quantity.val then
          MonadExcept.ofExcept (insufficientStock availableStock name)
        else
          editContext fun c ↦ { c with productQty := some quantity.val }
          transition .CONFIRM_SALE
          buildResult s.state .CONFIRM_SALE [("product_name", .text name),
            ("quantity", .int quantity.val), ("total", .decimal (price * quantity.val))]
  | _, _, _ => corrupted

/-- The exceptions of a sale that the user gets to see. -/
def toInvalidInput : Exc → Exc
  | .invalidInput m _ _ => .invalidInput m none []
  | e@(.resourceConflict _) => .invalidInput e.message none []
  | e@(.resourceNotFound _ _) => .invalidInput e.message none []
  | e => e

def recordSaleTransaction (productId : UUID) (unitsSold : ℤ) : FlowM SalesService.SaleResult := do
  let s ← session
  match s.context.shopId with
  | none => corrupted
  | some shopId => onDb (SalesService.recordSale shopId productId unitsSold)

def handleConfirmSaleProduct (dep : Deployment) (text : String) : FlowM FSMResult := do
  let s ← session
  let isConfirmed ← MonadExcept.ofExcept (parseConfirmation dep.unicode text)
  if !isConfirmed then do
    transition .IDLE
    clearContextPreservingHistory
    buildResult s.state .SALE_CANCELLED
  else match s.context.productId, s.context.productName, s.context.productQty with
    | some productId, some name, some unitsSold => do
        if name = "" then corrupted
        else
          let sale ← tryCatch (recordSaleTransaction productId unitsSold)
            fun e ↦ throw (toInvalidInput e)
          transition .IDLE
          clearContextPreservingHistory
          (if sale.enteredLowStock then
            onDb (DbM.enqueue (.lowStockAlert s.phone productId.text sale.remainingStock))
          else pure ())
          buildResult s.state .SALE_RECORDED [("product_name", .text name),
            ("quantity", .int unitsSold), ("remaining_stock", .int sale.remainingStock)]
    | _, _, _ => corrupted

end RecordSaleFlow

/-! ## Looking stock up -/

namespace StockLookupFlow

def stockParams (name : String) (quantity : ℤ) : Params :=
  [("product_name", .text name), ("quantity", .int quantity)]

def handleStockName (dep : Deployment) (text : String) : FlowM FSMResult := do
  let name ← MonadExcept.ofExcept (parseProductName text)
  let s ← session
  let shopId ← onDb (getShopId s.phone)
  editContext fun c ↦ { c with shopId := some shopId }
  match ← onDb (ProductService.findProductsByFuzzyName dep shopId name.val) with
  | .notFound => do
      editContext fun c ↦ { c with productCandidates := [] }
      buildResult s.state .STOCK_NOT_FOUND
  | .ambiguous candidates => do
      editContext fun c ↦ { c with productCandidates := candidates }
      transition .CHECK_STOCK_PRODUCT_SELECTION
      buildResult s.state .PRODUCT_CHOICES [("candidates", .candidates candidates)]
  | .exactMatch product => do
      let inventory ← onDb (InventoryService.getStock product.id)
      transition .IDLE
      clearContextPreservingHistory
      buildResult s.state .STOCK_REMAINING (stockParams product.name inventory.quantity)

def handleStockProductSelection (dep : Deployment) (text : String) : FlowM FSMResult := do
  let s ← session
  let selected ← MonadExcept.ofExcept
    (resolveProductChoice dep.unicode s.context.productCandidates text)
  editContext (RecordSaleFlow.withProduct selected)
  let inventory ← onDb (InventoryService.getStock selected.id)
  transition .IDLE
  clearContextPreservingHistory
  buildResult s.state .STOCK_REMAINING (stockParams selected.name inventory.quantity)

end StockLookupFlow

/-! ## The daily report -/

/-- `ReportFlow.handle_daily_report` -/
def handleDailyReport : FlowM Unit := do
  let s ← session
  let shopId ← AddProductFlow.shopOfSession
  onDb (DbM.enqueue (.report shopId s.phone))

/-! ## Analytics -/

namespace AnalyticsRoutingPolicy

def hasFreshContext (dep : Deployment) (s : UserSession) : DbM Bool :=
  match s.context.lastAnalyticsCall with
  | none => return false
  | some call => do
      let now ← DbM.now
      return decide (now - call.timestamp ≤ dep.settings.analyticsFollowUpTtlSeconds * 1000000)

/-- A follow-up may be one character long. -/
def wrongLength (fresh : Bool) (cleaned : String) : Bool :=
  decide (Text.len cleaned < if fresh then 1 else 2) || decide (500 < Text.len cleaned)

def canRoute (dep : Deployment) (s : UserSession) (text : String) : DbM Bool := do
  let hasKey := dep.settings.groqApiKey.any (· ≠ "") || dep.settings.openrouterApiKey.any (· ≠ "")
  if !dep.settings.analyticsEnabled || !hasKey then return false
  else do
    let cleaned := Text.strip text
    let fresh ← hasFreshContext dep s
    if wrongLength fresh cleaned then return false
    else if Text.isDigits dep.unicode cleaned then hasFreshContext dep s
    else return true

end AnalyticsRoutingPolicy

namespace AnalyticsFlow

open Analytics

/-- `session.context.last_analytics_call`, when there is a call to remember. -/
def remember : Option ToolCall → FlowM Unit
  | none => pure ()
  | some call => do
      let now ← onDb DbM.now
      editContext fun c ↦ { c with lastAnalyticsCall := some ⟨call.name, call.arguments, now⟩ }

/-- `outcome.tool or "get_stock_level"` -/
def pendingTool (tool : Option String) : String :=
  match tool with
  | some name => if name = "" then "get_stock_level" else name
  | none => "get_stock_level"

/-- The session after a query: parked at a choice, or with the call that
answered it, or as it was. -/
def settle : AnalyticsOutcome → FlowM Unit
  | .needsSelection candidates pending tool => do
      transition .ANALYTICS_PRODUCT_SELECTION
      editContext fun c ↦ { c with
        productCandidates := candidates
        pendingAnalyticsCall := some ⟨pendingTool tool, argumentsOf pending, candidates⟩
        errorCount := 0 }
  | .answered _ call | .answeredEmpty _ call => do
      editContext fun c ↦ { c with errorCount := 0 }
      remember call
  | _ => pure ()

def handleQuery (dep : Deployment) (text : String) : FlowM FSMResult := do
  let s ← session
  let shopId ← onDb (getShopId s.phone)
  editContext fun c ↦ { c with shopId := some shopId }
  let fresh ← onDb (AnalyticsRoutingPolicy.hasFreshContext dep s)
  let prior := if fresh then
      s.context.lastAnalyticsCall.map fun call ↦ (⟨call.toolName, call.arguments⟩ : ToolCall)
    else none
  let outcome ← onDb (run dep text shopId prior)
  settle outcome
  let (key, params) ← MonadExcept.ofExcept (formatOutcome dep outcome)
  buildResult s.state key params

/-- The arguments of the pending call with the product that was chosen. -/
def chosenArguments (pending : PendingCallContext) (selected : ScoredProductMatch) : Json.Object :=
  Json.Object.set (Json.Object.set pending.arguments "product_id" (.str selected.id.text))
    "product_name" (.str selected.name)

/-- The outcome of the resumed call, and the call to remember if it succeeded. -/
def resumed (toolName : String) (rawArgs : Json.Object) :
    ToolExecutionResult → AnalyticsOutcome × Option ToolCall
  | .success _ data validated =>
      let (outcome, call) := answer toolName data validated rawArgs
      (outcome, some call)
  | .failure _ error =>
      if error.errorType = "InfrastructureError" then (.infrastructureFailure error.message, none)
      else (.domainFailure toolName error.errorType error.message none, none)

def handleProductSelection (dep : Deployment) (text : String) : FlowM FSMResult := do
  let s ← session
  let selected ← MonadExcept.ofExcept
    (resolveProductChoice dep.unicode s.context.productCandidates text)
  match s.context.pendingAnalyticsCall with
  | none => do
      transition .IDLE
      clearContextPreservingHistory
      buildResult s.state .SESSION_CONTEXT_LOST
  | some pending => do
      let rawArgs := chosenArguments pending selected
      let shopId ← onDb (getShopId s.phone)
      let result ← onDb (execute dep pending.toolName rawArgs shopId)
      let (outcome, call) := resumed pending.toolName rawArgs result
      remember call
      editContext fun c ↦ { c with pendingAnalyticsCall := none, productCandidates := [] }
      transition .IDLE
      let (key, params) ← MonadExcept.ofExcept (formatOutcome dep outcome)
      buildResult s.state key params

/-! The formatter has a reply to every outcome the two handlers pass to it. -/

theorem handleQuery_eq (dep : Deployment) (text : String) : handleQuery dep text = (do
    let s ← session
    let shopId ← onDb (getShopId s.phone)
    editContext fun c ↦ { c with shopId := some shopId }
    let fresh ← onDb (AnalyticsRoutingPolicy.hasFreshContext dep s)
    let prior := if fresh then
        s.context.lastAnalyticsCall.map fun call ↦ (⟨call.toolName, call.arguments⟩ : ToolCall)
      else none
    let outcome ← onDb (run dep text shopId prior)
    settle outcome
    let (key, params) := presented dep outcome
    buildResult s.state key params) := by
  unfold handleQuery
  refine bind_congr fun s ↦ bind_congr fun shopId ↦ bind_congr fun _ ↦ bind_congr fun fresh ↦ ?_
  refine bind_congr_of_ok fun t outcome t' h ↦ ?_
  obtain ⟨b', hrun, -⟩ := zoom_eq_ok.mp h
  rw [formatOutcome_of_presentable (run_presentable hrun)]
  rfl

theorem resumed_presentable {dep : Deployment} {toolName : String} {rawArgs : Json.Object}
    {shopId : UUID} {result : ToolExecutionResult} {b b' : Backend}
    (h : execute dep toolName rawArgs shopId b = .ok result b') :
    (resumed toolName rawArgs result).1.Presentable := by
  cases result with
  | success tool data validated => exact executeWith_presentable h
  | failure tool error =>
      unfold resumed
      dsimp only
      split <;> exact presentable_of_nil rfl

theorem handleProductSelection_eq (dep : Deployment) (text : String) :
    handleProductSelection dep text = (do
      let s ← session
      let selected ← MonadExcept.ofExcept
        (resolveProductChoice dep.unicode s.context.productCandidates text)
      match s.context.pendingAnalyticsCall with
      | none => do
          transition .IDLE
          clearContextPreservingHistory
          buildResult s.state .SESSION_CONTEXT_LOST
      | some pending => do
          let rawArgs := chosenArguments pending selected
          let shopId ← onDb (getShopId s.phone)
          let result ← onDb (execute dep pending.toolName rawArgs shopId)
          let (outcome, call) := resumed pending.toolName rawArgs result
          remember call
          editContext fun c ↦ { c with pendingAnalyticsCall := none, productCandidates := [] }
          transition .IDLE
          let (key, params) := presented dep outcome
          buildResult s.state key params) := by
  unfold handleProductSelection
  refine bind_congr fun s ↦ bind_congr fun selected ↦ ?_
  split
  · rfl
  · refine bind_congr fun shopId ↦ bind_congr_of_ok fun t result t' h ↦ ?_
    obtain ⟨b', hrun, -⟩ := zoom_eq_ok.mp h
    have hp := resumed_presentable hrun
    generalize resumed _ _ result = ended at hp ⊢
    obtain ⟨outcome, call⟩ := ended
    dsimp only
    rw [formatOutcome_of_presentable hp]
    rfl

end AnalyticsFlow

end SokoFlow
