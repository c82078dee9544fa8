import SokoFlow.Conversation.Flows

/-!
# `engine.py`

One message: an override command, or the handler of the session's state with
its invalid inputs counted.  Any other exception escapes.
-/

namespace SokoFlow.FSMEngine

open Effect FlowM

def overrideCommands : List String := ["cancel", "menu", "exit", "stop"]

def isOverride (dep : Deployment) (text : String) : Bool :=
  Text.lower dep.unicode (Text.strip text) ∈ overrideCommands

/-- `session.context.flow_started_at = datetime.now(timezone.utc)` -/
def startFlow : FlowM Unit := do
  let now ← onDb DbM.now
  editContext fun c ↦ { c with flowStartedAt := some now }

/-- Start a flow by going to its first state. -/
def enter (newState : SessionState) (key : MessageKey) : FlowM FSMResult := do
  let s ← session
  startFlow
  transition newState
  buildResult s.state key

def unknownIntent {α : Type} : Except Exc α :=
  invalidInput "Type 'add product', 'record sale', or 'check stock' to begin."
    .UNKNOWN_INTENT []

def handleIdle (dep : Deployment) (text : String) : FlowM FSMResult := do
  let s ← session
  match IntentResolver.resolve dep.unicode text with
  | .UNKNOWN => do
      if ← onDb (AnalyticsRoutingPolicy.canRoute dep s text) then
        AnalyticsFlow.handleQuery dep text
      else MonadExcept.ofExcept unknownIntent
  | .RECORD_SALE => enter .RECORD_SALE_PRODUCT .START_SALE
  | .CHECK_STOCK => enter .CHECK_STOCK_PRODUCT .START_STOCK_CHECK
  | .GENERATE_REPORT => do
      startFlow
      transition .REPORT_PENDING
      handleDailyReport
      transition .IDLE
      buildResult s.state .REPORT_GENERATING
  | .ADD_PRODUCT => enter .ADD_PRODUCT_NAME .START_ADD_PRODUCT

/-- `_handler_map` -/
def handler (dep : Deployment) : SessionState → String → FlowM FSMResult
  | .IDLE => handleIdle dep
  | .START_ADD_PRODUCT => handleIdle dep
  | .ADD_PRODUCT_NAME => AddProductFlow.handleName
  | .ADD_PRODUCT_PRICE => AddProductFlow.handlePrice dep
  | .ADD_PRODUCT_QTY => AddProductFlow.handleQty dep
  | .CONFIRM_ADD_PRODUCT => AddProductFlow.handleConfirm dep
  | .RECORD_SALE_PRODUCT => RecordSaleFlow.handleSaleProductName dep
  | .RECORD_SALE_PRODUCT_SELECTION => RecordSaleFlow.handleSaleProductSelection dep
  | .RECORD_SALE_QTY => RecordSaleFlow.handleSaleProductQty dep
  | .CONFIRM_SALE => RecordSaleFlow.handleConfirmSaleProduct dep
  | .CHECK_STOCK_PRODUCT => StockLookupFlow.handleStockName dep
  | .CHECK_STOCK_PRODUCT_SELECTION => StockLookupFlow.handleStockProductSelection dep
  | .REPORT_PENDING => handleIdle dep
  | .ANALYTICS_PRODUCT_SELECTION => AnalyticsFlow.handleProductSelection dep

/-- In a state in which nothing is asked a message is taken as a new intent. -/
theorem handler_idle (dep : Deployment) {state : SessionState}
    (h : state = .IDLE ∨ state = .START_ADD_PRODUCT ∨ state = .REPORT_PENDING) (text : String) :
    handler dep state text = handleIdle dep text := by
  rcases h with rfl | rfl | rfl <;> simp only [handler]

/-- Back to `IDLE` with only the shop and the history. -/
def reset (previousState : SessionState) (key : MessageKey) : FlowM FSMResult := do
  transition .IDLE
  clearContextPreservingHistory
  buildResult previousState key

/-- `exc.message_params or {"message": exc.message}` -/
def shownParams (message : String) (params : Params) : Params :=
  if params.isEmpty then [("message", .text message)] else params

/-- The handler of `InvalidInputError`. -/
def onInvalidInput (dep : Deployment) (previousState : SessionState) (message : String)
    (key : Option MessageKey) (params : Params) : FlowM FSMResult := do
  setSession UserSession.refused
  let s ← session
  if dep.settings.maxFsmErrors ≤ s.context.errorCount then reset previousState .TOO_MANY_INVALID
  else buildResult previousState (key.getD .UNKNOWN_ERROR) (shownParams message params)

/-- Run the handler of the state and forget the errors so far. -/
def handleAccepted (dep : Deployment) (state : SessionState) (text : String) :
    FlowM FSMResult := do
  let result ← handler dep state text
  setSession UserSession.accepted
  return result

def processMessage (dep : Deployment) (text : String) : FlowM FSMResult := do
  let s ← session
  if isOverride dep text then reset s.state .FLOW_CANCELLED
  else
    tryCatch (handleAccepted dep s.state text) fun
      | .invalidInput message key params => onInvalidInput dep s.state message key params
      | e => throw e

end SokoFlow.FSMEngine
