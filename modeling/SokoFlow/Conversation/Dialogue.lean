import SokoFlow.Conversation.Lookups

/-!
# The conversation as a dialogue

What the machine is for, apart from its mutable context: a dialogue is in one
of twelve phases, and a phase holds exactly what has been said in its flow.  A
message moves it by `Dialogue.Step`.  A session shows a phase when its state
and the fields of its context are those of the phase.
-/

namespace SokoFlow.Dialogue

/-- A list of products to choose from. -/
abbrev Choices := { l : List ScoredProductMatch // l ≠ [] }

/-- A product a sale can be about, at the price at which it was shown. -/
structure Item where
  id : UUID
  name : String
  price : ℚ
  named : name ≠ ""

/-- A tool that takes one product. -/
abbrev ProductTool :=
  { name : String // name = "get_stock_level" ∨ name = "get_product_price" }

inductive Phase
  | idle
  | addName
  | addPrice (name : ProductName)
  | addQty (name : ProductName) (price : Price)
  | confirmAdd (name : ProductName) (price : Price) (quantity : { n : ℤ // 0 ≤ n })
  | saleName
  | saleChoice (shop : UUID) (choices : Choices) (named : ∀ m ∈ choices.val, m.name ≠ "")
  | saleQty (shop : UUID) (item : Item)
  | confirmSale (shop : UUID) (item : Item) (quantity : Quantity)
  | stockName
  | stockChoice (shop : UUID) (choices : Choices)
  | analyticsChoice (choices : Choices) (tool : ProductTool) (arguments : Json.Object)

namespace Phase

def state : Phase → SessionState
  | idle => .IDLE
  | addName => .ADD_PRODUCT_NAME
  | addPrice .. => .ADD_PRODUCT_PRICE
  | addQty .. => .ADD_PRODUCT_QTY
  | confirmAdd .. => .CONFIRM_ADD_PRODUCT
  | saleName => .RECORD_SALE_PRODUCT
  | saleChoice .. => .RECORD_SALE_PRODUCT_SELECTION
  | saleQty .. => .RECORD_SALE_QTY
  | confirmSale .. => .CONFIRM_SALE
  | stockName => .CHECK_STOCK_PRODUCT
  | stockChoice .. => .CHECK_STOCK_PRODUCT_SELECTION
  | analyticsChoice .. => .ANALYTICS_PRODUCT_SELECTION

/-- The shop the phase is tied to. -/
def shop : Phase → Option UUID
  | saleChoice shop .. | saleQty shop .. | confirmSale shop .. | stockChoice shop .. => some shop
  | _ => none

end Phase

/-- The fields of a context that belong to the flow in progress. -/
structure Content where
  productId : Option UUID := none
  productName : Option String := none
  productPrice : Option ℚ := none
  productQty : Option ℤ := none
  productCandidates : List ScoredProductMatch := []
  pendingAnalyticsCall : Option PendingCallContext := none

def contentOf (c : SessionContext) : Content :=
  ⟨c.productId, c.productName, c.productPrice, c.productQty, c.productCandidates,
    c.pendingAnalyticsCall⟩

def Phase.content : Phase → Content
  | idle | addName | saleName | stockName => {}
  | addPrice name => { productName := some name.val }
  | addQty name price => { productName := some name.val, productPrice := some price.val }
  | confirmAdd name price quantity =>
      { productName := some name.val, productPrice := some price.val,
        productQty := some quantity.val }
  | saleChoice _ choices _ | stockChoice _ choices => { productCandidates := choices.val }
  | saleQty _ item =>
      { productId := some item.id, productName := some item.name,
        productPrice := some item.price }
  | confirmSale _ item quantity =>
      { productId := some item.id, productName := some item.name,
        productPrice := some item.price, productQty := some quantity.val }
  | analyticsChoice choices tool arguments =>
      { productCandidates := choices.val
        pendingAnalyticsCall := some ⟨tool.val, arguments, choices.val⟩ }

/-- A session shows a phase: same state, same content, and its shop. -/
structure Shows (s : UserSession) (p : Phase) : Prop where
  state : s.state = p.state
  content : contentOf s.context = p.content
  shop : ∀ id, p.shop = some id → s.context.shopId = some id

/-! ## Moves -/

/-- The product that line `i` of a list shows, or that a name matches. -/
def itemOf (m : ScoredProductMatch) (h : m.name ≠ "") : Item := ⟨m.id, m.name, m.price, h⟩

/-- What the user is asked before a sale. -/
def salePrompt (item : Item) (quantity : Quantity) : MessageKey × Params :=
  (.CONFIRM_SALE, [("product_name", .text item.name), ("quantity", .int quantity.val),
    ("total", .decimal (item.price * quantity.val))])

/-- How a message with this text moves a dialogue over a catalogue, and the
reply to it.  Any phase may stay as it is or be left. -/
inductive Step (dep : Deployment) (products : List Product) (text : String) :
    Phase → MessageKey × Params → Phase → Prop
  | stay (p : Phase) (reply : MessageKey × Params) : Step dep products text p reply p
  | leave (p : Phase) (reply : MessageKey × Params) : Step dep products text p reply .idle
  | addProduct (reply : MessageKey × Params) : Step dep products text .idle reply .addName
  | recordSale (reply : MessageKey × Params) : Step dep products text .idle reply .saleName
  | checkStock (reply : MessageKey × Params) : Step dep products text .idle reply .stockName
  | analytics (reply : MessageKey × Params) (choices : Choices) (tool : ProductTool)
      (arguments : Json.Object) :
      Step dep products text .idle reply (.analyticsChoice choices tool arguments)
  | name (reply : MessageKey × Params) {n : ProductName} (h : parseProductName text = .ok n) :
      Step dep products text .addName reply (.addPrice n)
  | price (reply : MessageKey × Params) {n : ProductName} {price : Price}
      (h : parsePrice dep.unicode text = .ok price) :
      Step dep products text (.addPrice n) reply (.addQty n price)
  | openingStock (reply : MessageKey × Params) {n : ProductName} {price : Price}
      {q : { n : ℤ // 0 ≤ n }} (h : parseQuantity dep.unicode text = .ok q) :
      Step dep products text (.addQty n price) reply (.confirmAdd n price q)
  | found (reply : MessageKey × Params) {shop : UUID} {m : ScoredProductMatch}
      (h : ProductRepository.IsMatch shop products m) :
      Step dep products text .saleName reply (.saleQty shop (itemOf m h.named))
  | listed {shop : UUID} (choices : Choices)
      (h : ∀ m ∈ choices.val, ProductRepository.IsMatch shop products m) :
      Step dep products text .saleName
        (.PRODUCT_CHOICES, [("candidates", .candidates choices.val)])
        (.saleChoice shop choices fun m hm ↦ (h m hm).named)
  | picked (reply : MessageKey × Params) {shop : UUID} {choices : Choices}
      {named : ∀ m ∈ choices.val, m.name ≠ ""} {i : ℕ} {m : ScoredProductMatch}
      (h : Text.readInt dep.unicode (Text.strip text) = some ((i : ℤ) + 1))
      (hm : choices.val[i]? = some m) :
      Step dep products text (.saleChoice shop choices named) reply
        (.saleQty shop (itemOf m (named m (List.mem_of_getElem? hm))))
  | quantity {shop : UUID} {item : Item} {q : Quantity}
      (h : RecordSaleFlow.parseSaleQuantity dep.unicode text = .ok q) :
      Step dep products text (.saleQty shop item) (salePrompt item q) (.confirmSale shop item q)
  | stockListed {shop : UUID} (choices : Choices)
      (h : ∀ m ∈ choices.val, ProductRepository.IsMatch shop products m) :
      Step dep products text .stockName
        (.PRODUCT_CHOICES, [("candidates", .candidates choices.val)]) (.stockChoice shop choices)

/-! ## Sessions that show a phase -/

namespace Shows

variable {s : UserSession} {p : Phase}

theorem fresh (phone : String) : Shows (UserSession.fresh phone) .idle :=
  ⟨rfl, rfl, fun _ h ↦ by cases h⟩

/-- A change that touches neither the state, the content nor the shop. -/
theorem congr {s' : UserSession} (h : Shows s p) (hs : s'.state = s.state)
    (hc : contentOf s'.context = contentOf s.context) (hshop : s'.context.shopId = s.context.shopId) :
    Shows s' p :=
  ⟨hs.trans h.state, hc.trans h.content, fun id hid ↦ hshop.trans (h.shop id hid)⟩

theorem refused (h : Shows s p) : Shows s.refused p := h.congr rfl rfl rfl

theorem accepted (h : Shows s p) : Shows s.accepted p := h.congr rfl rfl rfl

/-- A change of the context that does `g` to its content, and a transition,
take a session from `p` to the phase with that content. -/
theorem advance (h : Shows s p) {f : SessionContext → SessionContext} (g : Content → Content)
    (p' : Phase) (now : Timestamp) (hf : ∀ c, contentOf (f c) = g (contentOf c))
    (hp : g p.content = p'.content)
    (hshop : ∀ id, p'.shop = some id → (f s.context).shopId = some id) :
    Shows ((s.edit f).moved p'.state now) p' where
  state := rfl
  content := (hf s.context).trans ((congrArg g h.content).trans hp)
  shop := hshop

/-- Clearing the context at `IDLE` leaves nothing behind. -/
theorem reset (s : UserSession) (now later : Timestamp) :
    Shows ((s.moved .IDLE now).cleared later) .idle :=
  ⟨rfl, rfl, fun _ h ↦ by cases h⟩

end Shows

end SokoFlow.Dialogue
