import SokoFlow.Services.Sales
import SokoFlow.Services.Catalogue

/-!
# The REST routes that write

A request runs one service method on a session of `get_db` and answers with
what the method returned; whatever the method did not commit is lost when the
session closes.
-/

namespace SokoFlow.Routes

open DbM Effect InventoryService

inductive Request
  | createProduct (payload : ProductService.ProductCreate)
  | updateProduct (productId : UUID) (payload : ProductService.ProductUpdate)
  | deleteProduct (productId : UUID)
  | addStock (productId : UUID) (quantity : Quantity)
  | deductStock (productId : UUID) (quantity : Quantity)
  | updateThreshold (productId : UUID) (lowStockThreshold : Threshold)
  | createShop (payload : ShopService.CreateShop)
  | updateShopLocale (phone : String) (locale : ShopLocale)
  | recordSale (shopId productId : UUID) (quantity : Quantity) (recordedBy : String)

/-- The bodies of the success responses, with the fields of their models. -/
inductive Response
  | product (id : UUID) (name : String) (price : ℚ) (sku : String)
  | noContent
  | inventory (id productId : UUID) (quantity lowStockThreshold : ℤ)
  | deduction (remainingStock : ℤ) (enteredLowStock : Bool)
  | shop (id : UUID) (name phone : String) (locale : ShopLocale)
  | sale (row : Sale)

def productResponse (p : Product) : Response := .product p.id p.name p.price p.sku

def inventoryResponse (i : Inventory) : Response :=
  .inventory i.id i.productId i.quantity i.lowStockThreshold

/-- `ShopResponse.model_validate(shop)`, whose name may not be null. -/
def shopResponse (s : Shop) : DbM Response :=
  match s.name with
  | some name => return .shop s.id name s.phone s.locale
  | none => throw (.other "ValidationError" "name: Input should be a valid string")

def route (dep : Deployment) : Request → DbM Response
  | .createProduct payload => do
      let product ← ProductService.createProduct dep payload
      return productResponse product
  | .updateProduct productId payload => do
      let product ← ProductService.updateProduct productId payload
      return productResponse product
  | .deleteProduct productId => do
      ProductService.deleteProduct productId
      return .noContent
  | .addStock productId quantity => do
      let inventory ← InventoryService.addStock productId quantity
      return inventoryResponse inventory
  | .deductStock productId quantity => do
      let result ← InventoryService.deductStock productId quantity
      return .deduction result.remainingStock result.enteredLowStock
  | .updateThreshold productId lowStockThreshold => do
      let inventory ← InventoryService.updateThreshold productId lowStockThreshold
      return inventoryResponse inventory
  | .createShop payload => do
      let shop ← ShopService.createShop payload
      shopResponse shop
  | .updateShopLocale phone locale => do
      let shop ← ShopService.updateLocale phone locale
      shopResponse shop
  | .recordSale shopId productId quantity recordedBy => do
      let result ← SalesService.recordSale shopId productId quantity recordedBy
      return .sale result.sale

/-- The status of a success. -/
def Request.successStatus : Request → ℕ
  | createProduct _ | createShop _ | recordSale .. => 201
  | deleteProduct _ => 204
  | _ => 200

/-- `register_exception_handlers`; anything else is an internal server error. -/
def errorStatus : Exc → ℕ
  | .resourceNotFound .. => 404
  | .insufficientStock .. => 422
  | .resourceAlreadyExists .. | .resourceConflict .. => 409
  | _ => 500

structure Answer where
  status : ℕ
  body : Option Response

def Answer.Success (a : Answer) : Prop := 200 ≤ a.status ∧ a.status < 300

/-- Answer one request on the committed rows: the answer and the rows
committed when the session has closed. -/
def serve (dep : Deployment) (env : Env) (req : Request) (db : Database) : Answer × Database :=
  match getDb (route dep req) (Backend.connect env db) with
  | .ok body b => (⟨req.successStatus, some body⟩, b.committed)
  | .error e b => (⟨errorStatus e, none⟩, b.committed)

/-! ## Durability -/

/-- The effect a response to a request describes, on the rows before and after. -/
def Described (req : Request) (body : Response) (before after : Database) : Prop :=
  match req, body with
  | .createProduct payload, .product id name price sku =>
      ⟨id, payload.shopId, name, sku, price⟩ ∈ after.products ∧ name = payload.name ∧
        price = Decimal.round payload.price
  | .updateProduct productId payload, .product id name price sku =>
      ∃ old shopId, before.product productId = some old ∧ name = payload.name.getD old.name ∧
        some price = (payload.price.getD (some old.price)).map Decimal.round ∧
        after.product productId = some ⟨id, shopId, name, sku, price⟩
  | .deleteProduct productId, .noContent => after.product productId = none
  | .addStock productId quantity, .inventory id p q n =>
      p = productId ∧ q = before.stock productId + quantity ∧
        after.inventoryOf productId = some ⟨id, p, q, n⟩
  | .deductStock productId quantity, .deduction remaining _ =>
      remaining = before.stock productId - quantity ∧ after.stock productId = remaining
  | .updateThreshold productId lowStockThreshold, .inventory id p q n =>
      n = lowStockThreshold ∧ after.inventoryOf productId = some ⟨id, p, q, n⟩
  | .createShop payload, .shop id name phone locale =>
      ⟨id, phone, some name, locale⟩ ∈ after.shops ∧ name = payload.name ∧
        phone = payload.phone ∧ locale = payload.locale
  | .updateShopLocale phone locale, .shop id name phone' locale' =>
      ⟨id, phone', some name, locale'⟩ ∈ after.shops ∧ phone' = phone ∧ locale' = locale
  | .recordSale _ productId quantity _, .sale row =>
      row ∈ after.sales ∧ after.stock productId = before.stock productId - quantity
  | _, _ => False

/-- Whatever fails or not, a success answer describes what is committed. -/
def Durable (dep : Deployment) (req : Request) (db : Database) : Prop :=
  ∀ env answer after, serve dep env req db = (answer, after) → answer.Success →
    ∃ body, answer.body = some body ∧ Described req body db after

/-- `POST /sales` with a sale that `record_sale` accepts. -/
def AcceptedSale (db : Database) : Request → Prop
  | .recordSale shopId productId quantity recordedBy =>
      ∃ product row, SalesService.Sellable db shopId productId quantity product row ∧
        FitsMoney (product.price * (quantity : ℤ)) ∧ FitsFreeText 20 (kept 20 recordedBy)
  | _ => False

variable {dep : Deployment} {env : Env} {req : Request} {db after : Database} {answer : Answer}

theorem errorStatus_fails (e : Exc) : ¬ (⟨errorStatus e, none⟩ : Answer).Success := by
  cases e <;> simp [errorStatus, Answer.Success]

theorem serve_success (h : serve dep env req db = (answer, after)) (hs : answer.Success) :
    ∃ body b, route dep req (Backend.connect env db) = .ok body b ∧ after = b.committed ∧
      answer.body = some body := by
  unfold serve at h
  split at h
  · rename_i body b hrun
    obtain ⟨b₁, h₁, rfl⟩ := getDb_eq_ok.mp hrun
    cases h
    exact ⟨body, b₁, h₁, rfl, rfl⟩
  · cases h
    exact absurd hs (errorStatus_fails _)

theorem shopResponse_ok {s : Shop} {b b' : Backend} {r : Response}
    (h : shopResponse s b = .ok r b') :
    b' = b ∧ ∃ name, s.name = some name ∧ r = .shop s.id name s.phone s.locale := by
  unfold shopResponse at h
  cases hn : s.name with
  | none =>
      rw [hn] at h
      cases h
  | some name =>
      rw [hn] at h
      cases h
      exact ⟨rfl, name, rfl, rfl⟩

/-- Every service but `record_sale` commits what it returns. -/
theorem described_of_route {b : Backend} {body : Response}
    (hreq : ∀ shopId p q by_, req ≠ .recordSale shopId p q by_)
    (h : route dep req (Backend.connect env db) = .ok body b) :
    Described req body db b.committed := by
  cases req with
  | createProduct payload =>
      obtain ⟨p, b₁, h₁, h⟩ := bind_eq_ok.mp h
      cases h
      obtain ⟨db', hl, hmem, hshop, hname, hprice, -⟩ := ProductService.createProduct_ok h₁
      rw [hl.committed]
      refine ⟨?_, hname, hprice⟩
      rw [← hshop]
      exact hmem
  | updateProduct productId payload =>
      obtain ⟨p, b₁, h₁, h⟩ := bind_eq_ok.mp h
      cases h
      obtain ⟨old, db', hold, hl, hlook, hname, hprice, -⟩ := ProductService.updateProduct_ok h₁
      rw [hl.committed]
      exact ⟨old, p.shopId, hold, hname, hprice, hlook⟩
  | deleteProduct productId =>
      obtain ⟨_, b₁, h₁, h⟩ := bind_eq_ok.mp h
      cases h
      obtain ⟨db', hl, hnone, -⟩ := ProductService.deleteProduct_ok h₁
      rw [hl.committed]
      exact hnone
  | addStock productId quantity =>
      obtain ⟨i, b₁, h₁, h⟩ := bind_eq_ok.mp h
      cases h
      obtain ⟨db', hl, hq, hw⟩ := addStock_ok h₁
      rw [hl.committed]
      exact ⟨Database.productId_of_inventoryOf hw.row, hq, hw.row⟩
  | deductStock productId quantity =>
      obtain ⟨r, b₁, h₁, h⟩ := bind_eq_ok.mp h
      cases h
      obtain ⟨row, db', hrow, -, hl, hw, rfl⟩ := deductStock_ok h₁
      have hstock : db.stock productId = row.quantity := Database.stock_of_inventoryOf hrow
      rw [hl.committed]
      exact ⟨by rw [hstock], Database.stock_of_inventoryOf hw.row⟩
  | updateThreshold productId lowStockThreshold =>
      obtain ⟨i, b₁, h₁, h⟩ := bind_eq_ok.mp h
      cases h
      obtain ⟨row, db', -, rfl, hl, hw⟩ := updateThreshold_ok h₁
      rw [hl.committed]
      exact ⟨rfl, hw.row⟩
  | createShop payload =>
      obtain ⟨shop, b₁, h₁, h⟩ := bind_eq_ok.mp h
      obtain ⟨rfl, name, hn, rfl⟩ := shopResponse_ok h
      obtain ⟨db', hl, hmem, hphone, hname, hlocale, -⟩ := ShopService.createShop_ok h₁
      rw [hl.committed]
      refine ⟨?_, Option.some.inj (hn.symm.trans hname), hphone, hlocale⟩
      rw [← hn]
      exact hmem
  | updateShopLocale phone locale =>
      obtain ⟨shop, b₁, h₁, h⟩ := bind_eq_ok.mp h
      obtain ⟨rfl, name, hn, rfl⟩ := shopResponse_ok h
      obtain ⟨db', hl, hmem, hphone, hlocale, -⟩ := ShopService.updateLocale_ok h₁
      rw [hl.committed]
      refine ⟨?_, hphone, hlocale⟩
      rw [← hn]
      exact hmem
  | recordSale shopId p q by_ => exact absurd rfl (hreq shopId p q by_)

/-- `POST /sales` answers with a sale it has not committed. -/
theorem recordSale_uncommitted {shopId p : UUID} {q : Quantity} {by_ : String} {body : Response}
    {b : Backend}
    (h : route dep (.recordSale shopId p q by_) (Backend.connect env db) = .ok body b) :
    b.committed = db ∧ (∃ sale, body = .sale sale ∧ sale ∉ db.sales) ∧
      AcceptedSale db (.recordSale shopId p q by_) := by
  obtain ⟨r, b₁, h₁, h⟩ := bind_eq_ok.mp h
  cases h
  obtain ⟨product, row, db', hw, hl, -, -⟩ := SalesService.recordSale_ok h₁
  have hmem : r.sale ∈ db'.sales := by
    rw [hw.sales]
    exact List.mem_append_right _ (List.mem_singleton_self _)
  obtain ⟨-, -, hmoney, hby⟩ := db'.valid.sales.fits r.sale hmem
  rw [db'.valid.sales.total r.sale hmem, hw.unitPrice, hw.quantity] at hmoney
  rw [hw.recordedBy] at hby
  refine ⟨hl.committed, ⟨r.sale, rfl, fun hold ↦ ?_⟩, product, row, hw.sellable, hmoney, hby⟩
  have hnodup := db'.valid.sales.ids
  rw [hw.sales, List.map_append, List.nodup_append] at hnodup
  exact hnodup.2.2 _ (List.mem_map_of_mem hold) _ (by simp) rfl

theorem durable_of_not_accepted (h : ¬ AcceptedSale db req) : Durable dep req db := by
  intro env answer after hserve hs
  obtain ⟨body, b, hrun, rfl, hbody⟩ := serve_success hserve hs
  refine ⟨body, hbody, ?_⟩
  by_cases hreq : ∃ shopId p q by_, req = .recordSale shopId p q by_
  · obtain ⟨shopId, p, q, by_, rfl⟩ := hreq
    exact absurd (recordSale_uncommitted hrun).2.2 h
  · refine described_of_route (fun shopId p q by_ he ↦ hreq ⟨shopId, p, q, by_, he⟩) hrun

theorem accepted_of_durable (h : Durable dep req db) : ¬ AcceptedSale db req := by
  intro ha
  cases req with
  | recordSale shopId p q by_ =>
      obtain ⟨product, row, hs, hmoney, hby⟩ := ha
      obtain ⟨r, b, hrun⟩ := SalesService.recordSale_accepted (b := .connect .calm db)
        Env.calm_faultless rfl hs q.2 hmoney hby
      have hroute : route dep (.recordSale shopId p q by_) (.connect .calm db) =
          .ok (.sale r.sale) b := (bind_of_ok hrun).trans rfl
      obtain ⟨hc, ⟨sale, hbody, hnew⟩, -⟩ := recordSale_uncommitted hroute
      have hserve : serve dep .calm (.recordSale shopId p q by_) db =
          (⟨201, some (.sale r.sale)⟩, b.committed) := by
        unfold serve
        rw [getDb_eq_ok.mpr ⟨b, hroute, rfl⟩]
        rfl
      obtain ⟨body, he, hd⟩ := h _ _ _ hserve (by simp [Answer.Success])
      cases he
      cases hbody
      rw [hc] at hd
      exact hnew hd.1
  | _ => exact ha

theorem durable_iff : Durable dep req db ↔ ¬ AcceptedSale db req :=
  ⟨accepted_of_durable, durable_of_not_accepted⟩

/-- Three units sold by `POST /sales` are answered with 201 and not committed. -/
theorem sale_not_durable :
    ¬ Durable .sample (.recordSale ⟨1⟩ ⟨2⟩ ⟨3, by decide⟩ "System") .sample := by
  intro h
  refine accepted_of_durable h ⟨⟨⟨2⟩, ⟨1⟩, "Milk", "M-AAAAAA", 60⟩, ⟨⟨3⟩, ⟨2⟩, 10, 5⟩, ?_, ?_, ?_⟩
  · exact ⟨by decide, rfl, by decide, by decide⟩
  · decide +kernel
  · decide

end SokoFlow.Routes
