import SokoFlow.Revenue
import SokoFlow.StockLookups

/-!
# The list of low stock

The list joins the products with their inventory rows; the answer about a
single product takes a missing row for no units at a threshold of zero, which
is low.  The two agree on a product exactly from the first time it is given
stock.
-/

namespace SokoFlow

open DbM Effect Analytics Runs AddProductFlow SalesService
open SalesRepository (productsWithLowStock)

variable {dep : Deployment} {shopId : UUID} {db db' : Database} {b b' : Backend}

/-! ## The list and the answer -/

namespace Analytics

/-- The list and the answer show the same of a product. -/
structure Agrees (low : List LowStockProduct) (level : StockLevel) : Prop where
  listed : (∃ item ∈ low, item.id = level.productId) ↔ level.isLowStock = true
  figures : ∀ item ∈ low, item.id = level.productId →
    item.quantity = level.quantity ∧ item.lowStockThreshold = level.lowStockThreshold

theorem mem_productsWithLowStock {item : LowStockProduct} :
    item ∈ productsWithLowStock shopId db ↔ ∃ p ∈ db.products, p.shopId = shopId ∧
      ∃ row, db.inventoryOf p.id = some row ∧ row.quantity ≤ row.lowStockThreshold ∧
        item = ⟨p.id, p.name, row.quantity, row.lowStockThreshold⟩ := by
  unfold productsWithLowStock
  simp only [List.mem_filterMap, List.mem_filter, decide_eq_true_eq, and_assoc]
  refine exists_congr fun p ↦ and_congr_right fun _ ↦ and_congr_right fun _ ↦ ?_
  cases db.inventoryOf p.id with
  | none => simp
  | some row =>
      by_cases hlow : row.quantity ≤ row.lowStockThreshold
      · simp [hlow, eq_comm]
      · simp [hlow]

/-- They agree on the products that have a row. -/
theorem agrees_iff {product : Product} (hp : product ∈ db.products) (hs : product.shopId = shopId) :
    Agrees (productsWithLowStock shopId db) (levelOf product (db.inventoryOf product.id)) ↔
      (db.inventoryOf product.id).isSome := by
  cases hrow : db.inventoryOf product.id with
  | none =>
      refine iff_of_false (fun h ↦ ?_) (by simp)
      obtain ⟨item, hitem, hid⟩ := h.listed.mpr rfl
      obtain ⟨p, -, -, row, hp, -, rfl⟩ := mem_productsWithLowStock.mp hitem
      have hid : p.id = product.id := hid
      rw [hid, hrow] at hp
      cases hp
  | some row =>
      refine iff_of_true ⟨?_, ?_⟩ rfl
      · constructor
        · rintro ⟨item, hitem, hid⟩
          obtain ⟨p, -, -, row', hp, hlow, rfl⟩ := mem_productsWithLowStock.mp hitem
          have hid : p.id = product.id := hid
          rw [hid, hrow] at hp
          cases hp
          exact decide_eq_true hlow
        · intro hlow
          have hlow : row.quantity ≤ row.lowStockThreshold := of_decide_eq_true hlow
          exact ⟨_, mem_productsWithLowStock.mpr ⟨product, hp, hs, row, hrow, hlow, rfl⟩, rfl⟩
      · intro item hitem hid
        obtain ⟨p, -, -, row', hp, -, rfl⟩ := mem_productsWithLowStock.mp hitem
        have hid : p.id = product.id := hid
        rw [hid, hrow] at hp
        cases hp
        exact ⟨rfl, rfl⟩

theorem handleGetStockLevel_ok {query : ProductQuery} {level : StockLevel}
    (h : handleGetStockLevel dep shopId query b = .ok level b') :
    ∃ product ∈ b.working.products, product.shopId = shopId ∧
      level = levelOf product (b.working.inventoryOf product.id) := by
  obtain ⟨product, b₁, hfound, h⟩ := bind_eq_ok.mp h
  obtain ⟨row, b₂, hs, h⟩ := bind_eq_ok.mp h
  obtain ⟨-, hthere, hown⟩ := findProduct_found hfound
  obtain ⟨hrow, -⟩ := select_ok hs
  have hw := findProduct_working hfound
  rw [hw] at hthere hrow
  cases h
  exact ⟨product, hthere, hown, by rw [← hrow]; rfl⟩

theorem handleGetLowStockItems_ok {items : List LowStockProduct}
    (h : handleGetLowStockItems shopId b = .ok items b') :
    items = productsWithLowStock shopId b.working := (select_ok h).1

end Analytics

theorem getDailySummary_low {zone : Calendar.Zone} {input : DayInput} {report : DailySummary}
    (h : getDailySummary zone shopId input b = .ok report b') :
    report.productsWithLowStock = productsWithLowStock shopId b.working := by
  obtain ⟨i, -, rfl⟩ := getDailySummary_shows h
  rfl

/-! ## Runs of the services and of the conversation -/

namespace LowStock

/-- A call of a service on some session, or a message of the conversation that
is about to add a product, answered from the committed rows. -/
inductive Act
  | service (call : ServiceCall)
  | message (s : UserSession) (env : Env) (text : String)
  | other

/-- An answer is committed, a failure rolled back. -/
def leftBy : EStateM.Result Exc Turn FSMResult → Database
  | .ok _ t => t.backend.working
  | .error _ t => t.backend.committed

/-- Calls that succeed, messages on a database that does not fail, and what
leaves the goods alone. -/
inductive Step (dep : Deployment) : Database → Act → Database → Prop
  | service {call : ServiceCall} {b b' : Backend} (h : call.run dep b = .ok () b') :
      Step dep b.working (.service call) b'.working
  | message {db : Database} {s : UserSession} {env : Env} {text : String} {name : ProductName}
      {price : Price} {quantity : { n : ℤ // 0 ≤ n }}
      (hs : Dialogue.Shows s (.confirmAdd name price quantity)) (hf : env.Faultless) :
      Step dep db (.message s env text)
        (leftBy (FSMEngine.processMessage dep text ⟨s, .connect env db⟩))
  | other {db db' : Database} (h : db.SameGoods db') : Step dep db .other db'

/-- The step puts stock of the product in: added by the service, or confirmed
with a product that is new. -/
inductive Stocks (dep : Deployment) (p : UUID) : Moment Database Act → Prop
  | added {db db' : Database} {quantity : ℤ} {commit : Bool} :
      Stocks dep p ⟨db, .service (.addStock p quantity commit), db'⟩
  | opened {db db' : Database} {s : UserSession} {env : Env} {text : String} {name : ProductName}
      {price : Price} {quantity : { n : ℤ // 0 ≤ n }} {product : Product} {r : FSMResult} {t : Turn}
      (hs : Dialogue.Shows s (.confirmAdd name price quantity)) (hq : 0 < quantity.val)
      (h : Creates dep text ⟨s, .connect env db⟩ t r product) (hid : product.id = p) :
      Stocks dep p ⟨db, .message s env text, db'⟩

/-- Only adding stock makes a row, and no service takes one away. -/
theorem row_of_call {call : ServiceCall} (h : call.run dep b = .ok () b') (p : UUID) :
    (b'.working.inventoryOf p).isSome ↔
      (b.working.inventoryOf p).isSome ∨ ∃ quantity commit, call = .addStock p quantity commit := by
  have same (hi : b'.working.inventory = b.working.inventory)
      (hcall : ¬ ∃ quantity commit, call = .addStock p quantity commit) :
      (b'.working.inventoryOf p).isSome ↔ (b.working.inventoryOf p).isSome ∨
        ∃ quantity commit, call = .addStock p quantity commit := by
    rw [Database.inventoryOf, hi, Database.inventoryOf]
    exact (or_iff_left hcall).symm
  have kept {p₀ : UUID} {old row : Inventory} {db : Database} (hdb : b'.working = db)
      (hold : b.working.inventoryOf p₀ = some old) (hrow : db.inventoryOf p₀ = some row)
      (hothers : ∀ p', p' ≠ p₀ → db.inventoryOf p' = b.working.inventoryOf p')
      (hcall : ¬ ∃ quantity commit, call = .addStock p quantity commit) :
      (b'.working.inventoryOf p).isSome ↔ (b.working.inventoryOf p).isSome ∨
        ∃ quantity commit, call = .addStock p quantity commit := by
    have hsome : (db.inventoryOf p).isSome ↔ (b.working.inventoryOf p).isSome := by
      by_cases hp : p = p₀
      · rw [hp, hrow, hold]
        exact Iff.rfl
      · rw [hothers p hp]
    rw [hdb, hsome]
    exact (or_iff_left hcall).symm
  cases call with
  | createShop data =>
      obtain ⟨shop, b₁, h₁, h⟩ := bind_eq_ok.mp h
      cases h
      obtain ⟨db, hl, -, -, -, -, hrows⟩ := ShopService.createShop_ok h₁
      exact same (by rw [hl.working, hrows]) (by simp)
  | updateLocale phone locale =>
      obtain ⟨shop, b₁, h₁, h⟩ := bind_eq_ok.mp h
      cases h
      obtain ⟨db, hl, -, -, -, -, hi, -⟩ := ShopService.updateLocale_ok h₁
      exact same (by rw [hl.working, hi]) (by simp)
  | createProduct data =>
      obtain ⟨product, b₁, h₁, h⟩ := bind_eq_ok.mp h
      cases h
      obtain ⟨db, hl, -, -, -, -, hrows⟩ := ProductService.createProduct_ok h₁
      exact same (by rw [hl.working, hrows]) (by simp)
  | updateProduct productId data =>
      obtain ⟨product, b₁, h₁, h⟩ := bind_eq_ok.mp h
      cases h
      obtain ⟨old, db, -, hl, -, -, -, -, hi, -⟩ := ProductService.updateProduct_ok h₁
      exact same (by rw [hl.working, hi]) (by simp)
  | deleteProduct productId =>
      obtain ⟨db, hl, -, -, hi, -⟩ := ProductService.deleteProduct_ok h
      exact same (by rw [hl.working, hi]) (by simp)
  | addStock p₀ q commit =>
      obtain ⟨row, b₁, h₁, h⟩ := bind_eq_ok.mp h
      cases h
      obtain ⟨db, hl, -, hw⟩ := InventoryService.addStock_ok h₁
      rw [hl.working]
      by_cases hp : p = p₀
      · subst hp
        rw [hw.row]
        exact iff_of_true rfl (.inr ⟨q, commit, rfl⟩)
      · rw [hw.others p hp]
        refine ⟨.inl, fun h ↦ h.resolve_right ?_⟩
        rintro ⟨q', c', h⟩
        cases h
        exact hp rfl
  | deductStock p₀ q commit =>
      obtain ⟨result, b₁, h₁, h⟩ := bind_eq_ok.mp h
      cases h
      obtain ⟨old, db, hold, -, hl, hw, -⟩ := InventoryService.deductStock_ok h₁
      exact kept hl.working hold hw.row hw.others (by simp)
  | updateThreshold p₀ n commit =>
      obtain ⟨row, b₁, h₁, h⟩ := bind_eq_ok.mp h
      cases h
      obtain ⟨old, db, hold, -, hl, hw⟩ := InventoryService.updateThreshold_ok h₁
      exact kept hl.working hold hw.row hw.others (by simp)
  | recordSale shop p₀ q recordedBy =>
      obtain ⟨result, b₁, h₁, h⟩ := bind_eq_ok.mp h
      cases h
      obtain ⟨product, old, db, hw, hl, -⟩ := SalesService.recordSale_ok h₁
      exact kept hl.working hw.sellable.stocked hw.left hw.others (by simp)

/-- What fails after the product is committed is the insertion of its stock. -/
theorem createStocked_keeps_rows {name : String} {price : ℚ} {quantity : ℤ} {e : Exc}
    (hf : b.env.Faultless) (ha : b.aborted = false)
    (hsame : b.committed.inventory = b.working.inventory)
    (h : createStocked dep shopId name price quantity b = .error e b') :
    b'.committed.inventory = b.working.inventory := by
  by_cases hpos : 0 < price
  · by_cases hcr : ∃ product db, Created dep ⟨name, price, shopId, hpos⟩ b product db
    · obtain ⟨product, db, hcr⟩ := hcr
      obtain ⟨-, hinventory, -⟩ := insertion_rows hcr
      obtain ⟨b₁, h₁, hl, -⟩ := (createProduct_created hcr ha).1 (hf.statement _)
      rw [createStocked_apply ⟨name, price, shopId, hpos⟩, bind_of_ok h₁] at h
      split at h
      · rcases bind_eq_error.mp h with h | ⟨row, b₂, -, h⟩
        · have hu := InventoryService.addStock_refused (hl.env ▸ hf) h
          rw [hu.committed, hl.committed]
          exact hinventory
        · cases h
      · cases h
    · obtain ⟨e', b₁, h₁, hcommitted⟩ : ∃ e' b₁, createStocked dep shopId name price quantity b =
          .error e' b₁ ∧ b₁.committed = b.committed :=
        createStocked_not_created (fun product db h ↦ hcr ⟨product, db, h⟩) ha
      cases h.symm.trans h₁
      rw [hcommitted, hsame]
  · unfold createStocked at h
    rw [dif_neg hpos] at h
    cases h
    exact hsame

theorem persist_keeps_rows {s : UserSession} {env : Env} {name : String} {price : ℚ} {quantity : ℤ}
    {e : Exc} {t : Turn} (hf : env.Faultless)
    (h : persistProductDb dep name price quantity ⟨s, .connect env db⟩ = .error e t) :
    t.backend.committed.inventory = db.inventory := by
  have hstart : ShopsOnly db (Backend.connect env db) :=
    ⟨fun _ ↦ trivial, fun _ _ ↦ trivial, .refl db, .refl db⟩
  rcases bind_eq_error.mp h with hshop | ⟨shopId, t₁, hshop, hdb⟩
  · exact ((shopOfSession_keeping db).raises _ e t hstart hshop).committed.inventory
  · have hheld := (shopOfSession_keeping db).returns _ shopId t₁ hstart hshop
    obtain ⟨ha, henv⟩ := shopOfSession_goes_on hshop rfl
    obtain ⟨b₂, hcreate, rfl⟩ := zoom_eq_error.mp hdb
    have hsame : t₁.backend.committed.inventory = t₁.backend.working.inventory :=
      hheld.committed.inventory.trans hheld.working.inventory.symm
    have hkept := createStocked_keeps_rows (henv ▸ hf) ha hsame hcreate
    exact hkept.trans hheld.working.inventory

/-- A confirmation that fails makes no row. -/
theorem failed_keeps_rows {s : UserSession} {env : Env} {text : String} {name : ProductName}
    {price : Price} {quantity : { n : ℤ // 0 ≤ n }} {e : Exc} {t : Turn}
    (hs : Dialogue.Shows s (.confirmAdd name price quantity)) (hf : env.Faultless)
    (h : FSMEngine.processMessage dep text ⟨s, .connect env db⟩ = .error e t) :
    t.backend.committed.inventory = db.inventory := by
  by_cases hc : Confirms dep text
  · have hname : s.context.productName = some name.val := congrArg (·.productName) hs.content
    have hprice : s.context.productPrice = some price.val := congrArg (·.productPrice) hs.content
    have hqty : s.context.productQty = some quantity.val := congrArg (·.productQty) hs.content
    cases hp : persistProductDb dep name.val price.val quantity.val ⟨s, .connect env db⟩ with
    | ok u t₁ =>
        obtain ⟨r, t', hr, -⟩ := processMessage_of_persist hs.state hc hname hprice hqty hp
        rw [h] at hr
        cases hr
    | error e' t₁ =>
        have hraised := processMessage_of_persist_error hs.state hc hname hprice hqty hp
          (persistProductDb_silent hp)
        rw [h] at hraised
        cases hraised
        exact persist_keeps_rows hf hp
  · have hu := untouched_of_not_confirms (t := ⟨s, .connect env db⟩) hs.state hc
    rw [h] at hu
    exact congrArg (·.inventory) hu.committed

theorem unstocked {p : UUID} {db db' : Database} {act : Act}
    (hi : db'.inventoryOf p = db.inventoryOf p) (hnot : ¬ Stocks dep p ⟨db, act, db'⟩) :
    (db'.inventoryOf p).isSome ↔ (db.inventoryOf p).isSome ∨ Stocks dep p ⟨db, act, db'⟩ := by
  rw [hi]
  exact ⟨.inl, fun h ↦ h.resolve_right hnot⟩

theorem inventoryOf_of_inventory (hi : db'.inventory = db.inventory) (p : UUID) :
    db'.inventoryOf p = db.inventoryOf p := by
  rw [Database.inventoryOf, hi, Database.inventoryOf]

section Message

variable {s : UserSession} {env : Env} {text : String} {name : ProductName} {price : Price}
  {quantity : { n : ℤ // 0 ≤ n }} {r : FSMResult} {t : Turn} {e : Exc}

theorem row_of_failure (hs : Dialogue.Shows s (.confirmAdd name price quantity)) (hf : env.Faultless)
    (hr : FSMEngine.processMessage dep text ⟨s, .connect env db⟩ = .error e t) (p : UUID) :
    (t.backend.committed.inventoryOf p).isSome ↔ (db.inventoryOf p).isSome ∨
      Stocks dep p ⟨db, .message s env text, t.backend.committed⟩ := by
  apply unstocked (inventoryOf_of_inventory (failed_keeps_rows hs hf hr) p)
  rintro (_ | ⟨-, -, hcreates, -⟩)
  cases hr.symm.trans hcreates.answered

theorem opens_of_creates {product : Product} {r' : FSMResult} {t' : Turn}
    (hr : FSMEngine.processMessage dep text ⟨s, .connect env db⟩ = .ok r t)
    (hs : Dialogue.Shows s (.confirmAdd name price quantity))
    (hcreates : Creates dep text ⟨s, .connect env db⟩ t' r' product) :
    Opens product quantity.val db t.backend.working := by
  have hopens := creates_opens hs hcreates
  cases hr.symm.trans hcreates.answered
  exact hopens

theorem row_of_answer (hs : Dialogue.Shows s (.confirmAdd name price quantity))
    (hr : FSMEngine.processMessage dep text ⟨s, .connect env db⟩ = .ok r t) (p : UUID) :
    (t.backend.working.inventoryOf p).isSome ↔ (db.inventoryOf p).isSome ∨
      Stocks dep p ⟨db, .message s env text, t.backend.working⟩ := by
  rcases answered_opens hs hr with hsame | ⟨product, ho⟩
  · apply unstocked (inventoryOf_of_inventory hsame.inventory p)
    rintro (_ | ⟨hs', -, hcreates, -⟩)
    have hlen := congrArg List.length
      ((opens_of_creates hr hs' hcreates).products.symm.trans hsame.products)
    simp [Backend.connect] at hlen
  · have hthere : product ∈ t.backend.working.products := by
      rw [ho.products]
      simp
    have hcreates : Creates dep text ⟨s, .connect env db⟩ t r product := ⟨hr, ho.new, hthere⟩
    by_cases hp : p = product.id
    · have hnone : db.inventoryOf p = none := by
        refine Table.lookup_eq_none.mpr fun row hrow hid ↦ ho.new ?_
        rw [← hp, ← hid]
        exact db.valid.inventory.product row hrow
      rw [hnone]
      constructor
      · intro hrow
        rw [hp] at hrow
        have hq : 0 < quantity.val := ho.opened.row.mp hrow
        exact .inr (.opened hs hq hcreates hp.symm)
      · rintro (h | h)
        · cases h
        · obtain _ | ⟨hs', hq, hcreates', hid⟩ := h
          have hrow := (opens_of_creates hr hs' hcreates').opened.row.mpr hq
          rwa [hid] at hrow
    · apply unstocked (ho.others p hp)
      rintro (_ | ⟨hs', -, hcreates', hid⟩)
      have hproducts := (opens_of_creates hr hs' hcreates').products.symm.trans ho.products
      have hlast := (List.append_inj' hproducts rfl).2
      cases hlast
      exact hp hid.symm

end Message

variable {history : List (Moment Database Act)} {m : Moment Database Act}

/-- A step makes the row of a product by putting stock of it in. -/
theorem row_of_step (h : Step dep m.before m.label m.after) (p : UUID) :
    (m.after.inventoryOf p).isSome ↔ (m.before.inventoryOf p).isSome ∨ Stocks dep p m := by
  obtain ⟨before, label, after⟩ := m
  dsimp only at h
  cases h with
  | @service call b b' h =>
      dsimp only
      rw [row_of_call h]
      refine or_congr_right ⟨?_, ?_⟩
      · rintro ⟨quantity, commit, rfl⟩
        exact .added
      · rintro ⟨⟩
        exact ⟨_, _, rfl⟩
  | @message _ s env text name price quantity hs hf =>
      cases hr : FSMEngine.processMessage dep text ⟨s, .connect env before⟩ with
      | error e t => exact row_of_failure hs hf hr p
      | ok r t => exact row_of_answer hs hr p
  | other h =>
      apply unstocked (inventoryOf_of_inventory h.inventory p)
      rintro ⟨⟩

/-- After a run from rows without stock, a product has a row if it was stocked. -/
theorem row_of_run (run : Run (fun db ↦ db.inventory = []) (Step dep) history db) (p : UUID) :
    (db.inventoryOf p).isSome ↔ ∃ m ∈ history, Stocks dep p m := by
  induction run with
  | start h => simp [Database.inventoryOf, h, Table.lookup]
  | @next history db db' act run hs ih =>
      have hstep := row_of_step (m := ⟨db, act, db'⟩) hs p
      rw [hstep, ih]
      simp [List.mem_append, or_and_right, exists_or]

end LowStock

open LowStock

/-- After every run of the services and of the conversation, what is shown about
a product, listed and asked for, agrees exactly when stock of it was ever put in. -/
theorem low_stock_agrees_iff {history : List (Moment Database Act)} {product : Product}
    {query : ProductQuery} {level : StockLevel} {items : List LowStockProduct} {input : DayInput}
    {report : DailySummary} {b₁ b₁' b₂ b₂' b₃ b₃' : Backend}
    (run : Run (fun db ↦ db.inventory = []) (Step dep) history db)
    (hp : product ∈ db.products) (hs : product.shopId = shopId)
    (h₁ : b₁.working = db) (hlevel : handleGetStockLevel dep shopId query b₁ = .ok level b₁')
    (hid : level.productId = product.id)
    (h₂ : b₂.working = db) (hitems : handleGetLowStockItems shopId b₂ = .ok items b₂')
    (h₃ : b₃.working = db) (hreport : getDailySummary dep.nairobi shopId input b₃ = .ok report b₃') :
    Agrees items level ∧ Agrees report.productsWithLowStock level ↔
      ∃ m ∈ history, Stocks dep product.id m := by
  obtain ⟨found, hfound, -, rfl⟩ := handleGetStockLevel_ok hlevel
  rw [h₁] at hfound hid ⊢
  obtain rfl : found = product := by
    have hproduct := Database.product_of_mem hp
    have hid : found.id = product.id := hid
    rw [← hid, Database.product_of_mem hfound] at hproduct
    exact Option.some.inj hproduct
  rw [handleGetLowStockItems_ok hitems, getDailySummary_low hreport, h₂, h₃, and_self,
    agrees_iff hp hs, row_of_run run]

/-! The first product of a shop is soap, with ten units or with none. -/

def bare : Database where
  toRows := { Database.sample.toRows with products := [], inventory := [] }
  valid := by decide +kernel

def firstProduct (quantity : String) : Act := .message (soapShown quantity).session .calm "yes"

def bareShown (quantity : String) : Turn := ⟨(soapShown quantity).session, .connect .calm bare⟩

def bareConfirmed (quantity : String) : EStateM.Result Exc Turn FSMResult :=
  FSMEngine.processMessage .sample "yes" (bareShown quantity)

def bareSoap (quantity : String) : Database := leftBy (bareConfirmed quantity)

theorem bareSoap_run {name : ProductName} {price : Price} {units : { n : ℤ // 0 ≤ n }}
    (quantity : String) (hs : Dialogue.Shows (soapShown quantity).session (.confirmAdd name price units)) :
    Run (fun db ↦ db.inventory = []) (Step .sample) [⟨bare, firstProduct quantity, bareSoap quantity⟩]
      (bareSoap quantity) := by
  have hstart : Run (fun db ↦ db.inventory = []) (Step .sample) [] bare := .start rfl
  exact hstart.next (.message hs Env.calm_faultless)

theorem bareSoap_creates {quantity : String} (h : raised (bareConfirmed quantity) = none)
    (hthere : soapProduct ∈ (bareSoap quantity).products) :
    ∃ r t, Creates .sample "yes" (bareShown quantity) t r soapProduct := by
  cases hr : bareConfirmed quantity with
  | error e t =>
      rw [hr] at h
      cases h
  | ok r t =>
      unfold bareSoap at hthere
      rw [hr] at hthere
      exact ⟨r, t, hr, List.not_mem_nil, hthere⟩

theorem soap_answered {db : Database} (h : db.product soapProduct.id = some soapProduct) :
    ∃ b, handleGetStockLevel .sample ⟨1⟩ soapQuery (.connect .calm db) =
      .ok (levelOf soapProduct (db.inventoryOf soapProduct.id)) b := by
  obtain ⟨b₁, hfound⟩ := soapProduct_found h
  exact handleGetStockLevel_found hfound (connect_ready db)

theorem low_listed (db : Database) :
    ∃ b, handleGetLowStockItems ⟨1⟩ (.connect .calm db) = .ok (productsWithLowStock ⟨1⟩ db) b := by
  obtain ⟨b, h, -⟩ := select_returns (b := .connect .calm db) (productsWithLowStock ⟨1⟩)
    Env.calm_faultless rfl
  exact ⟨b, h⟩

theorem day_reported (db : Database) :
    ∃ report b, getDailySummary Deployment.sample.nairobi ⟨1⟩ (.date ⟨738922, by decide⟩)
      (.connect .calm db) = .ok report b := by
  refine (getDailySummary_returns Env.calm_faultless rfl).mpr ⟨_, (localDayBounds_date ?_).mpr ⟨?_, rfl⟩⟩
  · intro n _ _
    rfl
  · decide

theorem low_stock_agrees_soap : ∃ level items b₁ b₂,
    handleGetStockLevel .sample ⟨1⟩ soapQuery (.connect .calm (bareSoap "10")) = .ok level b₁ ∧
      handleGetLowStockItems ⟨1⟩ (.connect .calm (bareSoap "10")) = .ok items b₂ ∧
      Agrees items level := by
  obtain ⟨p, hp⟩ := soapShown_shows "10"
  have hconfirm : (soapShown "10").session.state = .CONFIRM_ADD_PRODUCT := by decide +kernel
  have hqty : (soapShown "10").session.context.productQty = some 10 := by decide +kernel
  obtain ⟨name, price, units, hs, hten⟩ := confirmAdd_of_shows hp hconfirm hqty
  have hthere : soapProduct ∈ (bareSoap "10").products := by decide +kernel
  obtain ⟨b₁, hlevel⟩ := soap_answered (Database.product_of_mem hthere)
  obtain ⟨b₂, hitems⟩ := low_listed (bareSoap "10")
  obtain ⟨report, b₃, hreport⟩ := day_reported (bareSoap "10")
  have hrows : (Backend.connect .calm (bareSoap "10")).working = bareSoap "10" := rfl
  have hstocks : Stocks .sample soapProduct.id ⟨bare, firstProduct "10", bareSoap "10"⟩ := by
    have hanswered : raised (bareConfirmed "10") = none := by decide +kernel
    obtain ⟨r, t, hcreates⟩ := bareSoap_creates hanswered hthere
    exact .opened hs (by rw [hten]; decide) hcreates rfl
  have hiff := low_stock_agrees_iff (bareSoap_run "10" hs) hthere rfl hrows hlevel rfl hrows hitems
    hrows hreport
  exact ⟨_, _, b₁, b₂, hlevel, hitems, (hiff.mpr ⟨_, List.mem_singleton_self _, hstocks⟩).1⟩

/-- Soap without stock is low when asked for, and is not on the list. -/
theorem soap_without_stock_unlisted : ∃ history level b₁ b₂,
    Run (fun db ↦ db.inventory = []) (Step .sample) history (bareSoap "0") ∧
      soapProduct ∈ (bareSoap "0").products ∧
      handleGetStockLevel .sample ⟨1⟩ soapQuery (.connect .calm (bareSoap "0")) = .ok level b₁ ∧
      level.productId = soapProduct.id ∧ level.isLowStock = true ∧
      handleGetLowStockItems ⟨1⟩ (.connect .calm (bareSoap "0")) = .ok [] b₂ := by
  obtain ⟨p, hp⟩ := soapShown_shows "0"
  have hconfirm : (soapShown "0").session.state = .CONFIRM_ADD_PRODUCT := by decide +kernel
  have hqty : (soapShown "0").session.context.productQty = some 0 := by decide +kernel
  obtain ⟨name, price, units, hs, -⟩ := confirmAdd_of_shows hp hconfirm hqty
  have hthere : soapProduct ∈ (bareSoap "0").products := by decide +kernel
  obtain ⟨b₁, hlevel⟩ := soap_answered (Database.product_of_mem hthere)
  obtain ⟨b₂, hitems⟩ := low_listed (bareSoap "0")
  have hnone : (bareSoap "0").inventoryOf soapProduct.id = none := by decide +kernel
  have hunlisted : productsWithLowStock ⟨1⟩ (bareSoap "0") = [] := by decide +kernel
  rw [hnone] at hlevel
  rw [hunlisted] at hitems
  exact ⟨_, _, b₁, b₂, bareSoap_run "0" hs, hthere, hlevel, rfl, rfl, hitems⟩

end SokoFlow
