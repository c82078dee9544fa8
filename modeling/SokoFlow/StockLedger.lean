import SokoFlow.Services.Sales

/-!
# The stock ledger

Runs of the four operations on stock, each one atomic transaction, from rows
without stock and sales; between two of them the catalogue may change, as long
as a product keeps its shop.  Every unit is accounted for: what a product has
in stock is what was added to it less what was deducted and what was sold.
-/

namespace SokoFlow.StockLedger

open DbM Effect InventoryService

inductive Call
  | addStock (productId : UUID) (quantity : Quantity)
  | deductStock (productId : UUID) (quantity : Quantity)
  | updateThreshold (productId : UUID) (threshold : Threshold)
  | recordSale (shopId productId : UUID) (quantity : Quantity) (recordedBy : String)

/-- The call as a transaction of its own; `record_sale` is committed by its caller. -/
def Call.run : Call → DbM Unit
  | addStock p q => do let _ ← InventoryService.addStock p q
  | deductStock p q => do let _ ← InventoryService.deductStock p q
  | updateThreshold p n => do let _ ← InventoryService.updateThreshold p n
  | recordSale shop p q by_ => getWorkerDb do let _ ← SalesService.recordSale shop p q by_

/-- Whether the call succeeded, and the committed rows after it. -/
def transact (env : Env) (call : Call) (db : Database) : Bool × Database :=
  match call.run (Backend.connect env db) with
  | .ok _ b => (true, b.committed)
  | .error _ b => (false, b.committed)

/-- One call of a run. -/
structure Moment where
  call : Call
  before : Database
  succeeded : Bool
  after : Database

/-- Other operations on the catalogue: no stock and no sale changes, and a
product that is still there keeps its shop. -/
structure CatalogueChange (db db' : Database) : Prop where
  inventory : db'.inventory = db.inventory
  sales : db'.sales = db.sales
  shop : ∀ p ∈ db.products, ∀ p' ∈ db'.products, p'.id = p.id → p'.shopId = p.shopId

inductive Run : List Moment → Database → Prop
  | start (db : Database) (hi : db.inventory = []) (hs : db.sales = []) : Run [] db
  | call {history : List Moment} {db : Database} (env : Env) (hf : env.Faultless) (call : Call)
      (run : Run history db) :
      Run (history ++ [⟨call, db, (transact env call db).1, (transact env call db).2⟩])
        (transact env call db).2
  | catalogue {history : List Moment} {db db' : Database} (h : CatalogueChange db db')
      (run : Run history db) : Run history db'

/-! ## What one call does -/

/-- The effect of a call that succeeded. -/
inductive Succeeded : Call → Database → Database → Prop
  | added {p : UUID} {q : Quantity} {row : Inventory} {db db' : Database}
      (hq : row.quantity = db.stock p + q) (hw : Database.InventoryWrite p row db db') :
      Succeeded (.addStock p q) db db'
  | deducted {p : UUID} {q : Quantity} {row : Inventory} {db db' : Database}
      (hrow : db.inventoryOf p = some row)
      (hw : Database.InventoryWrite p (deducted row q) db db') :
      Succeeded (.deductStock p q) db db'
  | alerting {p : UUID} {n : Threshold} {row : Inventory} {db db' : Database}
      (hrow : db.inventoryOf p = some row)
      (hw : Database.InventoryWrite p (alertingAt row n) db db') :
      Succeeded (.updateThreshold p n) db db'
  | sold {shop p : UUID} {q : Quantity} {by_ : String} {product : Product} {row : Inventory}
      {sale : Sale} {db db' : Database}
      (hw : SalesService.SaleWrite shop p q by_ product row sale db db') :
      Succeeded (.recordSale shop p q by_) db db'

variable {env : Env} {call : Call} {db db' : Database} {history : List Moment}

theorem succeeded_of_transact (h : transact env call db = (true, db')) : Succeeded call db db' := by
  unfold transact at h
  split at h
  · rename_i u b hrun
    obtain rfl : b.committed = db' := congrArg Prod.snd h
    cases call with
    | addStock p q =>
        obtain ⟨i, b₁, h₁, hb⟩ := bind_eq_ok.mp hrun
        cases hb
        obtain ⟨db₁, hl, hq, hw⟩ := addStock_ok h₁
        rw [show b.committed = db₁ from hl.committed]
        exact .added hq hw
    | deductStock p q =>
        obtain ⟨i, b₁, h₁, hb⟩ := bind_eq_ok.mp hrun
        cases hb
        obtain ⟨row, db₁, hrow, -, hl, hw, -⟩ := deductStock_ok h₁
        rw [show b.committed = db₁ from hl.committed]
        exact .deducted hrow hw
    | updateThreshold p n =>
        obtain ⟨i, b₁, h₁, hb⟩ := bind_eq_ok.mp hrun
        cases hb
        obtain ⟨row, db₁, hrow, rfl, hl, hw⟩ := updateThreshold_ok h₁
        rw [show b.committed = db₁ from hl.committed]
        exact .alerting hrow hw
    | recordSale shop p q by_ =>
        obtain ⟨b₁, h₁, hc⟩ := getWorkerDb_eq_ok.mp hrun
        obtain ⟨r, b₂, h₂, hb⟩ := bind_eq_ok.mp h₁
        cases hb
        obtain ⟨product, row, db₁, hw, hl, -, -⟩ := SalesService.recordSale_ok h₂
        have hc := (commit_ok hc hl.aborted).committed
        rw [show b.committed = db₁ from hc.trans hl.working]
        exact .sold hw
  · cases h

/-- A call that fails commits nothing. -/
theorem unchanged_of_transact (hf : env.Faultless) (h : transact env call db = (false, db')) :
    db' = db := by
  unfold transact at h
  split at h
  · cases h
  · rename_i e b hrun
    obtain rfl : b.committed = db' := congrArg Prod.snd h
    cases call with
    | addStock p q =>
        rcases bind_eq_error.mp hrun with h₁ | ⟨_, _, _, h₁⟩
        · exact (addStock_refused hf h₁).committed
        · cases h₁
    | deductStock p q =>
        rcases bind_eq_error.mp hrun with h₁ | ⟨_, _, _, h₁⟩
        · exact (deductStock_refused hf h₁).committed
        · cases h₁
    | updateThreshold p n =>
        rcases bind_eq_error.mp hrun with h₁ | ⟨_, _, _, h₁⟩
        · exact (updateThreshold_refused hf h₁).committed
        · cases h₁
    | recordSale shop p q by_ =>
        obtain ⟨b₁, h₁ | ⟨_, b₀, h₀, h₁⟩, rfl⟩ := getWorkerDb_error hrun
        · rcases bind_eq_error.mp h₁ with h₁ | ⟨_, _, _, h₁⟩
          · exact (SalesService.recordSale_error h₁).1.committed
          · cases h₁
        · obtain ⟨r, b₂, h₂, hb⟩ := bind_eq_ok.mp h₀
          cases hb
          obtain ⟨_, _, _, _, hl, -, -⟩ := SalesService.recordSale_ok h₂
          exact ((commit_error h₁).2.2.committed).trans hl.committed

/-! ## The books -/

def Moment.productId (m : Moment) : UUID :=
  match m.call with
  | .addStock p _ | .deductStock p _ | .updateThreshold p _ | .recordSale _ p _ _ => p

/-- Units added by a call that succeeded. -/
def Moment.added (m : Moment) : ℤ :=
  match m.call, m.succeeded with
  | .addStock _ q, true => q
  | _, _ => 0

/-- Units taken by a `deduct_stock` that succeeded. -/
def Moment.taken (m : Moment) : ℤ :=
  match m.call, m.succeeded with
  | .deductStock _ q, true => q
  | _, _ => 0

/-- What is left of everything added, deducted and sold. -/
def balance (history : List Moment) (db : Database) (p : UUID) : ℤ :=
  Table.total Moment.productId p Moment.added history -
    Table.total Moment.productId p Moment.taken history -
    Table.total Sale.productId p Sale.quantity db.sales

theorem stock_of_others {p p' : UUID} {row : Inventory}
    (hw : Database.InventoryWrite p row db db') (h : p' ≠ p) : db'.stock p' = db.stock p' := by
  rw [Database.stock, Database.stock, hw.others p' h]

/-- A call moves the stock of its product by exactly what it posts. -/
theorem balance_of_succeeded (h : Succeeded call db db') (hb : ∀ p, db.stock p = balance history db p)
    (p : UUID) : db'.stock p = balance (history ++ [⟨call, db, true, db'⟩]) db' p := by
  specialize hb p
  unfold balance at hb ⊢
  rw [Table.total_append, Table.total_append]
  cases h with
  | @added p₀ q row _ _ hq hw =>
      rw [hw.sales]
      by_cases hp : p₀ = p
      · subst hp
        rw [Database.stock_of_inventoryOf hw.row, hq, hb]
        simp [Moment.productId, Moment.added, Moment.taken]
        ring
      · rw [stock_of_others hw (Ne.symm hp), hb]
        simp [Moment.productId, hp]
  | @deducted p₀ q row _ _ hrow hw =>
      rw [hw.sales]
      by_cases hp : p₀ = p
      · subst hp
        rw [Database.stock_of_inventoryOf hrow] at hb
        rw [Database.stock_of_inventoryOf hw.row]
        simp [Moment.productId, Moment.added, Moment.taken, InventoryService.deducted, hb]
        ring
      · rw [stock_of_others hw (Ne.symm hp), hb]
        simp [Moment.productId, hp]
  | @alerting p₀ n row _ _ hrow hw =>
      rw [hw.sales]
      by_cases hp : p₀ = p
      · subst hp
        rw [Database.stock_of_inventoryOf hrow] at hb
        rw [Database.stock_of_inventoryOf hw.row]
        simp [Moment.added, Moment.taken, alertingAt, hb]
      · rw [stock_of_others hw (Ne.symm hp), hb]
        simp [Moment.productId, hp]
  | @sold shop p₀ q by_ product row sale _ _ hw =>
      rw [hw.sales, Table.total_append, hw.productId, hw.quantity]
      by_cases hp : p₀ = p
      · subst hp
        rw [Database.stock_of_inventoryOf hw.sellable.stocked] at hb
        rw [Database.stock_of_inventoryOf hw.left]
        simp [Moment.added, Moment.taken, InventoryService.deducted, hb]
        ring
      · rw [Database.stock, hw.others p (Ne.symm hp), ← Database.stock, hb]
        simp [Moment.productId, hp]

/-- The call that inserted the sale found the product in the sale's shop and
took the price it had then. -/
def Recorded (history : List Moment) (sale : Sale) : Prop :=
  ∃ m ∈ history, m.succeeded = true ∧ sale ∉ m.before.sales ∧ sale ∈ m.after.sales ∧
    (∃ q by_, m.call = .recordSale sale.shopId sale.productId q by_ ∧ sale.quantity = q) ∧
    ∃ product, m.before.product sale.productId = some product ∧
      product.shopId = sale.shopId ∧ sale.unitPrice = product.price

/-- The product of a sale is in the catalogue, in the shop of the sale. -/
def Owned (db : Database) (sale : Sale) : Prop :=
  ∃ product, db.product sale.productId = some product ∧ product.shopId = sale.shopId

theorem owned_of_products (h : db'.products = db.products) {sale : Sale} (ho : Owned db sale) :
    Owned db' sale := by
  obtain ⟨product, hp, hs⟩ := ho
  exact ⟨product, by rw [Database.product, h]; exact hp, hs⟩

theorem products_of_succeeded (h : Succeeded call db db') : db'.products = db.products := by
  cases h with
  | added _ hw => exact hw.products
  | deducted _ hw => exact hw.products
  | alerting _ hw => exact hw.products
  | sold hw => exact hw.products

theorem owned_of_catalogue (h : CatalogueChange db db') {sale : Sale} (hs : sale ∈ db'.sales)
    (ho : Owned db sale) : Owned db' sale := by
  obtain ⟨product, hp, hshop⟩ := ho
  obtain ⟨p', hp', hid⟩ := List.mem_map.mp (db'.valid.sales.product sale hs)
  obtain ⟨hmem, hid₀⟩ := Database.mem_of_product hp
  refine ⟨p', hid ▸ Database.product_of_mem hp', ?_⟩
  rw [h.shop product hmem p' hp' (hid.trans hid₀.symm), hshop]

theorem Recorded.append {sale : Sale} {m : Moment} (h : Recorded history sale) :
    Recorded (history ++ [m]) sale := by
  obtain ⟨m', hm, h⟩ := h
  exact ⟨m', List.mem_append_left _ hm, h⟩

/-- The sale of a call was not there before it. -/
theorem new_of_saleWrite {shop p : UUID} {q : ℤ} {by_ : String} {product : Product}
    {row : Inventory} {sale : Sale}
    (hw : SalesService.SaleWrite shop p q by_ product row sale db db') :
    sale ∉ db.sales ∧ sale ∈ db'.sales := by
  have hids := db'.valid.sales.ids
  rw [hw.sales, List.map_append, List.nodup_append] at hids
  constructor
  · intro hold
    exact hids.2.2 _ (List.mem_map_of_mem hold) _ (List.mem_singleton_self _) rfl
  · rw [hw.sales]
    exact List.mem_append_right _ (List.mem_singleton_self _)

/-- Each sale after a call was there before it, or is the sale of the call. -/
theorem sales_of_succeeded (h : Succeeded call db db') {sale : Sale} (hs : sale ∈ db'.sales) :
    sale ∈ db.sales ∨ Recorded (history ++ [⟨call, db, true, db'⟩]) sale ∧ Owned db' sale := by
  cases h with
  | added _ hw => exact .inl (hw.sales ▸ hs)
  | deducted _ hw => exact .inl (hw.sales ▸ hs)
  | alerting _ hw => exact .inl (hw.sales ▸ hs)
  | @sold shop p q by_ product row new _ _ hw =>
      rw [hw.sales, List.mem_append, List.mem_singleton] at hs
      rcases hs with hs | rfl
      · exact .inl hs
      · obtain ⟨hfound, howned, -, -⟩ := hw.sellable
        obtain ⟨hnew, hkept⟩ := new_of_saleWrite hw
        refine .inr ⟨⟨_, List.mem_append_right _ (List.mem_singleton_self _), rfl, hnew, hkept,
          ?_, ?_⟩, ?_⟩
        · exact ⟨q, by_, by rw [hw.shopId, hw.productId], hw.quantity⟩
        · rw [hw.productId, hw.shopId]
          exact ⟨product, hfound, howned, hw.unitPrice⟩
        · refine owned_of_products hw.products ⟨product, ?_, ?_⟩
          · rw [hw.productId]
            exact hfound
          · rw [hw.shopId]
            exact howned

/-- What holds of the books after every call. -/
structure Balanced (history : List Moment) (db : Database) : Prop where
  stock : ∀ p, db.stock p = balance history db p
  sales : ∀ sale ∈ db.sales, Recorded history sale ∧ Owned db sale
  failed : ∀ m ∈ history, m.succeeded = false →
    m.after.inventory = m.before.inventory ∧ m.after.sales = m.before.sales

theorem balanced_call (hf : env.Faultless) (call : Call) (h : Balanced history db) :
    Balanced (history ++ [⟨call, db, (transact env call db).1, (transact env call db).2⟩])
      (transact env call db).2 := by
  generalize ht : transact env call db = r
  obtain ⟨succeeded, db'⟩ := r
  cases succeeded with
  | true =>
      have hs := succeeded_of_transact ht
      refine ⟨balance_of_succeeded hs h.stock, fun sale hsale ↦ ?_, fun m hm hfail ↦ ?_⟩
      · rcases sales_of_succeeded hs hsale with hold | hnew
        · obtain ⟨hr, ho⟩ := h.sales sale hold
          exact ⟨hr.append, owned_of_products (products_of_succeeded hs) ho⟩
        · exact hnew
      · rcases List.mem_append.mp hm with hm | hm
        · exact h.failed m hm hfail
        · rw [List.mem_singleton] at hm
          subst hm
          cases hfail
  | false =>
      obtain rfl := unchanged_of_transact hf ht
      refine ⟨fun p ↦ ?_, fun sale hsale ↦ ?_, fun m hm hfail ↦ ?_⟩
      · rw [h.stock p]
        unfold balance
        rw [Table.total_append, Table.total_append]
        cases call <;> simp [Moment.added, Moment.taken]
      · obtain ⟨hr, ho⟩ := h.sales sale hsale
        exact ⟨hr.append, ho⟩
      · rcases List.mem_append.mp hm with hm | hm
        · exact h.failed m hm hfail
        · rw [List.mem_singleton] at hm
          subst hm
          exact ⟨rfl, rfl⟩

theorem balanced_of_run (h : Run history db) : Balanced history db := by
  induction h with
  | start db hi hs =>
      refine ⟨fun p ↦ ?_, fun sale hsale ↦ ?_, fun m hm ↦ by cases hm⟩
      · simp [balance, Database.stock, Database.inventoryOf, Table.lookup, hi, hs]
      · rw [hs] at hsale
        cases hsale
  | call env hf call _ ih => exact balanced_call hf call ih
  | catalogue hc _ ih =>
      refine ⟨fun p ↦ ?_, fun sale hsale ↦ ?_, ih.failed⟩
      · have := ih.stock p
        rwa [balance, ← hc.sales, Database.stock, Database.inventoryOf, ← hc.inventory] at this
      · obtain ⟨hr, ho⟩ := ih.sales sale (hc.sales ▸ hsale)
        exact ⟨hr, owned_of_catalogue hc hsale ho⟩

theorem stock_ledger (h : Run history db) :
    (∀ row ∈ db.inventory, 0 ≤ row.quantity ∧ row.quantity = balance history db row.productId) ∧
      (∀ p, db.inventoryOf p = none → balance history db p = 0) ∧
      (∀ sale ∈ db.sales, Recorded history sale ∧ Owned db sale) ∧
      ∀ m ∈ history, m.succeeded = false →
        m.after.inventory = m.before.inventory ∧ m.after.sales = m.before.sales := by
  obtain ⟨hstock, hsales, hfailed⟩ := balanced_of_run h
  refine ⟨fun row hrow ↦ ⟨db.valid.inventory.quantity row hrow, ?_⟩, fun p hp ↦ ?_, hsales, hfailed⟩
  · have hi : db.inventoryOf row.productId = some row :=
      Table.lookup_of_mem db.valid.inventory.unique hrow
    rw [← hstock, Database.stock_of_inventoryOf hi]
  · rw [← hstock, Database.stock, hp]
    rfl

/-- A shop that sells milk, without stock. -/
def dairy : Database where
  shops := [⟨⟨1⟩, "254700000001", some "Dairy", .en⟩]
  products := [⟨⟨2⟩, ⟨1⟩, "Milk", "M-AAAAAA", 60⟩]
  valid := by decide +kernel

def delivery : Call := .addStock ⟨2⟩ ⟨10, by decide⟩
def sale : Call := .recordSale ⟨1⟩ ⟨2⟩ ⟨3, by decide⟩ "System"
def oversale : Call := .recordSale ⟨1⟩ ⟨2⟩ ⟨8, by decide⟩ "System"

/-- Ten units in, three sold, and eight more refused. -/
def day : Database :=
  (transact .calm oversale (transact .calm sale (transact .calm delivery dairy).2).2).2

theorem stock_ledger_day :
    day.stock ⟨2⟩ = 7 ∧ ∀ row ∈ day.inventory, 0 ≤ row.quantity :=
  ⟨by decide +kernel, fun row hrow ↦ ((stock_ledger
    (.call _ Env.calm_faultless oversale (.call _ Env.calm_faultless sale
      (.call _ Env.calm_faultless delivery (.start dairy rfl rfl))))).1 row hrow).1⟩

end SokoFlow.StockLedger
