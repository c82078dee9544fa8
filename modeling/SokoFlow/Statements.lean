import SokoFlow.Database

/-!
# The statements that change rows

Each statement of the services as a function on the database: what it returns
and the database after it, or the exception the driver raises.
-/

namespace SokoFlow.Database

/-- The rows after a statement, if they keep every constraint. -/
def constrained (rows : Rows) : Except Exc Database :=
  if h : rows.Valid then .ok ⟨rows, h⟩
  else .error (.integrityError "a constraint of the schema is violated")

/-- A statement writes `row`: its values have to fit their columns, then the
rows have to keep the constraints. -/
def write {α : Type} (row : α) (fits : Prop) [Decidable fits] (rows : Rows) :
    Except Exc (α × Database) :=
  if fits then (constrained rows).map fun db ↦ (row, db)
  else .error (.other "DBAPIError" "value out of range for its column")

theorem write_eq_ok {α : Type} {row r : α} {fits : Prop} [Decidable fits] {rows : Rows}
    {db : Database} :
    write row fits rows = .ok (r, db) ↔ fits ∧ r = row ∧ db.toRows = rows := by
  unfold write constrained
  by_cases hf : fits
  · by_cases hv : rows.Valid
    · simp only [hf, hv, if_true, dif_pos, Except.map, Except.ok.injEq, Prod.mk.injEq, true_and]
      constructor
      · rintro ⟨rfl, rfl⟩
        exact ⟨rfl, rfl⟩
      · rintro ⟨rfl, h⟩
        exact ⟨rfl, Database.ext h.symm⟩
    · simp only [hf, hv, if_true, dif_neg, not_false_eq_true, Except.map, reduceCtorEq, true_and,
        false_iff, not_and]
      rintro rfl h
      exact hv (h ▸ db.valid)
  · simp [hf]

theorem write_of_valid {α : Type} {row : α} {fits : Prop} [Decidable fits] {rows : Rows}
    (hf : fits) (hv : rows.Valid) : write row fits rows = .ok (row, ⟨rows, hv⟩) :=
  write_eq_ok.mpr ⟨hf, rfl, rfl⟩

theorem write_error {α : Type} {row : α} {fits : Prop} [Decidable fits] {rows : Rows} {e : Exc}
    (h : write row fits rows = .error e) : e.isTechnical = true := by
  unfold write constrained at h
  split at h
  · split at h
    · cases h
    · cases h
      rfl
  · cases h
    rfl

theorem write_integrityError_iff {α : Type} {row : α} {fits : Prop} [Decidable fits] {rows : Rows} :
    (∃ text, write row fits rows = .error (.integrityError text)) ↔ fits ∧ ¬ rows.Valid := by
  unfold write constrained
  by_cases hf : fits
  · by_cases hv : rows.Valid
    · simp [hf, hv, Except.map]
    · simp [hf, hv, Except.map]
  · simp [hf]

/-! ## Rows by key -/

def shopByPhone (db : Database) (phone : String) : Option Shop :=
  Table.lookup Shop.phone phone db.shops

/-- `db.get(Product, product_id)` -/
def product (db : Database) (id : UUID) : Option Product :=
  Table.lookup Product.id id db.products

/-- `get_by_product_id.sql`, and `select(Inventory)` by product. -/
def inventoryOf (db : Database) (productId : UUID) : Option Inventory :=
  Table.lookup Inventory.productId productId db.inventory

def freshId (used : List UUID) (candidate : UUID) : UUID :=
  ⟨Table.fresh (used.map UUID.val) candidate.val⟩

theorem freshId_notMem (used : List UUID) (candidate : UUID) : freshId used candidate ∉ used := by
  intro h
  exact Table.fresh_notMem (used.map UUID.val) candidate.val (List.mem_map_of_mem h)

/-! ## Shops -/

def insertShop (phone : String) (name : Option String) (locale : ShopLocale) (id : UUID)
    (db : Database) : Except Exc (Shop × Database) :=
  let shop : Shop := ⟨freshId (db.shops.map (·.id)) id, phone, name, locale⟩
  write shop shop.Fits { db.toRows with shops := db.shops ++ [shop] }

def setShopLocale (shop : Shop) (locale : ShopLocale) (db : Database) :
    Except Exc (Shop × Database) :=
  let shop := { shop with locale := locale }
  write shop shop.Fits
    { db.toRows with shops := Table.change Shop.id shop.id (fun _ ↦ shop) db.shops }

/-! ## Products -/

/-- The new row keeps its price at the two places of its column. -/
def insertProduct (shopId : UUID) (name sku : String) (price : ℚ) (id : UUID) (db : Database) :
    Except Exc (Product × Database) :=
  let product : Product :=
    ⟨freshId (db.products.map (·.id)) id, shopId, name, sku, Decimal.round price⟩
  write product product.Fits { db.toRows with products := db.products ++ [product] }

/-- `UPDATE products SET name, price`; a price of `none` is `NULL`. -/
def setProduct (product : Product) (name : String) (price : Option ℚ) (db : Database) :
    Except Exc (Product × Database) :=
  match price with
  | none => .error (.integrityError "null value in column \"price\"")
  | some price =>
      let product := { product with name := name, price := Decimal.round price }
      write product product.Fits
        { db.toRows with
          products := Table.change Product.id product.id (fun _ ↦ product) db.products }

def deleteProduct (product : Product) (db : Database) : Except Exc (Unit × Database) :=
  write () True { db.toRows with products := db.products.filter fun p ↦ p.id ≠ product.id }

theorem insertShop_ok {db db' : Database} {phone : String} {name : Option String}
    {locale : ShopLocale} {id : UUID} {shop : Shop}
    (h : insertShop phone name locale id db = .ok (shop, db')) :
    db'.toRows = { db.toRows with shops := db.shops ++ [shop] } ∧ shop.phone = phone ∧
      shop.name = name ∧ shop.locale = locale := by
  obtain ⟨_, rfl, hw⟩ := write_eq_ok.mp h
  exact ⟨hw, rfl, rfl, rfl⟩

theorem insertShop_of_fits {db : Database} {phone : String} (name : Option String)
    (locale : ShopLocale) (id : UUID) (hfits : FitsText 20 phone)
    (hnone : db.shopByPhone phone = none) :
    ∃ shop db', insertShop phone name locale id db = .ok (shop, db') := by
  have hs := db.valid.shops
  have hid := freshId_notMem (db.shops.map (·.id)) id
  have hphone : phone ∉ db.shops.map (·.phone) := by
    intro hmem
    obtain ⟨shop, hshop, h⟩ := List.mem_map.mp hmem
    exact Table.lookup_eq_none.mp hnone shop hshop h
  have hv : Rows.Valid { db.toRows with
      shops := db.shops ++ [⟨freshId (db.shops.map (·.id)) id, phone, name, locale⟩] } := by
    refine ⟨⟨?_, ?_, ?_⟩, ?_, db.valid.inventory, ?_⟩
    · exact List.forall_mem_append.mpr ⟨hs.fits, fun shop hshop ↦ List.mem_singleton.mp hshop ▸ hfits⟩
    · simpa [List.nodup_append, hs.ids] using hid
    · simpa [List.nodup_append, hs.phones] using hphone
    · have hp := db.valid.products
      refine ⟨hp.fits, hp.ids, hp.skus, fun p hmem ↦ ?_, hp.price⟩
      exact List.map_append ▸ List.mem_append_left _ (hp.shop p hmem)
    · have hsales := db.valid.sales
      refine ⟨hsales.fits, hsales.ids, fun sale hmem ↦ ?_, hsales.product, hsales.quantity,
        hsales.total⟩
      exact List.map_append ▸ List.mem_append_left _ (hsales.shop sale hmem)
  exact ⟨_, _, write_of_valid hfits hv⟩

theorem setShopLocale_ok {db db' : Database} {old shop : Shop} {locale : ShopLocale}
    (hold : old ∈ db.shops) (h : setShopLocale old locale db = .ok (shop, db')) :
    shop = { old with locale := locale } ∧ shop ∈ db'.shops ∧ db'.products = db.products ∧
      db'.inventory = db.inventory ∧ db'.sales = db.sales := by
  obtain ⟨_, rfl, hw⟩ := write_eq_ok.mp h
  refine ⟨rfl, ?_, ?_, ?_, ?_⟩
  · rw [hw]
    exact List.mem_map.mpr ⟨old, hold, by simp⟩
  all_goals rw [hw]

theorem insertProduct_ok {db db' : Database} {shopId id : UUID} {name sku : String} {price : ℚ}
    {product : Product} (h : insertProduct shopId name sku price id db = .ok (product, db')) :
    db'.toRows = { db.toRows with products := db.products ++ [product] } ∧
      product.shopId = shopId ∧ product.name = name ∧ product.sku = sku ∧
      product.price = Decimal.round price ∧ product.id ∉ db.products.map (·.id) := by
  obtain ⟨_, rfl, hw⟩ := write_eq_ok.mp h
  exact ⟨hw, rfl, rfl, rfl, rfl, freshId_notMem _ _⟩

/-- A product is refused for its SKU or for its shop, when its values fit. -/
theorem insertProduct_integrityError_iff {db : Database} {shopId id : UUID} {name sku : String}
    {price : ℚ} (hprice : 0 < price) :
    (∃ text, insertProduct shopId name sku price id db = .error (.integrityError text)) ↔
      FitsText 50 sku ∧ FitsMoney (Decimal.round price) ∧
        (sku ∈ db.products.map (·.sku) ∨ shopId ∉ db.shops.map (·.id)) := by
  have hp := db.valid.products
  have hround := Decimal.round_nonneg hprice.le
  have hid := freshId_notMem (db.products.map (·.id)) id
  unfold insertProduct
  rw [write_integrityError_iff, ← and_assoc]
  apply and_congr_right
  intro hfits
  rw [← not_iff_not, not_not, not_or, not_not]
  constructor
  · intro hv
    have hskus := hv.products.skus
    rw [List.map_append, List.nodup_append] at hskus
    exact ⟨fun hmem ↦ hskus.2.2 _ hmem _ (List.mem_singleton_self _) rfl,
      hv.products.shop _ (List.mem_append_right _ (List.mem_singleton_self _))⟩
  · rintro ⟨hsku, hshop⟩
    refine ⟨db.valid.shops, ⟨?_, ?_, ?_, ?_, ?_⟩, ?_, ?_⟩
    · exact List.forall_mem_append.mpr ⟨hp.fits, by simpa using hfits⟩
    · simpa [List.nodup_append, hp.ids] using hid
    · simpa [List.nodup_append, hp.skus] using hsku
    · exact List.forall_mem_append.mpr ⟨hp.shop, by simpa using hshop⟩
    · exact List.forall_mem_append.mpr ⟨hp.price, by simpa using hround⟩
    · have hi := db.valid.inventory
      refine ⟨hi.fits, hi.ids, hi.unique, fun row hrow ↦ ?_, hi.quantity, hi.threshold⟩
      exact List.map_append ▸ List.mem_append_left _ (hi.product row hrow)
    · have hs := db.valid.sales
      refine ⟨hs.fits, hs.ids, hs.shop, fun sale hsale ↦ ?_, hs.quantity, hs.total⟩
      exact List.map_append ▸ List.mem_append_left _ (hs.product sale hsale)

theorem setProduct_ok {db db' : Database} {old product : Product} {name : String}
    {price : Option ℚ} (hold : db.product old.id = some old)
    (h : setProduct old name price db = .ok (product, db')) :
    product.id = old.id ∧ product.name = name ∧ some product.price = price.map Decimal.round ∧
      db'.product old.id = some product ∧ db'.shops = db.shops ∧
      db'.inventory = db.inventory ∧ db'.sales = db.sales := by
  unfold setProduct at h
  cases price with
  | none => cases h
  | some price =>
      obtain ⟨_, rfl, hw⟩ := write_eq_ok.mp h
      refine ⟨rfl, rfl, rfl, ?_, ?_, ?_, ?_⟩
      · rw [Database.product, hw]
        exact Table.lookup_overwrite hold rfl
      all_goals rw [hw]

theorem deleteProduct_ok {db db' : Database} {old : Product}
    (h : deleteProduct old db = .ok ((), db')) :
    db'.product old.id = none ∧ db'.shops = db.shops ∧ db'.inventory = db.inventory ∧
      db'.sales = db.sales := by
  obtain ⟨_, _, hw⟩ := write_eq_ok.mp h
  refine ⟨Table.lookup_eq_none.mpr fun r hr ↦ ?_, ?_, ?_, ?_⟩
  · rw [hw] at hr
    simpa using (List.mem_filter.mp hr).2
  all_goals rw [hw]

/-- A row of a table is found by its key. -/
theorem product_of_mem {db : Database} {p : Product} (h : p ∈ db.products) :
    db.product p.id = some p :=
  Table.lookup_of_mem db.valid.products.ids h

theorem mem_of_product {db : Database} {id : UUID} {p : Product} (h : db.product id = some p) :
    p ∈ db.products ∧ p.id = id :=
  ⟨Table.mem_of_lookup h, Table.key_of_lookup h⟩

/-! ## Inventory -/

/-- `add_stock.sql`: a new row has the threshold the column defaults to. -/
def addStock (productId : UUID) (quantity : ℤ) (id : UUID) (db : Database) :
    Except Exc (Inventory × Database) :=
  match db.inventoryOf productId with
  | none =>
      let row : Inventory := ⟨freshId (db.inventory.map (·.id)) id, productId, quantity, 5⟩
      write row row.Fits { db.toRows with inventory := db.inventory ++ [row] }
  | some row =>
      let row := { row with quantity := row.quantity + quantity }
      write row (FitsInt quantity ∧ row.Fits)
        { db.toRows with
          inventory := Table.change Inventory.productId productId (fun _ ↦ row) db.inventory }

/-- `UPDATE inventory SET quantity, low_stock_threshold` of a loaded row. -/
def setInventory (row : Inventory) (db : Database) : Except Exc (Inventory × Database) :=
  write row row.Fits
    { db.toRows with
      inventory := Table.change Inventory.productId row.productId (fun _ ↦ row) db.inventory }

/-- The inventory row of `p` is `row` afterwards; nothing else changed. -/
structure InventoryWrite (p : UUID) (row : Inventory) (db db' : Database) : Prop where
  row : db'.inventoryOf p = some row
  others : ∀ p', p' ≠ p → db'.inventoryOf p' = db.inventoryOf p'
  shops : db'.shops = db.shops
  products : db'.products = db.products
  sales : db'.sales = db.sales

theorem productId_of_inventoryOf {db : Database} {p : UUID} {row : Inventory}
    (h : db.inventoryOf p = some row) : row.productId = p :=
  Table.key_of_lookup h

theorem lookup_id_of_inventoryOf {db : Database} {p : UUID} {row : Inventory}
    (h : db.inventoryOf p = some row) :
    Table.lookup Inventory.id row.id db.inventory = some row :=
  Table.lookup_of_mem db.valid.inventory.ids (Table.mem_of_lookup h)

theorem inventoryWrite_of_change {db db' : Database} {p : UUID} {old row : Inventory}
    (hold : db.inventoryOf p = some old) (hp : row.productId = p)
    (h : db'.toRows = { db.toRows with
      inventory := Table.change Inventory.productId p (fun _ ↦ row) db.inventory }) :
    InventoryWrite p row db db' := by
  have hi : db'.inventory = Table.change Inventory.productId p (fun _ ↦ row) db.inventory := by
    rw [h]
  have hf : ∀ r : Inventory, r.productId = p → row.productId = p := fun _ _ ↦ hp
  refine ⟨?_, fun p' hne ↦ ?_, ?_, ?_, ?_⟩
  · rw [inventoryOf, hi]
    exact Table.lookup_overwrite hold hp
  · rw [inventoryOf, hi, Table.lookup_change_ne hf hne]
    rfl
  all_goals rw [h]

theorem setInventory_ok {db db' : Database} {old row r : Inventory}
    (hold : db.inventoryOf row.productId = some old)
    (h : setInventory row db = .ok (r, db')) :
    r = row ∧ InventoryWrite row.productId row db db' := by
  obtain ⟨_, hr, h⟩ := write_eq_ok.mp h
  exact ⟨hr, inventoryWrite_of_change hold rfl h⟩

/-- A row with new stock or threshold in bounds can be written over the old one. -/
theorem setInventory_of_bounds {db : Database} {old row : Inventory}
    (hold : db.inventoryOf row.productId = some old) (hid : row.id = old.id)
    (hf : row.Fits) (hq : 0 ≤ row.quantity)
    (ht : 0 ≤ row.lowStockThreshold ∧ row.lowStockThreshold ≤ 1000) :
    ∃ db', setInventory row db = .ok (row, db') := by
  have hv := db.valid
  have hsame : ∀ r ∈ db.inventory, r.productId = row.productId → r = old := by
    intro r hr hp
    have := (Table.lookup_eq_some hv.inventory.unique).mpr ⟨hr, hp⟩
    exact Option.some.inj (this.symm.trans hold)
  have hprod : row.productId = old.productId := (productId_of_inventoryOf hold).symm
  have hi : InventoryValid db.products
      (Table.change Inventory.productId row.productId (fun _ ↦ row) db.inventory) := by
    refine ⟨?_, ?_, ?_, ?_, ?_, ?_⟩
    · exact Table.forall_change hv.inventory.fits fun _ _ _ ↦ hf
    · rw [Table.map_change fun r hr hp ↦ by rw [hsame r hr hp, hid]]
      exact hv.inventory.ids
    · rw [Table.map_change fun r hr hp ↦ by rw [hsame r hr hp, hprod]]
      exact hv.inventory.unique
    · apply Table.forall_change hv.inventory.product
      intro r hr hp
      rw [hprod]
      exact hv.inventory.product old (Table.mem_of_lookup hold)
    · exact Table.forall_change hv.inventory.quantity fun _ _ _ ↦ hq
    · exact Table.forall_change hv.inventory.threshold fun _ _ _ ↦ ht
  have hv' : Rows.Valid { db.toRows with
      inventory := Table.change Inventory.productId row.productId (fun _ ↦ row) db.inventory } :=
    ⟨hv.shops, hv.products, hi, hv.sales⟩
  exact ⟨_, write_of_valid hf hv'⟩

/-- Units in stock; a product without an inventory row has none. -/
def stock (db : Database) (p : UUID) : ℤ := ((db.inventoryOf p).map (·.quantity)).getD 0

theorem stock_of_inventoryOf {db : Database} {p : UUID} {row : Inventory}
    (h : db.inventoryOf p = some row) : db.stock p = row.quantity := by
  rw [stock, h]
  rfl

theorem addStock_ok {db db' : Database} {p id : UUID} {q : ℤ} {row : Inventory}
    (h : addStock p q id db = .ok (row, db')) :
    row.quantity = db.stock p + q ∧ InventoryWrite p row db db' := by
  unfold addStock at h
  cases hi : db.inventoryOf p with
  | none =>
      simp only [hi] at h
      obtain ⟨_, rfl, hw⟩ := write_eq_ok.mp h
      have hnone : ∀ r ∈ db.inventory, r.productId ≠ p := Table.lookup_eq_none.mp hi
      refine ⟨by simp [stock, hi], ?_, fun p' hne ↦ ?_, ?_, ?_, ?_⟩
      · rw [inventoryOf, hw]
        exact Table.lookup_append_self hnone rfl
      · rw [inventoryOf, hw]
        exact Table.lookup_append_ne (Ne.symm hne)
      all_goals rw [hw]
  | some old =>
      simp only [hi] at h
      obtain ⟨_, rfl, hw⟩ := write_eq_ok.mp h
      have hp : old.productId = p := productId_of_inventoryOf hi
      exact ⟨by simp [stock, hi], inventoryWrite_of_change hi hp hw⟩

theorem addStock_error {db : Database} {p id : UUID} {q : ℤ} {e : Exc}
    (h : addStock p q id db = .error e) : e.isTechnical = true := by
  unfold addStock at h
  split at h <;> exact write_error h

/-! ## Sales -/

/-- The new row, with the computed column `total` and as much of `recorded_by`
as its column keeps. -/
def insertSale (shopId productId : UUID) (quantity : ℤ) (unitPrice : ℚ) (recordedBy : String)
    (id : UUID) (now : Timestamp) (db : Database) : Except Exc (Sale × Database) :=
  let sale : Sale :=
    ⟨freshId (db.sales.map (·.id)) id, shopId, productId, quantity, unitPrice,
      unitPrice * quantity, kept 20 recordedBy, now⟩
  write sale sale.Fits { db.toRows with sales := db.sales ++ [sale] }

theorem insertSale_ok {db db' : Database} {shopId productId id : UUID} {q : ℤ} {price : ℚ}
    {by_ : String} {now : Timestamp} {sale : Sale}
    (h : insertSale shopId productId q price by_ id now db = .ok (sale, db')) :
    db'.toRows = { db.toRows with sales := db.sales ++ [sale] } ∧ sale.shopId = shopId ∧
      sale.productId = productId ∧ sale.quantity = q ∧ sale.unitPrice = price ∧
      sale.recordedBy = kept 20 by_ ∧ sale.id ∉ db.sales.map (·.id) := by
  obtain ⟨_, rfl, hw⟩ := write_eq_ok.mp h
  exact ⟨hw, rfl, rfl, rfl, rfl, rfl, freshId_notMem _ _⟩

end SokoFlow.Database
