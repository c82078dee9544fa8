import SokoFlow.Isolation

/-!
# Writes confined to some shops

Every statement of the services writes to the rows of one shop.  A service
that is called for a shop or for a product of it therefore leaves the rows of
all other shops as they are, whichever statements and commits fail.
-/

namespace SokoFlow

open DbM Effect InventoryService ProductService SalesService ShopService

/-- There is a shop of this phone with this id. -/
def Database.Owns (db : Database) (phone : String) (shopId : UUID) : Prop :=
  ∃ shop ∈ db.shops, shop.id = shopId ∧ shop.phone = phone

/-- If the product exists, it is one of the shops in `own`. -/
def Database.Within (own : UUID → Prop) (productId : UUID) (db : Database) : Prop :=
  ∀ product ∈ db.products, product.id = productId → own product.shopId

theorem Database.Owns.unique {db : Database} {phone phone' : String} {shopId : UUID}
    (h : db.Owns phone shopId) (h' : db.Owns phone' shopId) : phone' = phone := by
  obtain ⟨shop, hmem, hid, rfl⟩ := h
  obtain ⟨shop', hmem', hid', rfl⟩ := h'
  have hfound := Table.lookup_of_mem db.valid.shops.ids hmem
  have hfound' := Table.lookup_of_mem db.valid.shops.ids hmem'
  rw [hid'] at hfound'
  rw [hid, hfound', Option.some.injEq] at hfound
  rw [hfound]

/-! ## Rows of a shop that are left alone -/

namespace SameShop

variable {shopId : UUID} {db db' db'' : Database}

theorem refl (db : Database) : SameShop shopId db db := ⟨rfl, fun _ _ _ ↦ rfl, rfl⟩

theorem trans (h : SameShop shopId db db') (h' : SameShop shopId db' db'') :
    SameShop shopId db db'' where
  products := h.products.trans h'.products
  inventory p hp hshop := by
    have hmem : p ∈ db.products.filter (·.shopId = shopId) :=
      List.mem_filter.mpr ⟨hp, decide_eq_true hshop⟩
    rw [h.products] at hmem
    exact (h.inventory p hp hshop).trans (h'.inventory p (List.mem_filter.mp hmem).1 hshop)
  sales := h.sales.trans h'.sales

theorem mem_products (h : SameShop shopId db db') {p : Product} (hshop : p.shopId = shopId) :
    p ∈ db.products ↔ p ∈ db'.products := by
  have hiff : ∀ rows : List Product, p ∈ rows.filter (·.shopId = shopId) ↔ p ∈ rows := by
    intro rows
    rw [List.mem_filter, decide_eq_true_eq, and_iff_left hshop]
  rw [← hiff, h.products, hiff]

end SameShop

/-- Whatever happened to the shops in `own`, no shop lost its phone, and the
rows of every other shop are as they were. -/
structure Confined (own : UUID → Prop) (db db' : Database) : Prop where
  owners : ∀ phone shopId, db.Owns phone shopId → db'.Owns phone shopId
  shops : ∀ shop ∈ db.shops, ¬ own shop.id → shop ∈ db'.shops
  rows : ∀ shopId, ¬ own shopId → SameShop shopId db db'

namespace Confined

variable {own : UUID → Prop} {db db' db'' : Database} {p : UUID}

theorem refl (db : Database) : Confined own db db :=
  ⟨fun _ _ h ↦ h, fun _ h _ ↦ h, fun _ _ ↦ .refl db⟩

theorem trans (h : Confined own db db') (h' : Confined own db' db'') : Confined own db db'' where
  owners phone shopId ho := h'.owners phone shopId (h.owners phone shopId ho)
  shops shop hmem hn := h'.shops shop (h.shops shop hmem hn) hn
  rows shopId hn := (h.rows shopId hn).trans (h'.rows shopId hn)

theorem mono {own' : UUID → Prop} (h : Confined own db db') (hs : ∀ shopId, own shopId → own' shopId) :
    Confined own' db db' where
  owners := h.owners
  shops shop hmem hn := h.shops shop hmem fun ho ↦ hn (hs _ ho)
  rows shopId hn := h.rows shopId fun ho ↦ hn (hs _ ho)

/-- Whose a product is does not change outside `own`, so neither does whether
it is a product of `own`. -/
theorem within (h : Confined own db db') : db.Within own p ↔ db'.Within own p := by
  constructor
  · intro hp product hmem hid
    by_contra hn
    exact hn (hp product (((h.rows _ hn).mem_products rfl).mpr hmem) hid)
  · intro hp product hmem hid
    by_contra hn
    exact hn (hp product (((h.rows _ hn).mem_products rfl).mp hmem) hid)

theorem within_of_product {product : Product} (h : db.product p = some product)
    (ho : own product.shopId) : db.Within own p := by
  intro product' hmem hid
  have hfound := Database.product_of_mem hmem
  rw [hid, h, Option.some.injEq] at hfound
  rw [← hfound]
  exact ho

/-! ### One statement -/

/-- New shops, and nothing else. -/
theorem of_shops {shop : Shop}
    (h : db'.toRows = { db.toRows with shops := db.shops ++ [shop] }) : Confined own db db' := by
  have hs : ∀ old ∈ db.shops, old ∈ db'.shops := by
    intro old hold
    rw [h]
    exact List.mem_append_left _ hold
  refine ⟨?_, fun old hold _ ↦ hs old hold, fun _ _ ↦ ⟨by rw [h], fun p _ _ ↦ ?_, by rw [h]⟩⟩
  · rintro phone shopId ⟨old, hold, hid, hphone⟩
    exact ⟨old, hs old hold, hid, hphone⟩
  · rw [Database.inventoryOf, Database.inventoryOf, h]

/-- Nothing happened to the shops. -/
theorem of_rows (hs : db'.shops = db.shops) (h : ∀ shopId, ¬ own shopId → SameShop shopId db db') :
    Confined own db db' where
  owners phone shopId ho := by
    unfold Database.Owns
    rw [hs]
    exact ho
  shops shop hmem _ := by
    rw [hs]
    exact hmem
  rows := h

theorem of_products (hs : db'.shops = db.shops) (hi : db'.inventory = db.inventory)
    (hsales : db'.sales = db.sales)
    (h : ∀ shopId, ¬ own shopId →
      db.products.filter (·.shopId = shopId) = db'.products.filter (·.shopId = shopId)) :
    Confined own db db' := by
  refine of_rows hs fun shopId hn ↦ ⟨h shopId hn, fun p _ _ ↦ ?_, by rw [hsales]⟩
  rw [Database.inventoryOf, Database.inventoryOf, hi]

theorem of_insertProduct {shopId id : UUID} {name sku : String} {price : ℚ} {product : Product}
    (ho : own shopId) (h : Database.insertProduct shopId name sku price id db = .ok (product, db')) :
    Confined own db db' := by
  obtain ⟨hrows, hshop, -⟩ := Database.insertProduct_ok h
  apply of_products <;> try rw [hrows]
  intro other hn
  have hne : product.shopId ≠ other := by
    rintro rfl
    exact hn (hshop ▸ ho)
  rw [List.filter_append, List.filter_singleton, decide_eq_false hne]
  simp

/-- A product of `own` is overwritten or removed. -/
theorem filter_others {old : Product} (hold : db.product old.id = some old) (ho : own old.shopId)
    {shopId : UUID} (hn : ¬ own shopId) {p : Product} (hp : p ∈ db.products)
    (hid : p.id = old.id) : p.shopId ≠ shopId := by
  rintro rfl
  have hfound := Database.product_of_mem hp
  rw [hid, hold, Option.some.injEq] at hfound
  exact hn (hfound ▸ ho)

theorem of_setProduct {old product : Product} {name : String} {price : Option ℚ}
    (hold : db.product old.id = some old) (ho : own old.shopId)
    (h : Database.setProduct old name price db = .ok (product, db')) : Confined own db db' := by
  obtain ⟨-, -, -, -, hs, hi, hsales⟩ := Database.setProduct_ok hold h
  apply of_products hs hi hsales
  intro shopId hn
  unfold Database.setProduct at h
  cases price with
  | none => cases h
  | some price =>
      obtain ⟨-, rfl, hrows⟩ := Database.write_eq_ok.mp h
      have hne : old.shopId ≠ shopId := by
        rintro rfl
        exact hn ho
      rw [hrows]
      symm
      apply Table.filter_change
      intro p hp hid
      exact ⟨decide_eq_false (filter_others hold ho hn hp hid), decide_eq_false hne⟩

theorem of_deleteProduct {old : Product} (hold : db.product old.id = some old)
    (ho : own old.shopId) (h : Database.deleteProduct old db = .ok ((), db')) :
    Confined own db db' := by
  obtain ⟨-, hs, hi, hsales⟩ := Database.deleteProduct_ok h
  apply of_products hs hi hsales
  intro shopId hn
  obtain ⟨-, -, hrows⟩ := Database.write_eq_ok.mp h
  rw [hrows]
  symm
  apply List.filter_filter.trans
  apply List.filter_congr
  intro p hp
  by_cases hid : p.id = old.id
  · simp [filter_others hold ho hn hp hid]
  · simp [hid]

theorem of_inventoryWrite {row : Inventory} (hp : db.Within own p)
    (h : Database.InventoryWrite p row db db') : Confined own db db' := by
  refine of_rows h.shops fun shopId hn ↦ ⟨by rw [h.products], fun product hmem hshop ↦ ?_,
    by rw [h.sales]⟩
  apply Eq.symm
  apply h.others
  intro hid
  exact hn (hshop ▸ hp product hmem hid)

theorem of_addStock {q : ℤ} {id : UUID} {row : Inventory} (hp : db.Within own p)
    (h : Database.addStock p q id db = .ok (row, db')) : Confined own db db' :=
  of_inventoryWrite hp (Database.addStock_ok h).2

/-- A row that is written back is looked for by its product. -/
theorem of_setInventory {row r : Inventory} (hp : db.Within own row.productId)
    (h : Database.setInventory row db = .ok (r, db')) : Confined own db db' := by
  obtain ⟨-, -, hrows⟩ := Database.write_eq_ok.mp h
  refine of_rows (by rw [hrows]) fun shopId hn ↦ ⟨by rw [hrows], fun product hmem hshop ↦ ?_,
    by rw [hrows]⟩
  have hne : product.id ≠ row.productId := fun hid ↦ hn (hshop ▸ hp product hmem hid)
  rw [Database.inventoryOf, Database.inventoryOf, hrows]
  exact (Table.lookup_change_ne (fun _ _ ↦ rfl) hne).symm

theorem of_insertSale {shopId id : UUID} {q : ℤ} {price : ℚ} {recordedBy : String}
    {now : Timestamp} {sale : Sale} (ho : own shopId)
    (h : Database.insertSale shopId p q price recordedBy id now db = .ok (sale, db')) :
    Confined own db db' := by
  obtain ⟨hrows, hshop, -⟩ := Database.insertSale_ok h
  refine of_rows (by rw [hrows]) fun other hn ↦ ⟨by rw [hrows], fun product _ _ ↦ ?_, ?_⟩
  · rw [Database.inventoryOf, Database.inventoryOf, hrows]
  · have hne : sale.shopId ≠ other := by
      rintro rfl
      exact hn (hshop ▸ ho)
    rw [hrows, List.filter_append, List.filter_singleton, decide_eq_false hne]
    simp

/-- A loaded shop changes its locale. -/
theorem of_setShopLocale {old shop : Shop} {locale : ShopLocale} (hold : old ∈ db.shops)
    (ho : own old.id) (h : Database.setShopLocale old locale db = .ok (shop, db')) :
    Confined own db db' := by
  obtain ⟨-, -, hrows⟩ := Database.write_eq_ok.mp h
  have hsame : ∀ shop ∈ db.shops, shop.id = old.id → shop = old := by
    intro shop hmem hid
    have hfound := Table.lookup_of_mem db.valid.shops.ids hmem
    rw [hid, Table.lookup_of_mem db.valid.shops.ids hold, Option.some.injEq] at hfound
    exact hfound.symm
  refine ⟨?_, ?_, fun _ _ ↦ ⟨by rw [hrows], fun p _ _ ↦ ?_, by rw [hrows]⟩⟩
  · rintro phone shopId ⟨shop, hmem, hid, hphone⟩
    refine ⟨if shop.id = old.id then { old with locale := locale } else shop, ?_, ?_, ?_⟩
    · rw [hrows]
      exact List.mem_map_of_mem hmem
    · split
      · rw [← hid, hsame shop hmem ‹_›]
      · exact hid
    · split
      · rw [← hphone, hsame shop hmem ‹_›]
      · exact hphone
  · intro shop hmem hn
    have hne : shop.id ≠ old.id := fun hid ↦ hn (hid ▸ ho)
    rw [hrows]
    refine List.mem_map.mpr ⟨shop, hmem, ?_⟩
    exact if_neg hne
  · rw [Database.inventoryOf, Database.inventoryOf, hrows]

end Confined

/-! ## Services -/

/-- A property of the rows that confined writes keep, and that fixes which
products are products of `own`. -/
structure Tenancy (own : UUID → Prop) (P : Database → Prop) : Prop where
  write {db db' : Database} : P db → Confined own db db' → P db'
  within {db db' : Database} {p : UUID} : P db → P db' → db.Within own p → db'.Within own p

theorem tenancy_confined (own : UUID → Prop) (base : Database) :
    Tenancy own (Confined own base) where
  write h h' := h.trans h'
  within h h' hp := h'.within.mp (h.within.mpr hp)

section Loads

variable {own : UUID → Prop} {T : Timestamp → Prop} {P : Database → Prop}

/-- The loaded row is one of the product it was looked up by. -/
theorem row_contract (p : UUID) :
    Contract (Backend.Holds T P) (select fun db ↦ db.inventoryOf p)
      (fun found b ↦ b.Holds T P ∧ ∀ row, found = some row → row.productId = p)
      (Backend.Holds T P) := by
  apply (select_contract _).weaken (fun _ h ↦ h) ?_ fun _ h ↦ h
  rintro found b ⟨h, rfl⟩
  exact ⟨h, fun row hrow ↦ Database.productId_of_inventoryOf hrow⟩

/-- The product found is one of `own`. -/
theorem product_contract {p : UUID} (hp : ∀ db, P db → db.Within own p) :
    Contract (Backend.Holds T P) (getProduct p)
      (fun product b ↦ (b.Holds T P ∧ b.working.product product.id = some product) ∧
        own product.shopId) (Backend.Holds T P) := by
  apply (getProduct_contract p).weaken (fun _ h ↦ h) ?_ fun _ h ↦ h
  rintro product b ⟨h, hfound⟩
  obtain ⟨hmem, hid⟩ := Database.mem_of_product hfound
  refine ⟨⟨h, ?_⟩, hp b.working h.working product hmem hid⟩
  rw [hid]
  exact hfound

end Loads

namespace Tenancy

variable {own : UUID → Prop} {T : Timestamp → Prop} {P : Database → Prop} (hs : Tenancy own P)
include hs

theorem flush_keeping (row : Inventory) (hp : ∀ db, P db → db.Within own row.productId) :
    Keeping (Backend.Holds T P) (flush row) := by
  refine .bind (update_keeping fun db r db' hP h ↦ ?_) fun _ ↦ .pure _
  exact hs.write hP (.of_setInventory (hp db hP) h)

theorem addStock_keeping {p : UUID} (q : ℤ) (commit : Bool)
    (hp : ∀ db, P db → db.Within own p) : Keeping (Backend.Holds T P) (addStock p q commit) := by
  refine .bind (ask_keeping _) fun id ↦ .bind (update_keeping fun db row db' hP h ↦ ?_) fun row ↦
    finalizeInventory_keeping commit (.pure _)
  exact hs.write hP (.of_addStock (hp db hP) h)

theorem deductStock_keeping {p : UUID} (q : ℤ) (commit : Bool)
    (hp : ∀ db, P db → db.Within own p) :
    Keeping (Backend.Holds T P) (deductStock p q commit) := by
  apply Contract.bind (row_contract p)
  intro found
  apply Contract.given
  intro hrow
  cases found with
  | none => exact .throw fun _ h ↦ h
  | some row =>
      dsimp only
      split
      · exact .throw fun _ h ↦ h
      · refine Keeping.bind (finalizeInventory_keeping commit (hs.flush_keeping _ ?_)) fun _ ↦ .pure _
        intro db hP
        rw [hrow row rfl]
        exact hp db hP

theorem updateThreshold_keeping {p : UUID} (n : ℤ) (commit : Bool)
    (hp : ∀ db, P db → db.Within own p) :
    Keeping (Backend.Holds T P) (updateThreshold p n commit) := by
  have hload : Contract (Backend.Holds T P) (getStock p)
      (fun row b ↦ b.Holds T P ∧ row.productId = p) (Backend.Holds T P) := by
    apply Contract.bind (row_contract p)
    intro found
    cases found with
    | none => exact .throw fun _ h ↦ h.1
    | some row => exact .pure fun _ h ↦ ⟨h.1, h.2 row rfl⟩
  apply Contract.bind hload
  intro row
  apply Contract.given
  intro hrow
  apply finalizeInventory_keeping commit (hs.flush_keeping _ ?_)
  intro db hP
  rw [← hrow] at hp
  exact hp db hP

theorem createProduct_keeping (dep : Deployment) (data : ProductCreate) (ho : own data.shopId) :
    Keeping (Backend.Holds T P) (createProduct dep data) := by
  refine .bind (.bind (ask_keeping _) fun _ ↦ .pure _) fun sku ↦ .bind (ask_keeping _) fun id ↦ ?_
  refine .bind (commitOr_contract (update_keeping fun db p db' hP h ↦ ?_)) fun _ ↦
    refreshProduct_keeping _
  exact hs.write hP (.of_insertProduct ho h)

theorem updateProduct_keeping {p : UUID} (data : ProductUpdate)
    (hp : ∀ db, P db → db.Within own p) :
    Keeping (Backend.Holds T P) (updateProduct p data) := by
  apply Contract.bind (product_contract hp)
  intro product
  apply Contract.given
  intro ho
  refine Contract.bind (commitOr_contract ?_) fun _ ↦ refreshProduct_keeping _
  refine execute_contract (Q := fun db ↦ db.product product.id = some product)
    fun _ db r db' _ hP hfound h ↦ ?_
  exact hs.write hP (.of_setProduct hfound ho h)

theorem deleteProduct_keeping {p : UUID} (hp : ∀ db, P db → db.Within own p) :
    Keeping (Backend.Holds T P) (deleteProduct p) := by
  apply Contract.bind (product_contract hp)
  intro product
  apply Contract.given
  intro ho
  refine commitOr_contract ?_
  refine execute_contract (Q := fun db ↦ db.product product.id = some product)
    fun _ db r db' _ hP hfound h ↦ ?_
  exact hs.write hP (.of_deleteProduct hfound ho h)

theorem createShop_keeping (data : CreateShop) :
    Keeping (Backend.Holds T P) (createShop data) := by
  refine .bind (ask_keeping _) fun id ↦ .bind (commitOr_contract (update_keeping
    fun db shop db' hP h ↦ ?_)) fun _ ↦ refreshShop_keeping _
  exact hs.write hP (.of_shops (Database.insertShop_ok h).1)

theorem updateLocale_keeping {phone : String} (locale : ShopLocale)
    (ho : ∀ db, P db → ∀ shop ∈ db.shops, shop.phone = phone → own shop.id) :
    Keeping (Backend.Holds T P) (updateLocale phone locale) := by
  apply Contract.bind (select_contract _)
  intro found
  have hask : Keeping (fun b : Backend ↦ b.Holds T P ∧ b.working.shopByPhone phone = found)
      (ask Env.uuid) :=
    ⟨fun b id b' h hx ↦ by
      cases hx
      exact ⟨(ask_keeping Env.uuid).returns b _ _ h.1 rfl, h.2⟩, fun b e b' h hx ↦ by cases hx⟩
  refine Contract.bind (hask.weaken (fun _ h ↦ h) (fun _ _ h ↦ h) fun _ h ↦ h.1) fun id ↦ ?_
  refine Contract.bind (R := fun _ ↦ Backend.Holds T P) (execute_contract
    (Q := fun db ↦ db.shopByPhone phone = found) fun _ db shop db' _ hP hfound h ↦ ?_)
    fun _ ↦ .bind commit_keeping fun _ ↦ refreshShop_keeping _
  cases found with
  | none => exact hs.write hP (.of_shops (Database.insertShop_ok h).1)
  | some old =>
      have hmem := Table.mem_of_lookup hfound
      exact hs.write hP (.of_setShopLocale hmem
        (ho db hP old hmem (Table.key_of_lookup hfound)) h)

/-- A sale checks that the product is one of the shop it is for. -/
theorem saleBody_keeping {shopId : UUID} (p : UUID) (q : ℤ) (recordedBy : String)
    (ho : own shopId) : Keeping (Backend.Holds T P) (saleBody shopId p q recordedBy) := by
  have hload : Contract (Backend.Holds T P) (select fun db ↦ db.product p)
      (fun found b ↦ b.Holds T P ∧ ∃ db, P db ∧ db.product p = found) (Backend.Holds T P) := by
    apply (select_contract _).weaken (fun _ h ↦ h) ?_ fun _ h ↦ h
    rintro found b ⟨h, hfound⟩
    exact ⟨h, b.working, h.working, hfound⟩
  apply Contract.bind hload
  intro found
  apply Contract.given
  rintro ⟨db₀, hP₀, hfound⟩
  cases found with
  | none => exact .throw fun _ h ↦ h
  | some product =>
      dsimp only
      split
      · exact .throw fun _ h ↦ h
      · rename_i hshop
        obtain rfl : product.shopId = shopId := not_not.mp hshop
        have hp : ∀ db, P db → db.Within own p := fun db hP ↦
          hs.within hP₀ hP (Confined.within_of_product hfound ho)
        apply Keeping.bind (hs.deductStock_keeping q false hp)
        intro _
        apply Keeping.bind (ask_keeping _)
        intro id
        refine .bind (execute_keeping fun _ db sale db' _ hP h ↦ ?_) fun _ ↦
          .bind (refreshSale_keeping _) fun _ ↦ .pure _
        exact hs.write hP (.of_insertSale ho h)

theorem recordSale_keeping {shopId : UUID} (p : UUID) (q : ℤ) (recordedBy : String)
    (ho : own shopId) : Keeping (Backend.Holds T P) (recordSale shopId p q recordedBy) :=
  beginNested_keeping (hs.saleBody_keeping p q recordedBy ho)

end Tenancy

/-! ## Sessions of calls -/

/-- The call is for a shop of `own`, or for a product that is one of `own` in
all rows with `P`. -/
def ServiceCall.For (own : UUID → Prop) (P : Database → Prop) : ServiceCall → Prop
  | createShop _ => True
  | updateLocale phone _ => ∀ db, P db → ∀ shop ∈ db.shops, shop.phone = phone → own shop.id
  | createProduct data => own data.shopId
  | recordSale shopId _ _ _ => own shopId
  | updateProduct p _ | deleteProduct p | addStock p _ _ | deductStock p _ _
  | updateThreshold p _ _ => ∀ db, P db → db.Within own p

namespace Tenancy

variable {own : UUID → Prop} {T : Timestamp → Prop} {P : Database → Prop} (hs : Tenancy own P)
include hs

theorem call_keeping (dep : Deployment) {call : ServiceCall} (h : call.For own P) :
    Keeping (Backend.Holds T P) (call.run dep) := by
  cases call with
  | createShop data => exact .bind (hs.createShop_keeping data) fun _ ↦ .pure _
  | updateLocale phone locale => exact .bind (hs.updateLocale_keeping locale h) fun _ ↦ .pure _
  | createProduct data => exact .bind (hs.createProduct_keeping dep data h) fun _ ↦ .pure _
  | updateProduct p data => exact .bind (hs.updateProduct_keeping data h) fun _ ↦ .pure _
  | deleteProduct p => exact hs.deleteProduct_keeping h
  | addStock p q commit => exact .bind (hs.addStock_keeping q commit h) fun _ ↦ .pure _
  | deductStock p q commit => exact .bind (hs.deductStock_keeping q commit h) fun _ ↦ .pure _
  | updateThreshold p n commit => exact .bind (hs.updateThreshold_keeping n commit h) fun _ ↦ .pure _
  | recordSale shopId p q recordedBy =>
      exact .bind (hs.recordSale_keeping p q recordedBy h) fun _ ↦ .pure _

theorem runCalls_keeping (dep : Deployment) {calls : List (ServiceCall × Bool)}
    (h : ∀ entry ∈ calls, entry.1.For own P) :
    Keeping (Backend.Holds T P) (ServiceSession.runCalls dep calls) := by
  induction calls with
  | nil => exact .pure _
  | cons entry calls ih =>
      obtain ⟨hcall, hcalls⟩ := List.forall_mem_cons.mp h
      obtain ⟨call, caught⟩ := entry
      refine .bind ?_ fun _ ↦ ih hcalls
      cases caught
      · exact hs.call_keeping dep hcall
      · exact .tryCatch (hs.call_keeping dep hcall) fun _ ↦ .pure _

/-- What the session leaves committed still has the property. -/
theorem serve (dep : Deployment) {session : ServiceSession} {db : Database} (hP : P db)
    (h : ∀ entry ∈ session.calls, entry.1.For own P) : P (session.serve dep db) := by
  have hstart : (Backend.connect session.env db).Holds (fun _ ↦ True) P := by
    refine ⟨fun _ ↦ trivial, ?_, hP, hP⟩
    intro w hw
    cases hw
  have hbody := hs.runCalls_keeping (T := fun _ ↦ True) dep h
  unfold ServiceSession.serve
  dsimp only
  split
  · exact ((getWorkerDb_keeping hbody).final hstart).committed
  · exact ((getDb_keeping hbody).final hstart).committed

end Tenancy

/-- No session takes a shop away, and none gives it to another phone. -/
theorem owns_of_serve (dep : Deployment) (session : ServiceSession) {db : Database}
    {phone : String} {shopId : UUID} (h : db.Owns phone shopId) :
    (session.serve dep db).Owns phone shopId := by
  have hserve : Confined (fun _ ↦ True) db (session.serve dep db) := by
    apply (tenancy_confined (fun _ ↦ True) db).serve dep (.refl db)
    intro entry _
    cases entry.1 <;> first | trivial | exact fun _ _ _ _ _ ↦ trivial
  exact hserve.owners phone shopId h

end SokoFlow
