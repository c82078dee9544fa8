import SokoFlow.Conversation.Confirmation
import SokoFlow.Reachable
import SokoFlow.Services.Invariants

/-!
# Adding a product

A confirmed product is inserted and committed, read back, and then its opening
stock is inserted, committed and read back.  Everything between the first
commit and the end can fail with the product already there.
-/

namespace SokoFlow

open DbM Effect FlowM ProductService

/-! ## Creating the product -/

variable {dep : Deployment} {data : ProductCreate} {b b' : Backend} {product : Product}
  {db : Database}

/-- The SKU and the id `createProduct` draws, and its statement. -/
def insertion (dep : Deployment) (data : ProductCreate) (b : Backend) :
    Database → Except Exc (Product × Database) :=
  let sku := String.ofList
    (skuInitials dep.unicode data.name ++ '-' :: skuSuffix (b.env.random b.tick))
  Database.insertProduct data.shopId data.name sku data.price (b.env.uuid (b.tick + 1))

/-- The product is inserted and committed. -/
structure Created (dep : Deployment) (data : ProductCreate) (b : Backend) (product : Product)
    (db : Database) : Prop where
  inserted : insertion dep data b b.working = .ok (product, db)
  statement : b.env.statementFault (b.tick + 3) = none
  commit : b.env.commitFault (b.tick + 4) = none

theorem commit_of_fault {text : String} (h : b.env.commitFault b.tick = some text) :
    ∃ b', commit b = .error (.other "OperationalError" text) b' ∧ b'.committed = b.committed := by
  rw [commit_apply, h]
  exact ⟨_, rfl, rfl⟩

/-- A single statement with its commit, by what fails. -/
theorem commitOr_update_cases {α : Type} (run : Database → Except Exc (α × Database))
    (conflict : Exc) (ha : b.aborted = false) :
    (∃ a db, run b.working = .ok (a, db) ∧ b.env.statementFault (b.tick + 1) = none ∧
        b.env.commitFault (b.tick + 2) = none ∧
        commitOr (update run) conflict b =
          .ok a { b with tick := b.tick + 3, working := db, committed := db, began := none }) ∨
      ((b.env.statementFault (b.tick + 1) = none → b.env.commitFault (b.tick + 2) = none →
          ∀ a db, run b.working ≠ .ok (a, db)) ∧
        ∃ e b', commitOr (update run) conflict b = .error e b' ∧ b'.committed = b.committed) := by
  cases hu : update run b with
  | ok a b₁ =>
      obtain ⟨-, hf, db, hr, rfl⟩ := update_eq_ok.mp hu
      cases hc : b.env.commitFault (b.tick + 2) with
      | none =>
          refine .inl ⟨a, db, hr, hf, rfl, ?_⟩
          have hcommit : commit { b.served with working := db } = .ok ()
              { b with tick := b.tick + 3, working := db, committed := db, began := none } := by
            rw [commit_apply]
            simp [Backend.served, hc, ha]
          exact tryCatch_of_ok ((bind_of_ok hu).trans (bind_of_ok hcommit))
      | some text =>
          obtain ⟨b', hcommit, hcommitted⟩ := commit_of_fault (b := { b.served with working := db }) hc
          refine .inr ⟨fun _ hn ↦ (by cases hn), .other "OperationalError" text, b', ?_, hcommitted⟩
          exact (tryCatch_of_error ((bind_of_ok hu).trans (bind_of_error hcommit))).trans rfl
  | error e b₁ =>
      refine .inr ⟨fun hf _ a db hr ↦ ?_, ?_⟩
      · rw [update_eq_ok.mpr ⟨ha, hf, db, hr, rfl⟩] at hu
        cases hu
      · have hcommitted := (update_error hu).1.committed
        have htry : commitOr (update run) conflict b = _ := tryCatch_of_error (bind_of_error hu)
        cases e with
        | integrityError text => exact ⟨_, _, htry.trans rfl, hcommitted⟩
        | _ => exact ⟨_, _, htry.trans rfl, hcommitted⟩

/-- The session when the insert comes. -/
def Backend.drawn (b : Backend) : Backend := { b with tick := b.tick + 2 }

theorem createProduct_apply (dep : Deployment) (data : ProductCreate) (b : Backend) :
    ∃ conflict, createProduct dep data b =
      (commitOr (update (insertion dep data b)) conflict >>= fun p ↦ refreshProduct p.id) b.drawn :=
  ⟨_, rfl⟩

theorem createProduct_not_created (h : ∀ product db, ¬ Created dep data b product db)
    (ha : b.aborted = false) :
    ∃ e b', createProduct dep data b = .error e b' ∧ b'.committed = b.committed := by
  obtain ⟨conflict, happly⟩ := createProduct_apply dep data b
  rw [happly]
  rcases commitOr_update_cases (b := b.drawn) (insertion dep data b) conflict ha with ⟨p, db, hr, hf, hc, -⟩ | ⟨-, e, b', he, hcommitted⟩
  · exact absurd ⟨hr, hf, hc⟩ (h p db)
  · exact ⟨e, b', bind_of_error he, hcommitted⟩

/-- The product is committed before it is read back. -/
theorem createProduct_created (h : Created dep data b product db) (ha : b.aborted = false) :
    (b.env.statementFault (b.tick + 6) = none → ∃ b', createProduct dep data b = .ok product b' ∧
      Backend.Landed true db b b' ∧ b'.tick = b.tick + 7) ∧
    (b.env.statementFault (b.tick + 6) ≠ none → ∃ e b', createProduct dep data b = .error e b' ∧
      b'.committed = db) := by
  obtain ⟨conflict, happly⟩ := createProduct_apply dep data b
  rw [happly]
  rcases commitOr_update_cases (b := b.drawn) (insertion dep data b) conflict ha with ⟨p, db', hr, hf, hc, hcommit⟩ | ⟨hnot, -⟩
  · cases hr.symm.trans h.inserted
    rw [bind_of_ok hcommit]
    have hfound : db.product product.id = some product := by
      apply Database.product_of_mem
      rw [(Database.insertProduct_ok h.inserted).1]
      exact List.mem_append_right _ (List.mem_singleton_self _)
    generalize hb₁ : ({ b.drawn with
      tick := b.drawn.tick + 3
      working := db
      committed := db
      began := none } : Backend) = b₁
    have hw : b₁.working = db := by rw [← hb₁]
    constructor
    · intro hread
      have hs : select (fun db ↦ db.product product.id) b₁ = .ok (some product) b₁.served := by
        refine select_eq_ok.mpr ⟨?_, ?_, ?_, rfl⟩
        · rw [← hb₁]
          exact ha
        · rw [← hb₁]
          exact hread
        · rw [hw, hfound]
      refine ⟨b₁.served, (bind_of_ok hs).trans rfl, ?_, ?_⟩
      · rw [← hb₁]
        exact ⟨rfl, rfl, rfl, rfl, ha⟩
      · rw [← hb₁]
        rfl
    · intro hread
      obtain ⟨text, htext⟩ := Option.ne_none_iff_exists'.mp hread
      have hs : select (fun db ↦ db.product product.id) b₁ =
          .error (.other "OperationalError" text) { b₁.served with aborted := true } := by
        rw [select, execute_apply]
        have ha₁ : b₁.aborted = false := by
          rw [← hb₁]
          exact ha
        have hf₁ : b₁.env.statementFault (b₁.tick + 1) = some text := by
          rw [← hb₁]
          exact htext
        rw [if_neg (by simp [ha₁]), hf₁]
      refine ⟨_, _, bind_of_error hs, ?_⟩
      rw [← hb₁]
      rfl
  · exact absurd h.inserted (hnot h.statement h.commit product db)

/-- An exception after a handler of `IntegrityError`. -/
def afterHandler (conflict : Exc) : Exc → Exc
  | .integrityError _ => conflict
  | e => e

/-- Without faults a refused statement raises what its handler makes of it. -/
theorem commitOr_update_calm_error {α : Type} {run : Database → Except Exc (α × Database)}
    {e : Exc} (conflict : Exc) (hr : run b.working = .error e) (hf : b.env.Faultless)
    (ha : b.aborted = false) :
    ∃ b', commitOr (update run) conflict b = .error (afterHandler conflict e) b' ∧
      b'.committed = b.committed := by
  obtain ⟨b₁, h₁, hu₁⟩ := update_calm_error hr hf ha
  have htry : commitOr (update run) conflict b = _ := tryCatch_of_error (bind_of_error h₁)
  cases e with
  | integrityError text => exact ⟨_, htry.trans rfl, hu₁.committed⟩
  | _ => exact ⟨_, htry.trans rfl, hu₁.committed⟩

theorem createProduct_calm (hf : b.env.Faultless) (ha : b.aborted = false)
    (hr : insertion dep data b b.working = .ok (product, db)) :
    ∃ b', createProduct dep data b = .ok product b' ∧ b'.committed = db := by
  have hcreated : Created dep data b product db := ⟨hr, hf.statement _, hf.commit _⟩
  obtain ⟨b', h, hl, -⟩ := (createProduct_created hcreated ha).1 (hf.statement _)
  exact ⟨b', h, hl.committed⟩

theorem createProduct_calm_error {e : Exc} (hf : b.env.Faultless) (ha : b.aborted = false)
    (hr : insertion dep data b b.working = .error e) :
    ∃ b', createProduct dep data b = .error
      (afterHandler (.resourceAlreadyExists "Product" "SKU" (String.ofList
        (skuInitials dep.unicode data.name ++ '-' :: skuSuffix (b.env.random b.tick)))) e) b' ∧
          b'.committed = b.committed := by
  obtain ⟨b', h, hc⟩ := commitOr_update_calm_error (b := b.drawn) _ hr hf ha
  refine ⟨b', ?_, hc⟩
  change (commitOr _ _ >>= fun p : Product ↦ refreshProduct p.id) b.drawn = _
  exact bind_of_error h

/-! ## Its opening stock -/

theorem InventoryValid.append {products : List Product} {inventory : List Inventory}
    (row : Inventory) (h : InventoryValid products inventory) (hfits : row.Fits)
    (hid : row.id ∉ inventory.map (·.id)) (hunique : row.productId ∉ inventory.map (·.productId))
    (hproduct : row.productId ∈ products.map (·.id)) (hquantity : 0 ≤ row.quantity)
    (hthreshold : 0 ≤ row.lowStockThreshold ∧ row.lowStockThreshold ≤ 1000) :
    InventoryValid products (inventory ++ [row]) := by
  have hall {Q : Inventory → Prop} (hold : ∀ r ∈ inventory, Q r) (hnew : Q row) :
      ∀ r ∈ inventory ++ [row], Q r :=
    List.forall_mem_append.mpr ⟨hold, fun r hr ↦ List.mem_singleton.mp hr ▸ hnew⟩
  have hnodup {β : Type} {f : Inventory → β} (hold : (inventory.map f).Nodup)
      (hnew : f row ∉ inventory.map f) : ((inventory ++ [row]).map f).Nodup := by
    rw [List.map_append, List.map_singleton]
    refine List.nodup_append.mpr ⟨hold, List.nodup_singleton _, fun x hx y hy hxy ↦ hnew ?_⟩
    rwa [← List.mem_singleton.mp hy, ← hxy]
  exact ⟨hall h.fits hfits, hnodup h.ids hid, hnodup h.unique hunique,
    hall h.product hproduct, hall h.quantity hquantity, hall h.threshold hthreshold⟩

/-- A product without a row gets one, if the quantity fits its column. -/
theorem addStock_new_iff {productId : UUID} (id : UUID) {quantity : ℤ} (hq : 0 < quantity)
    (hp : productId ∈ db.products.map (·.id)) (hnone : db.inventoryOf productId = none) :
    (∃ row db', Database.addStock productId quantity id db = .ok (row, db')) ↔
      FitsInt quantity := by
  unfold Database.addStock
  rw [hnone]
  dsimp only
  constructor
  · rintro ⟨row, db', h⟩
    exact (Database.write_eq_ok.mp h).1.1
  · intro hfits
    have habsent : productId ∉ db.inventory.map (·.productId) := by
      intro hmem
      obtain ⟨row, hrow, hid⟩ := List.mem_map.mp hmem
      exact Table.lookup_eq_none.mp hnone row hrow hid
    have hfive : FitsInt 5 := by decide
    have hi := db.valid.inventory.append
      ⟨Database.freshId (db.inventory.map (·.id)) id, productId, quantity, 5⟩
      ⟨hfits, hfive⟩ (Database.freshId_notMem _ _) habsent hp hq.le (by simp)
    have hv : Rows.Valid { db.toRows with inventory := db.inventory ++
        [⟨Database.freshId (db.inventory.map (·.id)) id, productId, quantity, 5⟩] } :=
      ⟨db.valid.shops, db.valid.products, hi, db.valid.sales⟩
    exact ⟨_, _, Database.write_of_valid ⟨hfits, hfive⟩ hv⟩

theorem finalizeInventory_returns_iff {row : Inventory} (ha : b.aborted = false)
    (hi : Table.lookup Inventory.id row.id b.working.inventory = some row) :
    (∃ i b', InventoryService.finalizeInventory row (pure ()) true b = .ok i b') ↔
      b.env.commitFault b.tick = none ∧ b.env.statementFault (b.tick + 2) = none := by
  constructor
  · rintro ⟨i, b', h⟩
    unfold InventoryService.finalizeInventory at h
    rcases tryCatch_eq_ok.mp h with h | ⟨e, b₁, -, h⟩
    · obtain ⟨_, b₁, h₁, h⟩ := bind_eq_ok.mp h
      cases h₁
      obtain ⟨_, b₂, h₂, h⟩ := bind_eq_ok.mp h
      obtain ⟨found, b₃, h₃, -⟩ := bind_eq_ok.mp h
      obtain ⟨-, hread, -, -⟩ := select_eq_ok.mp h₃
      rw [if_pos rfl, commit_apply] at h₂
      split at h₂
      · cases h₂
      · rename_i hcommit
        rw [ha] at h₂
        cases h₂
        exact ⟨hcommit, hread⟩
    · obtain ⟨_, b₂, _, h⟩ := bind_eq_ok.mp h
      cases h
  · rintro ⟨hcommit, hread⟩
    obtain ⟨b₁, hc, hs⟩ : ∃ b₁, commit b = .ok () b₁ ∧
        select (fun db ↦ Table.lookup Inventory.id row.id db.inventory) b₁ =
          .ok (some row) b₁.served := by
      refine ⟨{ b with tick := b.tick + 1, committed := b.working, began := none }, ?_,
        select_eq_ok.mpr ⟨ha, hread, hi.symm, rfl⟩⟩
      rw [commit_apply, hcommit, ha]
      rfl
    refine ⟨row, b₁.served, tryCatch_of_ok ?_⟩
    rw [bind_of_ok (pure_apply () b), if_pos rfl, bind_of_ok hc]
    exact (bind_of_ok hs).trans rfl

theorem addStock_returns_iff {productId : UUID} {quantity : ℤ} (hq : 0 < quantity)
    (ha : b.aborted = false) (hp : productId ∈ b.working.products.map (·.id))
    (hnone : b.working.inventoryOf productId = none) :
    (∃ row b', InventoryService.addStock productId quantity true b = .ok row b') ↔
      b.env.statementFault (b.tick + 2) = none ∧ FitsInt quantity ∧
        b.env.commitFault (b.tick + 3) = none ∧ b.env.statementFault (b.tick + 5) = none := by
  unfold InventoryService.addStock
  rw [bind_of_ok (ask_apply _ _)]
  constructor
  · rintro ⟨row, b', h⟩
    obtain ⟨written, b₁, h₁, h⟩ := bind_eq_ok.mp h
    obtain ⟨-, hf, db, hr, rfl⟩ := update_eq_ok.mp h₁
    have hfits := (addStock_new_iff (b.env.uuid b.tick) hq hp hnone).mp ⟨_, _, hr⟩
    have hrow := (Database.addStock_ok hr).2.row
    obtain ⟨hcommit, hread⟩ := (finalizeInventory_returns_iff (by exact ha)
      (Database.lookup_id_of_inventoryOf hrow)).mp ⟨row, b', h⟩
    exact ⟨hf, hfits, hcommit, hread⟩
  · rintro ⟨hf, hfits, hcommit, hread⟩
    obtain ⟨written, db, hr⟩ := (addStock_new_iff (b.env.uuid b.tick) hq hp hnone).mpr hfits
    generalize hb₁ : ({ b with tick := b.tick + 1 } : Backend) = b₁
    have hu : update (Database.addStock productId quantity (b.env.uuid b.tick)) b₁ =
        .ok written { b₁.served with working := db } := by
      subst hb₁
      exact update_eq_ok.mpr ⟨ha, hf, db, hr, rfl⟩
    have hrow := (Database.addStock_ok hr).2.row
    have hgo : ({ b₁.served with working := db } : Backend).aborted = false ∧
        b₁.env.commitFault (b₁.tick + 2) = none ∧ b₁.env.statementFault (b₁.tick + 4) = none := by
      subst hb₁
      exact ⟨ha, hcommit, hread⟩
    obtain ⟨row, b', h⟩ := (finalizeInventory_returns_iff hgo.1
      (Database.lookup_id_of_inventoryOf hrow)).mpr hgo.2
    exact ⟨row, b', (bind_of_ok hu).trans h⟩

theorem addStock_products (products : List Product) (productId : UUID) (quantity : ℤ) :
    Keeping (Backend.Holds (fun _ ↦ True) fun db ↦ db.products = products)
      (InventoryService.addStock productId quantity true) := by
  refine .bind (ask_keeping _) fun id ↦ .bind (update_keeping fun db row db' hdb h ↦ ?_) fun row ↦
    finalizeInventory_keeping true (.pure _)
  exact (Database.addStock_ok h).2.products.trans hdb

/-! ## Product and stock together -/

namespace AddProductFlow

/-- What follows the commit of the product goes well: it is read back, and its
stock, if there is any, is inserted, committed and read back. -/
structure Stocked (b : Backend) (quantity : ℤ) : Prop where
  product : b.env.statementFault (b.tick + 6) = none
  stock : 0 < quantity → b.env.statementFault (b.tick + 9) = none ∧ FitsInt quantity ∧
    b.env.commitFault (b.tick + 10) = none ∧ b.env.statementFault (b.tick + 12) = none

theorem createStocked_apply (data : ProductCreate) (quantity : ℤ) :
    createStocked dep data.shopId data.name data.price quantity =
      createProduct dep data >>= fun product ↦
        if 0 < quantity then do
          let _ ← InventoryService.addStock product.id quantity
        else pure () := by
  unfold createStocked
  rw [dif_pos data.positive]

theorem createStocked_not_created {quantity : ℤ}
    (h : ∀ product db, ¬ Created dep data b product db) (ha : b.aborted = false) :
    ∃ e b', createStocked dep data.shopId data.name data.price quantity b = .error e b' ∧
      b'.committed = b.committed := by
  obtain ⟨e, b', he, hcommitted⟩ := createProduct_not_created h ha
  rw [createStocked_apply]
  exact ⟨e, b', bind_of_error he, hcommitted⟩

/-- The rows a product and its opening stock lead to. -/
structure Opened (product : Product) (quantity : ℤ) (db db' : Database) : Prop where
  products : db'.products = db.products ++ [product]
  stock : db'.stock product.id = quantity
  others : ∀ p, p ≠ product.id → db'.inventoryOf p = db.inventoryOf p

theorem insertion_rows (h : Created dep data b product db) :
    db.products = b.working.products ++ [product] ∧ db.inventory = b.working.inventory ∧
      product.id ∈ db.products.map (·.id) ∧ db.inventoryOf product.id = none := by
  obtain ⟨hrows, -, -, -, -, hnew⟩ := Database.insertProduct_ok h.inserted
  have hproducts : db.products = b.working.products ++ [product] := by rw [hrows]
  have hinventory : db.inventory = b.working.inventory := by rw [hrows]
  refine ⟨hproducts, hinventory, ?_, ?_⟩
  · rw [hproducts]
    exact List.mem_map_of_mem (List.mem_append_right _ (List.mem_singleton_self _))
  · refine Table.lookup_eq_none.mpr fun row hrow hid ↦ hnew ?_
    rw [hinventory] at hrow
    exact hid ▸ b.working.valid.inventory.product row hrow

theorem createStocked_stocked {quantity : ℤ} (h : Created dep data b product db)
    (ha : b.aborted = false) (hq : 0 ≤ quantity) (hs : Stocked b quantity) :
    ∃ b', createStocked dep data.shopId data.name data.price quantity b = .ok () b' ∧
      Opened product quantity b.working b'.committed := by
  obtain ⟨hproducts, hinventory, hmem, hnone⟩ := insertion_rows h
  obtain ⟨b₁, h₁, hl, htick⟩ := (createProduct_created h ha).1 hs.product
  have hothers : ∀ p, db.inventoryOf p = b.working.inventoryOf p := fun p ↦ by
    rw [Database.inventoryOf, Database.inventoryOf, hinventory]
  have hcommitted : b₁.committed = db := hl.committed
  rw [createStocked_apply]
  by_cases hpos : 0 < quantity
  · obtain ⟨hf, hfits, hcommit, hread⟩ := hs.stock hpos
    obtain ⟨row, b₂, h₂⟩ := (addStock_returns_iff hpos hl.aborted (by rwa [hl.working])
      (by rwa [hl.working])).mpr (by
        rw [hl.env, htick]
        exact ⟨hf, hfits, hcommit, hread⟩)
    obtain ⟨db', hl₂, hrow, hw⟩ := InventoryService.addStock_ok h₂
    rw [hl.working] at hrow hw
    refine ⟨b₂, (bind_of_ok h₁).trans ?_, ?_⟩
    · rw [if_pos hpos]
      exact (bind_of_ok h₂).trans rfl
    · rw [hl₂.committed, if_pos rfl]
      refine ⟨hw.products.trans hproducts, ?_, fun p hp ↦ (hw.others p hp).trans (hothers p)⟩
      rw [Database.stock_of_inventoryOf hw.row, hrow, Database.stock, hnone]
      exact zero_add _
  · refine ⟨b₁, (bind_of_ok h₁).trans (by rw [if_neg hpos]; rfl), ?_⟩
    rw [hcommitted]
    refine ⟨hproducts, ?_, fun p _ ↦ hothers p⟩
    rw [Database.stock, hnone]
    exact le_antisymm hq (not_lt.mp hpos)

/-- Once the product is committed, a failure leaves it there. -/
theorem createStocked_not_stocked {quantity : ℤ} (h : Created dep data b product db)
    (ha : b.aborted = false) (hs : ¬ Stocked b quantity) :
    ∃ e b', createStocked dep data.shopId data.name data.price quantity b = .error e b' ∧
      b'.committed.products = b.working.products ++ [product] := by
  obtain ⟨hproducts, -, hmem, hnone⟩ := insertion_rows h
  rw [createStocked_apply]
  by_cases hread : b.env.statementFault (b.tick + 6) = none
  · obtain ⟨b₁, h₁, hl, htick⟩ := (createProduct_created h ha).1 hread
    have hpos : 0 < quantity := by
      by_contra hnot
      exact hs ⟨hread, fun hpos ↦ absurd hpos hnot⟩
    cases h₂ : InventoryService.addStock product.id quantity true b₁ with
    | ok row b₂ =>
        have hgood := (addStock_returns_iff hpos hl.aborted (by rwa [hl.working])
          (by rwa [hl.working])).mp ⟨row, b₂, h₂⟩
        rw [hl.env, htick] at hgood
        exact absurd ⟨hread, fun _ ↦ hgood⟩ hs
    | error e b₂ =>
        refine ⟨e, b₂, (bind_of_ok h₁).trans ?_, ?_⟩
        · rw [if_pos hpos]
          exact bind_of_error h₂
        · have hb₁ : b₁.Holds (fun _ ↦ True) fun db ↦ db.products = b.working.products ++ [product] := by
            refine ⟨fun _ ↦ trivial, fun _ _ ↦ trivial, ?_, ?_⟩
            · rw [hl.working]
              exact hproducts
            · rw [hl.committed]
              exact hproducts
          exact ((addStock_products _ _ _).raises b₁ e b₂ hb₁ h₂).committed
  · obtain ⟨e, b₁, h₁, hcommitted⟩ := (createProduct_created h ha).2 hread
    exact ⟨e, b₁, bind_of_error h₁, hcommitted ▸ hproducts⟩

/-! ## The shop -/

theorem getShopId_keeping {T : Timestamp → Prop} {P : Database → Prop}
    (hP : ∀ db db', P db → db.SameGoods db' → P db') (sender : String) :
    Keeping (Backend.Holds T P) (getShopId sender) := by
  refine .bind (select_keeping _) fun found ↦ ?_
  cases found with
  | some shop => exact .pure _
  | none =>
      refine .bind (ask_keeping _) fun id ↦ .bind (update_keeping fun db shop db' hdb h ↦ ?_)
        fun shop ↦ .bind commit_keeping fun _ ↦ .bind (select_keeping _) fun again ↦ ?_
      · obtain ⟨hrows, -⟩ := Database.insertShop_ok h
        exact hP db db' hdb ⟨by rw [hrows], by rw [hrows], by rw [hrows]⟩
      · cases again with
        | some shop => exact .pure _
        | none => exact .throw _

/-- The rows are those of the database, but for new shops. -/
abbrev ShopsOnly (db : Database) (b : Backend) : Prop := b.Holds (fun _ ↦ True) db.SameGoods

theorem shopOfSession_keeping (db : Database) :
    Keeping (fun t : Turn ↦ ShopsOnly db t.backend) shopOfSession := by
  refine .bind (.reads fun _ ht ↦ ht) fun s ↦ ?_
  cases s.context.shopId with
  | some shopId => exact .pure _
  | none =>
      refine .bind ?_ fun _ ↦ .bind (.modify fun _ ht ↦ ht) fun _ ↦ .pure _
      have hk := getShopId_keeping (T := fun _ ↦ True) (P := db.SameGoods)
        (fun _ _ ↦ Database.SameGoods.trans) s.phone
      constructor
      · intro t shopId t' ht h
        obtain ⟨b, hb, rfl⟩ := zoom_eq_ok.mp h
        exact hk.returns _ _ _ ht hb
      · intro t e t' ht h
        obtain ⟨b, hb, rfl⟩ := zoom_eq_error.mp h
        exact hk.raises _ _ _ ht hb

/-- The shop is looked up in a transaction that can go on. -/
theorem shopOfSession_goes_on {t t' : Turn} {shopId : UUID} (h : shopOfSession t = .ok shopId t')
    (ha : t.backend.aborted = false) :
    t'.backend.aborted = false ∧ t'.backend.env = t.backend.env := by
  unfold shopOfSession at h
  rw [session_bind] at h
  cases hs : t.session.context.shopId with
  | some id =>
      rw [hs] at h
      cases h
      exact ⟨ha, rfl⟩
  | none =>
      rw [hs] at h
      obtain ⟨id, b, hb, h⟩ := onDb_bind_ok h
      cases h
      obtain ⟨-, -, henv, -, hab, -⟩ := getShopId_ok hb
      exact ⟨hab, henv⟩

/-! ## The message -/

/-- The message returns at `IDLE` with the product and its opening stock. -/
def Added (s : UserSession) (db : Database) (r : EStateM.Result Exc Turn FSMResult) : Prop :=
  ∃ result t product quantity, r = .ok result t ∧ t.session.state = .IDLE ∧
    some product.name = s.context.productName ∧ some product.price = s.context.productPrice ∧
    some quantity = s.context.productQty ∧ Opened product quantity db t.backend.committed

/-- Either that, or products and stock are as they were. -/
def AllOrNothing (s : UserSession) (db : Database) (r : EStateM.Result Exc Turn FSMResult) : Prop :=
  Added s db r ∨ (final r).backend.committed.products = db.products ∧
    (final r).backend.committed.inventory = db.inventory

/-- The user confirms, the shop is found and the product committed, and then
something fails. -/
def LeavesHalf (dep : Deployment) (text : String) (t : Turn) : Prop :=
  Confirms dep text ∧ ∃ (data : ProductCreate) (quantity : ℤ) (t₁ : Turn) (product : Product)
    (db : Database), some data.name = t.session.context.productName ∧
      some data.price = t.session.context.productPrice ∧
      some quantity = t.session.context.productQty ∧ shopOfSession t = .ok data.shopId t₁ ∧
      Created dep data t₁.backend product db ∧ ¬ Stocked t₁.backend quantity

variable {text : String} {t : Turn}

theorem handleConfirm_of_confirms {name : String} {price : ℚ} {quantity : ℤ}
    (hc : Confirms dep text) (hname : t.session.context.productName = some name)
    (hprice : t.session.context.productPrice = some price)
    (hqty : t.session.context.productQty = some quantity) :
    handleConfirm dep text t = (persistProductDb dep name price quantity >>= fun _ ↦ do
      transition .IDLE
      clearContextPreservingHistory
      buildResult t.session.state .PRODUCT_ADDED (productParams name price quantity)) t := by
  have hc' : parseConfirmation dep.unicode text = .ok true := hc
  unfold handleConfirm
  rw [session_bind, hname, hprice, hqty, hc']
  rfl

theorem untouched_of_not_confirms (hstate : t.session.state = .CONFIRM_ADD_PRODUCT)
    (hc : ¬ Confirms dep text) :
    Backend.Untouched t.backend (final (FSMEngine.processMessage dep text t)).backend := by
  cases ho : FSMEngine.isOverride dep text with
  | true =>
      unfold FSMEngine.processMessage
      rw [session_bind, if_pos ho]
      exact ⟨rfl, rfl, rfl, rfl⟩
  | false =>
      cases hp : parseConfirmation dep.unicode text with
      | ok isConfirmed =>
          cases isConfirmed with
          | true => exact absurd hp hc
          | false =>
              obtain ⟨r, t', hr, hu⟩ : ∃ r t', FSMEngine.handler dep t.session.state text t = .ok r t' ∧
                  Backend.Untouched t.backend t'.backend := by
                rw [hstate]
                change ∃ r t', handleConfirm dep text t = .ok r t' ∧ _
                unfold handleConfirm
                rw [session_bind, hp]
                exact ⟨_, _, rfl, ⟨rfl, rfl, rfl, rfl⟩⟩
              rw [FSMEngine.processMessage_of_ok ho hr]
              exact hu
      | error e =>
          have hr : FSMEngine.handler dep t.session.state text t = .error e t := by
            rw [hstate]
            change handleConfirm dep text t = _
            unfold handleConfirm
            rw [session_bind, hp]
            rfl
          cases hi : e.isInvalidInput with
          | false =>
              rw [FSMEngine.processMessage_of_error ho hr hi]
              exact refl_of Backend.Untouched _
          | true =>
              cases e with
              | invalidInput message key params =>
                  rw [FSMEngine.processMessage_of_invalid ho hr]
                  exact FSMEngine.onInvalidInput_untouched _ _ _ _ _ _
              | _ => cases hi

theorem persist_of_error {name : String} {price : ℚ} {quantity : ℤ} {shopId : UUID} {t₁ : Turn}
    {e : Exc} (hshop : shopOfSession t = .ok shopId t₁)
    (h : createStocked dep shopId name price quantity t₁.backend = .error e b') :
    persistProductDb dep name price quantity t = .error e { t₁ with backend := b' } := by
  unfold persistProductDb
  rw [bind_of_ok hshop]
  exact zoom_eq_error.mpr ⟨b', h, rfl⟩

/-- A failure of a confirmed product escapes the engine. -/
theorem processMessage_of_persist_error {name : String} {price : ℚ} {quantity : ℤ} {t' : Turn}
    {e : Exc} (hstate : t.session.state = .CONFIRM_ADD_PRODUCT) (hc : Confirms dep text)
    (hname : t.session.context.productName = some name)
    (hprice : t.session.context.productPrice = some price)
    (hqty : t.session.context.productQty = some quantity)
    (h : persistProductDb dep name price quantity t = .error e t')
    (hi : e.isInvalidInput = false) : FSMEngine.processMessage dep text t = .error e t' := by
  refine FSMEngine.processMessage_of_error hc.not_override ?_ hi
  rw [hstate]
  change handleConfirm dep text t = _
  rw [handleConfirm_of_confirms hc hname hprice hqty, bind_of_error h]

/-- A confirmed product that is there ends the flow. -/
theorem processMessage_of_persist {name : String} {price : ℚ} {quantity : ℤ} {t₁ : Turn}
    (hstate : t.session.state = .CONFIRM_ADD_PRODUCT) (hc : Confirms dep text)
    (hname : t.session.context.productName = some name)
    (hprice : t.session.context.productPrice = some price)
    (hqty : t.session.context.productQty = some quantity)
    (h : persistProductDb dep name price quantity t = .ok () t₁) :
    ∃ r t', FSMEngine.processMessage dep text t = .ok r t' ∧ t'.session.state = .IDLE ∧
      t'.backend.committed = t₁.backend.committed := by
  obtain ⟨r, t', hr, hidle, hcommitted⟩ : ∃ r t',
      FSMEngine.handler dep t.session.state text t = .ok r t' ∧ t'.session.state = .IDLE ∧
        t'.backend.committed = t₁.backend.committed := by
    rw [hstate]
    change ∃ r t', handleConfirm dep text t = .ok r t' ∧ _
    rw [handleConfirm_of_confirms hc hname hprice hqty, bind_of_ok h]
    exact ⟨_, _, rfl, rfl, rfl⟩
  exact ⟨r, _, FSMEngine.processMessage_of_ok hc.not_override hr, hidle, hcommitted⟩

/-- What may be left half done is the product of the session, in the shop that
was found. -/
theorem leavesHalf_iff {name : ProductName} {price : Price} {quantity : { n : ℤ // 0 ≤ n }}
    {shopId : UUID} {t₁ : Turn} (hc : Confirms dep text)
    (hname : t.session.context.productName = some name.val)
    (hprice : t.session.context.productPrice = some price.val)
    (hqty : t.session.context.productQty = some quantity.val)
    (hshop : shopOfSession t = .ok shopId t₁) :
    LeavesHalf dep text t ↔ ∃ product db,
      Created dep ⟨name.val, price.val, shopId, price.property.1⟩ t₁.backend product db ∧
        ¬ Stocked t₁.backend quantity.val := by
  constructor
  · rintro ⟨-, ⟨n, p, shop, hpos⟩, q, t₂, product, db, hn, hp, hq, hfound, hcr, hns⟩
    rw [hname, Option.some.injEq] at hn
    rw [hprice, Option.some.injEq] at hp
    rw [hqty, Option.some.injEq] at hq
    cases hshop.symm.trans hfound
    obtain rfl : n = name.val := hn
    obtain rfl : p = price.val := hp
    obtain rfl : q = quantity.val := hq
    exact ⟨product, db, hcr, hns⟩
  · rintro ⟨product, db, hcr, hns⟩
    exact ⟨hc, _, _, t₁, product, db, hname.symm, hprice.symm, hqty.symm, hshop, hcr, hns⟩

theorem all_or_nothing_of_confirms {s : UserSession} {env : Env} {name : ProductName}
    {price : Price} {quantity : { n : ℤ // 0 ≤ n }}
    (hs : Dialogue.Shows s (.confirmAdd name price quantity)) (hc : Confirms dep text) :
    let t : Turn := ⟨s, .connect env db⟩
    AllOrNothing s db (FSMEngine.processMessage dep text t) ↔ ¬ LeavesHalf dep text t := by
  intro t
  have hname : t.session.context.productName = some name.val := congrArg (·.productName) hs.content
  have hprice : t.session.context.productPrice = some price.val :=
    congrArg (·.productPrice) hs.content
  have hqty : t.session.context.productQty = some quantity.val := congrArg (·.productQty) hs.content
  have hfails {e : Exc} {t' : Turn} := @processMessage_of_persist_error dep text t name.val
    price.val quantity.val t' e hs.state hc hname hprice hqty
  have hstart : ShopsOnly db t.backend :=
    ⟨fun _ ↦ trivial, fun _ _ ↦ trivial, .refl db, .refl db⟩
  cases hshop : shopOfSession t with
  | error e t₁ =>
      have hp : persistProductDb dep name.val price.val quantity.val t = .error e t₁ :=
        bind_of_error hshop
      rw [hfails hp (shopOfSession_silent t e t₁ hshop)]
      have hrows := ((shopOfSession_keeping db).raises t e t₁ hstart hshop).committed
      refine iff_of_true (.inr ⟨hrows.products, hrows.inventory⟩) ?_
      rintro ⟨-, data, q, t₂, product, db', -, -, -, hfound, -⟩
      rw [hshop] at hfound
      cases hfound
  | ok shopId t₁ =>
      have hheld : ShopsOnly db t₁.backend :=
        (shopOfSession_keeping db).returns t shopId t₁ hstart hshop
      have ha : t₁.backend.aborted = false := (shopOfSession_goes_on hshop rfl).1
      rw [leavesHalf_iff hc hname hprice hqty hshop]
      by_cases hcreated : ∃ product db', Created dep
          ⟨name.val, price.val, shopId, price.property.1⟩ t₁.backend product db'
      · obtain ⟨product, db', hcr⟩ := hcreated
        have hproducts : t₁.backend.working.products ++ [product] = db.products ++ [product] := by
          rw [hheld.working.products]
        by_cases hstocked : Stocked t₁.backend quantity.val
        · have hnot : ¬ ∃ product db', Created dep ⟨name.val, price.val, shopId, price.property.1⟩
              t₁.backend product db' ∧ ¬ Stocked t₁.backend quantity.val := by
            rintro ⟨-, -, -, hns⟩
            exact hns hstocked
          refine iff_of_true (.inl ?_) hnot
          obtain ⟨b', hok, hopened⟩ := createStocked_stocked hcr ha quantity.property hstocked
          have hp : persistProductDb dep name.val price.val quantity.val t =
              .ok () { t₁ with backend := b' } := by
            unfold persistProductDb
            rw [bind_of_ok hshop]
            exact zoom_eq_ok.mpr ⟨b', hok, rfl⟩
          obtain ⟨r, t', hr, hidle, hcommitted⟩ :=
            processMessage_of_persist hs.state hc hname hprice hqty hp
          obtain ⟨-, -, hn, -, hround, -⟩ := Database.insertProduct_ok hcr.inserted
          refine ⟨r, t', product, quantity.val, hr, hidle, ?_, ?_, hqty.symm, ?_⟩
          · rw [hn]
            exact hname.symm
          · rw [hround, price.property.2]
            exact hprice.symm
          · rw [hcommitted]
            refine ⟨hopened.products.trans hproducts, hopened.stock, fun p hne ↦ ?_⟩
            apply (hopened.others p hne).trans
            rw [Database.inventoryOf, Database.inventoryOf, hheld.working.inventory]
        · obtain ⟨e, b', he, hcommitted⟩ := createStocked_not_stocked hcr ha hstocked
          rw [hfails (persist_of_error hshop he) (createStocked_silent he)]
          refine iff_of_false ?_ (not_not.mpr ⟨product, db', hcr, hstocked⟩)
          rintro (⟨result, t', product', q, hok, -⟩ | ⟨hsame, -⟩)
          · cases hok
          · have hlen := congrArg List.length ((hcommitted.trans hproducts).symm.trans hsame)
            simp at hlen
      · obtain ⟨e, b', he, hcommitted⟩ :=
          createStocked_not_created (fun product db' h ↦ hcreated ⟨product, db', h⟩) ha
        rw [hfails (persist_of_error hshop he) (createStocked_silent he)]
        have hrows : db.SameGoods b'.committed := hcommitted ▸ hheld.committed
        refine iff_of_true (.inr ⟨hrows.products, hrows.inventory⟩) ?_
        rintro ⟨product, db', hcr, -⟩
        exact hcreated ⟨product, db', hcr⟩

/-- In any conversation that comes to the confirmation, and whatever fails, the
reply adds the product with its stock or nothing, unless something fails after
the product is committed. -/
theorem add_product_all_or_nothing_iff (dep : Deployment) (phone : String)
    (visits : List (Backend × String)) (env : Env) (db : Database) (text : String)
    (hstate : (talk dep (UserSession.fresh phone) visits).state = .CONFIRM_ADD_PRODUCT) :
    let s := talk dep (UserSession.fresh phone) visits
    let t : Turn := ⟨s, .connect env db⟩
    AllOrNothing s db (FSMEngine.processMessage dep text t) ↔ ¬ LeavesHalf dep text t := by
  intro s t
  by_cases hc : Confirms dep text
  · obtain ⟨p, hs⟩ : ∃ p, Dialogue.Shows s p :=
      talk_shows ⟨.idle, Dialogue.Shows.fresh phone⟩ visits
    have hp : p.state = .CONFIRM_ADD_PRODUCT := hs.state.symm.trans hstate
    cases p with
    | confirmAdd name price quantity => exact all_or_nothing_of_confirms hs hc
    | _ => cases hp
  · have hu := untouched_of_not_confirms (t := t) hstate hc
    refine iff_of_true (.inr ⟨?_, ?_⟩) fun h ↦ hc h.1
    · rw [hu.committed]
      rfl
    · rw [hu.committed]
      rfl

/-! A merchant adds soap. -/

/-- What is said up to the confirmation. -/
def soap (quantity : String) : List (Backend × String) :=
  ["add product", "Soap", "50", quantity].map fun text ↦ (.connect .calm .sample, text)

theorem add_product_all_or_nothing_iff_of_ten :
    let s := talk .sample (UserSession.fresh "254700000001") (soap "10")
    let t : Turn := ⟨s, .connect .calm .sample⟩
    AllOrNothing s .sample (FSMEngine.processMessage .sample "yes" t) := by
  have hqty : (talk .sample (UserSession.fresh "254700000001") (soap "10")).context.productQty =
      some 10 := by decide +kernel
  refine (add_product_all_or_nothing_iff .sample "254700000001" (soap "10") .calm .sample "yes"
    (by decide +kernel)).mpr ?_
  rintro ⟨-, data, q, t₁, product, db, -, -, hq, hshop, -, hns⟩
  rw [hqty, Option.some.injEq] at hq
  subst hq
  have henv : t₁.backend.env = .calm := (shopOfSession_goes_on hshop rfl).2
  refine hns ⟨?_, fun _ ↦ ⟨?_, by decide, ?_, ?_⟩⟩ <;> rw [henv] <;> rfl

def raised : EStateM.Result Exc Turn FSMResult → Option Exc
  | .ok _ _ => none
  | .error e _ => some e

/-- The confirmation that failed, answered once more on what it committed. -/
def repeated (t : Turn) : EStateM.Result Exc Turn FSMResult :=
  FSMEngine.processMessage .sample "yes"
    ⟨t.session, .connect { Env.calm with random := fun _ _ ↦ 1 } t.backend.committed⟩

/-- More soap than the column can hold: the confirmation fails with the product
there without stock, and repeating it creates the product again. -/
theorem soap_without_stock :
    let s := talk .sample (UserSession.fresh "254700000001") (soap "99999999999")
    let r := FSMEngine.processMessage .sample "yes" ⟨s, .connect .calm .sample⟩
    s.state = .CONFIRM_ADD_PRODUCT ∧ ¬ AllOrNothing s .sample r ∧
      (final r).session.state = .CONFIRM_ADD_PRODUCT ∧
      (final r).backend.committed.products.map (·.name) = ["Milk", "Soap"] ∧
      (final r).backend.committed.inventory = Database.sample.inventory ∧
      (final (repeated (final r))).backend.committed.products.map (·.name) =
        ["Milk", "Soap", "Soap"] := by
  intro s r
  have hraised : (raised r).isSome = true := by decide +kernel
  have hproducts : (final r).backend.committed.products.map (·.name) = ["Milk", "Soap"] := by
    decide +kernel
  refine ⟨by decide +kernel, ?_, by decide +kernel, hproducts, by decide +kernel,
    by decide +kernel⟩
  rintro (⟨result, t, product, q, hr, -⟩ | ⟨hsame, -⟩)
  · rw [hr] at hraised
    cases hraised
  · rw [hsame] at hproducts
    exact absurd hproducts (by decide)

end AddProductFlow

end SokoFlow
