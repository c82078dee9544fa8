import SokoFlow.Foundation.Outcome
import SokoFlow.Routes

/-!
# Requests are all or nothing

A request executes at most one statement that writes, and commits it at most
once.  What a refusal says of the rows is so, and it has left them as they were.
-/

namespace SokoFlow.Routes

open DbM Effect InventoryService ProductService SalesService ShopService

variable {α : Type} {db : Database} {W : Database → Prop} {R : Exc → Prop}

/-! ## One write -/

/-- The session has seen `db` and changed nothing. -/
def Clean (db : Database) (b : Backend) : Prop := b.working = db ∧ b.committed = db

/-- The statement was executed, and is not committed. -/
def Unsaved (db : Database) (W : Database → Prop) (b : Backend) : Prop :=
  b.committed = db ∧ b.aborted = false ∧ W b.working

/-- The statement is committed. -/
def Saved (W : Database → Prop) (b : Backend) : Prop := W b.committed

/-- The committed rows are `db`, or they have been written to. -/
def Settled (db : Database) (W : Database → Prop) (b : Backend) : Prop :=
  b.committed = db ∨ W b.committed

/-- An exception before the write is committed leaves `db`, and is technical or
has a reason; one after it is technical. -/
def Fails (db : Database) (W : Database → Prop) (R : Exc → Prop) (e : Exc) (b : Backend) : Prop :=
  b.committed = db ∧ R e ∨ e.isTechnical = true ∧ Settled db W b

/-- The program writes to `db` before it returns, at most once, and raises business
exceptions for the reasons in `R` only, with nothing written. -/
abbrev WritesOnce (db : Database) (W : Database → Prop) (R : Exc → Prop) (x : DbM α) : Prop :=
  Outcome (Clean db) x (fun _ ↦ Saved W) (Fails db W R)

theorem Fails.early {e : Exc} {b : Backend} (hc : b.committed = db)
    (h : e.isTechnical = true ∨ R e) : Fails db W R e b := by
  rcases h with h | h
  · exact .inr ⟨h, .inl hc⟩
  · exact .inl ⟨hc, h⟩

theorem ask_clean (q : Env → ℕ → α) :
    Outcome (Clean db) (ask q) (fun _ ↦ Clean db) (Fails db W R) where
  returns b a b' h hx := by
    cases hx
    exact h
  raises b e b' h hx := by cases hx

theorem select_clean (q : Database → α) :
    Outcome (Clean db) (select q) (fun a b ↦ Clean db b ∧ a = q db) (Fails db W R) where
  returns b a b' h hx := by
    obtain ⟨rfl, hu⟩ := select_ok hx
    refine ⟨⟨hu.working.trans h.1, hu.committed.trans h.2⟩, ?_⟩
    rw [h.1]
  raises b e b' h hx := by
    obtain ⟨hu, ht⟩ := select_error hx
    exact .early (hu.committed.trans h.2) (.inl ht)

/-- The statement that writes. -/
theorem update_clean (run : Database → Except Exc (α × Database)) :
    Outcome (Clean db) (update run)
      (fun a b ↦ b.committed = db ∧ b.aborted = false ∧ run db = .ok (a, b.working))
      (fun e b ↦ b.committed = db ∧ (e.isTechnical = true ∨ run db = .error e)) where
  returns b a b' h hx := by
    obtain ⟨db', hr, hl⟩ := update_ok hx
    rw [h.1] at hr
    rw [hl.working]
    exact ⟨hl.committed.trans h.2, hl.aborted, hr⟩
  raises b e b' h hx := by
    obtain ⟨hu, he⟩ := update_error hx
    rw [h.1] at he
    exact ⟨hu.committed.trans h.2, he⟩

theorem commit_saves :
    Outcome (Unsaved db W) commit (fun _ ↦ Saved W)
      (fun e b ↦ b.committed = db ∧ e.isTechnical = true) where
  returns b a b' h hx := by
    rw [commit_apply, h.2.1] at hx
    split at hx <;> cases hx
    exact h.2.2
  raises b e b' h hx := by
    obtain ⟨ht, -, hu⟩ := commit_error hx
    exact ⟨hu.committed.trans h.1, ht⟩

/-- Reading the written row back. -/
theorem select_saved (q : Database → α) :
    Outcome (Saved W) (select q) (fun _ ↦ Saved W) (Fails db W R) where
  returns b a b' h hx := by
    obtain ⟨-, hu⟩ := select_ok hx
    unfold Saved
    rw [hu.committed]
    exact h
  raises b e b' h hx := by
    obtain ⟨hu, ht⟩ := select_error hx
    refine .inr ⟨ht, .inr ?_⟩
    rw [hu.committed]
    exact h

theorem refresh_saved (id : UUID) :
    Outcome (Saved W) (InventoryService.refresh id) (fun _ ↦ Saved W) (Fails db W R) := by
  apply Outcome.bind (select_saved _)
  intro found
  cases found with
  | none => exact .throw fun _ h ↦ .inr ⟨rfl, .inr h⟩
  | some row => exact .pure fun _ h ↦ h

theorem refreshProduct_saved (id : UUID) :
    Outcome (Saved W) (refreshProduct id) (fun _ ↦ Saved W) (Fails db W R) := by
  apply Outcome.bind (select_saved _)
  intro found
  cases found with
  | none => exact .throw fun _ h ↦ .inr ⟨rfl, .inr h⟩
  | some row => exact .pure fun _ h ↦ h

theorem refreshShop_saved (id : UUID) :
    Outcome (Saved W) (refreshShop id) (fun _ ↦ Saved W) (Fails db W R) := by
  apply Outcome.bind (select_saved _)
  intro found
  cases found with
  | none => exact .throw fun _ h ↦ .inr ⟨rfl, .inr h⟩
  | some row => exact .pure fun _ h ↦ h

/-! ## The services -/

/-- A statement and its commit. -/
theorem update_commit {run : Database → Except Exc (α × Database)}
    (hW : ∀ a db', run db = .ok (a, db') → W db') :
    Contract (Clean db) (do
      let a ← update run
      commit
      return a) (fun _ ↦ Saved W) (fun b ↦ b.committed = db) := by
  have hupdate : Contract (Clean db) (update run) (fun _ ↦ Unsaved db W)
      (fun b ↦ b.committed = db) := by
    refine ⟨fun b a b' h hx ↦ ?_, fun b e b' h hx ↦ ((update_clean run).raises b e b' h hx).1⟩
    obtain ⟨hc, ha, hr⟩ := (update_clean run).returns b a b' h hx
    exact ⟨hc, ha, hW a _ hr⟩
  have hcommit : Contract (Unsaved db W) commit
      (fun _ ↦ Saved W) (fun b ↦ b.committed = db) :=
    ⟨commit_saves.returns, fun b e b' h hx ↦ (commit_saves.raises b e b' h hx).1⟩
  exact .bind hupdate fun _ ↦ .bind hcommit fun _ ↦ .pure fun _ h ↦ h

/-- The statement is committed, or its violated constraint is answered by the conflict. -/
theorem commitOr_once {run : Database → Except Exc (α × Database)} {conflict : Exc}
    (hW : ∀ a db', run db = .ok (a, db') → W db')
    (hrun : ∀ e, run db = .error e → e.isTechnical = true)
    (hR : ∀ text, run db = .error (.integrityError text) → conflict.isTechnical = true ∨ R conflict) :
    WritesOnce db W R (commitOr (update run) conflict) := by
  have hstate : Contract (Clean db) (commitOr (update run) conflict) (fun _ ↦ Saved W)
      (fun b ↦ b.committed = db) := by
    apply (update_commit hW).tryCatch
    intro e
    cases e with
    | integrityError text =>
        exact .bind (Q := fun _ b ↦ b.committed = db) (.modify fun _ h ↦ h) fun _ ↦
          .throw fun _ h ↦ h
    | _ => exact .throw fun _ h ↦ h
  refine ⟨hstate.returns, fun b e b' h hx ↦ ?_⟩
  have hc : b'.committed = db := hstate.raises b e b' h hx
  rcases commitOr_error hx with ⟨rfl, text, b₁, hu⟩ | ⟨b₁, hu, -⟩ | ⟨a, b₁, -, hcommit⟩
  · have hr := update_integrityError hu
    rw [h.1] at hr
    exact .early hc (hR text hr)
  · obtain ⟨-, ht⟩ := (update_clean run).raises b e b₁ h hu
    exact .early hc (.inl (ht.elim id (hrun e)))
  · exact .early hc (.inl (commit_error hcommit).1)

/-- Stock is flushed, committed and read back. -/
theorem finalizeInventory_once {I : Backend → Prop} {row : Inventory} {flush : DbM Unit}
    (hflush : Outcome I flush (fun _ ↦ Unsaved db W)
      (fun e b ↦ b.committed = db ∧ e.isTechnical = true)) :
    Outcome I (finalizeInventory row flush true) (fun _ ↦ Saved W) (Fails db W R) := by
  have hearly : ∀ (e : Exc) (b : Backend), b.committed = db ∧ e.isTechnical = true →
      Fails db W R e b := fun e b h ↦ .early h.1 (.inl h.2)
  have hbody : Outcome I (do
      flush
      (if true then DbM.commit else pure ())
      InventoryService.refresh row.id) (fun _ ↦ Saved W) (Fails db W R) := by
    apply Outcome.bind (hflush.weaken (fun _ h ↦ h) (fun _ _ h ↦ h) hearly)
    intro _
    apply Outcome.bind (commit_saves.weaken (fun _ h ↦ h) (fun _ _ h ↦ h) hearly)
    intro _
    exact refresh_saved row.id
  apply hbody.tryCatch
  intro e
  have hback : Outcome (Fails db W R e) (if true then rollback else pure ())
      (fun _ ↦ Fails db W R e) (Fails db W R) := by
    refine ⟨fun b a b' h hx ↦ ?_, fun b e b' h hx ↦ by cases hx⟩
    cases hx
    exact h
  exact hback.bind fun _ ↦ .throw fun _ h ↦ h

/-! ## The routes -/

/-- The rows after the one statement of a request; that of `POST /sales` is not committed. -/
def Written (req : Request) (db db' : Database) : Prop :=
  match req with
  | .createProduct payload => ∃ sku id product,
      Database.insertProduct payload.shopId payload.name sku payload.price id db =
        .ok (product, db')
  | .updateProduct productId payload => ∃ old product, db.product productId = some old ∧
      Database.setProduct old (payload.name.getD old.name) (payload.price.getD (some old.price)) db =
        .ok (product, db')
  | .deleteProduct productId => ∃ old, db.product productId = some old ∧
      Database.deleteProduct old db = .ok ((), db')
  | .addStock productId quantity => ∃ id row,
      Database.addStock productId quantity id db = .ok (row, db')
  | .deductStock productId quantity => ∃ row, db.inventoryOf productId = some row ∧
      (quantity : ℤ) ≤ row.quantity ∧
      Database.setInventory (deducted row quantity) db = .ok (deducted row quantity, db')
  | .updateThreshold productId lowStockThreshold => ∃ row,
      db.inventoryOf productId = some row ∧
      Database.setInventory (alertingAt row lowStockThreshold) db =
        .ok (alertingAt row lowStockThreshold, db')
  | .createShop payload => ∃ id shop,
      Database.insertShop payload.phone (some payload.name) payload.locale id db = .ok (shop, db')
  | .updateShopLocale phone locale => (∃ id shop, db.shopByPhone phone = none ∧
      Database.insertShop phone (some "SokoFlow Demo Shop") locale id db = .ok (shop, db')) ∨
      ∃ old shop, db.shopByPhone phone = some old ∧
        Database.setShopLocale old locale db = .ok (shop, db')
  | .recordSale .. => db' = db

/-- Why a request is refused, by the rows it found. -/
inductive Refusal (db : Database) : Request → Exc → Prop
  | taken {payload : ProductCreate} {sku : String}
      (h : sku ∈ db.products.map (·.sku) ∨ payload.shopId ∉ db.shops.map (·.id)) :
      Refusal db (.createProduct payload) (.resourceAlreadyExists "Product" "SKU" sku)
  | unknown {productId : UUID} {payload : ProductUpdate} (h : db.product productId = none) :
      Refusal db (.updateProduct productId payload) (.resourceNotFound "Product" productId.text)
  | absent {productId : UUID} (h : db.product productId = none) :
      Refusal db (.deleteProduct productId) (.resourceNotFound "Product" productId.text)
  | referenced {productId : UUID}
      (h : productId ∈ db.inventory.map (·.productId) ∨ productId ∈ db.sales.map (·.productId)) :
      Refusal db (.deleteProduct productId) (.resourceConflict
        "Product cannot be deleted because related inventory or sales records exist.")
  | unstocked {productId : UUID} {quantity : Quantity} (h : db.inventoryOf productId = none) :
      Refusal db (.deductStock productId quantity)
        (.resourceNotFound "Inventory Product" productId.text)
  | short {productId : UUID} {quantity : Quantity} {row : Inventory}
      (h : db.inventoryOf productId = some row) (hq : row.quantity < (quantity : ℤ)) :
      Refusal db (.deductStock productId quantity)
        (.insufficientStock productId.text quantity row.quantity)
  | thresholdless {productId : UUID} {n : Threshold} (h : db.inventoryOf productId = none) :
      Refusal db (.updateThreshold productId n)
        (.resourceNotFound "Inventory Product" productId.text)
  | phoneTaken {payload : CreateShop} (h : payload.phone ∈ db.shops.map (·.phone)) :
      Refusal db (.createShop payload) (.resourceAlreadyExists "Shop" "phone" payload.phone)
  | unsold {shopId productId : UUID} {quantity : Quantity} {recordedBy : String} {e : Exc}
      (h : Refused db shopId productId quantity e) :
      Refusal db (.recordSale shopId productId quantity recordedBy) e

/-- A product that no row refers to can be deleted. -/
theorem referenced_of_integrityError {old : Product} {text : String}
    (h : Database.deleteProduct old db = .error (.integrityError text)) :
    old.id ∈ db.inventory.map (·.productId) ∨ old.id ∈ db.sales.map (·.productId) := by
  by_contra hfree
  obtain ⟨hinventory, hsales⟩ := not_or.mp hfree
  have hv := db.valid
  have hsub : (db.products.filter fun p ↦ p.id ≠ old.id).Sublist db.products := List.filter_sublist
  have hkept : ∀ id ∈ db.products.map (·.id), id ≠ old.id →
      id ∈ (db.products.filter fun p ↦ p.id ≠ old.id).map (·.id) := by
    intro id hid hne
    obtain ⟨p, hmem, rfl⟩ := List.mem_map.mp hid
    exact List.mem_map_of_mem (List.mem_filter.mpr ⟨hmem, decide_eq_true hne⟩)
  have hvalid : Rows.Valid { db.toRows with
      products := db.products.filter fun p ↦ p.id ≠ old.id } := by
    refine ⟨hv.shops, ⟨?_, ?_, ?_, ?_, ?_⟩, ⟨?_, ?_, ?_, ?_, ?_, ?_⟩, ⟨?_, ?_, ?_, ?_, ?_, ?_⟩⟩
    · exact fun p hp ↦ hv.products.fits p (hsub.subset hp)
    · exact hv.products.ids.sublist (hsub.map _)
    · exact hv.products.skus.sublist (hsub.map _)
    · exact fun p hp ↦ hv.products.shop p (hsub.subset hp)
    · exact fun p hp ↦ hv.products.price p (hsub.subset hp)
    · exact hv.inventory.fits
    · exact hv.inventory.ids
    · exact hv.inventory.unique
    · intro row hrow
      apply hkept _ (hv.inventory.product row hrow)
      intro he
      exact hinventory (List.mem_map.mpr ⟨row, hrow, he⟩)
    · exact hv.inventory.quantity
    · exact hv.inventory.threshold
    · exact hv.sales.fits
    · exact hv.sales.ids
    · exact hv.sales.shop
    · intro sale hsale
      apply hkept _ (hv.sales.product sale hsale)
      intro he
      exact hsales (List.mem_map.mpr ⟨sale, hsale, he⟩)
    · exact hv.sales.quantity
    · exact hv.sales.total
  have hok : Database.deleteProduct old db = .ok ((), ⟨_, hvalid⟩) :=
    Database.write_of_valid trivial hvalid
  rw [hok] at h
  cases h

theorem phone_of_integrityError {phone text : String} {name : Option String} {locale : ShopLocale}
    {id : UUID} (h : Database.insertShop phone name locale id db = .error (.integrityError text)) :
    phone ∈ db.shops.map (·.phone) := by
  have hfits : FitsText 20 phone := by
    unfold Database.insertShop at h
    exact (Database.write_integrityError_iff.mp ⟨text, h⟩).1
  by_contra hnew
  have hnone : db.shopByPhone phone = none := by
    apply Table.lookup_eq_none.mpr
    intro shop hmem hphone
    exact hnew (List.mem_map.mpr ⟨shop, hmem, hphone⟩)
  obtain ⟨shop, db', hok⟩ := Database.insertShop_of_fits name locale id hfits hnone
  rw [hok] at h
  cases h

/-- The product that was looked up, or the reason that there is none. -/
theorem getProduct_once {productId : UUID} {f : Product → DbM α}
    (hnone : db.product productId = none → R (.resourceNotFound "Product" productId.text))
    (hf : ∀ old, db.product productId = some old → WritesOnce db W R (f old)) :
    WritesOnce db W R (getProduct productId >>= f) := by
  have hload : Outcome (Clean db) (getProduct productId)
      (fun old b ↦ Clean db b ∧ db.product productId = some old) (Fails db W R) := by
    apply Outcome.bind (select_clean _)
    intro found
    apply Outcome.given
    rintro rfl
    cases h : db.product productId with
    | none => exact .throw fun b hb ↦ .early hb.2 (.inr (hnone h))
    | some old => exact .pure fun b hb ↦ ⟨hb, rfl⟩
  exact hload.bind fun old ↦ .given (hf old)

theorem createProduct_once (dep : Deployment) (payload : ProductCreate) :
    WritesOnce db (Written (.createProduct payload) db) (Refusal db (.createProduct payload))
      (createProduct dep payload) := by
  have hsku : Outcome (Clean db) (generateSku dep payload.name) (fun _ ↦ Clean db)
      (Fails db (Written (.createProduct payload) db) (Refusal db (.createProduct payload))) :=
    .bind (ask_clean _) fun _ ↦ .pure fun _ h ↦ h
  apply hsku.bind
  intro sku
  apply Outcome.bind (ask_clean _)
  intro id
  refine Outcome.bind (commitOr_once (fun product db' h ↦ ⟨sku, id, product, h⟩) ?_ ?_) fun product ↦
    refreshProduct_saved product.id
  · exact fun e h ↦ Database.write_error h
  · intro text h
    have hreason := (Database.insertProduct_integrityError_iff payload.positive).mp ⟨text, h⟩
    exact .inr (.taken hreason.2.2)

theorem updateProduct_once (productId : UUID) (payload : ProductUpdate) :
    WritesOnce db (Written (.updateProduct productId payload) db)
      (Refusal db (.updateProduct productId payload)) (updateProduct productId payload) := by
  apply getProduct_once fun h ↦ .unknown h
  intro old hold
  refine Outcome.bind (commitOr_once (fun product db' h ↦ ⟨old, product, hold, ?_⟩) ?_ ?_)
    fun product ↦ refreshProduct_saved product.id
  · cases hp : payload.price <;> rw [hp] at h <;> exact h
  · intro e h
    unfold Database.setProduct at h
    split at h
    · cases h
      rfl
    · exact Database.write_error h
  · exact fun _ _ ↦ .inl rfl

theorem deleteProduct_once (productId : UUID) :
    WritesOnce db (Written (.deleteProduct productId) db) (Refusal db (.deleteProduct productId))
      (deleteProduct productId) := by
  apply getProduct_once fun h ↦ .absent h
  intro old hold
  have hid : old.id = productId := (Database.mem_of_product hold).2
  refine commitOr_once (fun _ db' h ↦ ⟨old, hold, h⟩) (fun e h ↦ Database.write_error h) ?_
  intro text h
  have hreason := referenced_of_integrityError h
  rw [hid] at hreason
  exact .inr (.referenced hreason)

theorem addStock_once (productId : UUID) (quantity : Quantity) :
    WritesOnce db (Written (.addStock productId quantity) db)
      (Refusal db (.addStock productId quantity)) (addStock productId quantity) := by
  apply Outcome.bind (ask_clean _)
  intro id
  have hupdate : Outcome (Clean db) (update (Database.addStock productId quantity id))
      (fun _ ↦ Unsaved db (Written (.addStock productId quantity) db))
      (Fails db (Written (.addStock productId quantity) db)
        (Refusal db (.addStock productId quantity))) := by
    apply (update_clean _).weaken (fun _ h ↦ h)
    · exact fun row b h ↦ ⟨h.1, h.2.1, id, row, h.2.2⟩
    · exact fun e b h ↦ .early h.1 (.inl (h.2.elim (fun ht ↦ ht) Database.addStock_error))
  refine hupdate.bind fun row ↦ finalizeInventory_once (.pure fun _ h ↦ h)

/-- The row of the product that was looked up is written back changed. -/
theorem setRow_once {productId : UUID} {old row : Inventory}
    (hold : db.inventoryOf productId = some old) (hrow : row.productId = old.productId)
    (hW : ∀ db', Database.setInventory row db = .ok (row, db') → W db') :
    WritesOnce db W R (finalizeInventory row (flush row) true) := by
  apply finalizeInventory_once
  have hid : row.productId = productId := hrow.trans (Database.productId_of_inventoryOf hold)
  rw [← hid] at hold
  have hupdate : Outcome (Clean db) (update (Database.setInventory row))
      (fun _ ↦ Unsaved db W)
      (fun e b ↦ b.committed = db ∧ e.isTechnical = true) := by
    apply (update_clean _).weaken (fun _ h ↦ h)
    · rintro r b ⟨hc, ha, hr⟩
      obtain ⟨rfl, -⟩ := Database.setInventory_ok hold hr
      exact ⟨hc, ha, hW _ hr⟩
    · exact fun e b h ↦ ⟨h.1, h.2.elim (fun ht ↦ ht) Database.write_error⟩
  exact hupdate.bind fun _ ↦ .pure fun _ h ↦ h

theorem deductStock_once (productId : UUID) (quantity : Quantity) :
    WritesOnce db (Written (.deductStock productId quantity) db)
      (Refusal db (.deductStock productId quantity)) (deductStock productId quantity) := by
  apply Outcome.bind (select_clean _)
  intro found
  apply Outcome.given
  rintro rfl
  cases hrow : db.inventoryOf productId with
  | none => exact .throw fun b hb ↦ .early hb.2 (.inr (.unstocked hrow))
  | some row =>
      dsimp only
      split
      · rename_i hshort
        have hq : row.quantity < (quantity : ℤ) := of_decide_eq_true hshort
        exact .throw fun b hb ↦ .early hb.2 (.inr (.short hrow hq))
      · rename_i henough
        have hq : (quantity : ℤ) ≤ row.quantity := by
          unfold isInsufficientStock at henough
          simpa using henough
        refine Outcome.bind (setRow_once hrow rfl fun db' h ↦ ⟨row, hrow, hq, h⟩) fun _ ↦
          .pure fun _ h ↦ h

theorem updateThreshold_once (productId : UUID) (n : Threshold) :
    WritesOnce db (Written (.updateThreshold productId n) db)
      (Refusal db (.updateThreshold productId n)) (updateThreshold productId n) := by
  have hload : Outcome (Clean db) (getStock productId)
      (fun row b ↦ Clean db b ∧ db.inventoryOf productId = some row)
      (Fails db (Written (.updateThreshold productId n) db)
        (Refusal db (.updateThreshold productId n))) := by
    apply Outcome.bind (select_clean _)
    intro found
    apply Outcome.given
    rintro rfl
    cases hrow : db.inventoryOf productId with
    | none => exact .throw fun b hb ↦ .early hb.2 (.inr (.thresholdless hrow))
    | some row => exact .pure fun b hb ↦ ⟨hb, rfl⟩
  apply hload.bind
  intro row
  apply Outcome.given
  intro hrow
  exact setRow_once hrow rfl fun db' h ↦ ⟨row, hrow, h⟩

theorem createShop_once (payload : CreateShop) :
    WritesOnce db (Written (.createShop payload) db) (Refusal db (.createShop payload))
      (createShop payload) := by
  apply Outcome.bind (ask_clean _)
  intro id
  refine Outcome.bind (commitOr_once (fun shop db' h ↦ ⟨id, shop, h⟩)
    (fun e h ↦ Database.write_error h) fun text h ↦ ?_) fun shop ↦ refreshShop_saved shop.id
  exact .inr (.phoneTaken (phone_of_integrityError h))

theorem updateLocale_once (phone : String) (locale : ShopLocale) :
    WritesOnce db (Written (.updateShopLocale phone locale) db)
      (Refusal db (.updateShopLocale phone locale)) (updateLocale phone locale) := by
  apply Outcome.bind (select_clean _)
  intro found
  apply Outcome.given
  rintro rfl
  apply Outcome.bind (ask_clean _)
  intro id
  refine Outcome.bind
    (Q := fun _ ↦ Unsaved db (Written (.updateShopLocale phone locale) db)) ?_ fun shop ↦ ?_
  · cases hfound : db.shopByPhone phone with
    | none =>
        apply (update_clean _).weaken (fun _ h ↦ h)
        · exact fun shop b h ↦ ⟨h.1, h.2.1, .inl ⟨id, shop, hfound, h.2.2⟩⟩
        · exact fun e b h ↦ .early h.1 (.inl (h.2.elim (fun ht ↦ ht) Database.write_error))
    | some old =>
        apply (update_clean _).weaken (fun _ h ↦ h)
        · exact fun shop b h ↦ ⟨h.1, h.2.1, .inr ⟨old, shop, hfound, h.2.2⟩⟩
        · exact fun e b h ↦ .early h.1 (.inl (h.2.elim (fun ht ↦ ht) Database.write_error))
  · refine Outcome.bind (commit_saves.weaken (fun _ h ↦ h) (fun _ _ h ↦ h) ?_) fun _ ↦
      refreshShop_saved shop.id
    exact fun e b h ↦ .early h.1 (.inl h.2)

/-- `POST /sales` commits nothing. -/
theorem recordSale_once (shopId productId : UUID) (quantity : Quantity) (recordedBy : String) :
    WritesOnce db (Written (.recordSale shopId productId quantity recordedBy) db)
      (Refusal db (.recordSale shopId productId quantity recordedBy))
      (recordSale shopId productId quantity recordedBy) where
  returns b r b' h hx := by
    obtain ⟨product, row, db', -, hl, -⟩ := recordSale_ok hx
    exact hl.committed.trans h.2
  raises b e b' h hx := by
    obtain ⟨hu, he⟩ := recordSale_error hx
    rw [h.1] at he
    exact .early (hu.committed.trans h.2) (he.imp_right Refusal.unsold)

/-- A shop without a name is not shown; this comes after the commit. -/
theorem shopResponse_saved (s : Shop) :
    Outcome (Saved W) (shopResponse s) (fun _ ↦ Saved W) (Fails db W R) := by
  unfold shopResponse
  cases s.name with
  | none => exact .throw fun _ h ↦ .inr ⟨rfl, .inr h⟩
  | some name => exact .pure fun _ h ↦ h

theorem route_once (dep : Deployment) (req : Request) :
    WritesOnce db (Written req db) (Refusal db req) (route dep req) := by
  cases req with
  | createProduct payload =>
      exact (createProduct_once dep payload).bind fun _ ↦ .pure fun _ h ↦ h
  | updateProduct productId payload =>
      exact (updateProduct_once productId payload).bind fun _ ↦ .pure fun _ h ↦ h
  | deleteProduct productId => exact (deleteProduct_once productId).bind fun _ ↦ .pure fun _ h ↦ h
  | addStock productId quantity =>
      exact (addStock_once productId quantity).bind fun _ ↦ .pure fun _ h ↦ h
  | deductStock productId quantity =>
      exact (deductStock_once productId quantity).bind fun _ ↦ .pure fun _ h ↦ h
  | updateThreshold productId n =>
      exact (updateThreshold_once productId n).bind fun _ ↦ .pure fun _ h ↦ h
  | createShop payload => exact (createShop_once payload).bind fun shop ↦ shopResponse_saved shop
  | updateShopLocale phone locale =>
      exact (updateLocale_once phone locale).bind fun shop ↦ shopResponse_saved shop
  | recordSale shopId productId quantity recordedBy =>
      exact (recordSale_once shopId productId quantity recordedBy).bind fun _ ↦ .pure fun _ h ↦ h

/-- Closing the session of a request keeps what is committed. -/
theorem getDb_once {x : DbM α} (hx : WritesOnce db W R x) : WritesOnce db W R (getDb x) := by
  have hbody : WritesOnce db W R (do
      let a ← x
      rollback
      return a) :=
    hx.bind fun _ ↦ .bind (Q := fun _ ↦ Saved W) (.modify fun _ h ↦ h) fun _ ↦ .pure fun _ h ↦ h
  apply hbody.tryCatch
  intro e
  exact .bind (Q := fun _ ↦ Fails db W R e) (.modify fun _ h ↦ h) fun _ ↦ .throw fun _ h ↦ h

/-- Whatever fails, a request leaves the rows as they were or as its one
statement made them.  A success has committed the statement; a refusal leaves the
rows, and they are the reason for it. -/
theorem requests_all_or_nothing {dep : Deployment} {env : Env} {req : Request} {answer : Answer}
    {after : Database} (h : serve dep env req db = (answer, after)) :
    (after = db ∨ Written req db after) ∧
      (answer.Success ∧ Written req db after ∨ answer.status = 500 ∨
        after = db ∧ ∃ e, Refusal db req e ∧ answer.status = errorStatus e) := by
  have honce : WritesOnce db (Written req db) (Refusal db req) (getDb (route dep req)) :=
    getDb_once (route_once dep req)
  have hclean : Clean db (.connect env db) := ⟨rfl, rfl⟩
  unfold serve at h
  cases hrun : getDb (route dep req) (.connect env db) with
  | ok body b =>
      rw [hrun] at h
      cases h
      have hsaved : Written req db b.committed := honce.returns _ _ _ hclean hrun
      refine ⟨.inr hsaved, .inl ⟨?_, hsaved⟩⟩
      cases req <;> simp [Answer.Success, Request.successStatus]
  | error e b =>
      rw [hrun] at h
      cases h
      rcases honce.raises _ _ _ hclean hrun with ⟨hc, hr⟩ | ⟨ht, hsettled⟩
      · exact ⟨.inl hc, .inr (.inr ⟨hc, e, hr, rfl⟩)⟩
      · refine ⟨hsettled, .inr (.inl ?_)⟩
        cases e <;> first | rfl | cases ht

/-- Eleven units of ten cannot be taken out. -/
theorem requests_all_or_nothing_short :
    ∃ after, serve .sample .calm (.deductStock ⟨2⟩ ⟨11, by decide⟩) .sample = (⟨422, none⟩, after) ∧
      after = .sample := by
  refine ⟨_, rfl, ?_⟩
  have hall := requests_all_or_nothing
    (rfl : serve .sample .calm (.deductStock ⟨2⟩ ⟨11, by decide⟩) .sample = _)
  rcases hall.2 with hs | hs | ⟨ha, -⟩
  · exact absurd hs.1.2 (by decide)
  · exact absurd hs (by decide)
  · exact ha

end SokoFlow.Routes
