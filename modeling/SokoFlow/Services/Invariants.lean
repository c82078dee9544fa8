import SokoFlow.Foundation.Contract
import SokoFlow.Services.Sales
import SokoFlow.Services.Catalogue

/-!
# Invariants of the rows

A property of the rows that every statement keeps is kept by every service,
whichever statements and commits fail, because a session only ever goes back to
rows it has seen: the committed ones, or those of a savepoint.
-/

namespace SokoFlow

open DbM Effect InventoryService ProductService SalesService ShopService

/-- The clock of the session only shows times of `T`, and both its rows and
the committed ones satisfy `P`. -/
structure Backend.Holds (T : Timestamp → Prop) (P : Database → Prop) (b : Backend) : Prop where
  clock : ∀ n, T (b.env.clock n)
  began : ∀ w, b.began = some w → T w
  working : P b.working
  committed : P b.committed

section Statements

variable {T : Timestamp → Prop} {P : Database → Prop} {α : Type} {b : Backend}

theorem Backend.Holds.started (h : b.Holds T P) : T b.started := by
  unfold Backend.started
  cases hb : b.began with
  | none => exact h.clock b.tick
  | some w => exact h.began w hb

theorem Backend.Holds.served (h : b.Holds T P) : b.served.Holds T P where
  clock := h.clock
  began w hw := by
    obtain rfl : b.started = w := Option.some.inj hw
    exact h.started
  working := h.working
  committed := h.committed

theorem ask_keeping (q : Env → ℕ → α) : Keeping (Backend.Holds T P) (ask q) where
  returns b a b' h hx := by
    cases hx
    exact ⟨h.clock, h.began, h.working, h.committed⟩
  raises b e b' h hx := by cases hx

/-- A statement that keeps the property on rows of which `Q` is known. -/
theorem execute_contract {Q : Database → Prop}
    {run : Timestamp → Database → Except Exc (α × Database)}
    (hrun : ∀ w db a db', T w → P db → Q db → run w db = .ok (a, db') → P db') :
    Contract (fun b ↦ b.Holds T P ∧ Q b.working) (execute run) (fun _ ↦ Backend.Holds T P)
      (Backend.Holds T P) where
  returns b a b' h hx := by
    obtain ⟨-, -, db, hr, rfl⟩ := execute_eq_ok.mp hx
    have hP := hrun _ _ a db h.1.started h.1.working h.2 hr
    exact ⟨h.1.clock, h.1.served.began, hP, h.1.committed⟩
  raises b e b' h hx := by
    have hs := h.1.served
    rw [execute_apply] at hx
    split at hx
    · cases hx
      exact hs
    · split at hx
      · cases hx
        exact ⟨hs.clock, hs.began, hs.working, hs.committed⟩
      · split at hx
        · cases hx
        · cases hx
          exact ⟨hs.clock, hs.began, hs.working, hs.committed⟩

theorem execute_keeping {run : Timestamp → Database → Except Exc (α × Database)}
    (hrun : ∀ w db a db', T w → P db → run w db = .ok (a, db') → P db') :
    Keeping (Backend.Holds T P) (execute run) := by
  have h := execute_contract (T := T) (P := P) (Q := fun _ ↦ True)
    (fun w db a db' hw hP _ hr ↦ hrun w db a db' hw hP hr)
  exact h.weaken (fun b hb ↦ ⟨hb, trivial⟩) (fun _ _ hb ↦ hb) (fun _ hb ↦ hb)

theorem update_keeping {run : Database → Except Exc (α × Database)}
    (hrun : ∀ db a db', P db → run db = .ok (a, db') → P db') :
    Keeping (Backend.Holds T P) (update run) :=
  execute_keeping fun _ db a db' _ hP hr ↦ hrun db a db' hP hr

/-- A query is known afterwards to have been answered by the session's rows. -/
theorem select_contract (q : Database → α) :
    Contract (Backend.Holds T P) (select q) (fun a b ↦ b.Holds T P ∧ q b.working = a)
      (Backend.Holds T P) where
  returns b a b' h hx := by
    obtain ⟨-, -, rfl, rfl⟩ := select_eq_ok.mp hx
    exact ⟨h.served, rfl⟩
  raises b e b' h hx :=
    (execute_keeping (P := P) fun w db a db' _ hP hr ↦ by
      cases hr
      exact hP).raises b e b' h hx

theorem select_keeping (q : Database → α) : Keeping (Backend.Holds T P) (select q) :=
  (select_contract q).weaken (fun _ h ↦ h) (fun _ _ h ↦ h.1) (fun _ h ↦ h)

theorem Backend.Holds.between (h : b.Holds T P) {b' : Backend} (he : b'.env = b.env)
    (hb : b'.began = none) (hw : P b'.working) (hc : P b'.committed) : b'.Holds T P where
  clock n := by
    rw [he]
    exact h.clock n
  began w hw := by
    rw [hb] at hw
    cases hw
  working := hw
  committed := hc

theorem rollback_keeping : Keeping (Backend.Holds T P) rollback :=
  .modify fun _ h ↦ h.between rfl rfl h.committed h.committed

theorem commit_keeping : Keeping (Backend.Holds T P) commit where
  returns b a b' h hx := by
    rw [commit_apply] at hx
    split at hx
    · cases hx
    · split at hx
      · cases hx
        exact h.between rfl rfl h.committed h.committed
      · cases hx
        exact h.between rfl rfl h.working h.working
  raises b e b' h hx := by
    rw [commit_apply] at hx
    split at hx
    · cases hx
      exact h.between rfl rfl h.committed h.committed
    · split at hx <;> cases hx

theorem beginNested_keeping {body : DbM α} (hbody : Keeping (Backend.Holds T P) body) :
    Keeping (Backend.Holds T P) (beginNested body) := by
  refine .bind (select_keeping _) fun _ ↦ ?_
  refine Contract.bind (Q := fun saved b ↦ b.Holds T P ∧ P saved)
    (.reads fun b h ↦ ⟨h, h.working⟩) fun saved ↦ ?_
  constructor
  · intro b a b' h hx
    rcases tryCatch_eq_ok.mp hx with hx | ⟨e, b₁, -, hx⟩
    · have hrest : Keeping (Backend.Holds T P) (do
          let a ← body
          select fun _ ↦ ()
          return a) := .bind hbody fun _ ↦ .bind (select_keeping _) fun _ ↦ .pure _
      exact hrest.returns b a b' h.1 hx
    · cases hx
  · intro b e b' h hx
    obtain ⟨e', b₁, hx, hrestored⟩ := tryCatch_eq_error.mp hx
    have hrest : Keeping (Backend.Holds T P) (do
        let a ← body
        select fun _ ↦ ()
        return a) := .bind hbody fun _ ↦ .bind (select_keeping _) fun _ ↦ .pure _
    have hb₁ := hrest.raises b e' b₁ h.1 hx
    cases hrestored
    exact ⟨hb₁.clock, hb₁.began, h.2, hb₁.committed⟩

theorem getWorkerDb_keeping {body : DbM α} (hbody : Keeping (Backend.Holds T P) body) :
    Keeping (Backend.Holds T P) (getWorkerDb body) :=
  .tryCatch (.bind hbody fun _ ↦ .bind commit_keeping fun _ ↦ .pure _) fun _ ↦
    .bind rollback_keeping fun _ ↦ .throw _

theorem getDb_keeping {body : DbM α} (hbody : Keeping (Backend.Holds T P) body) :
    Keeping (Backend.Holds T P) (getDb body) :=
  .tryCatch (.bind hbody fun _ ↦ .bind rollback_keeping fun _ ↦ .pure _) fun _ ↦
    .bind rollback_keeping fun _ ↦ .throw _

/-! ## Rows read back -/

theorem refresh_keeping (id : UUID) :
    Keeping (Backend.Holds T P) (InventoryService.refresh id) := by
  refine .bind (select_keeping _) fun found ↦ ?_
  cases found with
  | none => exact .throw _
  | some row => exact .pure _

theorem finalizeInventory_keeping {row : Inventory} {flush : DbM Unit} (commit : Bool)
    (hflush : Keeping (Backend.Holds T P) flush) :
    Keeping (Backend.Holds T P) (finalizeInventory row flush commit) := by
  refine .tryCatch (.bind hflush fun _ ↦ .bind ?_ fun _ ↦ refresh_keeping _)
    fun _ ↦ .bind ?_ fun _ ↦ .throw _
  · cases commit
    · exact .pure _
    · exact commit_keeping
  · cases commit
    · exact .pure _
    · exact rollback_keeping

theorem getStock_keeping (productId : UUID) :
    Keeping (Backend.Holds T P) (getStock productId) := by
  refine .bind (select_keeping _) fun found ↦ ?_
  cases found with
  | none => exact .throw _
  | some row => exact .pure _

theorem commitOr_contract {α : Type} {Q : Backend → Prop} {flush : DbM α} {conflict : Exc}
    (hflush : Contract Q flush (fun _ ↦ Backend.Holds T P) (Backend.Holds T P)) :
    Contract Q (commitOr flush conflict) (fun _ ↦ Backend.Holds T P) (Backend.Holds T P) := by
  refine .tryCatch (.bind hflush fun _ ↦ .bind commit_keeping fun _ ↦ Keeping.pure _) fun e ↦ ?_
  cases e with
  | integrityError text => exact .bind rollback_keeping fun _ ↦ Keeping.throw _
  | _ => exact Keeping.throw _

theorem refreshProduct_keeping (id : UUID) :
    Keeping (Backend.Holds T P) (refreshProduct id) := by
  refine .bind (select_keeping _) fun found ↦ ?_
  cases found with
  | none => exact .throw _
  | some row => exact .pure _

/-- The product found is the one the session's rows have under the id. -/
theorem getProduct_contract (productId : UUID) :
    Contract (Backend.Holds T P) (getProduct productId)
      (fun p b ↦ b.Holds T P ∧ b.working.product productId = some p) (Backend.Holds T P) := by
  apply Contract.bind (select_contract _)
  intro found
  cases found with
  | none => exact .throw fun _ h ↦ h.1
  | some product => exact .pure fun _ h ↦ h

theorem refreshShop_keeping (id : UUID) : Keeping (Backend.Holds T P) (refreshShop id) := by
  refine .bind (select_keeping _) fun found ↦ ?_
  cases found with
  | none => exact .throw _
  | some row => exact .pure _

theorem refreshSale_keeping (id : UUID) : Keeping (Backend.Holds T P) (refreshSale id) := by
  refine .bind (select_keeping _) fun found ↦ ?_
  cases found with
  | none => exact .throw _
  | some row => exact .pure _

end Statements

/-- What a property of the rows has to survive to be kept by the services.
Statements on shops and stock are quiet; a product is written over under its
own id, and a sale is entered in the shop and at the price of its product. -/
structure Stable (T : Timestamp → Prop) (P : Database → Prop) : Prop where
  quiet {db db' : Database} : P db → db'.products = db.products → db'.sales = db.sales → P db'
  created {shopId id : UUID} {name sku : String} {price : ℚ} {p : Product} {db db' : Database} :
    P db → Database.insertProduct shopId name sku price id db = .ok (p, db') → P db'
  changed {old p : Product} {name : String} {price : Option ℚ} {db db' : Database} :
    P db → db.product old.id = some old → Database.setProduct old name price db = .ok (p, db') → P db'
  deleted {old : Product} {db db' : Database} :
    P db → Database.deleteProduct old db = .ok ((), db') → P db'
  sold {productId id : UUID} {product : Product} {quantity : ℤ} {recordedBy : String}
    {w : Timestamp} {sale : Sale} {db db' : Database} : P db → T w →
    db.product productId = some product →
    Database.insertSale product.shopId productId quantity product.price recordedBy id w db =
      .ok (sale, db') → P db'

namespace Stable

variable {T : Timestamp → Prop} {P : Database → Prop} (hs : Stable T P)
include hs

/-! ## Stock -/

theorem flush_keeping (row : Inventory) : Keeping (Backend.Holds T P) (flush row) := by
  refine .bind (update_keeping fun db r db' hP h ↦ ?_) fun _ ↦ .pure _
  obtain ⟨-, -, hrows⟩ := Database.write_eq_ok.mp h
  exact hs.quiet hP (by rw [hrows]) (by rw [hrows])

theorem addStock_keeping (productId : UUID) (quantity : ℤ) (commit : Bool) :
    Keeping (Backend.Holds T P) (addStock productId quantity commit) := by
  refine .bind (ask_keeping _) fun id ↦ .bind (update_keeping fun db row db' hP h ↦ ?_) fun row ↦
    finalizeInventory_keeping commit (.pure _)
  obtain ⟨-, hw⟩ := Database.addStock_ok h
  exact hs.quiet hP hw.products hw.sales

theorem deductStock_keeping (productId : UUID) (quantity : ℤ) (commit : Bool) :
    Keeping (Backend.Holds T P) (deductStock productId quantity commit) := by
  refine .bind (select_keeping _) fun found ↦ ?_
  cases found with
  | none => exact .throw _
  | some row =>
      dsimp only
      split
      · exact .throw _
      · exact .bind (finalizeInventory_keeping commit (hs.flush_keeping _)) fun _ ↦ .pure _

theorem updateThreshold_keeping (productId : UUID) (lowStockThreshold : ℤ) (commit : Bool) :
    Keeping (Backend.Holds T P) (updateThreshold productId lowStockThreshold commit) :=
  .bind (getStock_keeping _) fun _ ↦
    finalizeInventory_keeping commit (hs.flush_keeping _)

/-! ## Products -/

theorem createProduct_keeping (dep : Deployment) (data : ProductCreate) :
    Keeping (Backend.Holds T P) (createProduct dep data) := by
  refine .bind (.bind (ask_keeping _) fun _ ↦ .pure _) fun sku ↦ .bind (ask_keeping _) fun id ↦ ?_
  refine .bind (commitOr_contract (update_keeping fun db p db' hP h ↦ ?_)) fun _ ↦
    refreshProduct_keeping _
  exact hs.created hP h

theorem updateProduct_keeping (productId : UUID) (data : ProductUpdate) :
    Keeping (Backend.Holds T P) (updateProduct productId data) := by
  apply Contract.bind (getProduct_contract productId)
  intro product
  refine Contract.bind (commitOr_contract ?_) fun _ ↦ refreshProduct_keeping _
  refine execute_contract (Q := fun db ↦ db.product productId = some product)
    fun _ db p db' _ hP hfound h ↦ ?_
  have hid : product.id = productId := (Database.mem_of_product hfound).2
  exact hs.changed hP (by rw [hid]; exact hfound) h

theorem deleteProduct_keeping (productId : UUID) :
    Keeping (Backend.Holds T P) (deleteProduct productId) := by
  apply Contract.bind (getProduct_contract productId)
  intro product
  have hkeep : Keeping (Backend.Holds T P) (commitOr (update (Database.deleteProduct product))
      (.resourceConflict
        "Product cannot be deleted because related inventory or sales records exist.")) :=
    commitOr_contract (update_keeping fun db u db' hP h ↦ hs.deleted hP h)
  exact hkeep.weaken (fun _ h ↦ h.1) (fun _ _ h ↦ h) (fun _ h ↦ h)

/-! ## Shops -/

theorem createShop_keeping (data : CreateShop) :
    Keeping (Backend.Holds T P) (createShop data) := by
  refine .bind (ask_keeping _) fun id ↦ .bind (commitOr_contract (update_keeping
    fun db shop db' hP h ↦ ?_)) fun _ ↦ refreshShop_keeping _
  obtain ⟨hrows, -⟩ := Database.insertShop_ok h
  exact hs.quiet hP (by rw [hrows]) (by rw [hrows])

theorem updateLocale_keeping (phone : String) (locale : ShopLocale) :
    Keeping (Backend.Holds T P) (updateLocale phone locale) := by
  refine .bind (select_keeping _) fun found ↦ .bind (ask_keeping _) fun id ↦
    .bind (update_keeping fun db shop db' hP h ↦ ?_) fun _ ↦ .bind commit_keeping fun _ ↦
    refreshShop_keeping _
  cases found with
  | none =>
      obtain ⟨hrows, -⟩ := Database.insertShop_ok h
      exact hs.quiet hP (by rw [hrows]) (by rw [hrows])
  | some old =>
      obtain ⟨-, -, hrows⟩ := Database.write_eq_ok.mp h
      exact hs.quiet hP (by rw [hrows]) (by rw [hrows])

/-! ## Sales -/

/-- Deducting stock does not change what is known of a product. -/
theorem deductStock_contract {product : Product} (productId : UUID) (quantity : ℤ) :
    Contract (fun b ↦ b.Holds T P ∧ b.working.product productId = some product)
      (deductStock productId quantity false)
      (fun _ b ↦ b.Holds T P ∧ b.working.product productId = some product) (Backend.Holds T P) where
  returns b r b' h hx := by
    obtain ⟨row, db, -, -, hl, hw, -⟩ := deductStock_ok hx
    refine ⟨(hs.deductStock_keeping _ _ _).returns b r b' h.1 hx, ?_⟩
    rw [hl.working, Database.product, hw.products]
    exact h.2
  raises b e b' h hx := (hs.deductStock_keeping _ _ _).raises b e b' h.1 hx

theorem insertSale_contract {product : Product} (productId id : UUID) (quantity : ℤ)
    (recordedBy : String) :
    Contract (fun b ↦ b.Holds T P ∧ b.working.product productId = some product)
      (execute (Database.insertSale product.shopId productId quantity product.price recordedBy id))
      (fun _ ↦ Backend.Holds T P) (Backend.Holds T P) :=
  execute_contract (Q := fun db ↦ db.product productId = some product)
    fun _ _ _ _ hT hP hfound h ↦ hs.sold hP hT hfound h

theorem saleBody_keeping (shopId productId : UUID) (quantity : ℤ) (recordedBy : String) :
    Keeping (Backend.Holds T P) (saleBody shopId productId quantity recordedBy) := by
  apply Contract.bind (select_contract _)
  intro found
  cases found with
  | none => exact .throw fun _ h ↦ h.1
  | some product =>
      dsimp only
      split
      · exact .throw fun _ h ↦ h.1
      · rename_i hshop
        obtain rfl : product.shopId = shopId := not_not.mp hshop
        apply Contract.bind (hs.deductStock_contract productId quantity)
        intro _
        refine Contract.bind (Q := fun _ b ↦ b.Holds T P ∧ b.working.product productId = some product)
          ⟨fun b id b' h hx ↦ ⟨(ask_keeping _).returns b id b' h.1 hx, ?_⟩,
            fun b e b' h hx ↦ by cases hx⟩ fun id ↦ ?_
        · cases hx
          exact h.2
        · exact Contract.bind (hs.insertSale_contract productId id quantity recordedBy) fun sale ↦
            Keeping.bind (refreshSale_keeping _) fun _ ↦ .pure _

theorem recordSale_keeping (shopId productId : UUID) (quantity : ℤ) (recordedBy : String) :
    Keeping (Backend.Holds T P) (recordSale shopId productId quantity recordedBy) :=
  beginNested_keeping (hs.saleBody_keeping shopId productId quantity recordedBy)

end Stable

end SokoFlow
