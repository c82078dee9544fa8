import SokoFlow.Foundation.RowLocks
import SokoFlow.NewProduct
import SokoFlow.StockRuns

/-!
# Stock under row locks

The operations on stock statement by statement, as PostgreSQL runs them side by
side: the upsert and the two updates take the lock of the product's row, and
so does `SELECT … FOR UPDATE`; the reads of `update_threshold` and after a
commit take none.  The operations one at a time are those of the ledger.

The runs are about products whose row is there from the start: the statements
of a transaction that has no row to lock see nothing of a row that another one
is inserting.
-/

namespace SokoFlow.StockLocks

open DbM Effect InventoryService RowLocks Runs
open StockLedger (Call Succeeded transact)

/-- The columns of an inventory row that the services read and write. -/
structure Level where
  quantity : ℤ
  lowStockThreshold : ℤ
  deriving DecidableEq

def Level.isLow (l : Level) : Bool := l.quantity ≤ l.lowStockThreshold

def level (row : Inventory) : Level := ⟨row.quantity, row.lowStockThreshold⟩

/-- The inventory by product, as the transactions find it. -/
def levels (db : Database) (p : UUID) : Option Level := (db.inventoryOf p).map level

/-- What a transaction answers: the stock that is left and whether it got low,
for a sale, whose report is read under the lock. -/
structure Answer where
  call : Call
  result : Except Exc (Option (ℤ × Bool))

def Answer.succeeded (a : Answer) : Bool := a.result.isOk

abbrev StockTx := Tx UUID (Option Level) Answer

abbrev StockSession := Session UUID (Option Level) Answer

/-! ## The transactions -/

/-- The upsert adds to the row it finds, or inserts one. -/
def upserted (q : ℤ) : Option Level → Level
  | none => ⟨q, 5⟩
  | some l => { l with quantity := l.quantity + q }

/-- The columns hold the row, and a new row has its product. -/
def Upserts (product : Option Product) (q : ℤ) : Option Level → Prop
  | none => FitsInt q ∧ product.isSome = true
  | some l => FitsInt q ∧ FitsInt (l.quantity + q)

instance (product : Option Product) (q : ℤ) (row : Option Level) :
    Decidable (Upserts product q row) := by
  cases row <;> exact inferInstanceAs (Decidable (_ ∧ _))

/-- A row the columns do not hold, or a reference to no row. -/
def unstorable : Exc := .other "DBAPIError" "a value or a reference is refused"

/-- `UPDATE inventory SET quantity` of a row read under the lock. -/
def setQuantity (n : ℤ) : Option Level → Option Level := Option.map fun l ↦ { l with quantity := n }

/-- `UPDATE inventory SET low_stock_threshold` -/
def setThreshold (n : ℤ) : Option Level → Option Level :=
  Option.map fun l ↦ { l with lowStockThreshold := n }

/-- The transaction of a call; the product is read before any lock is taken. -/
def transaction (catalogue : UUID → Option Product) (call : Call) : StockTx :=
  match call with
  | .addStock p q =>
      .access p (fun row ↦ some (upserted q row)) fun row ↦
        if Upserts (catalogue p) q row then .commit ⟨call, .ok none⟩
        else .rollback ⟨call, .error unstorable⟩
  | .deductStock p q =>
      .access p id fun
        | none => .rollback ⟨call, .error (.resourceNotFound "Inventory Product" p.text)⟩
        | some l =>
            if isInsufficientStock q l.quantity then
              .rollback ⟨call, .error (.insufficientStock p.text q l.quantity)⟩
            else .access p (setQuantity (l.quantity - q)) fun _ ↦ .commit ⟨call, .ok none⟩
  | .updateThreshold p n =>
      .access p (setThreshold n) fun
        | none => .rollback ⟨call, .error (.other "StaleDataError" "0 were matched")⟩
        | some _ => .commit ⟨call, .ok none⟩
  | .recordSale shopId p q recordedBy =>
      match catalogue p with
      | none => .rollback ⟨call, .error (.resourceNotFound "Product" p.text)⟩
      | some product =>
          if product.shopId ≠ shopId then
            .rollback ⟨call,
              .error (.resourceConflict "Product does not belong to the specified shop.")⟩
          else .access p id fun
            | none => .rollback ⟨call, .error (.resourceNotFound "Inventory Product" p.text)⟩
            | some l =>
                if isInsufficientStock q l.quantity then
                  .rollback ⟨call, .error (.insufficientStock p.text q l.quantity)⟩
                else .access p (setQuantity (l.quantity - q)) fun _ ↦
                  -- the insert of the sale may still be refused
                  if FitsMoney (product.price * (q : ℤ)) ∧
                      FitsFreeText 20 (kept 20 recordedBy) then
                    let left : Level := { l with quantity := l.quantity - q }
                    .commit ⟨call, .ok (some (left.quantity,
                      shouldSendLowStockAlert l.isLow left.isLow))⟩
                  else .rollback ⟨call, .error unstorable⟩

/-- `db.refresh` after a commit reads the row outside of the transaction. -/
def refreshed (p : UUID) (rest : StockSession) : Option Answer → StockSession
  | some ⟨_, .ok _⟩ => .look p fun _ ↦ rest
  | _ => rest

/-- A client that makes these calls.  `update_threshold` reads the row first:
without one it raises, and with the threshold it already has nothing is written. -/
def session (catalogue : UUID → Option Product) : List Call → StockSession
  | [] => .closed
  | .updateThreshold p n :: calls =>
      .look p fun
        | some (some l) =>
            if l.lowStockThreshold = n then .look p fun _ ↦ session catalogue calls
            else .transact (transaction catalogue (.updateThreshold p n))
              (refreshed p (session catalogue calls))
        | _ => session catalogue calls
  | .addStock p q :: calls =>
      .transact (transaction catalogue (.addStock p q)) (refreshed p (session catalogue calls))
  | .deductStock p q :: calls =>
      .transact (transaction catalogue (.deductStock p q)) (refreshed p (session catalogue calls))
  | .recordSale shopId p q recordedBy :: calls =>
      .transact (transaction catalogue (.recordSale shopId p q recordedBy)) fun _ ↦
        session catalogue calls

/-! ## One transaction alone is the call of the ledger -/

variable {db db' : Database} {p : UUID} {call : Call}

theorem levels_of_inventoryOf {row : Inventory} (h : db.inventoryOf p = some row) :
    levels db p = some (level row) := by
  rw [levels, h]
  rfl

/-- The rows after a write of one inventory row. -/
theorem levels_of_row {row : Inventory} (hrow : db'.inventoryOf p = some row)
    (hothers : ∀ p', p' ≠ p → db'.inventoryOf p' = db.inventoryOf p') :
    levels db' = Function.update (levels db) p (some (level row)) := by
  funext p'
  by_cases hp : p' = p
  · subst hp
    rw [Function.update_self, levels_of_inventoryOf hrow]
  · rw [Function.update_of_ne hp, levels, levels, hothers p' hp]

/-- A call of the ledger succeeds, or leaves the rows alone. -/
theorem transact_cases (call : Call) (db : Database) :
    (∃ db', transact .calm call db = (true, db') ∧ Succeeded call db db') ∨
      transact .calm call db = (false, db) := by
  cases h : transact .calm call db with
  | mk succeeded db' =>
      cases succeeded with
      | true => exact .inl ⟨db', rfl, StockLedger.succeeded_of_transact h⟩
      | false =>
          obtain rfl := StockLedger.unchanged_of_transact Env.calm_faultless h
          exact .inr rfl

/-- What a sale answers is the stock it left, and whether it crossed the threshold. -/
def Reports (a : Answer) (m : StockLedger.Moment) : Prop :=
  ∀ left low, a.result = .ok (some (left, low)) → left = m.after.stock m.productId ∧
    (low = true ↔ StockRuns.Above m.productId m.before ∧ StockRuns.Low m.productId m.after)

/-- What a transaction alone does is what the call does on rows with its inventory. -/
structure Agrees (call : Call) (db : Database) (outcome : Answer × (UUID → Option Level)) :
    Prop where
  named : outcome.1.call = call
  refines : ∃ db', transact .calm call db = (outcome.1.succeeded, db') ∧ levels db' = outcome.2 ∧
    db'.products = db.products ∧ Reports outcome.1 ⟨call, db, outcome.1.succeeded, db'⟩

/-- A transaction that is rolled back agrees with a call that cannot succeed. -/
theorem agrees_refused {e : Exc} (h : ∀ db', ¬ Succeeded call db db') :
    Agrees call db (⟨call, .error e⟩, levels db) := by
  refine ⟨rfl, db, ?_, rfl, rfl, fun left low hr ↦ by cases hr⟩
  rcases transact_cases call db with ⟨db', -, hs⟩ | hf
  · exact absurd hs (h db')
  · exact hf

theorem transact_of_ok {u : Unit} {b : Backend}
    (h : call.run (Backend.connect .calm db) = .ok u b) :
    transact .calm call db = (true, b.committed) := by
  rw [transact, h]

/-! ### Adding stock -/

theorem addStock_stocked {row : Inventory} {id : UUID} {q : ℤ} (hi : db.inventoryOf p = some row)
    (hq : 0 < q) (hfq : FitsInt q) (hfits : FitsInt (row.quantity + q)) :
    ∃ row' db', Database.addStock p q id db = .ok (row', db') := by
  have hmem := Table.mem_of_lookup hi
  have hp : row.productId = p := Database.productId_of_inventoryOf hi
  have hv := db.valid.inventory
  have hfit := (hv.fits row hmem).2
  have hpos := hv.quantity row hmem
  have hold : db.inventoryOf { row with quantity := row.quantity + q }.productId = some row := by
    rw [← hi, ← hp]
  obtain ⟨db', hset⟩ : ∃ db', Database.setInventory { row with quantity := row.quantity + q } db =
      .ok ({ row with quantity := row.quantity + q }, db') :=
    Database.setInventory_of_bounds hold rfl ⟨hfits, hfit⟩ (by dsimp only; omega)
      (hv.threshold row hmem)
  obtain ⟨hfits', -, hrows⟩ := Database.write_eq_ok.mp hset
  refine ⟨{ row with quantity := row.quantity + q }, db', ?_⟩
  unfold Database.addStock
  rw [hi]
  refine Database.write_eq_ok.mpr ⟨⟨hfq, hfits'⟩, rfl, ?_⟩
  rw [hrows, ← hp]

theorem addStock_statement_iff {id : UUID} {q : ℤ} (hq : 0 < q) :
    (∃ row db', Database.addStock p q id db = .ok (row, db')) ↔
      Upserts (db.product p) q (levels db p) := by
  cases hi : db.inventoryOf p with
  | none =>
      have hlevel : levels db p = none := by rw [levels, hi]; rfl
      rw [hlevel]
      constructor
      · rintro ⟨row, db', h⟩
        have hw := (Database.addStock_ok h).2
        have hproduct : p ∈ db.products.map (·.id) := by
          rw [← hw.products, ← Database.productId_of_inventoryOf hw.row]
          exact db'.valid.inventory.product row (Table.mem_of_lookup hw.row)
        obtain ⟨product, hmem, rfl⟩ := List.mem_map.mp hproduct
        refine ⟨(addStock_new_iff id hq hproduct hi).mp ⟨row, db', h⟩, ?_⟩
        rw [Database.product_of_mem hmem]
        rfl
      · rintro ⟨hfits, hsome⟩
        obtain ⟨product, hfound⟩ := Option.isSome_iff_exists.mp hsome
        obtain ⟨hmem, rfl⟩ := Database.mem_of_product hfound
        exact (addStock_new_iff id hq (List.mem_map_of_mem hmem) hi).mpr hfits
  | some row =>
      rw [levels_of_inventoryOf hi]
      constructor
      · rintro ⟨row', db', h⟩
        simp only [Database.addStock, hi] at h
        obtain ⟨⟨hfq, hfits, -⟩, -, -⟩ := Database.write_eq_ok.mp h
        exact ⟨hfq, hfits⟩
      · rintro ⟨hfq, hfits⟩
        exact addStock_stocked hi hq hfq hfits

/-- The row an upsert returns keeps the threshold. -/
theorem level_of_addStock {id : UUID} {q : ℤ} {row : Inventory}
    (h : Database.addStock p q id db = .ok (row, db')) : level row = upserted q (levels db p) := by
  unfold Database.addStock at h
  cases hi : db.inventoryOf p with
  | none =>
      simp only [hi] at h
      obtain ⟨-, rfl, -⟩ := Database.write_eq_ok.mp h
      rw [levels, hi]
      rfl
  | some old =>
      simp only [hi] at h
      obtain ⟨-, rfl, -⟩ := Database.write_eq_ok.mp h
      rw [levels_of_inventoryOf hi]
      rfl

theorem transact_addStock {q : Quantity} {row : Inventory}
    (h : Database.addStock p q (Env.calm.uuid 0) db = .ok (row, db')) :
    transact .calm (.addStock p q) db = (true, db') := by
  let b : Backend := { Backend.connect .calm db with tick := 1 }
  obtain ⟨b₁, h₁, hl₁⟩ := update_calm (b := b) h Env.calm_faultless rfl
  have hlook := Database.lookup_id_of_inventoryOf (Database.addStock_ok h).2.row
  obtain ⟨b₂, h₂, hl₂⟩ := finalizeInventory_calm true (pure_apply () b₁)
    (hl₁.env ▸ Env.calm_faultless) hl₁.aborted (by rw [hl₁.working]; exact hlook)
  have hadd : InventoryService.addStock p q true (Backend.connect .calm db) = .ok row b₂ := by
    unfold InventoryService.addStock
    rw [bind_of_ok (ask_apply _ _)]
    exact (bind_of_ok h₁).trans h₂
  have htrans : transact .calm (.addStock p q) db = (true, b₂.committed) :=
    transact_of_ok (bind_of_ok hadd)
  rw [htrans, hl₂.committed, hl₁.working]
  rfl

theorem transact_addStock_error {q : Quantity} {e : Exc}
    (h : Database.addStock p q (Env.calm.uuid 0) db = .error e) :
    transact .calm (.addStock p q) db = (false, db) := by
  rcases transact_cases (.addStock p q) db with ⟨db', htrans, -⟩ | hf
  · exfalso
    unfold transact at htrans
    split at htrans
    · rename_i u b hrun
      obtain ⟨i, b₁, h₁, -⟩ := bind_eq_ok.mp hrun
      unfold InventoryService.addStock at h₁
      rw [bind_of_ok (ask_apply _ _)] at h₁
      obtain ⟨row, b₂, h₂, -⟩ := bind_eq_ok.mp h₁
      obtain ⟨db₂, hr, -⟩ := update_ok h₂
      rw [show Database.addStock p q (Env.calm.uuid 0) db = .ok (row, db₂) from hr] at h
      cases h
    · cases htrans
  · exact hf

theorem agrees_addStock (p : UUID) (q : Quantity) (db : Database) :
    Agrees (.addStock p q) db ((transaction db.product (.addStock p q)).alone (levels db)) := by
  have hiff : (∃ row db', Database.addStock p q (Env.calm.uuid 0) db = .ok (row, db')) ↔ _ :=
    addStock_statement_iff q.2
  cases h : Database.addStock p q (Env.calm.uuid 0) db with
  | ok r =>
      obtain ⟨row, db'⟩ := r
      have hups := hiff.mp ⟨row, db', h⟩
      have hw := (Database.addStock_ok h).2
      refine ⟨by simp [transaction, Tx.alone, Tx.from, hups], db', ?_, ?_, hw.products, ?_⟩
      · simp [transaction, Tx.alone, Tx.from, hups, transact_addStock h, Answer.succeeded,
          Except.isOk, Except.toBool]
      · rw [levels_of_row hw.row hw.others, level_of_addStock h]
        simp [transaction, Tx.alone, Tx.from, hups]
      · intro left low hr
        simp [transaction, Tx.alone, Tx.from, hups] at hr
  | error e =>
      have hups : ¬ Upserts (db.product p) q (levels db p) := by
        intro hups
        obtain ⟨row, db', hok⟩ := hiff.mpr hups
        rw [hok] at h
        cases h
      have halone : (transaction db.product (.addStock p q)).alone (levels db) =
          (⟨.addStock p q, .error unstorable⟩, levels db) := by
        simp [transaction, Tx.alone, Tx.from, hups]
      rw [halone]
      exact ⟨rfl, db, transact_addStock_error h, rfl, rfl, fun left low hr ↦ by cases hr⟩

/-! ### The other calls -/

theorem fitsInt_threshold (n : Threshold) : FitsInt n := by
  obtain ⟨h₀, h₁⟩ := n.2
  constructor <;> omega

/-- A transaction that commits agrees with a call that does not fail. -/
theorem agrees_accepted {a : Answer} {rows : UUID → Option Level} (hcall : a.call = call)
    (hok : a.succeeded = true) (hsucceeds : transact .calm call db ≠ (false, db))
    (h : ∀ db', Succeeded call db db' → levels db' = rows ∧
      Reports a ⟨call, db, a.succeeded, db'⟩) :
    Agrees call db (a, rows) := by
  rcases transact_cases call db with ⟨db', htrans, hs⟩ | hf
  · obtain ⟨hlevels, hreport⟩ := h db' hs
    refine ⟨hcall, db', ?_, hlevels, StockLedger.products_of_succeeded hs, hreport⟩
    rw [htrans, hok]
  · exact absurd hf hsucceeds

theorem agrees_deductStock (p : UUID) (q : Quantity) (db : Database) :
    Agrees (.deductStock p q) db ((transaction db.product (.deductStock p q)).alone (levels db)) := by
  unfold transaction Tx.alone
  cases hi : db.inventoryOf p with
  | none =>
      have hlevel : levels db p = none := by rw [levels, hi]; rfl
      simp only [Tx.from, hlevel]
      apply agrees_refused
      rintro db' (_ | ⟨hrow, -⟩)
      rw [hi] at hrow
      cases hrow
  | some row =>
      have hlevel := levels_of_inventoryOf hi
      simp only [Tx.from, hlevel]
      cases hs : isInsufficientStock q (level row).quantity with
      | true =>
          simp only [if_true, Tx.from]
          apply agrees_refused
          rintro db' (_ | ⟨hrow, hw⟩)
          rw [hi] at hrow
          cases hrow
          have hpos := db'.valid.inventory.quantity _ (Table.mem_of_lookup hw.row)
          have hlt : row.quantity < q := by simpa [isInsufficientStock, level] using hs
          simp only [deducted] at hpos
          omega
      | false =>
          simp only [Bool.false_eq_true, if_false, Tx.from, id_eq]
          have hle : (q : ℤ) ≤ row.quantity := by
            simpa [isInsufficientStock, level] using hs
          obtain ⟨b', db₁, hrun, hl, -⟩ := deductStock_calm (b := Backend.connect .calm db) true
            Env.calm_faultless rfl hi q.2.le hle
          have htrans : transact .calm (.deductStock p q) db = (true, b'.committed) :=
            transact_of_ok (bind_of_ok hrun)
          refine agrees_accepted rfl rfl (by rw [htrans]; simp) fun db' hsucc ↦ ⟨?_, ?_⟩
          · obtain _ | ⟨hrow, hw⟩ := hsucc
            rw [hi] at hrow
            cases hrow
            rw [levels_of_row hw.row hw.others]
            simp [setQuantity, level, deducted]
          · rintro left low hr
            cases hr

theorem agrees_updateThreshold (p : UUID) (n : Threshold) (db : Database) :
    Agrees (.updateThreshold p n) db
      ((transaction db.product (.updateThreshold p n)).alone (levels db)) := by
  unfold transaction Tx.alone
  cases hi : db.inventoryOf p with
  | none =>
      have hlevel : levels db p = none := by rw [levels, hi]; rfl
      simp only [Tx.from, hlevel]
      apply agrees_refused
      rintro db' (_ | _ | ⟨hrow, -⟩)
      rw [hi] at hrow
      cases hrow
  | some row =>
      have hlevel := levels_of_inventoryOf hi
      simp only [Tx.from, hlevel]
      obtain ⟨b₁, h₁, hu, ha⟩ := getStock_calm (b := Backend.connect .calm db)
        Env.calm_faultless rfl hi
      have hp : row.productId = p := Database.productId_of_inventoryOf hi
      have hmem := Table.mem_of_lookup hi
      have hold : b₁.working.inventoryOf (alertingAt row n).productId = some row := by
        rw [hu.working]
        exact hp ▸ hi
      obtain ⟨b₂, db₂, h₂, -⟩ := finalize_flush_calm true (hu.env ▸ Env.calm_faultless) ha hold rfl
        ⟨(db.valid.inventory.fits row hmem).1, fitsInt_threshold n⟩
        (db.valid.inventory.quantity row hmem) n.2
      have hrun : InventoryService.updateThreshold p n true (Backend.connect .calm db) =
          .ok (alertingAt row n) b₂ := (bind_of_ok h₁).trans h₂
      have htrans : transact .calm (.updateThreshold p n) db = (true, b₂.committed) :=
        transact_of_ok (bind_of_ok hrun)
      refine agrees_accepted rfl rfl (by rw [htrans]; simp) fun db' hsucc ↦ ⟨?_, ?_⟩
      · obtain _ | _ | ⟨hrow, hw⟩ := hsucc
        rw [hi] at hrow
        cases hrow
        rw [levels_of_row hw.row hw.others]
        simp [setThreshold, level, alertingAt]
      · rintro left low hr
        cases hr

theorem transact_recordSale {shopId : UUID} {q : Quantity} {recordedBy : String}
    {r : SalesService.SaleResult} {b : Backend}
    (h : SalesService.recordSale shopId p q recordedBy (Backend.connect .calm db) = .ok r b) :
    transact .calm (.recordSale shopId p q recordedBy) db ≠ (false, db) := by
  obtain ⟨_, _, db₁, -, hl, -, -⟩ := SalesService.recordSale_ok h
  obtain ⟨b₁, hc, -⟩ := commit_calm (hl.env ▸ Env.calm_faultless) hl.aborted
  have hbody : (do let _ ← SalesService.recordSale shopId p q recordedBy)
      (Backend.connect .calm db) = .ok () b := bind_of_ok h
  have htrans : transact .calm (.recordSale shopId p q recordedBy) db = (true, b₁.committed) :=
    transact_of_ok (getWorkerDb_eq_ok.mpr ⟨b, hbody, hc⟩)
  rw [htrans]
  simp

/-- A sale that was inserted fits its columns. -/
theorem fits_of_sale {shopId : UUID} {q : ℤ} {recordedBy : String} {product : Product}
    {row : Inventory} {sale : Sale}
    (h : SalesService.SaleWrite shopId p q recordedBy product row sale db db') :
    FitsMoney (product.price * q) ∧ FitsFreeText 20 (kept 20 recordedBy) := by
  have hmem : sale ∈ db'.sales := by
    rw [h.sales]
    exact List.mem_append_right _ (List.mem_singleton_self _)
  obtain ⟨-, -, htotal, hby⟩ := db'.valid.sales.fits sale hmem
  rw [db'.valid.sales.total sale hmem, h.unitPrice, h.quantity] at htotal
  rw [h.recordedBy] at hby
  exact ⟨htotal, hby⟩

theorem agrees_recordSale (shopId p : UUID) (q : Quantity) (recordedBy : String) (db : Database) :
    Agrees (.recordSale shopId p q recordedBy) db
      ((transaction db.product (.recordSale shopId p q recordedBy)).alone (levels db)) := by
  unfold transaction Tx.alone
  cases hp : db.product p with
  | none =>
      simp only [hp, Tx.from]
      apply agrees_refused
      rintro db' (_ | _ | _ | ⟨hw⟩)
      have hfound := hw.sellable.found
      rw [hp] at hfound
      cases hfound
  | some product =>
      by_cases howned : product.shopId = shopId
      · cases hi : db.inventoryOf p with
        | none =>
            have hlevel : levels db p = none := by rw [levels, hi]; rfl
            simp only [hp, howned, ne_eq, not_true_eq_false, if_false, Tx.from, hlevel]
            apply agrees_refused
            rintro db' (_ | _ | _ | ⟨hw⟩)
            have hrow := hw.sellable.stocked
            rw [hi] at hrow
            cases hrow
        | some row =>
            have hlevel := levels_of_inventoryOf hi
            simp only [hp, howned, ne_eq, not_true_eq_false, if_false, Tx.from, hlevel]
            cases hs : isInsufficientStock q (level row).quantity with
            | true =>
                simp only [if_true, Tx.from]
                apply agrees_refused
                rintro db' (_ | _ | _ | ⟨hw⟩)
                have hrow := hw.sellable.stocked
                have henough := hw.sellable.enough
                rw [hi] at hrow
                cases hrow
                have hlt : row.quantity < q := by simpa [isInsufficientStock, level] using hs
                omega
            | false =>
                have hle : (q : ℤ) ≤ row.quantity := by
                  simpa [isInsufficientStock, level] using hs
                by_cases hfits : FitsMoney (product.price * (q : ℤ)) ∧
                    FitsFreeText 20 (kept 20 recordedBy)
                · simp only [Bool.false_eq_true, if_false, Tx.from, if_pos hfits]
                  obtain ⟨r, b₁, hrun⟩ : ∃ r b₁, SalesService.recordSale shopId p q recordedBy
                      (Backend.connect .calm db) = .ok r b₁ :=
                    SalesService.recordSale_accepted Env.calm_faultless rfl ⟨hp, howned, hi, hle⟩
                      q.2 hfits.1 hfits.2
                  refine agrees_accepted rfl rfl (transact_recordSale hrun) fun db' hsucc ↦ ?_
                  obtain _ | _ | _ | ⟨hw⟩ := hsucc
                  have hrow := hw.sellable.stocked
                  rw [hi] at hrow
                  cases hrow
                  refine ⟨?_, fun left low hr ↦ ?_⟩
                  · rw [levels_of_row hw.left hw.others]
                    simp [setQuantity, level, deducted]
                  · cases hr
                    refine ⟨?_, StockRuns.entered_iff hi hw.left⟩
                    dsimp only [StockLedger.Moment.productId]
                    rw [Database.stock_of_inventoryOf hw.left]
                    rfl
                · simp only [Bool.false_eq_true, if_false, Tx.from, if_neg hfits]
                  apply agrees_refused
                  rintro db' (_ | _ | _ | ⟨hw⟩)
                  have hfound := hw.sellable.found
                  rw [hp] at hfound
                  cases hfound
                  exact hfits (fits_of_sale hw)
      · simp only [hp, howned, ne_eq, not_false_eq_true, if_true, Tx.from]
        apply agrees_refused
        rintro db' (_ | _ | _ | ⟨hw⟩)
        have hfound := hw.sellable.found
        rw [hp] at hfound
        cases hfound
        exact howned hw.sellable.owned

theorem agrees_transaction (call : Call) (db : Database) :
    Agrees call db ((transaction db.product call).alone (levels db)) := by
  cases call with
  | addStock p q => exact agrees_addStock p q db
  | deductStock p q => exact agrees_deductStock p q db
  | updateThreshold p n => exact agrees_updateThreshold p n db
  | recordSale shopId p q recordedBy => exact agrees_recordSale shopId p q recordedBy db

/-! ## Every interleaving is a run of the ledger -/

/-- A call of the ledger is the one whose transaction ended. -/
structure Matches (m : StockLedger.Moment) (e : Entry UUID (Option Level) Answer) : Prop where
  call : m.call = e.answer.call
  succeeded : m.succeeded = e.answer.succeeded
  report : Reports e.answer m

theorem each_session (catalogue : UUID → Option Product) (calls : List Call) :
    (session catalogue calls).Each fun t ↦ ∃ call, t = transaction catalogue call := by
  induction calls with
  | nil => exact .closed
  | cons call calls ih =>
      have hrefreshed : ∀ p answer, (refreshed p (session catalogue calls) answer).Each
          fun t ↦ ∃ call, t = transaction catalogue call := by
        intro p answer
        unfold refreshed
        split
        · exact .look fun _ ↦ ih
        · exact ih
      cases call with
      | addStock p q => exact .transact ⟨_, rfl⟩ (hrefreshed p)
      | deductStock p q => exact .transact ⟨_, rfl⟩ (hrefreshed p)
      | recordSale shopId p q recordedBy => exact .transact ⟨_, rfl⟩ fun _ ↦ ih
      | updateThreshold p n =>
          refine .look fun found ↦ ?_
          split
          · split
            · exact .look fun _ ↦ ih
            · exact .transact ⟨_, rfl⟩ (hrefreshed p)
          · exact ih

/-- Transactions one at a time are calls of the ledger one at a time. -/
theorem ledger_of_serial {before : List StockLedger.Moment} {db₀ : Database}
    {log : List (Entry UUID (Option Level) Answer)} {rows : UUID → Option Level}
    (h₀ : StockLedger.Run before db₀) (h : Serial (levels db₀) log rows)
    (hlog : ∀ e ∈ log, ∃ call, e.tx = transaction db₀.product call) :
    ∃ after db, StockLedger.Run (before ++ after) db ∧ levels db = rows ∧
      db.products = db₀.products ∧ List.Forall₂ Matches after log := by
  induction h with
  | nil => exact ⟨[], db₀, by simpa using h₀, rfl, rfl, .nil⟩
  | @snoc log rows rows' t a _ halone ih =>
      obtain ⟨after, db, hrun, hlevels, hproducts, hmatch⟩ :=
        ih fun e he ↦ hlog e (List.mem_append_left _ he)
      obtain ⟨call, ht⟩ := hlog ⟨t, a⟩ (List.mem_append_right _ (List.mem_singleton_self _))
      dsimp only at ht
      have hcatalogue : db₀.product = db.product := by
        funext p
        rw [Database.product, Database.product, hproducts]
      obtain ⟨hnamed, db', htrans, hlevels', hproducts', hreport⟩ := agrees_transaction call db
      rw [← hcatalogue, ← ht, hlevels, halone] at hnamed htrans hlevels' hreport
      have hstep := StockLedger.Run.call .calm Env.calm_faultless call hrun
      rw [htrans, List.append_assoc] at hstep
      refine ⟨after ++ [⟨call, db, a.succeeded, db'⟩], db', hstep, hlevels',
        hproducts'.trans hproducts, ?_⟩
      exact List.rel_append hmatch (.cons ⟨hnamed.symm, rfl, hreport⟩ .nil)

theorem ascending_transaction (catalogue : UUID → Option Product) (call : Call) :
    (transaction catalogue call).Ascending UUID.val 0 := by
  cases call with
  | addStock p q =>
      refine .access (Nat.zero_le _) fun row ↦ ?_
      split
      · exact .commit _ _
      · exact .rollback _ _
  | deductStock p q =>
      refine .access (Nat.zero_le _) fun row ↦ ?_
      split
      · exact .rollback _ _
      · split
        · exact .rollback _ _
        · exact .access le_rfl fun _ ↦ .commit _ _
  | updateThreshold p n =>
      refine .access (Nat.zero_le _) fun row ↦ ?_
      split
      · exact .rollback _ _
      · exact .commit _ _
  | recordSale shopId p q recordedBy =>
      simp only [transaction]
      split
      · exact .rollback _ _
      · split
        · exact .rollback _ _
        · refine .access (Nat.zero_le _) fun row ↦ ?_
          split
          · exact .rollback _ _
          · split
            · exact .rollback _ _
            · refine .access le_rfl fun _ ↦ ?_
              split
              · exact .commit _ _
              · exact .rollback _ _

/-- No transaction deletes a row. -/
theorem transaction_keeps (catalogue : UUID → Option Product) (call : Call) :
    (transaction catalogue call).Keeps fun row ↦ row.isSome = true := by
  cases call with
  | addStock p q =>
      refine .access (fun _ _ ↦ rfl) fun row ↦ ?_
      split
      · exact .commit _
      · exact .rollback _
  | deductStock p q =>
      refine .access (fun _ h ↦ h) fun row ↦ ?_
      split
      · exact .rollback _
      · split
        · exact .rollback _
        · exact .access (fun _ h ↦ by simpa [setQuantity] using h) fun _ ↦ .commit _
  | updateThreshold p n =>
      refine .access (fun _ h ↦ by simpa [setThreshold] using h) fun row ↦ ?_
      split
      · exact .rollback _
      · exact .commit _
  | recordSale shopId p q recordedBy =>
      simp only [transaction]
      split
      · exact .rollback _
      · split
        · exact .rollback _
        · refine .access (fun _ h ↦ h) fun row ↦ ?_
          split
          · exact .rollback _
          · split
            · exact .rollback _
            · refine .access (fun _ h ↦ by simpa [setQuantity] using h) fun _ ↦ ?_
              split
              · exact .commit _
              · exact .rollback _

def productOf : Call → UUID
  | .addStock p _ | .deductStock p _ | .updateThreshold p _ | .recordSale _ p _ _ => p

/-- The products of the calls have their rows. -/
def Stocked (db : Database) (calls : List (List Call)) : Prop :=
  ∀ list ∈ calls, ∀ call ∈ list, (db.inventoryOf (productOf call)).isSome = true

/-- Whatever the interleaving of the statements, what is committed is a run of
the ledger, the rows the clients lock stay, and the clients can all get to the
end of their calls. -/
theorem interleaving_refines_ledger {before : List StockLedger.Moment} {db₀ : Database}
    (h₀ : StockLedger.Run before db₀) {calls : List (List Call)} (hstocked : Stocked db₀ calls)
    {history : List (Moment (Store UUID (Option Level) Answer) (ℕ × Bool))}
    {s : Store UUID (Option Level) Answer}
    (run : Interleaving (levels db₀) (calls.map (session db₀.product)) history s) :
    (∃ after db, StockLedger.Run (before ++ after) db ∧ levels db = s.rows ∧ Stocked db calls ∧
      List.Forall₂ Matches after s.log) ∧
    ∃ s', Relation.ReflTransGen (fun s s' ↦ ∃ i, s.next (i, false) = some s') s s' ∧
      ∀ c ∈ s'.clients, c = .resting .closed := by
  have hsound := sound_of_run run
  have heach : ∀ t ∈ calls.map (session db₀.product),
      t.Each fun t ↦ ∃ call, t = transaction db₀.product call := by
    intro t ht
    obtain ⟨list, -, rfl⟩ := List.mem_map.mp ht
    exact each_session _ _
  have hlog := log_of_run heach run
  constructor
  · obtain ⟨after, db, hrun, hlevels, -, hmatch⟩ := ledger_of_serial h₀ hsound.serial hlog
    refine ⟨after, db, hrun, hlevels, ?_, hmatch⟩
    intro list hlist call hcall
    have hrow : (levels db₀ (productOf call)).isSome = true := by
      rw [levels, Option.isSome_map]
      exact hstocked list hlist call hcall
    have hstays : (s.rows (productOf call)).isSome = true := by
      apply hsound.serial.keeps (P := fun row ↦ row.isSome = true) _ hrow
      intro e he
      obtain ⟨call, ht⟩ := hlog e he
      rw [ht]
      exact transaction_keeps _ call
    rw [← hlevels, levels, Option.isSome_map] at hstays
    exact hstays
  · have hrank : Function.Injective UUID.val := by
      rintro ⟨i⟩ ⟨j⟩ h
      exact congrArg UUID.mk h
    have hascending : ∀ t ∈ calls.map (session db₀.product), t.Each (Tx.Ascending UUID.val 0) := by
      intro t ht
      apply (heach t ht).mono
      rintro t ⟨call, rfl⟩
      exact ascending_transaction _ call
    exact exists_done hrank hsound (ascending_of_run hascending run)

/-- Ten units of milk. -/
def stocked : Database := (transact .calm StockLedger.delivery StockLedger.dairy).2

/-- One client sells eight units, and one three. -/
def rivalCalls : List (List Call) := [[StockLedger.oversale], [StockLedger.sale]]

def rivals : Store UUID (Option Level) Answer where
  rows := levels stocked
  clients := (rivalCalls.map (session stocked.product)).map .resting

def rivalSteps : List (ℕ × Bool) :=
  [(0, false), (1, false), (0, false), (0, false), (0, false), (1, false), (1, false)]

theorem rivals_opening :
    Opening (levels stocked) (rivalCalls.map (session stocked.product)) rivals := ⟨rfl, rfl, rfl⟩

/-- The first client takes the lock, and the other finds two units. -/
theorem interleaving_refines_ledger_rivals :
    ∃ history s, Interleaving (levels stocked) (rivalCalls.map (session stocked.product)) history s ∧
      (s.rows ⟨2⟩ = some ⟨2, 5⟩ ∧ s.log.map (·.answer.succeeded) = [true, false]) ∧
      ∃ before after db, StockLedger.Run (before ++ after) db ∧ levels db = s.rows ∧
        List.Forall₂ Matches after s.log := by
  have h₀ := StockLedger.Run.call .calm Env.calm_faultless StockLedger.delivery
    (.start StockLedger.dairy rfl rfl)
  obtain ⟨history, s, run, hs⟩ : ∃ history s,
      Interleaving (levels stocked) (rivalCalls.map (session stocked.product)) history s ∧
        s.rows ⟨2⟩ = some ⟨2, 5⟩ ∧ s.log.map (·.answer.succeeded) = [true, false] :=
    exists_run_of_labels rivalSteps (fun _ _ _ ↦ trivial) rivals_opening (by decide +kernel)
  have hstocked : Stocked stocked rivalCalls := by
    intro list hlist call hcall
    have hmilk : ∀ list ∈ rivalCalls, ∀ call ∈ list, productOf call = ⟨2⟩ := by decide
    rw [hmilk list hlist call hcall]
    decide +kernel
  obtain ⟨⟨after, db, hrun, hlevels, -, hmatch⟩, -⟩ := interleaving_refines_ledger h₀ hstocked run
  exact ⟨history, s, run, hs, _, after, db, hrun, hlevels, hmatch⟩

end SokoFlow.StockLocks
