import SokoFlow.Services.Inventory

/-!
# `sales_service.py`

`recordSale` deducts the stock and inserts the sale inside one savepoint, so
that a failure on the way leaves neither; committing is its caller's business.
-/

namespace SokoFlow.SalesService

open DbM Effect InventoryService

structure SaleResult where
  sale : Sale
  remainingStock : ℤ
  enteredLowStock : Bool

/-- `db.refresh(sale)` -/
def refreshSale (id : UUID) : DbM Sale := do
  match ← select fun db ↦ Table.lookup Sale.id id db.sales with
  | some sale => return sale
  | none => throw (.other "InvalidRequestError" "Could not refresh instance")

/-- What runs between the savepoint and its release. -/
def saleBody (shopId productId : UUID) (quantity : ℤ) (recordedBy : String) : DbM SaleResult := do
  match ← select fun db ↦ db.product productId with
  | none => throw (.resourceNotFound "Product" productId.text)
  | some product =>
      if product.shopId ≠ shopId then
        throw (.resourceConflict "Product does not belong to the specified shop.")
      else do
        let stockResult ← deductStock productId quantity false
        let id ← ask Env.uuid
        let sale ← execute
          (Database.insertSale shopId productId quantity product.price recordedBy id)
        let sale ← refreshSale sale.id
        return ⟨sale, stockResult.remainingStock, stockResult.enteredLowStock⟩

def recordSale (shopId productId : UUID) (quantity : ℤ) (recordedBy : String := "System") :
    DbM SaleResult :=
  beginNested (saleBody shopId productId quantity recordedBy)

/-! ## What a sale does -/

variable {b b' : Backend} {e : Exc} {shopId p : UUID} {q : ℤ} {recordedBy : String}

/-- The product can be sold by the shop and its stock covers the quantity. -/
structure Sellable (db : Database) (shopId p : UUID) (q : ℤ) (product : Product)
    (row : Inventory) : Prop where
  found : db.product p = some product
  owned : product.shopId = shopId
  stocked : db.inventoryOf p = some row
  enough : q ≤ row.quantity

/-- The rows after a sale: the units are off the product's row, the sale is
the last one, and it has the product's price. -/
structure SaleWrite (shopId p : UUID) (q : ℤ) (recordedBy : String) (product : Product)
    (row : Inventory) (sale : Sale) (db db' : Database) : Prop where
  sellable : Sellable db shopId p q product row
  shops : db'.shops = db.shops
  products : db'.products = db.products
  left : db'.inventoryOf p = some (deducted row q)
  others : ∀ p', p' ≠ p → db'.inventoryOf p' = db.inventoryOf p'
  sales : db'.sales = db.sales ++ [sale]
  shopId : sale.shopId = shopId
  productId : sale.productId = p
  quantity : sale.quantity = q
  unitPrice : sale.unitPrice = product.price
  recordedBy : sale.recordedBy = kept 20 recordedBy

theorem refreshSale_ok {id : UUID} {sale : Sale} (h : refreshSale id b = .ok sale b') :
    Table.lookup Sale.id id b.working.sales = some sale ∧ Backend.Untouched b b' ∧
      b'.aborted = false := by
  obtain ⟨found, b₁, h₁, h⟩ := bind_eq_ok.mp h
  obtain ⟨hq, hu⟩ := select_ok h₁
  cases hrow : found with
  | none =>
      rw [hrow] at h
      cases h
  | some row =>
      rw [hrow] at h
      cases h
      exact ⟨hq ▸ hrow, hu, select_aborted h₁⟩

theorem refreshSale_error {id : UUID} (h : refreshSale id b = .error e b') :
    Backend.Untouched b b' ∧ e.isTechnical = true := by
  rcases bind_eq_error.mp h with h | ⟨found, b₁, h₁, h⟩
  · exact select_error h
  · cases found with
    | none =>
        cases h
        exact ⟨(select_ok h₁).2, rfl⟩
    | some row => cases h

theorem refreshSale_calm {id : UUID} {sale : Sale} (hf : b.env.Faultless)
    (ha : b.aborted = false) (hs : Table.lookup Sale.id id b.working.sales = some sale) :
    ∃ b', refreshSale id b = .ok sale b' ∧ Backend.Untouched b b' ∧ b'.aborted = false := by
  obtain ⟨b', h, hu, ha'⟩ := select_calm (fun db ↦ Table.lookup Sale.id id db.sales) hf ha
  refine ⟨b', ?_, hu, ha'⟩
  unfold refreshSale
  rw [bind_of_ok h, hs]
  rfl

theorem recordSale_ok {r : SaleResult} (h : recordSale shopId p q recordedBy b = .ok r b') :
    ∃ product row db, SaleWrite shopId p q recordedBy product row r.sale b.working db ∧
      Backend.Landed false db b b' ∧ r.remainingStock = row.quantity - q ∧
      r.enteredLowStock = shouldSendLowStockAlert (isLow row) (isLow (deducted row q)) := by
  obtain ⟨b₁, b₂, h₁, h, h₂⟩ := beginNested_eq_ok.mp h
  have hu₁ := (select_ok h₁).2
  have hu₂ := (select_ok h₂).2
  obtain ⟨found, b₃, h₃, h⟩ := bind_eq_ok.mp h
  obtain ⟨hq, hu₃⟩ := select_ok h₃
  cases hp : found with
  | none =>
      rw [hp] at h
      cases h
  | some product =>
      have hprod : b.working.product p = some product := hu₁.working ▸ hq ▸ hp
      simp only [hp] at h
      by_cases hs : product.shopId ≠ shopId
      · rw [if_pos hs] at h
        cases h
      · rw [if_neg hs] at h
        obtain ⟨sr, b₄, h₄, h⟩ := bind_eq_ok.mp h
        obtain ⟨row, db₁, hrow, hle, hl₄, hw, rfl⟩ := deductStock_ok h₄
        rw [bind_of_ok (ask_apply _ _)] at h
        obtain ⟨sale, b₅, h₅, h⟩ := bind_eq_ok.mp h
        obtain ⟨sale', b₆, h₆, h⟩ := bind_eq_ok.mp h
        cases h
        obtain ⟨ha, -, db₂, hins, rfl⟩ := execute_eq_ok.mp h₅
        simp only at hins
        rw [hl₄.working] at hins
        obtain ⟨hrows, hshop, hprodId, hqty, hprice, hby, hfresh⟩ := Database.insertSale_ok hins
        obtain ⟨hlook, hu₆, ha₆⟩ := refreshSale_ok h₆
        have hworking : b.working = b₃.working := (hu₃.working.trans hu₁.working).symm
        rw [← hworking] at hrow hw
        have hsales : db₂.sales = db₁.sales ++ [sale] := by rw [hrows]
        have hsame : sale' = sale := by
          have := Table.lookup_of_mem db₂.valid.sales.ids (r := sale)
            (by rw [hsales]; exact List.mem_append_right _ (List.mem_singleton_self _))
          exact Option.some.inj (hlook.symm.trans this)
        subst hsame
        refine ⟨product, row, db₂, ⟨⟨hprod, not_not.mp hs, hrow, hle⟩, ?_, ?_, ?_, ?_, ?_,
          hshop, hprodId, hqty, hprice, hby⟩, ⟨?_, ?_, ?_, ?_, select_aborted h₂⟩, rfl, rfl⟩
        · rw [hrows]
          exact hw.shops
        · rw [hrows]
          exact hw.products
        · rw [Database.inventoryOf, hrows]
          exact hw.row
        · intro p' hne
          rw [Database.inventoryOf, hrows]
          exact hw.others p' hne
        · rw [hsales, hw.sales]
        · exact hu₂.env.trans (hu₆.env.trans (hl₄.env.trans (hu₃.env.trans hu₁.env)))
        · exact hu₂.journal.trans
            (hu₆.journal.trans (hl₄.journal.trans (hu₃.journal.trans hu₁.journal)))
        · exact hu₂.working.trans hu₆.working
        · exact hu₂.committed.trans
            (hu₆.committed.trans (hl₄.committed.trans (hu₃.committed.trans hu₁.committed)))

theorem refreshSale_within (id : UUID) : Within Backend.Uncommitted (refreshSale id) :=
  within_select_bind fun found ↦ by
    cases found with
    | none => exact .throw _
    | some row => exact .pure _

theorem saleBody_within : Within Backend.Uncommitted (saleBody shopId p q recordedBy) :=
  within_select_bind fun found ↦ by
    cases found with
    | none => exact .throw _
    | some product =>
        dsimp only
        split
        · exact .throw _
        · apply (deductStock_within p q).bind
          intro _
          refine ((ask_within _).mono fun _ _ ↦ .of_untouched).bind fun _ ↦ ?_
          exact (execute_within _).bind fun _ ↦ (refreshSale_within _).bind fun _ ↦ .pure _

/-- The business exceptions of a sale, each with the rows it comes from. -/
inductive Refused (db : Database) (shopId p : UUID) (q : ℤ) : Exc → Prop
  | unknown (h : db.product p = none) :
      Refused db shopId p q (.resourceNotFound "Product" p.text)
  | foreign {product : Product} (h : db.product p = some product) (hs : product.shopId ≠ shopId) :
      Refused db shopId p q
        (.resourceConflict "Product does not belong to the specified shop.")
  | unstocked {product : Product} (h : db.product p = some product)
      (hs : product.shopId = shopId) (hi : db.inventoryOf p = none) :
      Refused db shopId p q (.resourceNotFound "Inventory Product" p.text)
  | short {product : Product} {row : Inventory} (h : db.product p = some product)
      (hs : product.shopId = shopId) (hi : db.inventoryOf p = some row) (hq : row.quantity < q) :
      Refused db shopId p q (.insufficientStock p.text q row.quantity)

/-- A sale that raises leaves the session's rows as they were. -/
theorem recordSale_error (h : recordSale shopId p q recordedBy b = .error e b') :
    Backend.Untouched b b' ∧ (e.isTechnical = true ∨ Refused b.working shopId p q e) := by
  obtain ⟨hu, he | ⟨b₁, b₂, h₁, h⟩⟩ := beginNested_error saleBody_within h
  · exact ⟨hu, .inl he⟩
  refine ⟨hu, ?_⟩
  have hu₁ := (select_ok h₁).2
  rcases bind_eq_error.mp h with h | ⟨found, b₃, h₃, h⟩
  · exact .inl (select_error h).2
  obtain ⟨hq, hu₃⟩ := select_ok h₃
  rw [hu₁.working] at hq
  cases hp : found with
  | none =>
      rw [hp] at h
      cases h
      exact .inr (.unknown (hq ▸ hp))
  | some product =>
      have hprod : b.working.product p = some product := hq ▸ hp
      simp only [hp] at h
      by_cases hs : product.shopId ≠ shopId
      · rw [if_pos hs] at h
        cases h
        exact .inr (.foreign hprod hs)
      · rw [if_neg hs] at h
        rcases bind_eq_error.mp h with h | ⟨sr, b₄, _, h⟩
        · rcases deductStock_error h with he | ⟨hi, rfl⟩ | ⟨row, hi, hlt, rfl⟩
          · exact .inl he
          · rw [hu₃.working, hu₁.working] at hi
            exact .inr (.unstocked hprod (not_not.mp hs) hi)
          · rw [hu₃.working, hu₁.working] at hi
            exact .inr (.short hprod (not_not.mp hs) hi hlt)
        · rw [bind_of_ok (ask_apply _ _)] at h
          rcases bind_eq_error.mp h with h | ⟨sale, b₅, _, h⟩
          · rcases (execute_error h).2 with he | he
            · exact .inl he
            · exact .inl (Database.write_error he)
          · rcases bind_eq_error.mp h with h | ⟨_, _, _, h⟩
            · exact .inl (refreshSale_error h).2
            · cases h

/-! ## Sales without faults -/

theorem recordSale_refused (hf : b.env.Faultless) (ha : b.aborted = false)
    (h : Refused b.working shopId p q e) :
    ∃ b', recordSale shopId p q recordedBy b = .error e b' := by
  obtain ⟨b₁, h₁, hu₁, ha₁⟩ := select_calm (fun _ ↦ ()) hf ha
  have hf₁ : b₁.env.Faultless := hu₁.env ▸ hf
  obtain ⟨b₂, h₂, hu₂, ha₂⟩ := select_calm (fun db ↦ db.product p) hf₁ ha₁
  have hf₂ : b₂.env.Faultless := hu₂.env ▸ hf₁
  have hw : b₂.working = b.working := hu₂.working.trans hu₁.working
  apply beginNested_raises h₁
  unfold saleBody
  rw [bind_of_ok h₂, hu₁.working]
  cases h with
  | unknown h => exact ⟨b₂, by rw [h]; rfl⟩
  | foreign h hs => exact ⟨b₂, by simp only [h, hs, ne_eq, not_false_eq_true, if_true]; rfl⟩
  | unstocked h hs hi =>
      obtain ⟨b₃, h₃⟩ := deductStock_calm_none q false hf₂ ha₂ (hw ▸ hi)
      exact ⟨b₃, by simp only [h, hs, ne_eq, not_true_eq_false, if_false, bind_of_error h₃]⟩
  | short h hs hi hq =>
      obtain ⟨b₃, h₃⟩ := deductStock_calm_insufficient false hf₂ ha₂ (hw ▸ hi) hq
      exact ⟨b₃, by simp only [h, hs, ne_eq, not_true_eq_false, if_false, bind_of_error h₃]⟩

theorem insertSale_of_fits {db : Database} {product : Product} (id : UUID) (now : Timestamp)
    (hp : product ∈ db.products) (hq : 0 < q) (hfq : FitsInt q)
    (ht : FitsMoney (product.price * q)) (hr : FitsFreeText 20 (kept 20 recordedBy)) :
    ∃ sale db', Database.insertSale product.shopId product.id q product.price recordedBy id now db =
      .ok (sale, db') := by
  have hv := db.valid
  have hfit := (hv.products.fits product hp).2
  let sale : Sale := ⟨Database.freshId (db.sales.map (·.id)) id, product.shopId, product.id, q,
    product.price, product.price * q, kept 20 recordedBy, now⟩
  have hs : SalesValid db.shops db.products (db.sales ++ [sale]) := by
    refine ⟨?_, ?_, ?_, ?_, ?_, ?_⟩
    · exact List.forall_mem_append.mpr ⟨hv.sales.fits, by simpa using ⟨hfq, hfit, ht, hr⟩⟩
    · rw [List.map_append, List.nodup_append]
      refine ⟨hv.sales.ids, by simp, ?_⟩
      rintro i hi j hj rfl
      rw [List.map_singleton, List.mem_singleton] at hj
      exact Database.freshId_notMem _ _ (hj ▸ hi)
    · exact List.forall_mem_append.mpr ⟨hv.sales.shop, by simpa using hv.products.shop product hp⟩
    · exact List.forall_mem_append.mpr ⟨hv.sales.product, by simpa using ⟨product, hp, rfl⟩⟩
    · exact List.forall_mem_append.mpr ⟨hv.sales.quantity, by simpa using hq⟩
    · exact List.forall_mem_append.mpr ⟨hv.sales.total, by simp [sale]⟩
  have hv' : Rows.Valid { db.toRows with sales := db.sales ++ [sale] } :=
    ⟨hv.shops, hv.products, hv.inventory, hs⟩
  exact ⟨sale, _, Database.write_of_valid ⟨hfq, hfit, ht, hr⟩ hv'⟩

/-- A sale of available stock succeeds when its row fits the columns. -/
theorem recordSale_accepted {product : Product} {row : Inventory} (hf : b.env.Faultless)
    (ha : b.aborted = false) (h : Sellable b.working shopId p q product row) (hq : 0 < q)
    (ht : FitsMoney (product.price * q)) (hr : FitsFreeText 20 (kept 20 recordedBy)) :
    ∃ r b', recordSale shopId p q recordedBy b = .ok r b' := by
  obtain ⟨hprod, rfl, hi, hle⟩ := h
  obtain rfl : product.id = p := Table.key_of_lookup hprod
  obtain ⟨b₁, h₁, hu₁, ha₁⟩ := select_calm (fun _ ↦ ()) hf ha
  have hf₁ : b₁.env.Faultless := hu₁.env ▸ hf
  obtain ⟨b₂, h₂, hu₂, ha₂⟩ := select_calm (fun db ↦ db.product product.id) hf₁ ha₁
  have hf₂ : b₂.env.Faultless := hu₂.env ▸ hf₁
  have hw : b₂.working = b.working := hu₂.working.trans hu₁.working
  obtain ⟨b₃, db₁, h₃, hl₃, hw₃⟩ :=
    deductStock_calm false hf₂ ha₂ (by rw [hw]; exact hi) (le_of_lt hq) hle
  have hf₃ : b₃.env.Faultless := hl₃.env ▸ hf₂
  have hmem : product ∈ db₁.products := by
    rw [hw₃.products, hw]
    exact Table.mem_of_lookup hprod
  have hfit := b.working.valid.inventory.fits row (Table.mem_of_lookup hi)
  have hfq : FitsInt q := ⟨by omega, le_trans hle hfit.1.2⟩
  let b₄ : Backend := { b₃ with tick := b₃.tick + 1 }
  obtain ⟨sale, db₂, hins⟩ := insertSale_of_fits (b₃.env.uuid b₃.tick) b₄.started hmem hq hfq ht hr
  have h₅ : execute (Database.insertSale product.shopId product.id q product.price recordedBy
      (b₃.env.uuid b₃.tick)) b₄ = .ok sale { b₄.served with working := db₂ } := by
    refine execute_eq_ok.mpr ⟨hl₃.aborted, hf₃.statement _, db₂, ?_, rfl⟩
    rw [show b₄.working = db₁ from hl₃.working]
    exact hins
  have hlook : Table.lookup Sale.id sale.id db₂.sales = some sale := by
    apply Table.lookup_of_mem db₂.valid.sales.ids
    rw [(Database.insertSale_ok hins).1]
    exact List.mem_append_right _ (List.mem_singleton_self _)
  obtain ⟨b₆, h₆, hu₆, ha₆⟩ := refreshSale_calm
    (b := { b₄.served with working := db₂ }) hf₃ hl₃.aborted hlook
  obtain ⟨b₇, h₇, -, -⟩ := select_calm (fun _ ↦ ()) (hu₆.env ▸ hf₃) ha₆
  refine ⟨⟨sale, row.quantity - q, shouldSendLowStockAlert (isLow row) (isLow (deducted row q))⟩,
    b₇, beginNested_eq_ok.mpr ⟨b₁, b₆, h₁, ?_, h₇⟩⟩
  unfold saleBody
  rw [bind_of_ok h₂, hu₁.working, hprod]
  simp only [ne_eq, not_true_eq_false, if_false]
  rw [bind_of_ok h₃, bind_of_ok (ask_apply _ _), bind_of_ok h₅, bind_of_ok h₆]
  rfl

end SokoFlow.SalesService
