import SokoFlow.Transactions
import SokoFlow.Config

/-!
# `inventory_service.py`

Stock is added by an upsert and deducted under a row lock; both end in
`finalizeInventory`, which commits or only flushes and then reads the row back.
-/

namespace SokoFlow

/-- `Field(gt=0)` -/
abbrev Quantity := { n : ℤ // 0 < n }

/-- `Field(ge=0, le=1000)` -/
abbrev Threshold := { n : ℤ // 0 ≤ n ∧ n ≤ 1000 }

namespace InventoryService

open DbM Effect

variable {b b' : Backend} {e : Exc}

structure StockDeductionResult where
  remainingStock : ℤ
  enteredLowStock : Bool
  deriving DecidableEq

/-- `db.refresh(inventory)` -/
def refresh (id : UUID) : DbM Inventory := do
  match ← select fun db ↦ Table.lookup Inventory.id id db.inventory with
  | some row => return row
  | none => throw (.other "InvalidRequestError" "Could not refresh instance")

theorem refresh_ok {id : UUID} {i : Inventory} (h : refresh id b = .ok i b') :
    Table.lookup Inventory.id id b.working.inventory = some i ∧ Backend.Untouched b b' ∧
      b'.aborted = false := by
  obtain ⟨found, b₁, h₁, h⟩ := bind_eq_ok.mp h
  obtain ⟨hq, hu⟩ := select_ok h₁
  cases hi : found with
  | none =>
      rw [hi] at h
      cases h
  | some row =>
      rw [hi] at h
      cases h
      exact ⟨hq ▸ hi, hu, select_aborted h₁⟩

theorem refresh_error {id : UUID} (h : refresh id b = .error e b') :
    Backend.Untouched b b' ∧ e.isTechnical = true := by
  rcases bind_eq_error.mp h with h | ⟨found, b₁, h₁, h⟩
  · exact select_error h
  · cases found with
    | none =>
        cases h
        exact ⟨(select_ok h₁).2, rfl⟩
    | some row => cases h

theorem refresh_calm (id : UUID) {i : Inventory} (hf : b.env.Faultless) (ha : b.aborted = false)
    (hi : Table.lookup Inventory.id id b.working.inventory = some i) :
    ∃ b', refresh id b = .ok i b' ∧ Backend.Untouched b b' ∧ b'.aborted = false := by
  obtain ⟨b', h, hu, ha'⟩ := select_calm (fun db ↦ Table.lookup Inventory.id id db.inventory) hf ha
  refine ⟨b', ?_, hu, ha'⟩
  unfold refresh
  rw [bind_of_ok h, hi]
  rfl

/-- Writes the attributes changed since the row was loaded. -/
def flush (row : Inventory) : DbM Unit := do
  let _ ← update (Database.setInventory row)

/-- `_finalize_inventory` -/
def finalizeInventory (row : Inventory) (flush : DbM Unit) (commit : Bool) : DbM Inventory :=
  tryCatch (do
      flush
      (if commit then DbM.commit else pure ())
      refresh row.id)
    fun e ↦ do
      (if commit then rollback else pure ())
      throw e

theorem finalizeInventory_ok {row i : Inventory} {flush : DbM Unit} {commit : Bool}
    (h : finalizeInventory row flush commit b = .ok i b') :
    ∃ b₁, flush b = .ok () b₁ ∧ (b₁.aborted = false →
      Backend.Landed commit b₁.working b₁ b' ∧
        Table.lookup Inventory.id row.id b₁.working.inventory = some i) := by
  unfold finalizeInventory at h
  rcases tryCatch_eq_ok.mp h with h | ⟨e, b₁, _, h⟩
  · obtain ⟨_, b₁, h₁, h⟩ := bind_eq_ok.mp h
    obtain ⟨_, b₂, h₂, h⟩ := bind_eq_ok.mp h
    obtain ⟨hl, hu, ha⟩ := refresh_ok h
    refine ⟨b₁, h₁, fun ha₁ ↦ ?_⟩
    cases commit with
    | true =>
        have hc := commit_ok h₂ ha₁
        refine ⟨⟨hu.env.trans hc.env, hu.journal.trans hc.journal, hu.working.trans hc.working,
          hu.committed.trans hc.committed, ha⟩, ?_⟩
        rwa [hc.working] at hl
    | false =>
        cases h₂
        exact ⟨⟨hu.env, hu.journal, hu.working, hu.committed, ha⟩, hl⟩
  · obtain ⟨_, b₂, _, h⟩ := bind_eq_ok.mp h
    cases h

/-- A failure before the commit is the flush's or not a business exception. -/
theorem finalizeInventory_error {row : Inventory} {flush : DbM Unit} {commit : Bool}
    (h : finalizeInventory row flush commit b = .error e b') :
    e.isTechnical = true ∨ ∃ b₁, flush b = .error e b₁ := by
  unfold finalizeInventory at h
  obtain ⟨e', b₁, h₁, h⟩ := tryCatch_eq_error.mp h
  have he : e' = e := by
    rcases bind_eq_error.mp h with h | ⟨_, b₂, _, h⟩
    · cases commit <;> cases h
    · cases h
      rfl
  subst he
  rcases bind_eq_error.mp h₁ with h₁ | ⟨_, b₂, _, h₁⟩
  · exact .inr ⟨b₁, h₁⟩
  · rcases bind_eq_error.mp h₁ with h₁ | ⟨_, b₃, _, h₁⟩
    · cases commit with
      | true => exact .inl (commit_error h₁).1
      | false => cases h₁
    · exact .inl (refresh_error h₁).2

theorem finalizeInventory_calm {row i : Inventory} {flush : DbM Unit} (commit : Bool)
    {b₁ : Backend} (h₁ : flush b = .ok () b₁) (hf : b₁.env.Faultless) (ha : b₁.aborted = false)
    (hi : Table.lookup Inventory.id row.id b₁.working.inventory = some i) :
    ∃ b', finalizeInventory row flush commit b = .ok i b' ∧
      Backend.Landed commit b₁.working b₁ b' := by
  cases commit with
  | true =>
      obtain ⟨b₂, h₂, hc⟩ := commit_calm hf ha
      obtain ⟨b₃, h₃, hu, ha₃⟩ := refresh_calm row.id (hc.env ▸ hf) hc.aborted
        (by rw [hc.working, hi])
      refine ⟨b₃, tryCatch_of_ok ?_, ⟨hu.env.trans hc.env, hu.journal.trans hc.journal,
        hu.working.trans hc.working, hu.committed.trans hc.committed, ha₃⟩⟩
      rw [bind_of_ok h₁, if_pos rfl, bind_of_ok h₂, h₃]
  | false =>
      obtain ⟨b₃, h₃, hu, ha₃⟩ := refresh_calm row.id hf ha hi
      refine ⟨b₃, tryCatch_of_ok ?_, ⟨hu.env, hu.journal, hu.working, hu.committed, ha₃⟩⟩
      rw [bind_of_ok h₁, if_neg Bool.false_ne_true, bind_of_ok (pure_apply () b₁), h₃]

def addStock (productId : UUID) (quantity : ℤ) (commit : Bool := true) : DbM Inventory := do
  let id ← ask Env.uuid
  let inventory ← update (Database.addStock productId quantity id)
  finalizeInventory inventory (pure ()) commit

theorem addStock_ok {p : UUID} {q : ℤ} {commit : Bool} {i : Inventory}
    (h : addStock p q commit b = .ok i b') :
    ∃ db, Backend.Landed commit db b b' ∧ i.quantity = b.working.stock p + q ∧
      Database.InventoryWrite p i b.working db := by
  unfold addStock at h
  rw [bind_of_ok (ask_apply _ _)] at h
  obtain ⟨row, b₁, h₁, h⟩ := bind_eq_ok.mp h
  obtain ⟨db, hr, hl₁⟩ := update_ok h₁
  obtain ⟨hq, hw⟩ := Database.addStock_ok hr
  obtain ⟨b₂, h₂, h⟩ := finalizeInventory_ok h
  cases h₂
  obtain ⟨hl, hi⟩ := h hl₁.aborted
  rw [hl₁.working] at hl hi
  have : i = row := by
    rw [Database.lookup_id_of_inventoryOf hw.row] at hi
    exact (Option.some.inj hi).symm
  subst this
  exact ⟨db, .of_untouched (ask_within Env.uuid b) (hl₁.trans hl), hq, hw⟩

/-- A failing statement of `addStock` is never one of the business exceptions. -/
theorem addStock_error {p : UUID} {q : ℤ} {commit : Bool}
    (h : addStock p q commit b = .error e b') : e.isTechnical = true := by
  unfold addStock at h
  rw [bind_of_ok (ask_apply _ _)] at h
  rcases bind_eq_error.mp h with h | ⟨row, b₁, _, h⟩
  · rcases (update_error h).2 with he | he
    · exact he
    · exact Database.addStock_error he
  · rcases finalizeInventory_error h with he | ⟨b₂, he⟩
    · exact he
    · cases he

def isInsufficientStock (quantityToDeduct currentQuantity : ℤ) : Bool :=
  quantityToDeduct > currentQuantity

def shouldSendLowStockAlert (oldIsLow newIsLow : Bool) : Bool :=
  (oldIsLow, newIsLow) == (false, true)

def isLow (inventory : Inventory) : Bool := inventory.quantity ≤ inventory.lowStockThreshold

def deductStock (productId : UUID) (quantity : ℤ) (commit : Bool := true) :
    DbM StockDeductionResult := do
  match ← select fun db ↦ db.inventoryOf productId with
  | none => throw (.resourceNotFound "Inventory Product" productId.text)
  | some inventory =>
      if isInsufficientStock quantity inventory.quantity then
        throw (.insufficientStock productId.text quantity inventory.quantity)
      else do
        let oldIsLow := isLow inventory
        let row := { inventory with quantity := inventory.quantity - quantity }
        let inventory ← finalizeInventory row (flush row) commit
        return ⟨inventory.quantity, shouldSendLowStockAlert oldIsLow (isLow inventory)⟩

def getStock (productId : UUID) : DbM Inventory := do
  match ← select fun db ↦ db.inventoryOf productId with
  | none => throw (.resourceNotFound "Inventory Product" productId.text)
  | some inventory => return inventory

def updateThreshold (productId : UUID) (lowStockThreshold : ℤ) (commit : Bool := true) :
    DbM Inventory := do
  let inventory ← getStock productId
  let row := { inventory with lowStockThreshold := lowStockThreshold }
  finalizeInventory row (flush row) commit

/-! ## What the operations do -/

/-- Writing a loaded row back, in a session that goes on. -/
theorem finalize_flush_ok {old row i : Inventory} {commit : Bool}
    (hold : b.working.inventoryOf row.productId = some old)
    (h : finalizeInventory row (flush row) commit b = .ok i b') :
    i = row ∧ ∃ db, Backend.Landed commit db b b' ∧
      Database.InventoryWrite row.productId row b.working db := by
  obtain ⟨b₁, h₁, h⟩ := finalizeInventory_ok h
  obtain ⟨r, b₂, h₂, h₁⟩ := bind_eq_ok.mp h₁
  cases h₁
  obtain ⟨db, hr, hl₁⟩ := update_ok h₂
  obtain ⟨_, hw⟩ := Database.setInventory_ok hold hr
  obtain ⟨hl, hi⟩ := h hl₁.aborted
  rw [hl₁.working] at hl hi
  rw [Database.lookup_id_of_inventoryOf hw.row] at hi
  exact ⟨(Option.some.inj hi).symm, db, hl₁.trans hl, hw⟩

theorem finalize_flush_error {row : Inventory} {commit : Bool}
    (h : finalizeInventory row (flush row) commit b = .error e b') : e.isTechnical = true := by
  rcases finalizeInventory_error h with he | ⟨b₁, h₁⟩
  · exact he
  · rcases bind_eq_error.mp h₁ with h₁ | ⟨_, _, _, h₁⟩
    · rcases (update_error h₁).2 with he | he
      · exact he
      · exact Database.write_error he
    · cases h₁

theorem finalize_flush_calm {old row : Inventory} (commit : Bool) (hf : b.env.Faultless)
    (ha : b.aborted = false) (hold : b.working.inventoryOf row.productId = some old)
    (hid : row.id = old.id) (hfit : row.Fits) (hq : 0 ≤ row.quantity)
    (ht : 0 ≤ row.lowStockThreshold ∧ row.lowStockThreshold ≤ 1000) :
    ∃ b' db, finalizeInventory row (flush row) commit b = .ok row b' ∧
      Backend.Landed commit db b b' ∧ Database.InventoryWrite row.productId row b.working db := by
  obtain ⟨db, hr⟩ := Database.setInventory_of_bounds hold hid hfit hq ht
  obtain ⟨b₁, h₁, hl₁⟩ := update_calm hr hf ha
  have hflush : flush row b = .ok () b₁ := by
    unfold flush
    rw [bind_of_ok h₁]
    rfl
  have hw := (Database.setInventory_ok hold hr).2
  obtain ⟨b₂, h₂, hl⟩ := finalizeInventory_calm commit hflush (hl₁.env ▸ hf)
    hl₁.aborted (by rw [hl₁.working]; exact Database.lookup_id_of_inventoryOf hw.row)
  rw [hl₁.working] at hl
  exact ⟨b₂, db, h₂, hl₁.trans hl, hw⟩

/-- The units taken off a row of stock. -/
def deducted (row : Inventory) (q : ℤ) : Inventory := { row with quantity := row.quantity - q }

theorem deductStock_ok {p : UUID} {q : ℤ} {commit : Bool} {r : StockDeductionResult}
    (h : deductStock p q commit b = .ok r b') :
    ∃ row db, b.working.inventoryOf p = some row ∧ q ≤ row.quantity ∧
      Backend.Landed commit db b b' ∧ Database.InventoryWrite p (deducted row q) b.working db ∧
      r = ⟨row.quantity - q, shouldSendLowStockAlert (isLow row) (isLow (deducted row q))⟩ := by
  obtain ⟨found, b₁, h₁, h⟩ := bind_eq_ok.mp h
  obtain ⟨hq, hu⟩ := select_ok h₁
  cases hrow : found with
  | none =>
      rw [hrow] at h
      cases h
  | some row =>
      have hold : b.working.inventoryOf p = some row := hq ▸ hrow
      have hp : row.productId = p := Database.productId_of_inventoryOf hold
      simp only [hrow] at h
      by_cases hs : isInsufficientStock q row.quantity = true
      · rw [if_pos hs] at h
        cases h
      · rw [if_neg hs] at h
        obtain ⟨i, b₂, h₂, h⟩ := bind_eq_ok.mp h
        cases h
        have hold₁ : b₁.working.inventoryOf (deducted row q).productId = some row := by
          rw [hu.working]
          exact hp ▸ hold
        obtain ⟨rfl, db, hl, hw⟩ := finalize_flush_ok hold₁ h₂
        rw [hu.working] at hw
        exact ⟨row, db, hold, by simpa [isInsufficientStock] using hs, .of_untouched hu hl,
          hp ▸ hw, rfl⟩

theorem deductStock_error {p : UUID} {q : ℤ} {commit : Bool}
    (h : deductStock p q commit b = .error e b') :
    e.isTechnical = true ∨
      (b.working.inventoryOf p = none ∧ e = .resourceNotFound "Inventory Product" p.text) ∨
      ∃ row, b.working.inventoryOf p = some row ∧ row.quantity < q ∧
        e = .insufficientStock p.text q row.quantity := by
  rcases bind_eq_error.mp h with h | ⟨found, b₁, h₁, h⟩
  · exact .inl (select_error h).2
  · obtain ⟨hq, hu⟩ := select_ok h₁
    cases hrow : found with
    | none =>
        rw [hrow] at h
        cases h
        exact .inr (.inl ⟨hq ▸ hrow, rfl⟩)
    | some row =>
        simp only [hrow] at h
        by_cases hs : isInsufficientStock q row.quantity = true
        · rw [if_pos hs] at h
          cases h
          exact .inr (.inr ⟨row, hq ▸ hrow, by simpa [isInsufficientStock] using hs, rfl⟩)
        · rw [if_neg hs] at h
          rcases bind_eq_error.mp h with h | ⟨i, b₂, _, h⟩
          · exact .inl (finalize_flush_error h)
          · cases h

theorem deductStock_calm_none {p : UUID} (q : ℤ) (commit : Bool) (hf : b.env.Faultless)
    (ha : b.aborted = false) (hi : b.working.inventoryOf p = none) :
    ∃ b', deductStock p q commit b =
      .error (.resourceNotFound "Inventory Product" p.text) b' := by
  obtain ⟨b₁, h₁, -, -⟩ := select_calm (fun db ↦ db.inventoryOf p) hf ha
  refine ⟨b₁, ?_⟩
  unfold deductStock
  rw [bind_of_ok h₁, hi]
  rfl

theorem deductStock_calm_insufficient {p : UUID} {q : ℤ} (commit : Bool) {row : Inventory}
    (hf : b.env.Faultless) (ha : b.aborted = false) (hi : b.working.inventoryOf p = some row)
    (hq : row.quantity < q) :
    ∃ b', deductStock p q commit b = .error (.insufficientStock p.text q row.quantity) b' := by
  obtain ⟨b₁, h₁, -, -⟩ := select_calm (fun db ↦ db.inventoryOf p) hf ha
  refine ⟨b₁, ?_⟩
  have hs : isInsufficientStock q row.quantity = true := by simpa [isInsufficientStock] using hq
  unfold deductStock
  simp only [bind_of_ok h₁, hi, hs, if_true]
  rfl

theorem deductStock_calm {p : UUID} {q : ℤ} (commit : Bool) {row : Inventory}
    (hf : b.env.Faultless) (ha : b.aborted = false) (hi : b.working.inventoryOf p = some row)
    (hq : 0 ≤ q) (hle : q ≤ row.quantity) :
    ∃ b' db, deductStock p q commit b = .ok ⟨row.quantity - q,
        shouldSendLowStockAlert (isLow row) (isLow (deducted row q))⟩ b' ∧
      Backend.Landed commit db b b' ∧ Database.InventoryWrite p (deducted row q) b.working db := by
  obtain ⟨b₁, h₁, hu, ha₁⟩ := select_calm (fun db ↦ db.inventoryOf p) hf ha
  have hp : row.productId = p := Database.productId_of_inventoryOf hi
  have hmem := Table.mem_of_lookup hi
  have hfit := b.working.valid.inventory.fits row hmem
  have hpos := b.working.valid.inventory.quantity row hmem
  have hs : isInsufficientStock q row.quantity = false := by simpa [isInsufficientStock] using hle
  have hold₁ : b₁.working.inventoryOf (deducted row q).productId = some row := by
    rw [hu.working]
    exact hp ▸ hi
  obtain ⟨b₂, db, h₂, hl, hw⟩ := finalize_flush_calm commit (hu.env ▸ hf) ha₁ hold₁ rfl
    ⟨⟨by have := hfit.1.1; simp only [deducted]; omega,
      by have := hfit.1.2; simp only [deducted]; omega⟩, hfit.2⟩
    (by simp only [deducted]; omega) (b.working.valid.inventory.threshold row hmem)
  rw [hu.working] at hw
  refine ⟨b₂, db, ?_, .of_untouched hu hl, hp ▸ hw⟩
  unfold deductStock
  simp only [bind_of_ok h₁, hi, hs, Bool.false_eq_true, if_false]
  exact bind_of_ok h₂

theorem getStock_ok {p : UUID} {i : Inventory} (h : getStock p b = .ok i b') :
    b.working.inventoryOf p = some i ∧ Backend.Untouched b b' ∧ b'.aborted = false := by
  obtain ⟨found, b₁, h₁, h⟩ := bind_eq_ok.mp h
  obtain ⟨hq, hu⟩ := select_ok h₁
  cases hrow : found with
  | none =>
      rw [hrow] at h
      cases h
  | some row =>
      rw [hrow] at h
      cases h
      exact ⟨hq ▸ hrow, hu, select_aborted h₁⟩

theorem getStock_error {p : UUID} (h : getStock p b = .error e b') :
    Backend.Untouched b b' ∧ (e.isTechnical = true ∨
      (b.working.inventoryOf p = none ∧ e = .resourceNotFound "Inventory Product" p.text)) := by
  rcases bind_eq_error.mp h with h | ⟨found, b₁, h₁, h⟩
  · exact ⟨(select_error h).1, .inl (select_error h).2⟩
  · obtain ⟨hq, hu⟩ := select_ok h₁
    cases hrow : found with
    | none =>
        rw [hrow] at h
        cases h
        exact ⟨hu, .inr ⟨hq ▸ hrow, rfl⟩⟩
    | some row =>
        rw [hrow] at h
        cases h

theorem getStock_calm {p : UUID} {i : Inventory} (hf : b.env.Faultless) (ha : b.aborted = false)
    (hi : b.working.inventoryOf p = some i) :
    ∃ b', getStock p b = .ok i b' ∧ Backend.Untouched b b' ∧ b'.aborted = false := by
  obtain ⟨b₁, h₁, hu, ha₁⟩ := select_calm (fun db ↦ db.inventoryOf p) hf ha
  refine ⟨b₁, ?_, hu, ha₁⟩
  unfold getStock
  rw [bind_of_ok h₁, hi]
  rfl

theorem getStock_calm_none {p : UUID} (hf : b.env.Faultless) (ha : b.aborted = false)
    (hi : b.working.inventoryOf p = none) :
    ∃ b', getStock p b = .error (.resourceNotFound "Inventory Product" p.text) b' := by
  obtain ⟨b₁, h₁, -, -⟩ := select_calm (fun db ↦ db.inventoryOf p) hf ha
  refine ⟨b₁, ?_⟩
  unfold getStock
  rw [bind_of_ok h₁, hi]
  rfl

/-- A row with another threshold. -/
def alertingAt (row : Inventory) (n : ℤ) : Inventory := { row with lowStockThreshold := n }

theorem updateThreshold_ok {p : UUID} {n : ℤ} {commit : Bool} {i : Inventory}
    (h : updateThreshold p n commit b = .ok i b') :
    ∃ row db, b.working.inventoryOf p = some row ∧ i = alertingAt row n ∧
      Backend.Landed commit db b b' ∧ Database.InventoryWrite p i b.working db := by
  obtain ⟨row, b₁, h₁, h⟩ := bind_eq_ok.mp h
  obtain ⟨hold, hu, -⟩ := getStock_ok h₁
  have hp : row.productId = p := Database.productId_of_inventoryOf hold
  have hold₁ : b₁.working.inventoryOf (alertingAt row n).productId = some row := by
    rw [hu.working]
    exact hp ▸ hold
  obtain ⟨rfl, db, hl, hw⟩ := finalize_flush_ok hold₁ h
  rw [hu.working] at hw
  exact ⟨row, db, hold, rfl, .of_untouched hu hl, hp ▸ hw⟩

/-! ## What is left uncommitted -/

theorem refresh_within (id : UUID) : Within Backend.Uncommitted (refresh id) :=
  within_select_bind fun found ↦ by
    cases found with
    | none => exact .throw _
    | some row => exact .pure _

theorem finalizeInventory_within {row : Inventory} {flush : DbM Unit}
    (h : Within Backend.Uncommitted flush) :
    Within Backend.Uncommitted (finalizeInventory row flush false) := by
  refine Within.tryCatch ?_ fun e ↦ Within.bind (.pure _) fun _ ↦ .throw _
  exact h.bind fun _ ↦ Within.bind (.pure _) fun _ ↦ refresh_within _

theorem flush_within (row : Inventory) : Within Backend.Uncommitted (flush row) :=
  (execute_within _).bind fun _ ↦ .pure _

theorem deductStock_within (p : UUID) (q : ℤ) :
    Within Backend.Uncommitted (deductStock p q false) :=
  within_select_bind fun found ↦ by
    cases found with
    | none => exact .throw _
    | some row =>
        dsimp only
        split
        · exact .throw _
        · exact (finalizeInventory_within (flush_within _)).bind fun _ ↦ .pure _

/-! ## Failures without faults -/

/-- When the statements answer, only the flush can fail, before the commit. -/
theorem finalizeInventory_refused {row : Inventory} {flush : DbM Unit} {commit : Bool}
    (hw : Within Backend.Uncommitted flush)
    (hok : ∀ b₁, flush b = .ok () b₁ → b₁.env.Faultless ∧ b₁.aborted = false ∧
      ∃ i, Table.lookup Inventory.id row.id b₁.working.inventory = some i)
    (h : finalizeInventory row flush commit b = .error e b') : Backend.Uncommitted b b' := by
  cases hf : flush b with
  | ok u b₁ =>
      obtain ⟨hf₁, ha₁, i, hi⟩ := hok b₁ hf
      obtain ⟨b₂, h₂, -⟩ := finalizeInventory_calm commit hf hf₁ ha₁ hi
      rw [h₂] at h
      cases h
  | error e₁ b₁ =>
      have hu := hw.of_error hf
      unfold finalizeInventory at h
      rw [tryCatch_of_error (bind_of_error hf)] at h
      cases commit with
      | true =>
          cases h
          exact ⟨hu.env, hu.committed, hu.journal⟩
      | false =>
          cases h
          exact hu

theorem addStock_refused {p : UUID} {q : ℤ} {commit : Bool} (hf : b.env.Faultless)
    (h : addStock p q commit b = .error e b') : Backend.Uncommitted b b' := by
  have hask := ask_within Env.uuid b
  unfold addStock at h
  rw [bind_of_ok (ask_apply _ _)] at h
  rcases bind_eq_error.mp h with h | ⟨row, b₁, h₁, h⟩
  · have hu := (update_error h).1
    exact trans_of Backend.Uncommitted (.of_untouched hask) (.of_untouched hu)
  · obtain ⟨db, hr, hl⟩ := update_ok h₁
    have hrow := (Database.addStock_ok hr).2.row
    have hu := finalizeInventory_refused (.pure ()) (fun b₂ h₂ ↦ by
      cases h₂
      refine ⟨hl.env ▸ hf, hl.aborted, row, ?_⟩
      rw [hl.working]
      exact Database.lookup_id_of_inventoryOf hrow) h
    have hl' : Backend.Uncommitted _ b₁ := ⟨hl.env, hl.committed, hl.journal⟩
    exact trans_of Backend.Uncommitted (trans_of Backend.Uncommitted (.of_untouched hask) hl') hu

theorem finalize_flush_refused {old row : Inventory} {commit : Bool} (hf : b.env.Faultless)
    (hold : b.working.inventoryOf row.productId = some old)
    (h : finalizeInventory row (flush row) commit b = .error e b') :
    Backend.Uncommitted b b' := by
  refine finalizeInventory_refused (flush_within row) (fun b₁ h₁ ↦ ?_) h
  obtain ⟨r, b₂, h₂, h₁⟩ := bind_eq_ok.mp h₁
  cases h₁
  obtain ⟨db, hr, hl⟩ := update_ok h₂
  have hw := (Database.setInventory_ok hold hr).2
  refine ⟨hl.env ▸ hf, hl.aborted, row, ?_⟩
  rw [hl.working]
  exact Database.lookup_id_of_inventoryOf hw.row

theorem deductStock_refused {p : UUID} {q : ℤ} {commit : Bool} (hf : b.env.Faultless)
    (h : deductStock p q commit b = .error e b') : Backend.Uncommitted b b' := by
  rcases bind_eq_error.mp h with h | ⟨found, b₁, h₁, h⟩
  · exact .of_untouched (select_error h).1
  · obtain ⟨hq, hu⟩ := select_ok h₁
    have hu' := Backend.Uncommitted.of_untouched hu
    cases hrow : found with
    | none =>
        rw [hrow] at h
        cases h
        exact hu'
    | some row =>
        have hold : b.working.inventoryOf p = some row := hq ▸ hrow
        have hp : row.productId = p := Database.productId_of_inventoryOf hold
        simp only [hrow] at h
        by_cases hs : isInsufficientStock q row.quantity = true
        · rw [if_pos hs] at h
          cases h
          exact hu'
        · rw [if_neg hs] at h
          rcases bind_eq_error.mp h with h | ⟨_, _, _, h⟩
          · have hold₁ : b₁.working.inventoryOf (deducted row q).productId = some row := by
              rw [hu.working]
              exact hp ▸ hold
            exact trans_of Backend.Uncommitted hu'
              (finalize_flush_refused (hu.env ▸ hf) hold₁ h)
          · cases h

theorem updateThreshold_refused {p : UUID} {n : ℤ} {commit : Bool} (hf : b.env.Faultless)
    (h : updateThreshold p n commit b = .error e b') : Backend.Uncommitted b b' := by
  rcases bind_eq_error.mp h with h | ⟨row, b₁, h₁, h⟩
  · exact .of_untouched (getStock_error h).1
  · obtain ⟨hold, hu, -⟩ := getStock_ok h₁
    have hp : row.productId = p := Database.productId_of_inventoryOf hold
    have hold₁ : b₁.working.inventoryOf (alertingAt row n).productId = some row := by
      rw [hu.working]
      exact hp ▸ hold
    exact trans_of Backend.Uncommitted (.of_untouched hu)
      (finalize_flush_refused (hu.env ▸ hf) hold₁ h)

end InventoryService

end SokoFlow
