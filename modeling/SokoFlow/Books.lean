import SokoFlow.Alerts
import SokoFlow.Conversation.Invariants
import SokoFlow.Tenants

/-!
# The books of the shops

In a town of phones, requests and expiring sessions, what was sold before a
moment stays as it was, and the units of a product that nobody restocks are
either in stock or sold.
-/

namespace SokoFlow

open DbM Effect Runs InventoryService ProductService SalesService ShopService

/-! ## One message -/

/-- The rows the session sees and the committed ones have the property. -/
def Backend.Keeps (P : Database → Prop) (b : Backend) : Prop := P b.working ∧ P b.committed

section Message

variable {J : Backend → Prop} {T : Timestamp → Prop} {P : Database → Prop} {dep : Deployment}
  {phone text : String} {env : Env} {stored : Option UserSession} {rows : Database}

/-- A message whose handlers keep the property of the rows commits such rows, or nothing. -/
theorem Upkeep.hearing (hh : Upkeep J (Backend.Keeps P)) (hJ : J (.connect env rows)) :
    P (hearing dep phone text env stored rows).backend.committed := by
  have hkeep : Contract (fun t : Turn ↦ J t.backend) (FSMEngine.processMessage dep text)
      (fun _ t ↦ t.backend.Keeps P) (fun t ↦ t.backend.Keeps P) := hh.processMessage
  unfold SokoFlow.hearing
  cases hc : conversation dep phone text ⟨stored, .connect env rows⟩ with
  | ok processed d =>
      obtain ⟨t, ht, -, hcommitted, -, -⟩ := handleMessage_ok (conversation_ok hc).1
      change P d.backend.committed
      rw [hcommitted]
      exact (hkeep.returns _ _ _ hJ ht).1
  | error e d =>
      obtain ⟨t, ht, hcommitted, -⟩ := handleMessage_error (conversation_error hc).1
      change P d.backend.committed
      rw [hcommitted]
      rcases ht with ht | ⟨r, ht⟩
      · exact (hkeep.raises _ _ _ hJ ht).2
      · exact (hkeep.returns _ _ _ hJ ht).2

theorem holds_connect (hT : ∀ n, T (env.clock n)) (hP : P rows) :
    (Backend.connect env rows).Holds T P := by
  refine ⟨hT, ?_, hP, hP⟩
  intro w hw
  cases hw

theorem enqueue_holds (task : Task) : Keeping (Backend.Holds T P) (enqueue task) where
  returns b a b' h hx := by
    rw [enqueue_apply] at hx
    dsimp only at hx
    split at hx <;> cases hx
    exact ⟨h.clock, h.began, h.working, h.committed⟩
  raises b e b' h hx := by
    rw [enqueue_apply] at hx
    dsimp only at hx
    split at hx <;> cases hx <;> exact ⟨h.clock, h.began, h.working, h.committed⟩

/-- The shop of the sender is looked up, or a new one is committed. -/
theorem getShopId_holds
    (hP : ∀ {db db' : Database} {name : Option String} {locale : ShopLocale} {id : UUID}
      {sender : String} {shop : Shop}, P db →
      Database.insertShop sender name locale id db = .ok (shop, db') → P db') (sender : String) :
    Keeping (Backend.Holds T P) (getShopId sender) := by
  apply Keeping.bind (select_keeping _)
  intro found
  cases found with
  | some shop => exact .pure _
  | none =>
      refine .bind (ask_keeping _) fun id ↦ .bind (update_keeping fun db shop db' h hx ↦ hP h hx)
        fun shop ↦ .bind commit_keeping fun _ ↦ .bind (select_keeping _) fun found ↦ ?_
      cases found with
      | none => exact .throw _
      | some shop => exact .pure _

end Message

/-! ## The town -/

/-- What every message and every request of a run keeps of the rows, the run keeps. -/
theorem Town.rows_run {dep : Deployment} {P : Database → Prop} {start s : Town}
    {history : List (Moment Town Arrival)} (run : Run (· = start) (Town.Step dep) history s)
    (h₀ : P start.rows)
    (hmessage : ∀ m ∈ history, ∀ phone text env, m.label = .message phone text env →
      ∀ stored rows, P rows → P (hearing dep phone text env stored rows).backend.committed)
    (hrequest : ∀ m ∈ history, ∀ session : ServiceSession, m.label = .request session →
      ∀ rows, P rows → P (session.serve dep rows)) : P s.rows := by
  induction run with
  | start h => exact h ▸ h₀
  | @next history s s' x run hstep ih =>
      obtain ⟨hmessages, hmessage⟩ := List.forall_mem_append.mp hmessage
      obtain ⟨hrequests, hrequest⟩ := List.forall_mem_append.mp hrequest
      have hP : P s.rows := ih hmessages hrequests
      obtain ⟨hnext, -⟩ := hstep
      cases hnext
      cases x with
      | message phone text env =>
          exact hmessage _ List.mem_cons_self phone text env rfl (s.stored phone) s.rows hP
      | expiry phone => exact hP
      | request session => exact hrequest _ List.mem_cons_self session rfl s.rows hP

/-- Times the step may see are times of `T`. -/
def Arrival.Within (T : Timestamp → Prop) : Arrival → Prop
  | .message _ _ env => ∀ n, T (env.clock n)
  | .expiry _ => True
  | .request session => ∀ n, T (session.env.clock n)

namespace Stable

variable {T : Timestamp → Prop} {P : Database → Prop} (hs : Stable T P)
include hs

theorem upkeep : Upkeep (Backend.Holds T P) (Backend.Keeps P) where
  follows b h := ⟨h.working, h.committed⟩
  ask := ask_keeping
  select := select_keeping
  report _ _ := enqueue_holds _
  alert _ _ _ := enqueue_holds _
  getShopId := getShopId_holds fun hP h ↦ by
    obtain ⟨hrows, -⟩ := Database.insertShop_ok h
    exact hs.quiet hP (by rw [hrows]) (by rw [hrows])
  createStocked dep shopId name price quantity := by
    unfold AddProductFlow.createStocked
    split
    · apply Keeping.bind (hs.createProduct_keeping dep _)
      intro product
      split
      · exact .bind (hs.addStock_keeping _ _ _) fun _ ↦ .pure _
      · exact .pure _
    · exact .throw _
  recordSale shopId p q := hs.recordSale_keeping shopId p q "System"
  observed b b' h ho := by
    unfold Backend.Keeps
    rw [ho.working, ho.committed]
    exact h

/-- What every statement keeps, every run of the town keeps. -/
theorem town {dep : Deployment} {start s : Town} {history : List (Moment Town Arrival)}
    (run : Run (· = start) (Town.Step dep) history s)
    (hT : ∀ m ∈ history, m.label.Within T) (h₀ : P start.rows) : P s.rows := by
  apply Town.rows_run run h₀
  · intro m hm phone text env hlabel stored rows hP
    have hclock : m.label.Within T := hT m hm
    rw [hlabel] at hclock
    exact hs.upkeep.hearing (holds_connect hclock hP)
  · intro m hm session hlabel rows hP
    have hclock : m.label.Within T := hT m hm
    rw [hlabel] at hclock
    exact hs.serve dep hclock hP

end Stable

/-- Whatever the phones write and the requests do from `now` on, the revenue and
the sales up to then are the same, row by row. -/
theorem past_sales_stand {dep : Deployment} {start s : Town} {now : Timestamp}
    {history : List (Moment Town Arrival)} (run : Run (· = start) (Town.Step dep) history s)
    (hclock : ∀ m ∈ history, m.label.Within fun w ↦ now ≤ w) :
    (∀ (shopId : UUID) (begin stop : Timestamp), stop ≤ now →
      Analytics.SalesRepository.totalRevenueAndCount shopId begin stop s.rows =
        Analytics.SalesRepository.totalRevenueAndCount shopId begin stop start.rows) ∧
      ∀ sale ∈ start.rows.sales, Table.lookup Sale.id sale.id s.rows.sales = some sale := by
  have h : Extends now start.rows.sales s.rows.sales :=
    (stable_extends now start.rows.sales).town run hclock (.refl now start.rows.sales)
  refine ⟨fun shopId begin stop hstop ↦ totalRevenueAndCount_of_extends h hstop, ?_⟩
  intro sale hsale
  obtain ⟨new, hsales, -⟩ := h
  apply Table.lookup_of_mem s.rows.valid.sales.ids
  rw [hsales]
  exact List.mem_append_left _ hsale

/-- On a market day a phone has been asked to confirm a sale. -/
def marketTown : Town where
  stored phone := if phone = "254700000001" then some (askedToConfirm 3) else none
  rows := market

/-- The phone confirms it. -/
def confirms : Arrival := .message "254700000001" "yes" .calm

/-- A new threshold, and a sale at the counter. -/
def counterSale : Arrival :=
  .request ⟨.calm, true, [(.updateThreshold ⟨2⟩ 2 true, false),
    (.recordSale ⟨1⟩ ⟨2⟩ 2 "System", false)]⟩

def marketEvening : Town := (marketTown.next .sample confirms).next .sample counterSale

def marketDay : List (Moment Town Arrival) :=
  [⟨marketTown, confirms, marketTown.next .sample confirms⟩,
    ⟨marketTown.next .sample confirms, counterSale, marketEvening⟩]

theorem marketDay_run : Run (· = marketTown) (Town.Step .sample) marketDay marketEvening := by
  have hstep : ∀ s x, Town.Step .sample s x (s.next .sample x) := fun _ _ ↦ ⟨rfl, trivial⟩
  have hstart : Run (· = marketTown) (Town.Step .sample) [] marketTown := .start rfl
  exact (hstart.next (hstep marketTown confirms)).next (hstep _ counterSale)

theorem past_sales_stand_market :
    marketEvening.rows.sales.length = 5 ∧
      Analytics.SalesRepository.totalRevenueAndCount ⟨1⟩ 0 63870000000000000 marketEvening.rows =
        ⟨240, 3⟩ ∧
      ∀ sale ∈ market.sales,
        Table.lookup Sale.id sale.id marketEvening.rows.sales = some sale := by
  have hcalm : ∀ n, (63870000000000000 : Timestamp) ≤ Env.calm.clock n := by
    intro n
    show (63870000000000000 : ℤ) ≤ 63870000000000000 + n
    omega
  have hclock : ∀ m ∈ marketDay, m.label.Within fun w ↦ 63870000000000000 ≤ w := by
    intro m hm
    rcases List.mem_cons.mp hm with rfl | hm
    · exact hcalm
    · rw [List.mem_singleton.mp hm]
      exact hcalm
  obtain ⟨hrevenue, hsales⟩ := past_sales_stand marketDay_run hclock
  refine ⟨by decide +kernel, ?_, hsales⟩
  exact (hrevenue ⟨1⟩ 0 63870000000000000 le_rfl).trans (by decide +kernel)

/-! ## Stock and sales -/

/-- Units of a product sold so far. -/
def Database.unitsSold (db : Database) (p : UUID) : ℤ :=
  Table.total Sale.productId p Sale.quantity db.sales

/-- The product is there, and what is in stock and what was sold of it come to `n`. -/
structure Reckoned (p : UUID) (n : ℤ) (db : Database) : Prop where
  listed : p ∈ db.products.map (·.id)
  units : db.stock p + db.unitsSold p = n

namespace Reckoned

variable {p : UUID} {n : ℤ} {db db' : Database}

/-- The product is still there, as many units of it are in stock, and none was sold. -/
theorem of_rows (h : Reckoned p n db) (hp : p ∈ db'.products.map (·.id))
    (hstock : db'.stock p = db.stock p) (hsales : db'.sales = db.sales) : Reckoned p n db' where
  listed := hp
  units := by
    rw [hstock, Database.unitsSold, hsales]
    exact h.units

theorem of_shops {shop : Shop} (h : Reckoned p n db)
    (hrows : db'.toRows = { db.toRows with shops := db.shops ++ [shop] }) : Reckoned p n db' := by
  apply h.of_rows
  · rw [hrows]
    exact h.listed
  · rw [Database.stock, Database.stock, Database.inventoryOf, Database.inventoryOf, hrows]
  · rw [hrows]

theorem of_insertProduct {shopId id : UUID} {name sku : String} {price : ℚ} {product : Product}
    (h : Reckoned p n db)
    (hx : Database.insertProduct shopId name sku price id db = .ok (product, db')) :
    Reckoned p n db' := by
  obtain ⟨hrows, -⟩ := Database.insertProduct_ok hx
  apply h.of_rows
  · rw [hrows, List.map_append]
    exact List.mem_append_left _ h.listed
  · rw [Database.stock, Database.stock, Database.inventoryOf, Database.inventoryOf, hrows]
  · rw [hrows]

/-- A product that is written over keeps its id. -/
theorem of_setProduct {old product : Product} {name : String} {price : Option ℚ}
    (h : Reckoned p n db) (hx : Database.setProduct old name price db = .ok (product, db')) :
    Reckoned p n db' := by
  unfold Database.setProduct at hx
  cases price with
  | none => cases hx
  | some price =>
      obtain ⟨-, -, hrows⟩ := Database.write_eq_ok.mp hx
      apply h.of_rows
      · have hids : db'.products.map (·.id) = db.products.map (·.id) := by
          rw [hrows]
          exact Table.map_change fun r _ hid ↦ hid.symm
        rw [hids]
        exact h.listed
      · rw [Database.stock, Database.stock, Database.inventoryOf, Database.inventoryOf, hrows]
      · rw [hrows]

theorem of_deleteProduct {old : Product} (h : Reckoned p n db) (hne : old.id ≠ p)
    (hx : Database.deleteProduct old db = .ok ((), db')) : Reckoned p n db' := by
  obtain ⟨-, -, hi, hsales⟩ := Database.deleteProduct_ok hx
  obtain ⟨-, -, hrows⟩ := Database.write_eq_ok.mp hx
  apply h.of_rows _ _ hsales
  · obtain ⟨product, hmem, hid⟩ := List.mem_map.mp h.listed
    rw [hrows]
    refine List.mem_map.mpr ⟨product, List.mem_filter.mpr ⟨hmem, ?_⟩, hid⟩
    rw [decide_eq_true_eq, hid]
    exact hne.symm
  · rw [Database.stock, Database.stock, Database.inventoryOf, Database.inventoryOf, hi]

/-- The row of another product was written, or one with the same quantity. -/
theorem of_inventoryWrite {p' : UUID} {row : Inventory} (h : Reckoned p n db)
    (hw : Database.InventoryWrite p' row db db') (hq : p' = p → row.quantity = db.stock p) :
    Reckoned p n db' := by
  apply h.of_rows _ _ hw.sales
  · rw [hw.products]
    exact h.listed
  · by_cases hp : p' = p
    · subst hp
      rw [Database.stock_of_inventoryOf hw.row]
      exact hq rfl
    · rw [Database.stock, Database.stock, hw.others p (Ne.symm hp)]

/-- The units a sale takes out of stock are the units it adds to those sold. -/
theorem of_saleWrite {shopId p' : UUID} {q : ℤ} {recordedBy : String} {product : Product}
    {row : Inventory} {sale : Sale} (h : Reckoned p n db)
    (hw : SaleWrite shopId p' q recordedBy product row sale db db') : Reckoned p n db' := by
  refine ⟨by rw [hw.products]; exact h.listed, ?_⟩
  have hunits := h.units
  unfold Database.unitsSold at hunits ⊢
  rw [hw.sales, Table.total_append, hw.productId, hw.quantity]
  by_cases hp : p' = p
  · subst hp
    rw [Database.stock_of_inventoryOf hw.sellable.stocked] at hunits
    have hleft : (deducted row q).quantity = row.quantity - q := rfl
    rw [Database.stock_of_inventoryOf hw.left, if_pos rfl, hleft]
    omega
  · rw [Database.stock, hw.others p (Ne.symm hp), if_neg hp, add_zero]
    exact hunits

end Reckoned

section Services

variable {T : Timestamp → Prop} {p : UUID} {n : ℤ}

/-- Stock is finalized after whatever its flush is known to do. -/
theorem finalizeInventory_contract {P : Database → Prop} {I : Backend → Prop} {row : Inventory}
    {flush : DbM Unit} (commit : Bool)
    (hflush : Contract I flush (fun _ ↦ Backend.Holds T P) (Backend.Holds T P)) :
    Contract I (finalizeInventory row flush commit) (fun _ ↦ Backend.Holds T P)
      (Backend.Holds T P) := by
  refine .tryCatch (.bind hflush fun _ ↦ .bind ?_ fun _ ↦ refresh_keeping _) fun _ ↦
    .bind ?_ fun _ ↦ Keeping.throw _
  · cases commit
    · exact Keeping.pure _
    · exact commit_keeping
  · cases commit
    · exact Keeping.pure _
    · exact rollback_keeping

/-- The loaded row is written back, with its quantity if it is the product's. -/
theorem flush_reckoned {p' : UUID} {row old : Inventory} (hrow : row.productId = old.productId)
    (hq : p' = p → row.quantity = old.quantity) :
    Contract (fun b ↦ b.Holds T (Reckoned p n) ∧ b.working.inventoryOf p' = some old) (flush row)
      (fun _ ↦ Backend.Holds T (Reckoned p n)) (Backend.Holds T (Reckoned p n)) := by
  refine Contract.bind (execute_contract (Q := fun db ↦ db.inventoryOf p' = some old)
    fun _ db r db' _ hP hold h ↦ ?_) fun _ ↦ Keeping.pure _
  have hid : row.productId = p' := hrow.trans (Database.productId_of_inventoryOf hold)
  rw [← hid] at hold
  obtain ⟨-, hw⟩ := Database.setInventory_ok hold h
  apply hP.of_inventoryWrite hw
  intro hp
  rw [← hp, Database.stock_of_inventoryOf hold]
  exact hq (hid ▸ hp)

theorem addStock_reckoned {p' : UUID} (hne : p' ≠ p) (q : ℤ) (commit : Bool) :
    Keeping (Backend.Holds T (Reckoned p n)) (addStock p' q commit) := by
  refine .bind (ask_keeping _) fun id ↦ .bind (update_keeping fun db row db' hP h ↦ ?_) fun row ↦
    finalizeInventory_keeping commit (.pure _)
  exact hP.of_inventoryWrite (Database.addStock_ok h).2 fun hp ↦ absurd hp hne

theorem deductStock_reckoned {p' : UUID} (hne : p' ≠ p) (q : ℤ) (commit : Bool) :
    Keeping (Backend.Holds T (Reckoned p n)) (deductStock p' q commit) := by
  apply Contract.bind (select_contract _)
  intro found
  cases found with
  | none => exact .throw fun _ h ↦ h.1
  | some row =>
      dsimp only
      split
      · exact .throw fun _ h ↦ h.1
      · refine Contract.bind (finalizeInventory_contract commit ?_) fun _ ↦ Keeping.pure _
        exact flush_reckoned rfl fun hp ↦ absurd hp hne

theorem updateThreshold_reckoned (p' : UUID) (k : ℤ) (commit : Bool) :
    Keeping (Backend.Holds T (Reckoned p n)) (updateThreshold p' k commit) := by
  have hload : Contract (Backend.Holds T (Reckoned p n)) (getStock p')
      (fun row b ↦ b.Holds T (Reckoned p n) ∧ b.working.inventoryOf p' = some row)
      (Backend.Holds T (Reckoned p n)) := by
    apply Contract.bind (select_contract _)
    intro found
    cases found with
    | none => exact .throw fun _ h ↦ h.1
    | some row => exact .pure fun _ h ↦ h
  apply Contract.bind hload
  intro row
  exact finalizeInventory_contract commit (flush_reckoned rfl fun _ ↦ rfl)

theorem createShop_reckoned (data : CreateShop) :
    Keeping (Backend.Holds T (Reckoned p n)) (createShop data) := by
  refine .bind (ask_keeping _) fun id ↦ .bind (commitOr_contract (update_keeping
    fun db shop db' hP h ↦ ?_)) fun _ ↦ refreshShop_keeping _
  exact hP.of_shops (Database.insertShop_ok h).1

theorem updateLocale_reckoned (phone : String) (locale : ShopLocale) :
    Keeping (Backend.Holds T (Reckoned p n)) (updateLocale phone locale) := by
  refine .bind (select_keeping _) fun found ↦ .bind (ask_keeping _) fun id ↦
    .bind (update_keeping fun db shop db' hP h ↦ ?_) fun _ ↦ .bind commit_keeping fun _ ↦
    refreshShop_keeping _
  cases found with
  | none => exact hP.of_shops (Database.insertShop_ok h).1
  | some old =>
      obtain ⟨-, -, hrows⟩ := Database.write_eq_ok.mp h
      apply hP.of_rows
      · rw [hrows]
        exact hP.listed
      · rw [Database.stock, Database.stock, Database.inventoryOf, Database.inventoryOf, hrows]
      · rw [hrows]

theorem createProduct_reckoned (dep : Deployment) (data : ProductCreate) :
    Keeping (Backend.Holds T (Reckoned p n)) (createProduct dep data) := by
  refine .bind (.bind (ask_keeping _) fun _ ↦ .pure _) fun sku ↦ .bind (ask_keeping _) fun id ↦ ?_
  refine .bind (commitOr_contract (update_keeping fun db product db' hP h ↦ ?_)) fun _ ↦
    refreshProduct_keeping _
  exact hP.of_insertProduct h

theorem updateProduct_reckoned (p' : UUID) (data : ProductUpdate) :
    Keeping (Backend.Holds T (Reckoned p n)) (updateProduct p' data) := by
  apply Contract.bind ((getProduct_contract p').weaken (fun _ h ↦ h) (fun _ _ h ↦ h.1) fun _ h ↦ h)
  intro product
  refine Keeping.bind (commitOr_contract (execute_keeping fun _ db r db' _ hP h ↦ ?_)) fun _ ↦
    refreshProduct_keeping _
  exact hP.of_setProduct h

theorem deleteProduct_reckoned {p' : UUID} (hne : p' ≠ p) :
    Keeping (Backend.Holds T (Reckoned p n)) (deleteProduct p') := by
  have hload : Contract (Backend.Holds T (Reckoned p n)) (getProduct p')
      (fun product b ↦ b.Holds T (Reckoned p n) ∧ product.id = p')
      (Backend.Holds T (Reckoned p n)) := by
    apply (getProduct_contract p').weaken (fun _ h ↦ h) ?_ fun _ h ↦ h
    rintro product b ⟨h, hfound⟩
    exact ⟨h, (Database.mem_of_product hfound).2⟩
  apply Contract.bind hload
  intro product
  apply Contract.given
  rintro rfl
  exact commitOr_contract (update_keeping fun db u db' hP h ↦ hP.of_deleteProduct hne h)

/-- A sale keeps the reckoning of every product, also of the one that is sold. -/
theorem recordSale_reckoned (shopId p' : UUID) (q : ℤ) (recordedBy : String) :
    Keeping (Backend.Holds (fun _ ↦ True) (Reckoned p n)) (recordSale shopId p' q recordedBy) where
  returns b r b' h hx := by
    obtain ⟨product, row, db, hw, hl, -⟩ := recordSale_ok hx
    refine ⟨fun _ ↦ trivial, fun _ _ ↦ trivial, ?_, ?_⟩
    · rw [hl.working]
      exact h.working.of_saleWrite hw
    · rw [hl.committed]
      exact h.committed
  raises b e b' h hx := by
    have hu := (recordSale_error hx).1
    refine ⟨fun _ ↦ trivial, fun _ _ ↦ trivial, ?_, ?_⟩
    · rw [hu.working]
      exact h.working
    · rw [hu.committed]
      exact h.committed

end Services

/-- The call puts stock of the product in or takes it out, or removes the product. -/
def ServiceCall.Restocks (p : UUID) : ServiceCall → Prop
  | addStock p' _ _ | deductStock p' _ _ | deleteProduct p' => p' = p
  | _ => False

section Calls

variable {p : UUID} {n : ℤ} (dep : Deployment)

theorem call_reckoned {call : ServiceCall} (h : ¬ call.Restocks p) :
    Keeping (Backend.Holds (fun _ ↦ True) (Reckoned p n)) (call.run dep) := by
  cases call with
  | createShop data => exact .bind (createShop_reckoned data) fun _ ↦ .pure _
  | updateLocale phone locale => exact .bind (updateLocale_reckoned phone locale) fun _ ↦ .pure _
  | createProduct data => exact .bind (createProduct_reckoned dep data) fun _ ↦ .pure _
  | updateProduct p' data => exact .bind (updateProduct_reckoned p' data) fun _ ↦ .pure _
  | deleteProduct p' => exact deleteProduct_reckoned h
  | addStock p' q commit => exact .bind (addStock_reckoned h q commit) fun _ ↦ .pure _
  | deductStock p' q commit => exact .bind (deductStock_reckoned h q commit) fun _ ↦ .pure _
  | updateThreshold p' k commit => exact .bind (updateThreshold_reckoned p' k commit) fun _ ↦ .pure _
  | recordSale shopId p' q recordedBy =>
      exact .bind (recordSale_reckoned shopId p' q recordedBy) fun _ ↦ .pure _

theorem runCalls_reckoned {calls : List (ServiceCall × Bool)}
    (h : ∀ entry ∈ calls, ¬ entry.1.Restocks p) :
    Keeping (Backend.Holds (fun _ ↦ True) (Reckoned p n)) (ServiceSession.runCalls dep calls) := by
  induction calls with
  | nil => exact .pure _
  | cons entry calls ih =>
      obtain ⟨hcall, hcalls⟩ := List.forall_mem_cons.mp h
      obtain ⟨call, caught⟩ := entry
      refine .bind ?_ fun _ ↦ ih hcalls
      cases caught
      · exact call_reckoned dep hcall
      · exact .tryCatch (call_reckoned dep hcall) fun _ ↦ .pure _

theorem serve_reckoned {session : ServiceSession} {db : Database} (hP : Reckoned p n db)
    (h : ∀ entry ∈ session.calls, ¬ entry.1.Restocks p) : Reckoned p n (session.serve dep db) := by
  have hstart : (Backend.connect session.env db).Holds (fun _ ↦ True) (Reckoned p n) :=
    holds_connect (fun _ ↦ trivial) hP
  have hbody := runCalls_reckoned (n := n) dep h
  unfold ServiceSession.serve
  dsimp only
  split
  · exact ((getWorkerDb_keeping hbody).final hstart).committed
  · exact ((getDb_keeping hbody).final hstart).committed

/-- A message stocks no product but one it has just created. -/
theorem createStocked_reckoned (shopId : UUID) (name : String) (price : ℚ) (quantity : ℤ) :
    Keeping (Backend.Holds (fun _ ↦ True) (Reckoned p n))
      (AddProductFlow.createStocked dep shopId name price quantity) := by
  unfold AddProductFlow.createStocked
  split
  · rename_i hprice
    have hcreate : Contract (Backend.Holds (fun _ ↦ True) (Reckoned p n))
        (createProduct dep ⟨name, price, shopId, hprice⟩)
        (fun product b ↦ b.Holds (fun _ ↦ True) (Reckoned p n) ∧ product.id ≠ p)
        (Backend.Holds (fun _ ↦ True) (Reckoned p n)) := by
      have hkeep := createProduct_reckoned (T := fun _ ↦ True) (p := p) (n := n) dep
        ⟨name, price, shopId, hprice⟩
      refine ⟨fun b product b' h hx ↦ ⟨hkeep.returns b product b' h hx, ?_⟩, hkeep.raises⟩
      obtain ⟨db, -, -, -, -, -, hrows⟩ := createProduct_ok hx
      have hids := db.valid.products.ids
      rw [hrows, List.map_append, List.nodup_append] at hids
      intro hid
      exact hids.2.2 p h.working.listed product.id (List.mem_singleton_self _) hid.symm
    apply Contract.bind hcreate
    intro product
    apply Contract.given
    intro hne
    split
    · exact Keeping.bind (addStock_reckoned hne quantity true) fun _ ↦ .pure _
    · exact Keeping.pure _
  · exact .throw _

theorem upkeep_reckoned :
    Upkeep (Backend.Holds (fun _ ↦ True) (Reckoned p n)) (Backend.Keeps (Reckoned p n)) where
  follows b h := ⟨h.working, h.committed⟩
  ask := ask_keeping
  select := select_keeping
  report _ _ := enqueue_holds _
  alert _ _ _ := enqueue_holds _
  getShopId := getShopId_holds fun hP h ↦ hP.of_shops (Database.insertShop_ok h).1
  createStocked := createStocked_reckoned
  recordSale shopId p q := recordSale_reckoned shopId p q "System"
  observed b b' h ho := by
    unfold Backend.Keeps
    rw [ho.working, ho.committed]
    exact h

end Calls

/-- Stock of a product only leaves by sales: while no request restocks it, what
is in stock and what was sold of it come to the same. -/
theorem stock_leaves_by_sales {dep : Deployment} {start s : Town}
    {history : List (Moment Town Arrival)} (run : Run (· = start) (Town.Step dep) history s)
    {product : Product} (hmem : product ∈ start.rows.products)
    (h : ∀ m ∈ history, ∀ session : ServiceSession, m.label = .request session →
      ∀ entry ∈ session.calls, ¬ entry.1.Restocks product.id) :
    s.rows.stock product.id + s.rows.unitsSold product.id =
      start.rows.stock product.id + start.rows.unitsSold product.id := by
  have hstart : Reckoned product.id (start.rows.stock product.id + start.rows.unitsSold product.id)
      start.rows := ⟨List.mem_map_of_mem hmem, rfl⟩
  have hend : Reckoned product.id (start.rows.stock product.id + start.rows.unitsSold product.id)
      s.rows := by
    apply Town.rows_run run hstart
    · intro m _ phone text env _ stored rows hP
      exact upkeep_reckoned.hearing (holds_connect (fun _ ↦ trivial) hP)
    · intro m hm session hlabel rows hP
      exact serve_reckoned dep hP (h m hm session hlabel)
  exact hend.units

theorem stock_leaves_by_sales_market :
    (marketEvening.rows.stock ⟨2⟩, marketEvening.rows.unitsSold ⟨2⟩) = (5, 9) ∧
      marketEvening.rows.stock ⟨2⟩ + marketEvening.rows.unitsSold ⟨2⟩ =
        market.stock ⟨2⟩ + market.unitsSold ⟨2⟩ := by
  have hmem : (⟨⟨2⟩, ⟨1⟩, "Milk", "M-AAAAAA", 60⟩ : Product) ∈ marketTown.rows.products :=
    List.mem_cons_self
  have hquiet : ∀ m ∈ marketDay, ∀ session : ServiceSession, m.label = .request session →
      ∀ entry ∈ session.calls, ¬ entry.1.Restocks ⟨2⟩ := by
    intro m hm session hlabel entry hentry
    rcases List.mem_cons.mp hm with rfl | hm
    · cases hlabel
    · rw [List.mem_singleton.mp hm] at hlabel
      cases hlabel
      rcases List.mem_cons.mp hentry with rfl | hentry
      · exact id
      · rw [List.mem_singleton.mp hentry]
        exact id
  exact ⟨by decide +kernel, stock_leaves_by_sales marketDay_run hmem hquiet⟩

end SokoFlow
