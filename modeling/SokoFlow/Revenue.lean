import SokoFlow.DailySummary
import SokoFlow.Services.Invariants

/-!
# Past revenue

Sessions that call the services one after the other, with whatever faults.  The
sales table is only ever appended to, with rows that carry the time of their
session, so what was sold before a moment stays as it was.
-/

namespace SokoFlow

open DbM Effect Analytics Tally

inductive ServiceCall
  | createShop (data : ShopService.CreateShop)
  | updateLocale (phone : String) (locale : ShopLocale)
  | createProduct (data : ProductService.ProductCreate)
  | updateProduct (productId : UUID) (data : ProductService.ProductUpdate)
  | deleteProduct (productId : UUID)
  | addStock (productId : UUID) (quantity : ℤ) (commit : Bool)
  | deductStock (productId : UUID) (quantity : ℤ) (commit : Bool)
  | updateThreshold (productId : UUID) (lowStockThreshold : ℤ) (commit : Bool)
  | recordSale (shopId productId : UUID) (quantity : ℤ) (recordedBy : String)

def ServiceCall.run (dep : Deployment) : ServiceCall → DbM Unit
  | createShop data => do let _ ← ShopService.createShop data
  | updateLocale phone locale => do let _ ← ShopService.updateLocale phone locale
  | createProduct data => do let _ ← ProductService.createProduct dep data
  | updateProduct productId data => do let _ ← ProductService.updateProduct productId data
  | deleteProduct productId => ProductService.deleteProduct productId
  | addStock p q commit => do let _ ← InventoryService.addStock p q commit
  | deductStock p q commit => do let _ ← InventoryService.deductStock p q commit
  | updateThreshold p n commit => do let _ ← InventoryService.updateThreshold p n commit
  | recordSale shopId p q recordedBy => do let _ ← SalesService.recordSale shopId p q recordedBy

/-- Calls on one database session, each with whether its caller catches what it
raises.  A worker commits at the end, a request does not. -/
structure ServiceSession where
  env : Env
  worker : Bool
  calls : List (ServiceCall × Bool)

namespace ServiceSession

def runCalls (dep : Deployment) : List (ServiceCall × Bool) → DbM Unit
  | [] => pure ()
  | (call, caught) :: calls => do
      (if caught then tryCatch (call.run dep) fun _ ↦ pure () else call.run dep)
      runCalls dep calls

/-- The rows that are committed when the session is closed. -/
def serve (dep : Deployment) (session : ServiceSession) (db : Database) : Database :=
  let body := runCalls dep session.calls
  let run := if session.worker then getWorkerDb body else getDb body
  (final (run (Backend.connect session.env db))).committed

/-- The rows after sessions one after the other. -/
def serveAll (dep : Deployment) (sessions : List ServiceSession) (db : Database) : Database :=
  sessions.foldl (fun db session ↦ session.serve dep db) db

end ServiceSession

/-! ## Invariants of runs -/

section Runs

variable {T : Timestamp → Prop} {P : Database → Prop} (dep : Deployment)

theorem Stable.call_keeping (hs : Stable T P) (call : ServiceCall) :
    Keeping (Backend.Holds T P) (call.run dep) := by
  cases call with
  | createShop data => exact .bind (hs.createShop_keeping data) fun _ ↦ .pure _
  | updateLocale phone locale => exact .bind (hs.updateLocale_keeping phone locale) fun _ ↦ .pure _
  | createProduct data => exact .bind (hs.createProduct_keeping dep data) fun _ ↦ .pure _
  | updateProduct productId data =>
      exact .bind (hs.updateProduct_keeping productId data) fun _ ↦ .pure _
  | deleteProduct productId => exact hs.deleteProduct_keeping productId
  | addStock p q commit => exact .bind (hs.addStock_keeping p q commit) fun _ ↦ .pure _
  | deductStock p q commit => exact .bind (hs.deductStock_keeping p q commit) fun _ ↦ .pure _
  | updateThreshold p n commit =>
      exact .bind (hs.updateThreshold_keeping p n commit) fun _ ↦ .pure _
  | recordSale shopId p q recordedBy =>
      exact .bind (hs.recordSale_keeping shopId p q recordedBy) fun _ ↦ .pure _

theorem Stable.runCalls_keeping (hs : Stable T P) (calls : List (ServiceCall × Bool)) :
    Keeping (Backend.Holds T P) (ServiceSession.runCalls dep calls) := by
  induction calls with
  | nil => exact .pure _
  | cons entry calls ih =>
      obtain ⟨call, caught⟩ := entry
      refine .bind ?_ fun _ ↦ ih
      cases caught
      · exact hs.call_keeping dep call
      · exact .tryCatch (hs.call_keeping dep call) fun _ ↦ .pure _

theorem Stable.serve (hs : Stable T P) {session : ServiceSession} (hT : ∀ n, T (session.env.clock n))
    {db : Database} (hP : P db) : P (session.serve dep db) := by
  have hstart : (Backend.connect session.env db).Holds T P := by
    refine ⟨hT, ?_, hP, hP⟩
    intro w hw
    cases hw
  have hbody := hs.runCalls_keeping dep session.calls
  unfold ServiceSession.serve
  dsimp only
  split
  · exact ((getWorkerDb_keeping hbody).final hstart).committed
  · exact ((getDb_keeping hbody).final hstart).committed

/-- What every statement keeps, every run of the services keeps. -/
theorem Stable.serveAll (hs : Stable T P) {sessions : List ServiceSession}
    (hT : ∀ session ∈ sessions, ∀ n, T (session.env.clock n)) {db : Database} (hP : P db) :
    P (ServiceSession.serveAll dep sessions db) := by
  induction sessions generalizing db with
  | nil => exact hP
  | cons session sessions ih =>
      have hfirst := hs.serve dep (hT session (List.mem_cons_self ..)) hP
      exact ih (fun s hs' ↦ hT s (List.mem_cons_of_mem _ hs')) hfirst

end Runs

/-! ## The sales table is append-only -/

/-- These sales, then ones entered from `now` on. -/
def Extends (now : Timestamp) (old sales : List Sale) : Prop :=
  ∃ new, sales = old ++ new ∧ ∀ s ∈ new, now ≤ s.createdAt

theorem Extends.refl (now : Timestamp) (sales : List Sale) : Extends now sales sales :=
  ⟨[], (List.append_nil _).symm, fun _ h ↦ by cases h⟩

theorem Extends.append {now : Timestamp} {old sales : List Sale} {sale : Sale}
    (h : Extends now old sales) (hs : now ≤ sale.createdAt) : Extends now old (sales ++ [sale]) := by
  obtain ⟨new, rfl, hnew⟩ := h
  refine ⟨new ++ [sale], List.append_assoc _ _ _, fun s hmem ↦ ?_⟩
  rcases List.mem_append.mp hmem with hmem | hmem
  · exact hnew s hmem
  · rw [List.mem_singleton.mp hmem]
    exact hs

theorem stable_extends (now : Timestamp) (old : List Sale) :
    Stable (fun w ↦ now ≤ w) (fun db ↦ Extends now old db.sales) where
  quiet hP _ hsales := by
    rw [hsales]
    exact hP
  created hP h := by
    obtain ⟨hrows, -⟩ := Database.insertProduct_ok h
    rw [hrows]
    exact hP
  changed hP hold h := by
    obtain ⟨-, -, -, -, -, -, hsales⟩ := Database.setProduct_ok hold h
    rw [hsales]
    exact hP
  deleted hP h := by
    obtain ⟨-, -, -, hsales⟩ := Database.deleteProduct_ok h
    rw [hsales]
    exact hP
  sold hP hw _ h := by
    obtain ⟨-, rfl, hrows⟩ := Database.write_eq_ok.mp h
    rw [hrows]
    exact hP.append hw

/-- Revenue up to `now` does not depend on the sales entered from `now` on. -/
theorem totalRevenueAndCount_of_extends {now start stop : Timestamp} {shopId : UUID}
    {db db' : Database} (h : Extends now db.sales db'.sales) (hstop : stop ≤ now) :
    SalesRepository.totalRevenueAndCount shopId start stop db' =
      SalesRepository.totalRevenueAndCount shopId start stop db := by
  obtain ⟨new, hsales, hnew⟩ := h
  have hlate : ∀ s ∈ salesOfShop shopId new, stop ≤ s.createdAt := fun s hs ↦
    hstop.trans (hnew s (List.mem_of_mem_filter hs))
  rw [totalRevenueAndCount_eq, totalRevenueAndCount_eq, hsales]
  unfold revenue transactions salesOfShop
  rw [List.filter_append, tally_append, tally_append]
  unfold salesOfShop at hlate
  rw [tally_of_late _ _ start hlate, tally_of_late _ _ start hlate, add_zero, add_zero]

/-- Whatever the services do from `now` on, the revenue and the sales up to
then are the same, row by row. -/
theorem past_revenue_immutable (dep : Deployment) {now : Timestamp}
    {sessions : List ServiceSession}
    (hclock : ∀ session ∈ sessions, ∀ n, now ≤ session.env.clock n) (db : Database)
    (shopId : UUID) (start : Timestamp) {stop : Timestamp} (hstop : stop ≤ now) :
    let db' := ServiceSession.serveAll dep sessions db
    SalesRepository.totalRevenueAndCount shopId start stop db' =
        SalesRepository.totalRevenueAndCount shopId start stop db ∧
      ∀ sale ∈ db.sales, Table.lookup Sale.id sale.id db'.sales = some sale := by
  intro db'
  have h : Extends now db.sales db'.sales :=
    (stable_extends now db.sales).serveAll dep hclock (Extends.refl now db.sales)
  refine ⟨totalRevenueAndCount_of_extends h hstop, fun sale hsale ↦ ?_⟩
  obtain ⟨new, hsales, -⟩ := h
  have hmem : sale ∈ db'.sales := by
    rw [hsales]
    exact List.mem_append_left _ hsale
  exact Table.lookup_of_mem db'.valid.sales.ids hmem

/-- A sale, then a new price and a deletion that the sales forbid. -/
def afternoon : List ServiceSession :=
  [⟨.calm, true, [(.recordSale ⟨1⟩ ⟨2⟩ 3 "System", false)]⟩,
    ⟨.calm, false, [(.updateProduct ⟨2⟩ ⟨none, some (some 90), fun n h ↦ by cases h⟩, false),
      (.deleteProduct ⟨2⟩, true)]⟩]

theorem past_revenue_immutable_afternoon :
    let db' := ServiceSession.serveAll .sample afternoon market
    db'.sales.length = 4 ∧ db'.products.map (·.price) = [90] ∧
      SalesRepository.totalRevenueAndCount ⟨1⟩ 0 63870000000000000 db' = ⟨240, 3⟩ ∧
      ∀ sale ∈ market.sales, Table.lookup Sale.id sale.id db'.sales = some sale := by
  intro db'
  have hclock : ∀ session ∈ afternoon, ∀ n, 63870000000000000 ≤ session.env.clock n := by
    intro session hs n
    have hcalm : session.env = .calm := by
      simp only [afternoon, List.mem_cons, List.not_mem_nil, or_false] at hs
      rcases hs with rfl | rfl <;> rfl
    rw [hcalm]
    show (63870000000000000 : ℤ) ≤ 63870000000000000 + n
    omega
  obtain ⟨hrevenue, hsales⟩ :=
    past_revenue_immutable .sample hclock market ⟨1⟩ 0 (le_refl (63870000000000000 : ℤ))
  refine ⟨by decide +kernel, by decide +kernel, ?_, hsales⟩
  rw [hrevenue]
  decide +kernel

end SokoFlow
