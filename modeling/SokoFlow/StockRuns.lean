import SokoFlow.Foundation.Runs
import SokoFlow.StockLedger

/-!
# Runs of successful stock operations

Operations on stock that succeed one after another, committed or not, and what
they report.  An alert is an edge: the operation found the stock above its
threshold and left it at or below.
-/

namespace SokoFlow.StockRuns

open DbM Effect InventoryService Runs
open StockLedger (Call Succeeded)

/-- The operation on a session that goes on; a deduction and a sale report
whether the stock got low. -/
def report (commit : Bool) : Call → DbM (Option Bool)
  | .addStock p q => do
      let _ ← InventoryService.addStock p q commit
      return none
  | .updateThreshold p n => do
      let _ ← InventoryService.updateThreshold p n commit
      return none
  | .deductStock p q => do
      let result ← InventoryService.deductStock p q commit
      return some result.enteredLowStock
  | .recordSale shopId p q recordedBy => do
      let result ← SalesService.recordSale shopId p q recordedBy
      return some result.enteredLowStock

/-- The rows, and what the last operation reported. -/
structure Stock where
  rows : Database
  reported : Option Bool := none

/-- The operation succeeds, in some session on these rows. -/
def Step (s : Stock) (op : Call × Bool) (s' : Stock) : Prop :=
  ∃ b b' : Backend, b.working = s.rows ∧ report op.2 op.1 b = .ok s'.reported b' ∧
    b'.working = s'.rows

abbrev Operation := Moment Stock (Call × Bool)

/-- The product an operation is about. -/
def Operation.product (m : Operation) : UUID :=
  match m.label.1 with
  | .addStock p _ | .deductStock p _ | .updateThreshold p _ | .recordSale _ p _ _ => p

/-- A deduction or a sale. -/
def Operation.Takes (m : Operation) : Prop :=
  match m.label.1 with
  | .deductStock .. | .recordSale .. => True
  | _ => False

/-- There is stock of the product above its threshold. -/
def Above (p : UUID) (db : Database) : Prop :=
  ∃ row, db.inventoryOf p = some row ∧ row.lowStockThreshold < row.quantity

/-- The stock of the product is at or below its threshold. -/
def Low (p : UUID) (db : Database) : Prop :=
  ∃ row, db.inventoryOf p = some row ∧ row.quantity ≤ row.lowStockThreshold

theorem not_low_of_above {p : UUID} {db : Database} (h : Above p db) : ¬ Low p db := by
  rintro ⟨row, hrow, hlow⟩
  obtain ⟨row', hrow', habove⟩ := h
  rw [hrow] at hrow'
  cases hrow'
  omega

/-- The operation crosses the threshold downwards. -/
def Operation.Crosses (m : Operation) : Prop :=
  Above m.product m.before.rows ∧ Low m.product m.after.rows

def Operation.Alerts (m : Operation) : Prop := m.after.reported = some true

variable {s s' : Stock} {op : Call × Bool} {m : Operation} {history : List Operation}

/-- The alert of a deduction, on the row before and after it. -/
theorem entered_iff {row : Inventory} {p : UUID} {q : ℤ} {db db' : Database}
    (hbefore : db.inventoryOf p = some row) (hafter : db'.inventoryOf p = some (deducted row q)) :
    shouldSendLowStockAlert (isLow row) (isLow (deducted row q)) = true ↔
      Above p db ∧ Low p db' := by
  unfold Above Low
  rw [hbefore, hafter]
  simp [shouldSendLowStockAlert, isLow]

/-- What an operation that succeeds does to the rows, and reports of it. -/
theorem step_cases (h : Step s op s') :
    Succeeded op.1 s.rows s'.rows ∧
      ((∀ flag, s'.reported ≠ some flag) ∧ ¬ Operation.Takes ⟨s, op, s'⟩ ∨
        (∃ flag, s'.reported = some flag ∧ (flag = true ↔ Operation.Crosses ⟨s, op, s'⟩)) ∧
          Operation.Takes ⟨s, op, s'⟩) := by
  obtain ⟨b, b', hb, hrun, hb'⟩ := h
  obtain ⟨call, commit⟩ := op
  obtain ⟨rows, old⟩ := s
  obtain ⟨rows', reported⟩ := s'
  dsimp only at hb hb' hrun ⊢
  cases call with
  | addStock p q =>
      obtain ⟨row, b₁, h₁, hr⟩ := bind_eq_ok.mp hrun
      cases hr
      obtain ⟨db, hl, hq, hw⟩ := addStock_ok h₁
      rw [hb] at hq hw
      rw [hl.working] at hb'
      rw [← hb']
      exact ⟨.added hq hw, .inl ⟨fun _ h ↦ (by cases h), id⟩⟩
  | updateThreshold p n =>
      obtain ⟨row, b₁, h₁, hr⟩ := bind_eq_ok.mp hrun
      cases hr
      obtain ⟨old, db, hold, rfl, hl, hw⟩ := updateThreshold_ok h₁
      rw [hb] at hold hw
      rw [hl.working] at hb'
      rw [← hb']
      exact ⟨.alerting hold hw, .inl ⟨fun _ h ↦ (by cases h), id⟩⟩
  | deductStock p q =>
      obtain ⟨result, b₁, h₁, hr⟩ := bind_eq_ok.mp hrun
      cases hr
      obtain ⟨row, db, hrow, -, hl, hw, rfl⟩ := deductStock_ok h₁
      rw [hb] at hrow hw
      rw [hl.working] at hb'
      rw [← hb']
      exact ⟨.deducted hrow hw, .inr ⟨⟨_, rfl, entered_iff hrow hw.row⟩, trivial⟩⟩
  | recordSale shopId p q recordedBy =>
      obtain ⟨result, b₁, h₁, hr⟩ := bind_eq_ok.mp hrun
      cases hr
      obtain ⟨product, row, db, hw, hl, -, hflag⟩ := SalesService.recordSale_ok h₁
      rw [hb] at hw
      rw [hl.working] at hb'
      rw [← hb']
      refine ⟨.sold hw, .inr ⟨⟨_, rfl, ?_⟩, trivial⟩⟩
      rw [hflag]
      exact entered_iff hw.sellable.stocked hw.left

/-- What an operation reports. -/
structure Operation.Honest (m : Operation) : Prop where
  takes : m.Takes → ∃ flag, m.after.reported = some flag ∧ (flag = true ↔ m.Crosses)
  silent : ¬ m.Takes → m.after.reported = none

theorem honest_of_step (h : Step m.before m.label m.after) : m.Honest := by
  rcases (step_cases h).2 with ⟨hnone, hnot⟩ | ⟨hflag, htakes⟩
  · exact ⟨fun ht ↦ absurd ht hnot, fun _ ↦ Option.eq_none_iff_forall_ne_some.mpr hnone⟩
  · exact ⟨fun _ ↦ hflag, fun hn ↦ absurd htakes hn⟩

theorem Operation.Honest.alerts_iff (h : m.Honest) : m.Alerts ↔ m.Takes ∧ m.Crosses := by
  constructor
  · intro ha
    by_cases ht : m.Takes
    · obtain ⟨flag, hflag, hiff⟩ := h.takes ht
      refine ⟨ht, hiff.mp ?_⟩
      rw [Operation.Alerts, hflag] at ha
      exact Option.some.inj ha
    · rw [Operation.Alerts, h.silent ht] at ha
      cases ha
  · rintro ⟨ht, hc⟩
    obtain ⟨flag, hflag, hiff⟩ := h.takes ht
    rw [Operation.Alerts, hflag, hiff.mpr hc]

/-- Between two alerts for a product its stock is above the threshold. -/
theorem above_between (run : Run (fun _ ↦ True) Step history s) {pre mid post : List Operation}
    {m₁ m₂ : Operation} (hh : history = pre ++ m₁ :: (mid ++ m₂ :: post)) (ha : m₂.Alerts) :
    ∃ m ∈ m₁ :: mid, Above m₂.product m.after.rows := by
  have hat : At history (pre ++ m₁ :: mid) m₂ := ⟨post, by simp [hh]⟩
  obtain ⟨hrun, hstep⟩ := run.at_step hat
  obtain ⟨m, hm, hafter⟩ := hrun.exists_after
  have hcrosses := ((honest_of_step hstep).alerts_iff.mp ha).2
  exact ⟨m, hm, hafter ▸ hcrosses.1⟩

/-- Alerts are edge-triggered. -/
theorem alerts_edge_triggered (run : Run (fun _ ↦ True) Step history s) :
    (∀ m ∈ history, m.Honest ∧ (m.Alerts ↔ m.Takes ∧ m.Crosses)) ∧
      ∀ pre m₁ mid m₂ post, history = pre ++ m₁ :: (mid ++ m₂ :: post) →
        m₂.Alerts → (∃ m ∈ m₁ :: mid, Above m₂.product m.after.rows) ∧
          ¬ ∀ m ∈ m₁ :: mid, Low m₂.product m.after.rows := by
  constructor
  · intro m hm
    obtain ⟨pre, hat⟩ := At.of_mem hm
    have hhonest := honest_of_step (run.at_step hat).2
    exact ⟨hhonest, hhonest.alerts_iff⟩
  · intro pre m₁ mid m₂ post hh ha
    obtain ⟨m, hm, habove⟩ := above_between run hh ha
    exact ⟨⟨m, hm, habove⟩, fun hlow ↦ not_low_of_above habove (hlow m hm)⟩

/-! ## What a run leaves -/

/-- The units an operation adds to the stock of a product, or takes off it. -/
def Operation.posted (p : UUID) (m : Operation) : ℤ :=
  if m.product = p then
    match m.label.1 with
    | .addStock _ q => q
    | .deductStock _ q => -q
    | .recordSale _ _ q _ => -q
    | .updateThreshold _ _ => 0
  else 0

/-- The operation adds stock of the product. -/
def Operation.Adds (p : UUID) (m : Operation) : Prop := ∃ q, m.label.1 = .addStock p q

theorem posted_other {p : UUID} (h : m.product ≠ p) : m.posted p = 0 := if_neg h

theorem not_adds_other {p : UUID} (h : m.product ≠ p) : ¬ m.Adds p := by
  rintro ⟨q, hq⟩
  apply h
  unfold Operation.product
  rw [hq]

theorem inventoryOf_of_step {p : UUID} (h : Step m.before m.label m.after) :
    m.after.rows.stock p = m.before.rows.stock p + m.posted p ∧
      ((m.after.rows.inventoryOf p).isSome ↔ (m.before.rows.inventoryOf p).isSome ∨ m.Adds p) := by
  have hs := (step_cases h).1
  obtain ⟨s, ⟨call, commit⟩, s'⟩ := m
  dsimp only at hs
  generalize hdb : s.rows = db at hs
  generalize hdb' : s'.rows = db' at hs
  have unchanged {p₀ : UUID} (hp : p₀ ≠ p) (hm : Operation.product ⟨s, (call, commit), s'⟩ = p₀)
      (hsame : db'.inventoryOf p = db.inventoryOf p) :
      db'.stock p = db.stock p + Operation.posted p ⟨s, (call, commit), s'⟩ ∧
        ((db'.inventoryOf p).isSome ↔
          (db.inventoryOf p).isSome ∨ Operation.Adds p ⟨s, (call, commit), s'⟩) := by
    rw [posted_other (by rwa [hm]), Database.stock, hsame, ← Database.stock, add_zero]
    exact ⟨rfl, ⟨.inl, fun h ↦ h.resolve_right (not_adds_other (by rwa [hm]))⟩⟩
  cases hs with
  | @added p₀ q row _ _ hq hw =>
      by_cases hp : p₀ = p
      · subst hp
        rw [Database.stock_of_inventoryOf hw.row, hq, hw.row]
        refine ⟨by simp [Operation.posted, Operation.product], ?_⟩
        exact iff_of_true rfl (.inr ⟨q, rfl⟩)
      · exact unchanged hp rfl (hw.others p (Ne.symm hp))
  | @deducted p₀ q row _ _ hrow hw =>
      by_cases hp : p₀ = p
      · subst hp
        rw [Database.stock_of_inventoryOf hw.row, Database.stock_of_inventoryOf hrow, hw.row, hrow]
        refine ⟨?_, iff_of_true rfl (.inl rfl)⟩
        simp [Operation.posted, Operation.product, deducted, Int.sub_eq_add_neg]
      · exact unchanged hp rfl (hw.others p (Ne.symm hp))
  | @alerting p₀ n row _ _ hrow hw =>
      by_cases hp : p₀ = p
      · subst hp
        rw [Database.stock_of_inventoryOf hw.row, Database.stock_of_inventoryOf hrow, hw.row, hrow]
        refine ⟨?_, iff_of_true rfl (.inl rfl)⟩
        simp [Operation.posted, Operation.product, alertingAt]
      · exact unchanged hp rfl (hw.others p (Ne.symm hp))
  | @sold shop p₀ q by_ product row sale _ _ hw =>
      by_cases hp : p₀ = p
      · subst hp
        have hrow := hw.sellable.stocked
        rw [Database.stock_of_inventoryOf hw.left, Database.stock_of_inventoryOf hrow, hw.left, hrow]
        refine ⟨?_, iff_of_true rfl (.inl rfl)⟩
        simp [Operation.posted, Operation.product, deducted, Int.sub_eq_add_neg]
      · exact unchanged hp rfl (hw.others p (Ne.symm hp))

/-- A run leaves what it started with and what it posted, in a row if there was
one or it added stock. -/
theorem stock_of_run {rows : Database} (run : Run (fun s ↦ s.rows = rows) Step history s)
    (p : UUID) :
    s.rows.stock p = rows.stock p + (history.map (Operation.posted p)).sum ∧
      ((s.rows.inventoryOf p).isSome ↔
        (rows.inventoryOf p).isSome ∨ ∃ m ∈ history, Operation.Adds p m) := by
  induction run with
  | start h => simp [h]
  | @next history s s' op run hs ih =>
      obtain ⟨hstock, hsome⟩ := ih
      obtain ⟨hstock', hsome'⟩ := inventoryOf_of_step (m := ⟨s, op, s'⟩) (p := p) hs
      dsimp only at hstock' hsome'
      constructor
      · rw [hstock', hstock]
        simp only [List.map_append, List.sum_append, List.map_cons, List.map_nil, List.sum_singleton]
        omega
      · rw [hsome', hsome, or_assoc]
        simp [List.mem_append, or_and_right, exists_or]

/-! ## A run -/

/-- The operation on a session of its own, where nothing fails. -/
def calmly (s : Stock) (op : Call × Bool) : Option Stock :=
  match report op.2 op.1 (Backend.connect .calm s.rows) with
  | .ok reported b => some ⟨b.working, reported⟩
  | .error _ _ => none

theorem step_of_calmly {ok : Stock → Call × Bool → Prop} (s : Stock) (op : Call × Bool) (s' : Stock)
    (h : Steps calmly ok s op s') : Step s op s' := by
  obtain ⟨h, -⟩ := h
  unfold calmly at h
  cases hr : report op.2 op.1 (Backend.connect .calm s.rows) with
  | error e b => simp [hr] at h
  | ok reported b =>
      rw [hr] at h
      cases h
      exact ⟨_, b, rfl, hr, rfl⟩

/-- Ten units and a threshold of five: six are sold, four come in, five go. -/
def restocked : List (Call × Bool) :=
  [(.recordSale ⟨1⟩ ⟨2⟩ ⟨6, by decide⟩ "System", false), (.deductStock ⟨2⟩ ⟨1, by decide⟩, true),
    (.addStock ⟨2⟩ ⟨5, by decide⟩, true), (.deductStock ⟨2⟩ ⟨5, by decide⟩, true)]

theorem alerts_edge_triggered_restocked : ∃ history : List Operation,
    history.map (·.after.reported) = [some true, some false, none, some true] ∧
      ∀ m ∈ history, m.Honest ∧ (m.Alerts ↔ m.Takes ∧ m.Crosses) := by
  obtain ⟨history, s, run, hreports⟩ : ∃ history s,
      Run (fun _ ↦ True) (Steps calmly fun _ _ ↦ True) history s ∧
        history.map (·.after.reported) = [some true, some false, none, some true] :=
    exists_run_of_trace (s := ⟨.sample, none⟩) restocked trivial (by decide +kernel)
  exact ⟨history, hreports, (alerts_edge_triggered (run.mono step_of_calmly)).1⟩

end SokoFlow.StockRuns
