import SokoFlow.Worker

/-!
# The low-stock alert of a sale

The alert is handed to the broker before the worker commits.  The sale is
independent of its alert exactly when there is none: when the sale is refused,
or leaves the product on its side of the threshold.
-/

namespace SokoFlow

open DbM Effect FlowM RecordSaleFlow SalesService

variable {dep : Deployment} {phone text : String} {s : UserSession} {db : Database} {env : Env}
  {b b' : Backend} {e : Exc} {α : Type}

/-! ## Programs that do not meet the broker -/

namespace Backend

/-- The same session with another broker. -/
def withBroker (broker : ℕ → Delivery) (b : Backend) : Backend :=
  { b with env := { b.env with broker := broker } }

end Backend

/-- The program does the same with any broker. -/
def BrokerFree (x : DbM α) : Prop :=
  ∀ broker, Agree (fun b b' ↦ b' = b.withBroker broker) x x

namespace BrokerFree

theorem pure (a : α) : BrokerFree (Pure.pure a : DbM α) := fun _ ↦ .pure a

theorem throw (e : Exc) : BrokerFree (MonadExcept.throw e : DbM α) := fun _ ↦ .throw e

theorem bind {β : Type} {x : DbM α} {f : α → DbM β} (hx : BrokerFree x)
    (hf : ∀ a, BrokerFree (f a)) : BrokerFree (x >>= f) :=
  fun broker ↦ (hx broker).bind fun a ↦ hf a broker

theorem tryCatch {x : DbM α} {h : Exc → DbM α} (hx : BrokerFree x) (hh : ∀ e, BrokerFree (h e)) :
    BrokerFree (MonadExcept.tryCatch x h) :=
  fun broker ↦ (hx broker).tryCatch fun e ↦ hh e broker

theorem ask {q : Env → ℕ → α} (hq : ∀ env broker n, q { env with broker := broker } n = q env n) :
    BrokerFree (DbM.ask q) := by
  rintro broker b - rfl
  exact ⟨(hq _ _ _).symm, rfl⟩

theorem reads {f : Backend → α} (hf : ∀ broker b, f (b.withBroker broker) = f b) :
    BrokerFree (Effect.reads f) := by
  rintro broker b - rfl
  exact ⟨(hf _ _).symm, rfl⟩

theorem modify {g : Backend → Backend}
    (hg : ∀ broker b, g (b.withBroker broker) = (g b).withBroker broker) :
    BrokerFree (modify g) := by
  rintro broker b - rfl
  exact ⟨rfl, hg broker b⟩

theorem execute (run : Timestamp → Database → Except Exc (α × Database)) :
    BrokerFree (DbM.execute run) := by
  rintro broker b - rfl
  have hstarted : (b.withBroker broker).started = b.started := rfl
  have hserved : (b.withBroker broker).served = b.served.withBroker broker := rfl
  have hworking : (b.withBroker broker).working = b.working := rfl
  have haborted : (b.withBroker broker).aborted = b.aborted := rfl
  have hfault : (b.withBroker broker).env.statementFault ((b.withBroker broker).tick + 1) =
      b.env.statementFault (b.tick + 1) := rfl
  rw [execute_apply, execute_apply, hstarted, hserved, hworking, haborted, hfault]
  cases b.aborted with
  | true => exact ⟨rfl, rfl⟩
  | false =>
      cases b.env.statementFault (b.tick + 1) with
      | some text => exact ⟨rfl, rfl⟩
      | none =>
          cases run b.started b.working with
          | ok r => exact ⟨rfl, rfl⟩
          | error e => exact ⟨rfl, rfl⟩

theorem select (q : Database → α) : BrokerFree (DbM.select q) := execute _

theorem update (run : Database → Except Exc (α × Database)) : BrokerFree (DbM.update run) :=
  execute _

theorem rollback : BrokerFree DbM.rollback := modify fun _ _ ↦ rfl

theorem commit : BrokerFree DbM.commit := by
  refine (ask fun _ _ _ ↦ rfl).bind fun fault ↦ (reads fun _ _ ↦ rfl).bind fun aborted ↦ ?_
  cases fault with
  | some text => exact rollback.bind fun _ ↦ throw _
  | none =>
      dsimp only
      split
      · exact rollback
      · exact modify fun _ _ ↦ rfl

theorem beginNested {body : DbM α} (h : BrokerFree body) : BrokerFree (DbM.beginNested body) := by
  refine (select _).bind fun _ ↦ (reads fun _ _ ↦ rfl).bind fun saved ↦ ?_
  refine (h.bind fun _ ↦ (select _).bind fun _ ↦ pure _).tryCatch fun e ↦ ?_
  exact (modify fun _ _ ↦ rfl).bind fun _ ↦ throw e

theorem getWorkerDb {body : DbM α} (h : BrokerFree body) : BrokerFree (DbM.getWorkerDb body) :=
  (h.bind fun _ ↦ commit.bind fun _ ↦ pure _).tryCatch fun e ↦ rollback.bind fun _ ↦ throw e

theorem refresh (id : UUID) : BrokerFree (InventoryService.refresh id) := by
  apply (select _).bind
  intro found
  cases found with
  | none => exact throw _
  | some row => exact pure _

theorem refreshSale (id : UUID) : BrokerFree (SalesService.refreshSale id) := by
  apply (select _).bind
  intro found
  cases found with
  | none => exact throw _
  | some sale => exact pure _

theorem deductStock (p : UUID) (q : ℤ) : BrokerFree (InventoryService.deductStock p q false) := by
  apply (select _).bind
  intro found
  cases found with
  | none => exact throw _
  | some row =>
      dsimp only
      split
      · exact throw _
      · refine BrokerFree.bind (BrokerFree.tryCatch ?_ fun e ↦ (pure _).bind fun _ ↦ throw e) fun _ ↦ pure _
        exact ((update _).bind fun _ ↦ pure _).bind fun _ ↦ (pure _).bind fun _ ↦ refresh _

theorem recordSale (shopId p : UUID) (q : ℤ) (recordedBy : String) :
    BrokerFree (SalesService.recordSale shopId p q recordedBy) := by
  refine beginNested ((select _).bind fun found ↦ ?_)
  cases found with
  | none => exact throw _
  | some product =>
      dsimp only
      split
      · exact throw _
      · exact (deductStock p q).bind fun _ ↦ (ask fun _ _ _ ↦ rfl).bind fun _ ↦
          (execute _).bind fun _ ↦ (refreshSale _).bind fun _ ↦ pure _

/-- What is returned with one broker is returned with any other. -/
theorem ok {x : DbM α} (hx : BrokerFree x) {a : α} (h : x b = .ok a b')
    (broker : ℕ → Delivery) : x (b.withBroker broker) = .ok a (b'.withBroker broker) := by
  have := hx broker b _ rfl
  rw [h] at this
  cases hy : x (b.withBroker broker) with
  | ok a' b'' =>
      rw [hy] at this
      obtain ⟨rfl, rfl⟩ := this
      rfl
  | error e b'' =>
      rw [hy] at this
      cases this

theorem final {x : DbM α} (hx : BrokerFree x) (b : Backend) (broker : ℕ → Delivery) :
    Effect.final (x (b.withBroker broker)) = (Effect.final (x b)).withBroker broker := by
  have := hx broker b _ rfl
  cases hb : x b <;> cases hy : x (b.withBroker broker) <;> rw [hb, hy] at this
  · exact this.2
  · cases this
  · cases this
  · exact this.2

end BrokerFree

/-! ## The transaction of a confirming reply -/

/-- A transaction depends on its body only through its outcome. -/
theorem getWorkerDb_congr {x y : DbM α} (h : x b = y b') : getWorkerDb x b = getWorkerDb y b' := by
  have hbind : ∀ f : α → DbM α, (x >>= f) b = (y >>= f) b' := by
    intro f
    cases hx : x b with
    | ok a b₁ => exact (bind_of_ok hx).trans (bind_of_ok (h ▸ hx)).symm
    | error e b₁ => exact (bind_of_error hx).trans (bind_of_error (h ▸ hx)).symm
  unfold getWorkerDb
  generalize hz : (x >>= fun a ↦ commit >>= fun _ ↦ pure a) b = z
  have hz' := (hbind _).symm.trans hz
  cases z with
  | ok a b₁ => exact (tryCatch_of_ok hz).trans (tryCatch_of_ok hz').symm
  | error e b₁ =>
      exact (tryCatch_of_error hz).trans
        (tryCatch_of_error (h := fun e ↦ rollback >>= fun _ ↦ throw e) hz').symm

/-- What follows the handling of a message in the transaction. -/
def reported (phone : String) (r : FSMResult) (s' : UserSession) : DbM Processed := do
  let locale ← select fun db ↦ ((db.shopByPhone phone).map Shop.locale).getD .en
  return ⟨r, s', locale⟩

theorem handleMessage_of_ok {r : FSMResult} {t : Turn}
    (h : FSMEngine.processMessage dep text ⟨s, b⟩ = .ok r t) :
    handleMessage dep phone text s b = getWorkerDb (reported phone r t.session) t.backend := by
  apply getWorkerDb_congr
  have hrun : FlowM.runOn s (FSMEngine.processMessage dep text) b = .ok (r, t.session) t.backend := by
    unfold FlowM.runOn
    rw [h]
  exact bind_of_ok hrun

theorem handleMessage_journal (b : Backend) :
    (final (handleMessage dep phone text s b)).journal =
      (final (FSMEngine.processMessage dep text ⟨s, b⟩)).backend.journal := by
  cases h : handleMessage dep phone text s b with
  | ok p b' =>
      obtain ⟨t, ht, -, -, -, hj⟩ := handleMessage_ok h
      rw [ht]
      exact hj
  | error e b' =>
      obtain ⟨t, ht | ⟨r, ht⟩, -, hj⟩ := handleMessage_error h
      · rw [ht]
        exact hj
      · rw [ht]
        exact hj

theorem processMessage_unalerted (hs : s.state = .CONFIRM_SALE) (hc : Confirms dep text) {o : Order}
    (ho : s.context.order = some o) {sale : SaleResult} {b₁ : Backend}
    (hr : recordSale o.shopId o.productId o.quantity "System" b = .ok sale b₁)
    (hlow : sale.enteredLowStock = false) :
    FSMEngine.processMessage dep text ⟨s, b⟩ = .ok (recordedResult ⟨s, b₁⟩ s o sale)
      ⟨(closed ⟨s, b₁⟩).accepted, { b₁ with tick := b₁.tick + 2 }⟩ := by
  have hh := handleConfirmSaleProduct_of_confirms hc ⟨s, b⟩
  simp only [ho, hr, conclude_apply, hlow] at hh
  have hstate : FSMEngine.handler dep s.state text = handleConfirmSaleProduct dep text := by
    rw [hs]
    rfl
  exact FSMEngine.processMessage_of_ok hc.not_override (t := ⟨s, b⟩) (by rw [hstate]; exact hh)

theorem journal_of_alerted (hs : s.state = .CONFIRM_SALE) (hc : Confirms dep text) {o : Order}
    (ho : s.context.order = some o) {sale : SaleResult} {b₁ : Backend}
    (hr : recordSale o.shopId o.productId o.quantity "System" b = .ok sale b₁)
    (hlow : sale.enteredLowStock = true) (hbroker : ∀ n, b₁.env.broker n = .done) :
    (final (FSMEngine.processMessage dep text ⟨s, b⟩)).backend.journal =
      b₁.journal ++ [.enqueued (alertOf s o sale) b₁.committed] := by
  have hh := handleConfirmSaleProduct_of_confirms hc ⟨s, b⟩
  simp only [ho, hr, conclude_apply, hlow, enqueue_apply] at hh
  have hdone : (later (later ⟨s, b₁⟩)).backend.env.broker (later (later ⟨s, b₁⟩)).backend.tick =
      .done := hbroker _
  simp only [hdone, if_true] at hh
  have hstate : FSMEngine.handler dep s.state text = handleConfirmSaleProduct dep text := by
    rw [hs]
    rfl
  rw [FSMEngine.processMessage_of_ok hc.not_override (t := ⟨s, b⟩) (by rw [hstate]; exact hh)]
  rfl

/-- A reply whose sale is refused leaves the rows alone. -/
theorem untouched_of_refused (hs : s.state = .CONFIRM_SALE) (hc : Confirms dep text)
    (hr : ∀ o ∈ s.context.order, ∀ sale b₁,
      recordSale o.shopId o.productId o.quantity "System" b ≠ .ok sale b₁) :
    Backend.Untouched b (final (FSMEngine.processMessage dep text ⟨s, b⟩)).backend := by
  have hcon := FSMEngine.processMessage_confirmed (t := ⟨s, b⟩) hs hc
  generalize FSMEngine.processMessage dep text ⟨s, b⟩ = res at hcon
  cases hcon with
  | corrupted ho => exact refl_of Backend.Untouched b
  | failed ho hr' he => exact (recordSale_error hr').1
  | @refused o e b₁ message ho hr' he =>
      exact trans_of Backend.Untouched (recordSale_error hr').1
        (FSMEngine.onInvalidInput_untouched dep .CONFIRM_SALE message none [] ⟨s, b₁⟩)
  | recorded ho hr' hcon => exact absurd hr' (hr _ ho _ _)
  | unalerted ho hr' hcon => exact absurd hr' (hr _ ho _ _)

/-- A message that leaves the rows alone commits nothing, whatever fails after it. -/
theorem committed_of_untouched (hb : b.working = b.committed)
    (h : Backend.Untouched b (final (FSMEngine.processMessage dep text ⟨s, b⟩)).backend) :
    (final (handleMessage dep phone text s b)).committed = b.committed := by
  cases hm : handleMessage dep phone text s b with
  | ok p b' =>
      obtain ⟨t, ht, -, hcom, -, -⟩ := handleMessage_ok hm
      rw [ht] at h
      exact hcom.trans (h.working.trans hb)
  | error e b' =>
      obtain ⟨t, ht | ⟨r, ht⟩, hcom, -⟩ := handleMessage_error hm <;> rw [ht] at h
      · exact hcom.trans h.committed
      · exact hcom.trans h.committed

/-! ## Independence -/

/-- The transaction of a worker, in a world with this broker. -/
def reply (dep : Deployment) (phone text : String) (s : UserSession) (env : Env) (db : Database)
    (broker : ℕ → Delivery) : Backend :=
  final (handleMessage dep phone text s (Backend.connect { env with broker := broker } db))

/-- What is committed does not depend on the broker. -/
def BrokerBlind (dep : Deployment) (phone text : String) (s : UserSession) (env : Env)
    (db : Database) : Prop :=
  ∀ broker broker', (reply dep phone text s env db broker).committed =
    (reply dep phone text s env db broker').committed

/-- An alert is handed over only when a sale of its product is committed. -/
def AlertsCommitted (dep : Deployment) (phone text : String) (s : UserSession) (env : Env)
    (db : Database) : Prop :=
  ∀ recipient productId remaining rows,
    .enqueued (.lowStockAlert recipient productId remaining) rows ∈
        (reply dep phone text s env db env.broker).journal →
      ∃ sale ∈ rows.sales, sale ∉ db.sales ∧ sale.productId.text = productId

/-- Stock crosses the threshold of its row. -/
def Crosses (row : Inventory) (q : ℤ) : Prop :=
  row.lowStockThreshold < row.quantity ∧ row.quantity - q ≤ row.lowStockThreshold

instance (row : Inventory) (q : ℤ) : Decidable (Crosses row q) := inferInstanceAs (Decidable (_ ∧ _))

/-- The order can be sold, and leaves the product low. -/
def Alerting (s : UserSession) (db : Database) : Prop :=
  ∃ o product row, s.context.order = some o ∧
    Sellable db o.shopId o.productId o.quantity product row ∧
    FitsMoney (product.price * o.quantity) ∧ Crosses row o.quantity

theorem crosses_iff {row : Inventory} {q : ℤ} :
    InventoryService.shouldSendLowStockAlert (InventoryService.isLow row)
      (InventoryService.isLow (InventoryService.deducted row q)) = true ↔ Crosses row q := by
  simp [InventoryService.shouldSendLowStockAlert, InventoryService.isLow,
    InventoryService.deducted, Crosses]

/-- Without an alert the broker decides nothing, and there is nothing to hand over. -/
theorem independent_of_unalerted (hs : s.state = .CONFIRM_SALE) (hc : Confirms dep text)
    (h : ∀ o ∈ s.context.order, ∀ sale b₁,
      recordSale o.shopId o.productId o.quantity "System" (Backend.connect env db) = .ok sale b₁ →
        sale.enteredLowStock = false) :
    BrokerBlind dep phone text s env db ∧ AlertsCommitted dep phone text s env db := by
  have hconnect : ∀ broker, Backend.connect { env with broker := broker } db =
      (Backend.connect env db).withBroker broker := fun _ ↦ rfl
  by_cases hsold : ∃ o ∈ s.context.order, ∃ sale b₁,
      recordSale o.shopId o.productId o.quantity "System" (Backend.connect env db) = .ok sale b₁
  · obtain ⟨o, ho, sale, b₁, hr⟩ := hsold
    have hlow := h o ho sale b₁ hr
    have hhandle : ∀ broker, handleMessage dep phone text s
        (Backend.connect { env with broker := broker } db) =
          getWorkerDb (reported phone (recordedResult ⟨s, b₁⟩ s o sale) (closed ⟨s, b₁⟩).accepted)
            (({ b₁ with tick := b₁.tick + 2 } : Backend).withBroker broker) := by
      intro broker
      have hr' := (BrokerFree.recordSale _ _ _ _).ok hr broker
      exact handleMessage_of_ok (processMessage_unalerted hs hc ho hr' hlow)
    have hfree : BrokerFree (getWorkerDb (reported phone (recordedResult ⟨s, b₁⟩ s o sale)
        (closed ⟨s, b₁⟩).accepted)) :=
      .getWorkerDb ((BrokerFree.select _).bind fun _ ↦ .pure _)
    refine ⟨fun broker broker' ↦ ?_, fun recipient productId remaining rows hmem ↦ ?_⟩
    · unfold reply
      rw [hhandle broker, hhandle broker', hfree.final, hfree.final]
      rfl
    · unfold reply at hmem
      rw [handleMessage_journal, processMessage_unalerted hs hc ho hr hlow] at hmem
      obtain ⟨_, _, _, -, hl, -, -⟩ := recordSale_ok hr
      have hj : b₁.journal = [] := hl.journal
      rw [final_ok, hj] at hmem
      cases hmem
  · have hrefused : ∀ broker, ∀ o ∈ s.context.order, ∀ sale b₁,
        recordSale o.shopId o.productId o.quantity "System"
          (Backend.connect { env with broker := broker } db) ≠ .ok sale b₁ := by
      intro broker o ho sale b₁ hr
      have hr' := (BrokerFree.recordSale _ _ _ _).ok hr env.broker
      exact hsold ⟨o, ho, sale, _, hr'⟩
    refine ⟨fun broker broker' ↦ ?_, fun recipient productId remaining rows hmem ↦ ?_⟩
    · unfold reply
      rw [committed_of_untouched rfl (untouched_of_refused hs hc (hrefused broker)),
        committed_of_untouched rfl (untouched_of_refused hs hc (hrefused broker'))]
      rfl
    · unfold reply at hmem
      rw [handleMessage_journal, (untouched_of_refused hs hc (hrefused env.broker)).journal] at hmem
      cases hmem

/-- An alert is handed over before its sale is committed. -/
theorem not_alertsCommitted_of_alerting (hs : s.state = .CONFIRM_SALE) (hc : Confirms dep text)
    (h : Alerting s db) : ¬ AlertsCommitted dep phone text s .calm db := by
  intro hall
  obtain ⟨o, product, row, ho, hsell, hfit, hcross⟩ := h
  have hq : 0 < o.quantity := by
    have := hcross.1
    have := hcross.2
    omega
  have hby : FitsFreeText 20 (kept 20 "System") := by decide
  obtain ⟨sale, b₁, hr⟩ := recordSale_accepted (b := Backend.connect .calm db)
    Env.calm_faultless rfl hsell hq hfit hby
  obtain ⟨product', row', db', hw, hl, -, he⟩ := recordSale_ok hr
  have hrow : row' = row := Option.some.inj (hw.sellable.stocked.symm.trans hsell.stocked)
  have hlow : sale.enteredLowStock = true := by
    rw [he, hrow]
    exact crosses_iff.mpr hcross
  have hj := journal_of_alerted hs hc ho hr hlow fun n ↦ by rw [hl.env]; rfl
  have hcom : b₁.committed = db := hl.committed
  obtain ⟨recorded, hmem, hnew, -⟩ := hall s.phone o.productId.text sale.remainingStock db (by
    unfold reply
    rw [handleMessage_journal]
    apply hj ▸ List.mem_append_right _
    rw [hcom]
    exact List.mem_singleton_self _)
  exact hnew hmem

/-- The sale is independent of its alert, in every world, when there is none. -/
theorem independent_iff (hs : s.state = .CONFIRM_SALE) (hc : Confirms dep text) :
    (∀ env, BrokerBlind dep phone text s env db ∧ AlertsCommitted dep phone text s env db) ↔
      ¬ Alerting s db := by
  constructor
  · intro h halert
    exact not_alertsCommitted_of_alerting hs hc halert (h .calm).2
  · intro h env
    apply independent_of_unalerted hs hc
    intro o ho sale b₁ hr
    by_contra hlow
    obtain ⟨product, row, db', hw, hl, -, he⟩ := recordSale_ok hr
    rw [Bool.not_eq_false, he, crosses_iff] at hlow
    have hmem : sale.sale ∈ db'.sales := by
      rw [hw.sales]
      exact List.mem_append_right _ (List.mem_singleton_self _)
    have hfit := (db'.valid.sales.fits _ hmem).2.2.1
    rw [db'.valid.sales.total _ hmem, hw.unitPrice, hw.quantity] at hfit
    exact h ⟨o, product, row, ho, hw.sellable, hfit, hlow⟩

/-- A session that has been asked to confirm the sale of some units of milk. -/
def askedToConfirm (units : ℤ) : UserSession where
  phone := "254700000001"
  state := .CONFIRM_SALE
  context := {
    shopId := some ⟨1⟩
    productId := some ⟨2⟩
    productName := some "Milk"
    productPrice := some 60
    productQty := some units }

theorem independent_of_two_units :
    BrokerBlind .sample "254700000001" "yes" (askedToConfirm 2) .calm .sample := by
  have hquiet : ¬ Alerting (askedToConfirm 2) .sample := by
    rintro ⟨o, product, row, ho, hsell, -, hcross⟩
    cases ho
    cases hsell.stocked
    exact absurd hcross.2 (by decide)
  exact ((independent_iff rfl (by decide)).mpr hquiet .calm).1

/-- Six of ten units leave milk low: the alert is handed over before the sale
is committed, and a broker that refuses it undoes the sale. -/
theorem sale_of_six_units_depends_on_alert :
    ¬ BrokerBlind .sample "254700000001" "yes" (askedToConfirm 6) .calm .sample ∧
      ¬ AlertsCommitted .sample "254700000001" "yes" (askedToConfirm 6) .calm .sample := by
  constructor
  · intro h
    have hsold := congrArg (·.sales.length) (h (fun _ ↦ .done) fun _ ↦ .refused "broker down")
    revert hsold
    decide +kernel
  · refine not_alertsCommitted_of_alerting rfl (by decide) ⟨_, _, _, rfl, ⟨rfl, rfl, rfl, ?_⟩, ?_, ?_⟩
    · decide
    · decide +kernel
    · decide

end SokoFlow
