import SokoFlow.Conversation.Effects

/-!
# Confirming a sale

What a confirming reply does to the session and to the rows, and that no other
message records a sale.
-/

namespace SokoFlow

open DbM Effect FlowM

/-- The sale a context describes. -/
structure Order where
  shopId : UUID
  productId : UUID
  name : String
  quantity : ℤ
  deriving DecidableEq

/-- The order of a context that has all of its fields. -/
def SessionContext.order (c : SessionContext) : Option Order :=
  match c.productId, c.productName, c.productQty, c.shopId with
  | some productId, some name, some quantity, some shopId =>
      if name = "" then none else some ⟨shopId, productId, name, quantity⟩
  | _, _, _, _ => none

/-- The reply that confirms. -/
def Confirms (dep : Deployment) (text : String) : Prop :=
  parseConfirmation dep.unicode text = .ok true

variable {dep : Deployment} {text : String} {t t' : Turn} {r : FSMResult} {e : Exc}

instance (dep : Deployment) (text : String) : Decidable (Confirms dep text) :=
  decidable_of_iff
    (Text.lower dep.unicode (Text.strip text) ∈ ["yes", "y", "ndio", "1"]) (by
    unfold Confirms parseConfirmation
    dsimp only
    split
    · simp [*]
    · split <;> simp [*, invalidInput])

theorem Confirms.not_override (h : Confirms dep text) :
    FSMEngine.isOverride dep text = false := by
  unfold Confirms parseConfirmation at h
  dsimp only at h
  split at h
  · rename_i hyes
    simp only [List.mem_cons, List.not_mem_nil, or_false] at hyes
    rcases hyes with h | h | h | h <;>
      simp [FSMEngine.isOverride, FSMEngine.overrideCommands, h]
  · split at h <;> simp [invalidInput] at h

namespace RecordSaleFlow

open SalesService

/-- What follows a recorded sale: back to `IDLE`, and the alert if there is one. -/
def conclude (s : UserSession) (order : Order) (sale : SaleResult) : FlowM FSMResult := do
  transition .IDLE
  clearContextPreservingHistory
  (if sale.enteredLowStock then
    onDb (enqueue (.lowStockAlert s.phone order.productId.text sale.remainingStock))
  else pure ())
  buildResult s.state .SALE_RECORDED [("product_name", .text order.name),
    ("quantity", .int order.quantity), ("remaining_stock", .int sale.remainingStock)]

/-- The session after a recorded sale. -/
def closed (t : Turn) : UserSession := (t.session.moved .IDLE (time t)).cleared (time (later t))

def alertOf (s : UserSession) (order : Order) (sale : SaleResult) : Task :=
  .lowStockAlert s.phone order.productId.text sale.remainingStock

def recordedResult (t : Turn) (s : UserSession) (order : Order) (sale : SaleResult) : FSMResult :=
  (closed t).result s.state .SALE_RECORDED [("product_name", .text order.name),
    ("quantity", .int order.quantity), ("remaining_stock", .int sale.remainingStock)]

theorem conclude_apply (s : UserSession) (order : Order) (sale : SaleResult) (t : Turn) :
    conclude s order sale t =
      let r := recordedResult t s order sale
      let b := (later (later t)).backend
      if sale.enteredLowStock then match enqueue (alertOf s order sale) b with
        | .ok _ b' => .ok r ⟨closed t, b'⟩
        | .error e b' => .error e ⟨closed t, b'⟩
      else .ok r ⟨closed t, b⟩ := by
  unfold conclude
  rw [transition_bind, clear_bind]
  cases sale.enteredLowStock with
  | false => rfl
  | true =>
      dsimp only
      rw [if_pos rfl, if_pos rfl]
      unfold alertOf
      cases h : enqueue (.lowStockAlert s.phone order.productId.text sale.remainingStock)
          (later (later t)).backend with
      | ok u b' =>
          have hz : onDb (enqueue (alertOf s order sale)) ⟨closed t, (later (later t)).backend⟩ =
              .ok u ⟨closed t, b'⟩ := zoom_eq_ok.mpr ⟨b', h, rfl⟩
          exact bind_of_ok hz
      | error e b' =>
          have hz : onDb (enqueue (alertOf s order sale)) ⟨closed t, (later (later t)).backend⟩ =
              .error e ⟨closed t, b'⟩ := zoom_eq_error.mpr ⟨b', h, rfl⟩
          exact bind_of_error hz

theorem recordSaleTransaction_apply {shopId : UUID} (productId : UUID) (unitsSold : ℤ)
    (hs : t.session.context.shopId = some shopId) :
    recordSaleTransaction productId unitsSold t =
      match recordSale shopId productId unitsSold "System" t.backend with
      | .ok sale b => .ok sale { t with backend := b }
      | .error e b => .error e { t with backend := b } := by
  unfold recordSaleTransaction
  rw [session_bind, hs]
  change zoom _ _ _ t = _
  unfold zoom
  cases recordSale shopId productId unitsSold "System" t.backend <;> rfl

/-- The sale of a confirming reply, with its exceptions made presentable. -/
def attemptSale (productId : UUID) (unitsSold : ℤ) : FlowM SaleResult :=
  tryCatch (recordSaleTransaction productId unitsSold) fun e ↦ throw (toInvalidInput e)

theorem attemptSale_error {productId : UUID} {unitsSold : ℤ}
    (h : recordSaleTransaction productId unitsSold t = .error e t') :
    attemptSale productId unitsSold t = .error (toInvalidInput e) t' :=
  (tryCatch_of_error h).trans rfl

theorem handleConfirmSaleProduct_of_confirms (hc : Confirms dep text) (t : Turn) :
    handleConfirmSaleProduct dep text t = match t.session.context.order with
      | none => .error (.corruptedSession t.session.phone) t
      | some o => match recordSale o.shopId o.productId o.quantity "System" t.backend with
        | .error e b => .error (toInvalidInput e) { t with backend := b }
        | .ok sale b => conclude t.session o sale { t with backend := b } := by
  have hc' : parseConfirmation dep.unicode text = .ok true := hc
  unfold handleConfirmSaleProduct SessionContext.order
  rw [session_bind, hc']
  cases hp : t.session.context.productId with
  | none => rfl
  | some productId =>
      cases hn : t.session.context.productName with
      | none => rfl
      | some name =>
          cases hq : t.session.context.productQty with
          | none => rfl
          | some q =>
              by_cases hempty : name = ""
              · cases hs : t.session.context.shopId <;> simp [hempty] <;> rfl
              · change (if name = "" then corrupted else _ : FlowM FSMResult) t = _
                rw [if_neg hempty]
                cases hs : t.session.context.shopId with
                | none =>
                    have hr : recordSaleTransaction productId q t =
                        .error (.corruptedSession t.session.phone) t := by
                      unfold recordSaleTransaction
                      rw [session_bind, hs]
                      rfl
                    exact bind_of_error (attemptSale_error hr)
                | some shopId =>
                    have hr := recordSaleTransaction_apply productId q hs
                    simp only [if_neg hempty]
                    cases hsale : recordSale shopId productId q "System" t.backend with
                    | error e b =>
                        rw [hsale] at hr
                        exact bind_of_error (attemptSale_error hr)
                    | ok sale b =>
                        rw [hsale] at hr
                        exact bind_of_ok (tryCatch_of_ok hr)

theorem conclude_ok {s : UserSession} {o : Order} {sale : SaleResult}
    (h : conclude s o sale t = .ok r t') :
    r = recordedResult t s o sale ∧ t'.session = closed t ∧
      t'.backend.committed = t.backend.committed ∧ t'.backend.working = t.backend.working ∧
      t'.backend.aborted = t.backend.aborted := by
  rw [conclude_apply] at h
  dsimp only at h
  split at h
  · rw [enqueue_apply] at h
    dsimp only at h
    split at h
    · rename_i heq
      split at heq <;> cases heq
      cases h
      exact ⟨rfl, rfl, rfl, rfl, rfl⟩
    · cases h
  · cases h
    exact ⟨rfl, rfl, rfl, rfl, rfl⟩

theorem conclude_error {s : UserSession} {o : Order} {sale : SaleResult}
    (h : conclude s o sale t = .error e t') :
    e.isTechnical = true ∧ t'.backend.committed = t.backend.committed := by
  rw [conclude_apply] at h
  dsimp only at h
  split at h
  · split at h
    · cases h
    · rename_i heq
      cases h
      exact ⟨enqueue_error heq, ((enqueue_within _).of_error heq).1⟩
  · cases h

theorem handleConfirmSaleProduct_gentle (hc : ¬ Confirms dep text) :
    Within Turn.Gentle (handleConfirmSaleProduct dep text) := by
  unfold handleConfirmSaleProduct
  apply gentle_session.bind
  intro s
  cases h : parseConfirmation dep.unicode text with
  | error e => exact .throw e
  | ok isConfirmed =>
      cases isConfirmed with
      | true => exact absurd h hc
      | false => exact gentle_end _ _ _

end RecordSaleFlow

/-! ## Messages -/

/-- The message sells what the session has ordered. -/
structure Sells (dep : Deployment) (text : String) (s : UserSession) (db db' : Database)
    (o : Order) (product : Product) (row : Inventory) (sale : Sale) : Prop where
  state : s.state = .CONFIRM_SALE
  confirms : Confirms dep text
  order : s.context.order = some o
  write : SalesService.SaleWrite o.shopId o.productId o.quantity "System" product row sale db db'

namespace FSMEngine

theorem processMessage_of_ok (ho : isOverride dep text = false)
    (h : handler dep t.session.state text t = .ok r t') :
    processMessage dep text t = .ok r { t' with session := t'.session.accepted } := by
  unfold processMessage
  rw [session_bind, if_neg (by simp [ho])]
  apply tryCatch_of_ok
  unfold handleAccepted
  rw [bind_of_ok h]
  rfl

theorem handleAccepted_of_error (h : handler dep t.session.state text t = .error e t') :
    handleAccepted dep t.session.state text t = .error e t' := bind_of_error h

theorem processMessage_of_error (ho : isOverride dep text = false)
    (h : handler dep t.session.state text t = .error e t') (he : e.isInvalidInput = false) :
    processMessage dep text t = .error e t' := by
  unfold processMessage
  rw [session_bind, if_neg (by simp [ho])]
  rw [tryCatch_of_error (handleAccepted_of_error h)]
  cases e <;> first | rfl | cases he

theorem processMessage_of_invalid {message : String} {key : Option MessageKey} {params : Params}
    (ho : isOverride dep text = false)
    (h : handler dep t.session.state text t = .error (.invalidInput message key params) t') :
    processMessage dep text t = onInvalidInput dep t.session.state message key params t' := by
  unfold processMessage
  rw [session_bind, if_neg (by simp [ho])]
  exact (tryCatch_of_error (handleAccepted_of_error h)).trans rfl

/-- What escapes was raised by the handler, and is no invalid input. -/
theorem processMessage_raised (h : processMessage dep text t = .error e t') :
    isOverride dep text = false ∧ handler dep t.session.state text t = .error e t' ∧
      e.isInvalidInput = false := by
  cases ho : isOverride dep text with
  | true =>
      unfold processMessage at h
      rw [session_bind, if_pos ho] at h
      cases h
  | false =>
      refine ⟨rfl, ?_⟩
      cases hr : handler dep t.session.state text t with
      | ok r t₁ =>
          rw [processMessage_of_ok ho hr] at h
          cases h
      | error e₁ t₁ =>
          cases hi : e₁.isInvalidInput with
          | false =>
              rw [processMessage_of_error ho hr hi] at h
              cases h
              exact ⟨rfl, hi⟩
          | true =>
              cases e₁ with
              | invalidInput message key params =>
                  rw [processMessage_of_invalid ho hr] at h
                  unfold onInvalidInput at h
                  rw [setSession_bind, session_bind] at h
                  split at h <;> cases h
              | _ => cases hi

theorem onInvalidInput_untouched (dep : Deployment) (previousState : SessionState)
    (message : String) (key : Option MessageKey) (params : Params) (t : Turn) :
    Backend.Untouched t.backend
      (final (onInvalidInput dep previousState message key params t)).backend := by
  unfold onInvalidInput
  rw [setSession_bind, session_bind]
  split <;> exact ⟨rfl, rfl, rfl, rfl⟩

theorem onInvalidInput_gentle (previousState : SessionState) (message : String)
    (key : Option MessageKey) (params : Params) :
    Within Turn.Gentle (onInvalidInput dep previousState message key params) :=
  fun t ↦ .of_untouched (onInvalidInput_untouched _ _ _ _ _ t)

theorem handleAccepted_gentle {state : SessionState}
    (h : Within Turn.Gentle (handler dep state text)) :
    Within Turn.Gentle (handleAccepted dep state text) :=
  h.bind fun _ ↦ Within.bind (.modify fun _ ↦ refl_of Backend.Gentle _) fun _ ↦ .pure _

theorem processMessage_gentle (h : ¬ (t.session.state = .CONFIRM_SALE ∧ Confirms dep text)) :
    Turn.Gentle t (final (processMessage dep text t)) := by
  have hh : Within Turn.Gentle (handler dep t.session.state text) := by
    by_cases hs : t.session.state = .CONFIRM_SALE
    · rw [hs]
      exact RecordSaleFlow.handleConfirmSaleProduct_gentle fun hc ↦ h ⟨hs, hc⟩
    · exact handler_gentle hs
  unfold processMessage
  rw [session_bind]
  split
  · exact gentle_end _ _ _ t
  · refine Within.tryCatch (handleAccepted_gentle hh) (fun e ↦ ?_) t
    cases e with
    | invalidInput message key params => exact onInvalidInput_gentle _ _ _ _
    | _ => exact .throw _

open RecordSaleFlow SalesService

/-- How a confirming reply ends. -/
inductive Confirmed (dep : Deployment) (t : Turn) : EStateM.Result Exc Turn FSMResult → Prop
  | corrupted (ho : t.session.context.order = none) :
      Confirmed dep t (.error (.corruptedSession t.session.phone) t)
  | failed {o : Order} {e : Exc} {b : Backend} (ho : t.session.context.order = some o)
      (hr : recordSale o.shopId o.productId o.quantity "System" t.backend = .error e b)
      (he : (toInvalidInput e).isInvalidInput = false) :
      Confirmed dep t (.error (toInvalidInput e) { t with backend := b })
  | refused {o : Order} {e : Exc} {b : Backend} {message : String}
      (ho : t.session.context.order = some o)
      (hr : recordSale o.shopId o.productId o.quantity "System" t.backend = .error e b)
      (he : toInvalidInput e = .invalidInput message none []) :
      Confirmed dep t (onInvalidInput dep .CONFIRM_SALE message none [] { t with backend := b })
  | recorded {o : Order} {sale : SaleResult} {b : Backend} {r : FSMResult} {t₁ : Turn}
      (ho : t.session.context.order = some o)
      (hr : recordSale o.shopId o.productId o.quantity "System" t.backend = .ok sale b)
      (hc : conclude t.session o sale { t with backend := b } = .ok r t₁) :
      Confirmed dep t (.ok r { t₁ with session := t₁.session.accepted })
  | unalerted {o : Order} {sale : SaleResult} {b : Backend} {e : Exc} {t₁ : Turn}
      (ho : t.session.context.order = some o)
      (hr : recordSale o.shopId o.productId o.quantity "System" t.backend = .ok sale b)
      (hc : conclude t.session o sale { t with backend := b } = .error e t₁) :
      Confirmed dep t (.error e t₁)

theorem toInvalidInput_cases (e : Exc) :
    (toInvalidInput e).isInvalidInput = false ∨
      ∃ message, toInvalidInput e = .invalidInput message none [] := by
  cases e <;> first | exact .inr ⟨_, rfl⟩ | exact .inl rfl

theorem processMessage_confirmed (hs : t.session.state = .CONFIRM_SALE) (hc : Confirms dep text) :
    Confirmed dep t (processMessage dep text t) := by
  have hh := handleConfirmSaleProduct_of_confirms hc t
  rw [show handleConfirmSaleProduct dep text = handler dep t.session.state text by rw [hs]; rfl]
    at hh
  have hover := hc.not_override
  cases ho : t.session.context.order with
  | none =>
      rw [ho] at hh
      rw [processMessage_of_error hover hh rfl]
      exact .corrupted ho
  | some o =>
      rw [ho] at hh
      dsimp only at hh
      cases hr : recordSale o.shopId o.productId o.quantity "System" t.backend with
      | error e b =>
          rw [hr] at hh
          rcases toInvalidInput_cases e with he | ⟨message, he⟩
          · rw [processMessage_of_error hover hh he]
            exact .failed ho hr he
          · dsimp only at hh
            rw [he] at hh
            rw [processMessage_of_invalid hover hh, hs]
            exact .refused ho hr he
      | ok sale b =>
          rw [hr] at hh
          dsimp only at hh
          cases hcon : conclude t.session o sale { t with backend := b } with
          | error e t₁ =>
              rw [hcon] at hh
              rw [processMessage_of_error hover hh
                (Exc.not_invalidInput_of_technical (conclude_error hcon).1)]
              exact .unalerted ho hr hcon
          | ok r t₁ =>
              rw [hcon] at hh
              rw [processMessage_of_ok hover hh]
              exact .recorded ho hr hcon

/-- What is sold was ordered by the session, and confirmed. -/
theorem processMessage_ok_effect (h : processMessage dep text t = .ok r t') :
    Turn.Gentle t t' ∨ ∃ o product row sale,
      Sells dep text t.session t.backend.working t'.backend.working o product row sale ∧
        t'.backend.committed = t.backend.committed ∧ t'.backend.aborted = false ∧
        t'.session.state = .IDLE ∧ r.messageKey = .SALE_RECORDED := by
  by_cases hcs : t.session.state = .CONFIRM_SALE ∧ Confirms dep text
  · obtain ⟨hs, hc⟩ := hcs
    have hcon := processMessage_confirmed hs hc
    generalize processMessage dep text t = res at h hcon
    cases hcon with
    | corrupted ho => cases h
    | failed ho hr he => cases h
    | unalerted ho hr hcon => cases h
    | refused ho hr he =>
        refine .inl (trans_of Turn.Gentle ?_ ((onInvalidInput_gentle _ _ _ _).of_ok h))
        exact .of_untouched (recordSale_error hr).1
    | @recorded o sale b r t₁ ho hr hcon =>
        cases h
        obtain ⟨product, row, db, hw, hl, -, -⟩ := recordSale_ok hr
        obtain ⟨rfl, hsess, hcom, hwork, hab⟩ := conclude_ok hcon
        refine .inr ⟨o, product, row, sale.sale, ⟨hs, hc, ho, ?_⟩, ?_, ?_, ?_, rfl⟩
        · rw [hwork, hl.working]
          exact hw
        · rw [hcom, hl.committed]
          rfl
        · rw [hab, hl.aborted]
        · rw [hsess]
          rfl
  · exact .inl (by simpa [h] using processMessage_gentle hcs)

theorem processMessage_error_effect (h : processMessage dep text t = .error e t')
    {db : Database} (hc : KeepsStock db t.backend.committed)
    (hw : KeepsStock db t.backend.working) : KeepsStock db t'.backend.committed := by
  by_cases hcs : t.session.state = .CONFIRM_SALE ∧ Confirms dep text
  · have hcon := processMessage_confirmed hcs.1 hcs.2
    generalize processMessage dep text t = res at h hcon
    cases hcon with
    | corrupted ho =>
        cases h
        exact hc
    | failed ho hr he =>
        cases h
        exact (recordSale_error hr).1.committed ▸ hc
    | unalerted ho hr hcon =>
        cases h
        obtain ⟨_, _, _, -, hl, -, -⟩ := recordSale_ok hr
        rw [(conclude_error hcon).2, hl.committed]
        exact hc
    | recorded ho hr hcon => cases h
    | refused ho hr he =>
        have hu := (recordSale_error hr).1
        have hg := (onInvalidInput_gentle _ _ _ _).of_error h
        exact (hg db (hu.committed ▸ hc) (hu.working ▸ hw)).1
  · have hg : Turn.Gentle t t' := by simpa [h] using processMessage_gentle hcs
    exact (hg db hc hw).1

end FSMEngine

end SokoFlow
