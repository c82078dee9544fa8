import SokoFlow.Conversation.Tenancy
import SokoFlow.Services.Invariants

/-!
# Invariants of messages

What a message does to its database session it does by queries, by three
services, by handing tasks to the broker and by running tools.  A property that
these keep is kept by every message, whatever its text and its session.
-/

namespace SokoFlow

open DbM Effect FlowM Analytics

/-- `J` is kept by all that a message does before its tools and that is not a
sale, and `I`, which follows from it, by the tools and all that comes after them. -/
structure Chores (J I : Backend → Prop) : Prop where
  follows : ∀ b, J b → I b
  ask : ∀ {α : Type} (q : Env → ℕ → α), Keeping J (ask q)
  select : ∀ {α : Type} (q : Database → α), Keeping J (select q)
  report : ∀ shopId recipient, Keeping J (enqueue (.report shopId recipient))
  getShopId : ∀ sender, Keeping J (getShopId sender)
  createStocked : ∀ dep shopId name price quantity,
    Keeping J (AddProductFlow.createStocked dep shopId name price quantity)
  observed : ∀ b b', I b → Backend.Observed b b' → I b'

/-- `J` is also kept by a sale and its alert. -/
structure Upkeep (J I : Backend → Prop) : Prop extends Chores J I where
  recordSale : ∀ shopId p q, Keeping J (SalesService.recordSale shopId p q)
  alert : ∀ phone p remaining, Keeping J (enqueue (.lowStockAlert phone p remaining))

namespace Chores

variable {J I : Backend → Prop} {α : Type} {dep : Deployment} {text : String}

/-! ## Steps of a handler -/

theorem onDb {x : DbM α} (hx : Keeping J x) : Keeping (fun t : Turn ↦ J t.backend) (onDb x) where
  returns t a t' h hr := by
    obtain ⟨b, hb, rfl⟩ := zoom_eq_ok.mp hr
    exact hx.returns _ a b h hb
  raises t e t' h hr := by
    obtain ⟨b, hb, rfl⟩ := zoom_eq_error.mp hr
    exact hx.raises _ e b h hb

theorem ofExcept (x : Except Exc α) :
    Keeping (fun t : Turn ↦ J t.backend) (MonadExcept.ofExcept x : FlowM α) := by
  cases x with
  | ok a => exact .pure _
  | error e => exact .throw _

theorem session : Keeping (fun t : Turn ↦ J t.backend) session := .reads fun _ h ↦ h

theorem edit (f : SessionContext → SessionContext) :
    Keeping (fun t : Turn ↦ J t.backend) (editContext f) := .modify fun _ h ↦ h

theorem count (f : UserSession → UserSession) :
    Keeping (fun t : Turn ↦ J t.backend) (setSession f) := .modify fun _ h ↦ h

theorem result (previousState : SessionState) (key : MessageKey) (params : Params) :
    Keeping (fun t : Turn ↦ J t.backend) (buildResult previousState key params) :=
  .bind session fun _ ↦ .pure _

theorem corrupted : Keeping (fun t : Turn ↦ J t.backend) (corrupted : FlowM α) :=
  .bind session fun _ ↦ .throw _

variable (hh : Chores J I)
include hh

theorem untouched {x : DbM α} (hx : Within Backend.Untouched x) :
    Keeping (fun t : Turn ↦ I t.backend) (FlowM.onDb x) :=
  .zoom_of_within hx fun _ _ hi hu ↦ hh.observed _ _ hi (.of_untouched hu)

/-- Before the tools `J` holds, from them on `I`. -/
theorem weaken {x : FlowM α} (hx : Keeping (fun t : Turn ↦ J t.backend) x) :
    Contract (fun t : Turn ↦ J t.backend) x (fun _ t ↦ I t.backend) (fun t ↦ I t.backend) :=
  hx.weaken (fun _ h ↦ h) (fun _ _ h ↦ hh.follows _ h) fun _ h ↦ hh.follows _ h

theorem before {β : Type} {x : FlowM α} {f : α → FlowM β}
    (hx : Keeping (fun t : Turn ↦ J t.backend) x)
    (hf : ∀ a, Contract (fun t : Turn ↦ J t.backend) (f a) (fun _ t ↦ I t.backend)
      (fun t ↦ I t.backend)) :
    Contract (fun t : Turn ↦ J t.backend) (x >>= f) (fun _ t ↦ I t.backend)
      (fun t ↦ I t.backend) :=
  .bind (hx.weaken (fun _ h ↦ h) (fun _ _ h ↦ h) fun _ h ↦ hh.follows _ h) hf

theorem transition (newState : SessionState) :
    Keeping (fun t : Turn ↦ J t.backend) (transition newState) :=
  .bind (onDb (hh.ask _)) fun _ ↦ count _

theorem goto (newState previousState : SessionState) (key : MessageKey) (params : Params) :
    Keeping (fun t : Turn ↦ J t.backend) (do
      FlowM.transition newState
      buildResult previousState key params) :=
  .bind (hh.transition _) fun _ ↦ result _ _ _

theorem leave (previousState : SessionState) (key : MessageKey) (params : Params) :
    Keeping (fun t : Turn ↦ J t.backend) (do
      FlowM.transition .IDLE
      clearContextPreservingHistory
      buildResult previousState key params) :=
  .bind (hh.transition _) fun _ ↦ .bind (.bind (onDb (hh.ask _)) fun _ ↦ count _) fun _ ↦ result _ _ _

theorem find (shopId : UUID) (name : String) :
    Keeping J (ProductService.findProductsByFuzzyName dep shopId name) := by
  apply Keeping.bind (hh.select _)
  intro found
  cases found with
  | nil => exact .pure _
  | cons best others =>
      dsimp only
      split <;> exact .pure _

theorem getStock (p : UUID) : Keeping J (InventoryService.getStock p) := by
  apply Keeping.bind (hh.select _)
  intro found
  cases found with
  | none => exact .throw _
  | some row => exact .pure _

theorem shopOfSession :
    Keeping (fun t : Turn ↦ J t.backend) AddProductFlow.shopOfSession := by
  apply Keeping.bind session
  intro s
  cases s.context.shopId with
  | some shopId => exact .pure _
  | none =>
      exact .bind (onDb (hh.getShopId _)) fun _ ↦ .bind (edit _) fun _ ↦ .pure _

theorem enter (newState : SessionState) (key : MessageKey) :
    Keeping (fun t : Turn ↦ J t.backend) (FSMEngine.enter newState key) :=
  .bind session fun _ ↦ .bind (.bind (onDb (hh.ask _)) fun _ ↦ edit _) fun _ ↦ hh.goto _ _ _ _

theorem hasFreshContext (s : UserSession) :
    Keeping J (AnalyticsRoutingPolicy.hasFreshContext dep s) := by
  unfold AnalyticsRoutingPolicy.hasFreshContext
  cases s.context.lastAnalyticsCall with
  | none => exact .pure _
  | some call => exact .bind (hh.ask _) fun _ ↦ .pure _

theorem canRoute (s : UserSession) : Keeping J (AnalyticsRoutingPolicy.canRoute dep s text) := by
  unfold AnalyticsRoutingPolicy.canRoute
  dsimp only
  split
  · exact .pure _
  · apply Keeping.bind (hh.hasFreshContext s)
    intro fresh
    split
    · exact .pure _
    · split
      · exact hh.hasFreshContext s
      · exact .pure _

/-! ## After the tools -/

theorem remember (call : Option ToolCall) :
    Keeping (fun t : Turn ↦ I t.backend) (AnalyticsFlow.remember call) := by
  cases call with
  | none => exact .pure _
  | some call => exact .bind (hh.untouched (ask_within _)) fun _ ↦ edit _

theorem moved (newState : SessionState) :
    Keeping (fun t : Turn ↦ I t.backend) (FlowM.transition newState) :=
  .bind (hh.untouched (ask_within _)) fun _ ↦ count _

theorem settle (outcome : AnalyticsOutcome) :
    Keeping (fun t : Turn ↦ I t.backend) (AnalyticsFlow.settle outcome) := by
  cases outcome with
  | needsSelection candidates pending tool => exact .bind (hh.moved _) fun _ ↦ edit _
  | answered answer call => exact .bind (edit _) fun _ ↦ hh.remember call
  | answeredEmpty answer call => exact .bind (edit _) fun _ ↦ hh.remember call
  | _ => exact .pure _

theorem tools {x : DbM α} (hx : Within Backend.Observed x) :
    Contract (fun t : Turn ↦ J t.backend) (FlowM.onDb x) (fun _ t ↦ I t.backend)
      (fun t ↦ I t.backend) := by
  have hkeep : Keeping (fun t : Turn ↦ I t.backend) (FlowM.onDb x) :=
    .zoom_of_within hx fun _ _ hi ho ↦ hh.observed _ _ hi ho
  exact hkeep.weaken (fun _ h ↦ hh.follows _ h) (fun _ _ h ↦ h) fun _ h ↦ h

theorem handleQuery :
    Contract (fun t : Turn ↦ J t.backend) (AnalyticsFlow.handleQuery dep text)
      (fun _ t ↦ I t.backend) (fun t ↦ I t.backend) := by
  rw [AnalyticsFlow.handleQuery_eq]
  apply hh.before session
  intro s
  apply hh.before (onDb (hh.getShopId _))
  intro shopId
  apply hh.before (edit _)
  intro _
  apply hh.before (onDb (hh.hasFreshContext s))
  intro fresh
  refine Contract.bind (hh.tools (run_within dep text shopId _)) fun outcome ↦ ?_
  exact Keeping.bind (hh.settle outcome) fun _ ↦ result _ _ _

theorem handleProductSelection :
    Contract (fun t : Turn ↦ J t.backend) (AnalyticsFlow.handleProductSelection dep text)
      (fun _ t ↦ I t.backend) (fun t ↦ I t.backend) := by
  rw [AnalyticsFlow.handleProductSelection_eq]
  apply hh.before session
  intro s
  apply hh.before (ofExcept _)
  intro selected
  split
  · exact hh.weaken (hh.leave _ _ _)
  · apply hh.before (onDb (hh.getShopId _))
    intro shopId
    refine Contract.bind (hh.tools (execute_within dep _ _ shopId)) fun r ↦ ?_
    exact Keeping.bind (hh.remember _) fun _ ↦ .bind (edit _) fun _ ↦ .bind (hh.moved _) fun _ ↦
      result _ _ _

/-! ## The handlers -/

theorem handleIdle :
    Contract (fun t : Turn ↦ J t.backend) (FSMEngine.handleIdle dep text)
      (fun _ t ↦ I t.backend) (fun t ↦ I t.backend) := by
  apply hh.before session
  intro s
  cases IntentResolver.resolve dep.unicode text with
  | UNKNOWN =>
      apply hh.before (onDb (hh.canRoute s))
      intro routed
      split
      · exact hh.handleQuery
      · exact hh.weaken (ofExcept _)
  | RECORD_SALE => exact hh.weaken (hh.enter _ _)
  | CHECK_STOCK => exact hh.weaken (hh.enter _ _)
  | ADD_PRODUCT => exact hh.weaken (hh.enter _ _)
  | GENERATE_REPORT =>
      refine hh.weaken (.bind (.bind (onDb (hh.ask _)) fun _ ↦ edit _) fun _ ↦
        .bind (hh.transition _) fun _ ↦ .bind ?_ fun _ ↦ hh.goto _ _ _ _)
      exact .bind session fun _ ↦ .bind hh.shopOfSession fun _ ↦ onDb (hh.report _ _)

theorem handleConfirm :
    Keeping (fun t : Turn ↦ J t.backend) (AddProductFlow.handleConfirm dep text) := by
  refine .bind session fun s ↦ .bind (ofExcept _) fun isConfirmed ↦ ?_
  split
  · exact hh.leave _ _ _
  · split
    · refine .bind (.bind hh.shopOfSession fun _ ↦ ?_) fun _ ↦ hh.leave _ _ _
      exact onDb (hh.createStocked _ _ _ _ _)
    · exact ofExcept _

theorem handleSaleProductName :
    Keeping (fun t : Turn ↦ J t.backend) (RecordSaleFlow.handleSaleProductName dep text) := by
  refine .bind session fun s ↦ .bind (onDb (hh.getShopId _)) fun _ ↦ .bind (edit _) fun _ ↦
    .bind (onDb (hh.find _ _)) fun found ↦ ?_
  cases found with
  | notFound => exact result _ _ _
  | exactMatch m => exact .bind (edit _) fun _ ↦ hh.goto _ _ _ _
  | ambiguous candidates => exact .bind (edit _) fun _ ↦ hh.goto _ _ _ _

theorem handleSaleProductQty :
    Keeping (fun t : Turn ↦ J t.backend) (RecordSaleFlow.handleSaleProductQty dep text) := by
  refine .bind (ofExcept _) fun q ↦ .bind session fun s ↦ ?_
  split
  · split
    · exact corrupted
    · apply Keeping.bind (onDb (hh.getStock _))
      intro row
      split
      · exact ofExcept _
      · exact .bind (edit _) fun _ ↦ hh.goto _ _ _ _
  · exact corrupted

/-- A reply that does not confirm sells nothing. -/
theorem handleUnconfirmed (hc : ¬ Confirms dep text) :
    Keeping (fun t : Turn ↦ J t.backend) (RecordSaleFlow.handleConfirmSaleProduct dep text) := by
  apply Keeping.bind session
  intro s
  cases h : parseConfirmation dep.unicode text with
  | error e => exact .throw e
  | ok isConfirmed =>
      cases isConfirmed with
      | true => exact absurd h hc
      | false => exact hh.leave _ _ _

theorem handleStockName :
    Keeping (fun t : Turn ↦ J t.backend) (StockLookupFlow.handleStockName dep text) := by
  refine .bind (ofExcept _) fun name ↦ .bind session fun s ↦ .bind (onDb (hh.getShopId _)) fun _ ↦
    .bind (edit _) fun _ ↦ .bind (onDb (hh.find _ _)) fun found ↦ ?_
  cases found with
  | notFound => exact .bind (edit _) fun _ ↦ result _ _ _
  | ambiguous candidates => exact .bind (edit _) fun _ ↦ hh.goto _ _ _ _
  | exactMatch m => exact .bind (onDb (hh.getStock _)) fun _ ↦ hh.leave _ _ _

theorem handler {state : SessionState} (hs : ¬ (state = .CONFIRM_SALE ∧ Confirms dep text)) :
    Contract (fun t : Turn ↦ J t.backend) (FSMEngine.handler dep state text)
      (fun _ t ↦ I t.backend) (fun t ↦ I t.backend) := by
  cases state with
  | IDLE =>
      rw [FSMEngine.handler_idle dep (.inl rfl)]
      exact hh.handleIdle
  | START_ADD_PRODUCT =>
      rw [FSMEngine.handler_idle dep (.inr (.inl rfl))]
      exact hh.handleIdle
  | REPORT_PENDING =>
      rw [FSMEngine.handler_idle dep (.inr (.inr rfl))]
      exact hh.handleIdle
  | ADD_PRODUCT_NAME =>
      exact hh.weaken (.bind session fun _ ↦ .bind (ofExcept _) fun _ ↦ .bind (edit _) fun _ ↦
        hh.goto _ _ _ _)
  | ADD_PRODUCT_PRICE =>
      exact hh.weaken (.bind session fun _ ↦ .bind (ofExcept _) fun _ ↦ .bind (edit _) fun _ ↦
        hh.goto _ _ _ _)
  | ADD_PRODUCT_QTY =>
      refine hh.weaken (.bind session fun s ↦ ?_)
      split
      · exact .bind (ofExcept _) fun _ ↦ .bind (edit _) fun _ ↦ hh.goto _ _ _ _
      · exact ofExcept _
  | CONFIRM_ADD_PRODUCT => exact hh.weaken hh.handleConfirm
  | RECORD_SALE_PRODUCT => exact hh.weaken hh.handleSaleProductName
  | RECORD_SALE_PRODUCT_SELECTION =>
      exact hh.weaken (.bind session fun _ ↦ .bind (ofExcept _) fun _ ↦ .bind (edit _) fun _ ↦
        .bind (hh.transition _) fun _ ↦ .bind (edit _) fun _ ↦ result _ _ _)
  | RECORD_SALE_QTY => exact hh.weaken hh.handleSaleProductQty
  | CONFIRM_SALE => exact hh.weaken (hh.handleUnconfirmed fun hc ↦ hs ⟨rfl, hc⟩)
  | CHECK_STOCK_PRODUCT => exact hh.weaken hh.handleStockName
  | CHECK_STOCK_PRODUCT_SELECTION =>
      exact hh.weaken (.bind session fun _ ↦ .bind (ofExcept _) fun _ ↦ .bind (edit _) fun _ ↦
        .bind (onDb (hh.getStock _)) fun _ ↦ hh.leave _ _ _)
  | ANALYTICS_PRODUCT_SELECTION => exact hh.handleProductSelection

/-- What the handler of a state keeps, a message in this state keeps. -/
theorem answered {state : SessionState}
    (hstate : Contract (fun t : Turn ↦ J t.backend) (FSMEngine.handler dep state text)
      (fun _ t ↦ I t.backend) (fun t ↦ I t.backend)) :
    Contract (fun t : Turn ↦ J t.backend ∧ t.session.state = state)
      (FSMEngine.processMessage dep text) (fun _ t ↦ I t.backend) (fun t ↦ I t.backend) := by
  have hsession : Contract (fun t : Turn ↦ J t.backend ∧ t.session.state = state) FlowM.session
      (fun s t ↦ J t.backend ∧ s.state = state) (fun t ↦ I t.backend) :=
    .reads fun _ h ↦ h
  apply Contract.bind hsession
  intro s
  apply Contract.given
  rintro rfl
  split
  · exact hh.weaken (hh.leave _ _ _)
  · have haccepted : Contract (fun t : Turn ↦ J t.backend)
        (FSMEngine.handleAccepted dep s.state text) (fun _ t ↦ I t.backend)
        (fun t ↦ I t.backend) :=
      .bind hstate fun _ ↦ Keeping.bind (count _) fun _ ↦ .pure _
    apply haccepted.tryCatch
    intro e
    cases e with
    | invalidInput message key params =>
        refine Keeping.bind (count _) fun _ ↦ .bind session fun s ↦ ?_
        split
        · exact .bind (hh.moved _) fun _ ↦ .bind (.bind (hh.untouched (ask_within _)) fun _ ↦
            count _) fun _ ↦ result _ _ _
        · exact result _ _ _
    | _ => exact Keeping.throw _

/-- However a message ends that confirms no sale, its database session has kept
the property. -/
theorem processMessage :
    Contract (fun t : Turn ↦
        J t.backend ∧ ¬ (t.session.state = .CONFIRM_SALE ∧ Confirms dep text))
      (FSMEngine.processMessage dep text) (fun _ t ↦ I t.backend) (fun t ↦ I t.backend) where
  returns t r t' h hx := (hh.answered (hh.handler h.2)).returns t r t' ⟨h.1, rfl⟩ hx
  raises t e t' h hx := (hh.answered (hh.handler h.2)).raises t e t' ⟨h.1, rfl⟩ hx

end Chores

namespace Upkeep

variable {J I : Backend → Prop} {dep : Deployment} {text : String} (hh : Upkeep J I)
include hh

open Chores

theorem handleConfirmSaleProduct :
    Keeping (fun t : Turn ↦ J t.backend) (RecordSaleFlow.handleConfirmSaleProduct dep text) := by
  refine .bind session fun s ↦ .bind (ofExcept _) fun isConfirmed ↦ ?_
  split
  · exact hh.toChores.leave _ _ _
  · split
    · split
      · exact corrupted
      · refine .bind (.tryCatch ?_ fun e ↦ .throw _) fun sale ↦ .bind (hh.toChores.transition _) fun _ ↦
          .bind (.bind (onDb (hh.ask _)) fun _ ↦ count _) fun _ ↦ .bind ?_ fun _ ↦ result _ _ _
        · apply Keeping.bind session
          intro s
          cases s.context.shopId with
          | none => exact corrupted
          | some shopId => exact onDb (hh.recordSale _ _ _)
        · split
          · exact onDb (hh.alert _ _ _)
          · exact .pure _
    · exact corrupted

/-- However a message ends, its database session has kept the property. -/
theorem processMessage :
    Contract (fun t : Turn ↦ J t.backend) (FSMEngine.processMessage dep text)
      (fun _ t ↦ I t.backend) (fun t ↦ I t.backend) := by
  have hhandler : ∀ state, Contract (fun t : Turn ↦ J t.backend)
      (FSMEngine.handler dep state text) (fun _ t ↦ I t.backend) (fun t ↦ I t.backend) := by
    intro state
    by_cases hs : state = .CONFIRM_SALE
    · subst hs
      exact hh.toChores.weaken hh.handleConfirmSaleProduct
    · exact hh.toChores.handler fun h ↦ hs h.1
  constructor
  · intro t r t' h hx
    exact (hh.toChores.answered (hhandler t.session.state)).returns t r t' ⟨h, rfl⟩ hx
  · intro t e t' h hx
    exact (hh.toChores.answered (hhandler t.session.state)).raises t e t' ⟨h, rfl⟩ hx

end Upkeep

end SokoFlow
