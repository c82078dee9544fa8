import SokoFlow.Foundation.Runs
import SokoFlow.Worker
import SokoFlow.Conversation.Tenancy

/-!
# Tenants

Phones that talk to the bot, requests that call the services and sessions that
expire, in any order.  Whatever a phone writes, the shops of the others keep
their rows, and nothing is set off for anyone but the phone.
-/

namespace SokoFlow

open DbM Effect FlowM Analytics Runs

/-! ## Handlers -/

section Handlers

variable {own known : UUID → Prop} {base : Database} {phone : String} {dep : Deployment}
  {text : String}

theorem rollback_sameJournal : Within SameJournal rollback := fun _ ↦ rfl

theorem createStocked_sameJournal (shopId : UUID) (name : String) (price : ℚ) (quantity : ℤ) :
    Within SameJournal (AddProductFlow.createStocked dep shopId name price quantity) := by
  have hask : ∀ {α : Type} (q : Env → ℕ → α), Within SameJournal (ask q) := fun q ↦
    sameJournal_of_untouched (ask_within q)
  unfold AddProductFlow.createStocked
  split
  · refine Within.bind ?_ fun product ↦ ?_
    · refine Within.bind (Within.bind (hask _) fun _ ↦ .pure _) fun sku ↦ (hask _).bind fun id ↦
        Within.bind (.tryCatch ((execute_sameJournal _).bind fun _ ↦ commit_sameJournal.bind fun _ ↦
          .pure _) fun e ↦ ?_) fun _ ↦ (execute_sameJournal _).bind fun found ↦ ?_
      · cases e with
        | integrityError text => exact rollback_sameJournal.bind fun _ ↦ .throw _
        | _ => exact .throw _
      · cases found with
        | some product => exact .pure _
        | none => exact .throw _
    · split
      · refine Within.bind ((hask _).bind fun id ↦ (execute_sameJournal _).bind fun row ↦
          .tryCatch ((Within.pure _).bind fun _ ↦ commit_sameJournal.bind fun _ ↦
            (execute_sameJournal _).bind fun found ↦ ?_)
          fun _ ↦ rollback_sameJournal.bind fun _ ↦ .throw _) fun _ ↦ .pure _
        cases found with
        | some row => exact .pure _
        | none => exact .throw _
      · exact .pure _
  · exact .throw _

theorem recordSale_sameJournal (shopId p : UUID) (q : ℤ) :
    Within SameJournal (SalesService.recordSale shopId p q) := by
  intro b
  cases h : SalesService.recordSale shopId p q "System" b with
  | ok r b' =>
      obtain ⟨product, row, db, -, hl, -⟩ := SalesService.recordSale_ok h
      exact hl.journal
  | error e b' => exact (SalesService.recordSale_error h).1.journal

/-- A product is created and stocked in a shop of `own`. -/
theorem createStocked_keeping {P : Database → Prop} (hs : Tenancy own P) {shopId : UUID}
    (ho : own shopId) (name : String) (price : ℚ) (quantity : ℤ) :
    Keeping (Backend.Holds (fun _ ↦ True) P)
      (AddProductFlow.createStocked dep shopId name price quantity) := by
  unfold AddProductFlow.createStocked
  split
  · rename_i hprice
    have hcreate : Contract (Backend.Holds (fun _ ↦ True) P)
        (ProductService.createProduct dep ⟨name, price, shopId, hprice⟩)
        (fun product b ↦ b.Holds (fun _ ↦ True) P ∧ ∃ db, P db ∧ db.Within own product.id)
        (Backend.Holds (fun _ ↦ True) P) := by
      have hkeep := hs.createProduct_keeping (T := fun _ ↦ True) dep ⟨name, price, shopId, hprice⟩ ho
      refine ⟨fun b product b' h hx ↦ ?_, hkeep.raises⟩
      have h' := hkeep.returns b product b' h hx
      obtain ⟨db, hl, hmem, hshop, -⟩ := ProductService.createProduct_ok hx
      refine ⟨h', db, hl.working ▸ h'.working, ?_⟩
      refine Confined.within_of_product (Database.product_of_mem hmem) ?_
      rw [hshop]
      exact ho
    apply Contract.bind hcreate
    intro product
    apply Contract.given
    rintro ⟨db₀, hP₀, hp⟩
    split
    · exact Keeping.bind (hs.addStock_keeping quantity true fun db hP ↦ hs.within hP₀ hP hp) fun _ ↦
        .pure _
    · exact Keeping.pure _
  · exact .throw _

/-- A task whose subject is the phone's is handed to the broker. -/
theorem own_enqueue {task : Task} {Q : Turn → Prop}
    (ht : ∀ t, Turn.Own own base phone known t → Q t →
      Event.Of phone t.backend.working (.enqueued task t.backend.committed)) :
    Contract (fun t ↦ Turn.Own own base phone known t ∧ Q t) (onDb (enqueue task))
      (fun _ ↦ Turn.Own own base phone known) (Turn.Own own base phone known) := by
  have hpost : ∀ t : Turn, Turn.Own own base phone known t → Q t → ∀ b : Backend,
      b.working = t.backend.working → b.committed = t.backend.committed →
      (b.journal = t.backend.journal ∨
        b.journal = t.backend.journal ++ [.enqueued task t.backend.committed]) →
      Turn.Own own base phone known { t with backend := b } := by
    intro t h hq b hw hc hj
    refine ⟨h.sender, ?_, hw ▸ h.working, hc ▸ h.committed, h.level.of_same hc hw, ?_, ?_⟩
    · intro id hid
      exact hw ▸ h.shop id hid
    · intro id hid
      exact hw ▸ h.knows id hid
    · intro e he
      have hold := fun e he ↦ (h.journal e he : e.Of phone t.backend.working)
      rw [hw]
      rcases hj with hj | hj
      · exact hold e (hj ▸ he)
      · rw [hj] at he
        rcases List.mem_append.mp he with he | he
        · exact hold e he
        · rw [List.mem_singleton.mp he]
          exact ht t h hq
  constructor
  · intro t a t' h hx
    obtain ⟨b, hb, rfl⟩ := zoom_eq_ok.mp hx
    rw [enqueue_apply] at hb
    dsimp only at hb
    split at hb <;> cases hb
    exact hpost t h.1 h.2 _ rfl rfl (.inr rfl)
  · intro t e t' h hx
    obtain ⟨b, hb, rfl⟩ := zoom_eq_error.mp hx
    rw [enqueue_apply] at hb
    dsimp only at hb
    split at hb <;> cases hb
    · exact hpost t h.1 h.2 _ rfl rfl (.inl rfl)
    · exact hpost t h.1 h.2 _ rfl rfl (.inr rfl)

theorem own_enter (newState : SessionState) (key : MessageKey) :
    Keeping (Turn.Own own base phone known) (FSMEngine.enter newState key) :=
  own_session fun _ _ ↦ .bind (.bind (own_untouched (ask_within _)) fun _ ↦ own_edit fun _ ↦ rfl)
    fun _ ↦ own_goto _ _ _ _

theorem own_find (shopId : UUID) (name : String) :
    Keeping (Turn.Own own base phone known)
      (onDb (ProductService.findProductsByFuzzyName dep shopId name)) := by
  apply own_untouched
  apply (select_within _).bind
  intro found
  cases found with
  | nil => exact .pure _
  | cons best others =>
      dsimp only
      split <;> exact .pure _

theorem own_getStock (p : UUID) :
    Keeping (Turn.Own own base phone known) (onDb (InventoryService.getStock p)) :=
  own_untouched (RecordSaleFlow.getStock_within p)

theorem own_remember (call : Option ToolCall) :
    Keeping (Turn.Own own base phone known) (AnalyticsFlow.remember call) := by
  cases call with
  | none => exact .pure _
  | some call => exact .bind (own_untouched (ask_within _)) fun _ ↦ own_edit fun _ ↦ rfl

theorem own_settle (outcome : AnalyticsOutcome) :
    Keeping (Turn.Own own base phone known) (AnalyticsFlow.settle outcome) := by
  cases outcome with
  | needsSelection candidates pending tool =>
      exact .bind (own_transition _) fun _ ↦ own_edit fun _ ↦ rfl
  | answered answer call => exact .bind (own_edit fun _ ↦ rfl) fun _ ↦ own_remember call
  | answeredEmpty answer call => exact .bind (own_edit fun _ ↦ rfl) fun _ ↦ own_remember call
  | _ => exact .pure _

theorem own_fresh (s : UserSession) : Keeping (Turn.Own own base phone known)
    (onDb (AnalyticsRoutingPolicy.hasFreshContext dep s)) := by
  apply own_untouched
  intro b
  obtain ⟨fresh, b', h, hu⟩ := hasFreshContext_returns dep s b
  rw [h]
  exact hu

/-- A question runs its tools on the sender's shop. -/
theorem own_handleQuery :
    Keeping (Turn.Own own base phone known) (AnalyticsFlow.handleQuery dep text) := by
  rw [AnalyticsFlow.handleQuery_eq]
  apply own_session
  rintro s rfl
  apply own_getShopId
  intro shopId known hk
  refine .bind (own_setShop hk) fun _ ↦ .bind (own_fresh s) fun _ ↦
    .bind (own_serves hk (run_serves dep text _)) fun outcome ↦ .bind (own_settle outcome) fun _ ↦
    own_result _ _ _

theorem own_handleProductSelection :
    Keeping (Turn.Own own base phone known) (AnalyticsFlow.handleProductSelection dep text) := by
  rw [AnalyticsFlow.handleProductSelection_eq]
  apply own_session
  rintro s rfl
  apply Keeping.bind (own_ofExcept _)
  intro selected
  split
  · exact own_end _ _ _
  · apply own_getShopId
    intro shopId known hk
    refine .bind (own_serves hk (execute_serves dep _ _)) fun result ↦ .bind (own_remember _) fun _ ↦
      .bind (own_edit fun _ ↦ rfl) fun _ ↦ own_goto _ _ _ _

/-- The shop the session knows, or the one that is found or made. -/
theorem own_shopOfSession {α : Type} {f : UUID → FlowM α}
    (hf : ∀ id known, known id → Keeping (Turn.Own own base phone known) (f id)) :
    Keeping (Turn.Own own base phone known) (AddProductFlow.shopOfSession >>= f) := by
  have hshop : Contract (Turn.Own own base phone known) AddProductFlow.shopOfSession
      (fun id ↦ Turn.Own own base phone fun i ↦ known i ∨ i = id)
      (Turn.Own own base phone known) := by
    constructor
    · intro t id t' h hx
      rw [AddProductFlow.shopOfSession, session_bind] at hx
      cases hid : t.session.context.shopId with
      | some shopId =>
          rw [hid] at hx
          cases hx
          refine ⟨h.sender, h.shop, h.working, h.committed, h.level, ?_, h.journal⟩
          rintro i (hi | rfl)
          · exact h.knows i hi
          · exact h.shop i hid
      | none =>
          rw [hid, h.sender] at hx
          obtain ⟨shopId, t₁, h₁, hx⟩ := bind_eq_ok.mp hx
          have hkeep : Keeping (Turn.Own own base phone known) (onDb (getShopId phone)) :=
            own_rows getShopId_keeping (Backend.Level.getShopId phone)
              (getShopId_sameJournal phone)
          have hown := hkeep.returns t shopId t₁ h h₁
          have howns := getShopId_owns (onDb_ok h₁).1
          cases hx
          refine ⟨hown.sender, ?_, hown.working, hown.committed, hown.level, ?_, hown.journal⟩
          · rintro i ⟨⟩
            exact howns
          · rintro i (hi | rfl)
            · exact hown.knows i hi
            · exact howns
    · intro t e t' h hx
      rw [AddProductFlow.shopOfSession, session_bind] at hx
      cases hid : t.session.context.shopId with
      | some shopId =>
          rw [hid] at hx
          cases hx
      | none =>
          rw [hid, h.sender] at hx
          have hrest : Keeping (Turn.Own own base phone known) (do
              let shopId ← onDb (getShopId phone)
              editContext fun c ↦ { c with shopId := some shopId }
              return shopId) :=
            own_getShopId fun id known hk ↦ .bind (own_setShop hk) fun _ ↦ .pure _
          exact hrest.raises t e t' h hx
  exact Contract.bind hshop fun id ↦ own_forget (fun _ ↦ .inl) (hf id _ (.inr rfl))

theorem own_handleDailyReport :
    Keeping (Turn.Own own base phone known) handleDailyReport := by
  apply own_session
  rintro s rfl
  apply own_shopOfSession
  intro shopId known hk
  have hpost : Contract (fun t ↦ Turn.Own own base s.phone known t ∧ True)
      (onDb (enqueue (.report shopId s.phone))) (fun _ ↦ Turn.Own own base s.phone known)
      (Turn.Own own base s.phone known) :=
    own_enqueue fun t h _ ↦ ⟨rfl, h.knows shopId hk⟩
  exact hpost.weaken (fun _ h ↦ ⟨h, trivial⟩) (fun _ _ h ↦ h) fun _ h ↦ h

theorem own_handleIdle :
    Keeping (Turn.Own own base phone known) (FSMEngine.handleIdle dep text) := by
  apply own_session
  intro s hs
  cases IntentResolver.resolve dep.unicode text with
  | UNKNOWN =>
      have hroute : Within Backend.Untouched (AnalyticsRoutingPolicy.canRoute dep s text) := by
        intro b
        obtain ⟨routed, b', h, hu⟩ := canRoute_returns dep s text b
        rw [h]
        exact hu
      apply Keeping.bind (own_untouched hroute)
      intro routed
      split
      · exact own_handleQuery
      · exact own_ofExcept _
  | RECORD_SALE => exact own_enter _ _
  | CHECK_STOCK => exact own_enter _ _
  | ADD_PRODUCT => exact own_enter _ _
  | GENERATE_REPORT =>
      refine .bind (.bind (own_untouched (ask_within _)) fun _ ↦ own_edit fun _ ↦ rfl) fun _ ↦
        .bind (own_transition _) fun _ ↦ .bind own_handleDailyReport fun _ ↦ own_goto _ _ _ _

theorem own_handleSaleProductName :
    Keeping (Turn.Own own base phone known) (RecordSaleFlow.handleSaleProductName dep text) := by
  apply own_session
  rintro s rfl
  apply own_getShopId
  intro shopId known hk
  refine .bind (own_setShop hk) fun _ ↦ .bind (own_find _ _) fun found ↦ ?_
  cases found with
  | notFound => exact own_result _ _ _
  | exactMatch m => exact .bind (own_edit fun _ ↦ rfl) fun _ ↦ own_goto _ _ _ _
  | ambiguous candidates => exact .bind (own_edit fun _ ↦ rfl) fun _ ↦ own_goto _ _ _ _

theorem own_handleSaleProductQty :
    Keeping (Turn.Own own base phone known) (RecordSaleFlow.handleSaleProductQty dep text) := by
  apply Keeping.bind (own_ofExcept _)
  intro quantity
  apply own_session
  intro s _
  split
  · split
    · exact own_corrupted
    · apply Keeping.bind (own_getStock _)
      intro row
      split
      · exact own_ofExcept _
      · exact .bind (own_edit fun _ ↦ rfl) fun _ ↦ own_goto _ _ _ _
  · exact own_corrupted

theorem own_handleStockName :
    Keeping (Turn.Own own base phone known) (StockLookupFlow.handleStockName dep text) := by
  apply Keeping.bind (own_ofExcept _)
  intro name
  apply own_session
  rintro s rfl
  apply own_getShopId
  intro shopId known hk
  refine .bind (own_setShop hk) fun _ ↦ .bind (own_find _ _) fun found ↦ ?_
  cases found with
  | notFound => exact .bind (own_edit fun _ ↦ rfl) fun _ ↦ own_result _ _ _
  | ambiguous candidates => exact .bind (own_edit fun _ ↦ rfl) fun _ ↦ own_goto _ _ _ _
  | exactMatch m => exact .bind (own_getStock _) fun _ ↦ own_end _ _ _

/-! ### Writing -/

theorem own_createStocked (hown : Tends own base phone) {shopId : UUID} (hk : known shopId)
    (name : String) (price : ℚ) (quantity : ℤ) :
    Keeping (Turn.Own own base phone known)
      (onDb (AddProductFlow.createStocked dep shopId name price quantity)) := by
  have hkeep : own shopId → Keeping (Turn.Own own base phone known)
      (onDb (AddProductFlow.createStocked dep shopId name price quantity)) := fun ho ↦
    own_rows (fun _ ↦ createStocked_keeping tenancy_known ho name price quantity)
      (Backend.Level.createStocked dep shopId name price quantity)
      (createStocked_sameJournal shopId name price quantity)
  have howned : ∀ t : Turn, Turn.Own own base phone known t → own shopId := fun t h ↦
    hown _ h.working shopId (h.knows shopId hk)
  exact ⟨fun t a t' h ↦ (hkeep (howned t h)).returns t a t' h,
    fun t e t' h ↦ (hkeep (howned t h)).raises t e t' h⟩

theorem own_handleConfirm (hown : Tends own base phone) :
    Keeping (Turn.Own own base phone known) (AddProductFlow.handleConfirm dep text) := by
  apply own_session
  intro s _
  apply Keeping.bind (own_ofExcept _)
  intro isConfirmed
  split
  · exact own_end _ _ _
  · split
    · rename_i name price quantity _ _ _
      refine Keeping.bind (own_shopOfSession fun shopId known hk ↦ ?_) fun _ ↦ own_end _ _ _
      exact own_createStocked hown hk name price quantity
    · exact own_ofExcept _

/-- A sale is of a product of the phone's shop, or it is refused. -/
theorem own_recordSale (hown : Tends own base phone) (p : UUID) (q : ℤ) :
    Contract (Turn.Own own base phone known) (RecordSaleFlow.recordSaleTransaction p q)
      (fun _ t ↦ Turn.Own own base phone known t ∧ t.backend.committed.Sells phone p)
      (Turn.Own own base phone known) := by
  have hsale : ∀ t : Turn, Turn.Own own base phone known t → ∀ shopId,
      t.session.context.shopId = some shopId →
      Keeping (Turn.Own own base phone known) (onDb (SalesService.recordSale shopId p q)) := by
    intro t h shopId hid
    have ho := hown _ h.working shopId (h.shop shopId hid)
    exact own_rows (fun _ ↦ tenancy_known.recordSale_keeping p q _ ho)
      (Backend.Level.recordSale shopId p q) (recordSale_sameJournal shopId p q)
  constructor
  · intro t r t' h hx
    rw [RecordSaleFlow.recordSaleTransaction, session_bind] at hx
    cases hid : t.session.context.shopId with
    | none =>
        rw [hid] at hx
        cases hx
    | some shopId =>
        rw [hid] at hx
        have h' := (hsale t h shopId hid).returns t r t' h hx
        obtain ⟨product, row, db, hw, hl, -, -⟩ := SalesService.recordSale_ok (onDb_ok hx).1
        refine ⟨h', product, ?_, (Database.mem_of_product hw.sellable.found).2, ?_⟩
        · rw [hl.committed, if_neg Bool.false_ne_true, ← h.level.products]
          exact (Database.mem_of_product hw.sellable.found).1
        · rw [hl.committed, if_neg Bool.false_ne_true, hw.sellable.owned]
          exact h.level.owns.mp (h.shop shopId hid)
  · intro t e t' h hx
    rw [RecordSaleFlow.recordSaleTransaction, session_bind] at hx
    cases hid : t.session.context.shopId with
    | none =>
        rw [hid] at hx
        exact own_corrupted.raises t e t' h hx
    | some shopId =>
        rw [hid] at hx
        exact (hsale t h shopId hid).raises t e t' h hx

theorem own_handleConfirmSaleProduct (hown : Tends own base phone) :
    Keeping (Turn.Own own base phone known) (RecordSaleFlow.handleConfirmSaleProduct dep text) := by
  apply own_session
  rintro s rfl
  apply Keeping.bind (own_ofExcept _)
  intro isConfirmed
  split
  · exact own_end _ _ _
  · split
    · rename_i p name unitsSold _ _ _
      split
      · exact own_corrupted
      · have hsold : Contract (Turn.Own own base s.phone known)
            (tryCatch (RecordSaleFlow.recordSaleTransaction p unitsSold)
              fun e ↦ throw (RecordSaleFlow.toInvalidInput e))
            (fun _ t ↦ Turn.Own own base s.phone known t ∧ t.backend.committed.Sells s.phone p)
            (Turn.Own own base s.phone known) :=
          .tryCatch (own_recordSale hown p unitsSold) fun e ↦ .throw fun _ h ↦ h
        have hleave : ∀ f : UserSession → Timestamp → UserSession,
            (∀ s now, (f s now).phone = s.phone) →
            (∀ s now, (f s now).context.shopId = s.context.shopId) →
            Contract (fun t ↦ Turn.Own own base s.phone known t ∧ t.backend.committed.Sells s.phone p)
              (onDb DbM.now >>= fun now ↦ setSession (f · now))
              (fun _ t ↦ Turn.Own own base s.phone known t ∧ t.backend.committed.Sells s.phone p)
              (Turn.Own own base s.phone known) := by
          intro f hp hs
          have hkeep : Keeping (Turn.Own own base s.phone known)
              (onDb DbM.now >>= fun now ↦ setSession (f · now)) :=
            .bind (own_untouched (ask_within _)) fun now ↦
              own_count _ (fun _ ↦ hp _ _) fun _ ↦ hs _ _
          refine ⟨fun t a t' h hx ↦ ⟨hkeep.returns t a t' h.1 hx, ?_⟩,
            fun t e t' h hx ↦ hkeep.raises t e t' h.1 hx⟩
          cases hx
          exact h.2
        apply Contract.bind hsold
        intro sale
        apply Contract.bind (hleave (fun s now ↦ s.moved .IDLE now) (fun _ _ ↦ rfl) fun _ _ ↦ rfl)
        intro _
        apply Contract.bind (hleave (fun s now ↦ s.cleared now) (fun _ _ ↦ rfl) fun _ _ ↦ rfl)
        intro _
        refine Contract.bind (Q := fun _ ↦ Turn.Own own base s.phone known) ?_ fun _ ↦
          own_result _ _ _
        split
        · exact own_enqueue fun t _ hsells ↦ ⟨rfl, p, rfl, hsells⟩
        · exact .pure fun _ h ↦ h.1
    · exact own_corrupted

theorem own_handler (hown : Tends own base phone) (state : SessionState) :
    Keeping (Turn.Own own base phone known) (FSMEngine.handler dep state text) := by
  cases state with
  | IDLE =>
      rw [FSMEngine.handler_idle dep (.inl rfl)]
      exact own_handleIdle
  | START_ADD_PRODUCT =>
      rw [FSMEngine.handler_idle dep (.inr (.inl rfl))]
      exact own_handleIdle
  | REPORT_PENDING =>
      rw [FSMEngine.handler_idle dep (.inr (.inr rfl))]
      exact own_handleIdle
  | ADD_PRODUCT_NAME =>
      exact own_session fun _ _ ↦ .bind (own_ofExcept _) fun _ ↦ .bind (own_edit fun _ ↦ rfl) fun _ ↦
        own_goto _ _ _ _
  | ADD_PRODUCT_PRICE =>
      exact own_session fun _ _ ↦ .bind (own_ofExcept _) fun _ ↦ .bind (own_edit fun _ ↦ rfl) fun _ ↦
        own_goto _ _ _ _
  | ADD_PRODUCT_QTY =>
      apply own_session
      intro s _
      split
      · exact .bind (own_ofExcept _) fun _ ↦ .bind (own_edit fun _ ↦ rfl) fun _ ↦ own_goto _ _ _ _
      · exact own_ofExcept _
  | CONFIRM_ADD_PRODUCT => exact own_handleConfirm hown
  | RECORD_SALE_PRODUCT => exact own_handleSaleProductName
  | RECORD_SALE_PRODUCT_SELECTION =>
      exact own_session fun _ _ ↦ .bind (own_ofExcept _) fun _ ↦ .bind (own_edit fun _ ↦ rfl) fun _ ↦
        .bind (own_transition _) fun _ ↦ .bind (own_edit fun _ ↦ rfl) fun _ ↦ own_result _ _ _
  | RECORD_SALE_QTY => exact own_handleSaleProductQty
  | CONFIRM_SALE => exact own_handleConfirmSaleProduct hown
  | CHECK_STOCK_PRODUCT => exact own_handleStockName
  | CHECK_STOCK_PRODUCT_SELECTION =>
      exact own_session fun _ _ ↦ .bind (own_ofExcept _) fun _ ↦ .bind (own_edit fun _ ↦ rfl) fun _ ↦
        .bind (own_getStock _) fun _ ↦ own_end _ _ _
  | ANALYTICS_PRODUCT_SELECTION => exact own_handleProductSelection

/-- However a message ends, it worked on the shop of its sender. -/
theorem own_processMessage (hown : Tends own base phone) :
    Keeping (Turn.Own own base phone known) (FSMEngine.processMessage dep text) := by
  apply own_session
  intro s _
  split
  · exact own_end _ _ _
  · refine .tryCatch ?_ fun e ↦ ?_
    · exact .bind (own_handler hown _) fun _ ↦ .bind (own_count _ (fun _ ↦ rfl) fun _ ↦ rfl) fun _ ↦
        .pure _
    · cases e with
      | invalidInput message key params =>
          refine .bind (own_count _ (fun _ ↦ rfl) fun _ ↦ rfl) fun _ ↦ own_session fun s _ ↦ ?_
          split
          · exact own_end _ _ _
          · exact own_result _ _ _
      | _ => exact .throw _

end Handlers

/-! ## One message -/

/-- The stored session, if there is one, is the phone's, and so is its shop. -/
def UserSession.Kept (phone : String) (rows : Database) (stored : Option UserSession) : Prop :=
  ∀ s, stored = some s →
    s.phone = phone ∧ ∀ id, s.context.shopId = some id → rows.Owns phone id

theorem UserSession.Kept.mono {phone : String} {rows rows' : Database} {stored : Option UserSession}
    (h : UserSession.Kept phone rows stored)
    (ho : ∀ id, rows.Owns phone id → rows'.Owns phone id) :
    UserSession.Kept phone rows' stored := by
  intro s hs
  obtain ⟨hphone, hshop⟩ := h s hs
  exact ⟨hphone, fun id hid ↦ ho id (hshop id hid)⟩

/-- A worker handles a message, alone on the key of the phone. -/
def hearing (dep : Deployment) (phone text : String) (env : Env) (stored : Option UserSession)
    (rows : Database) : Desk :=
  final (conversation dep phone text ⟨stored, .connect env rows⟩)

section Message

variable {own : UUID → Prop} {dep : Deployment} {phone text : String} {env : Env}
  {stored : Option UserSession} {rows : Database}

theorem own_current (h : UserSession.Kept phone rows stored) :
    Turn.Own own rows phone (fun _ ↦ False)
      ⟨ConversationStore.current phone stored, .connect env rows⟩ := by
  have hcurrent : (ConversationStore.current phone stored).phone = phone ∧
      ∀ id, (ConversationStore.current phone stored).context.shopId = some id →
        rows.Owns phone id := by
    cases hs : stored with
    | none => exact ⟨rfl, fun id hid ↦ by cases hid⟩
    | some s => exact h s hs
  refine ⟨hcurrent.1, hcurrent.2, .refl rows, .refl rows, ⟨rfl, rfl⟩, ?_, ?_⟩
  · intro id hid
    exact hid.elim
  · intro e he
    cases he

/-- What a message leaves: rows of its sender's shop are written, all it set off
is the sender's, and so is the session that is stored. -/
theorem hearing_own (hown : Tends own rows phone) (h : UserSession.Kept phone rows stored) :
    Confined own rows (hearing dep phone text env stored rows).backend.committed ∧
      (∀ e ∈ (hearing dep phone text env stored rows).backend.journal,
        e.Of phone (hearing dep phone text env stored rows).backend.committed) ∧
      UserSession.Kept phone (hearing dep phone text env stored rows).backend.committed
        (hearing dep phone text env stored rows).stored := by
  have hkeep : Keeping (Turn.Own own rows phone fun _ ↦ False) (FSMEngine.processMessage dep text) :=
    own_processMessage hown
  have hstart : Turn.Own own rows phone (fun _ ↦ False)
      ⟨ConversationStore.current phone stored, .connect env rows⟩ := own_current h
  unfold hearing
  cases hc : conversation dep phone text ⟨stored, .connect env rows⟩ with
  | ok processed d =>
      obtain ⟨hh, hd⟩ := conversation_ok hc
      obtain ⟨t, ht, hsession, hcommitted, -, hjournal⟩ := handleMessage_ok hh
      have hturn := hkeep.returns _ _ _ hstart ht
      change Confined own rows d.backend.committed ∧ (∀ e ∈ d.backend.journal,
        e.Of phone d.backend.committed) ∧ UserSession.Kept phone d.backend.committed d.stored
      rw [hcommitted, hjournal, hd, hsession]
      refine ⟨hturn.working, hturn.journal, ?_⟩
      rintro s ⟨⟩
      exact ⟨hturn.sender, hturn.shop⟩
  | error e d =>
      obtain ⟨hh, hd⟩ := conversation_error hc
      obtain ⟨t, ht, hcommitted, hjournal⟩ := handleMessage_error hh
      have hturn : Turn.Own own rows phone (fun _ ↦ False) t := by
        rcases ht with ht | ⟨r, ht⟩
        · exact hkeep.raises _ _ _ hstart ht
        · exact hkeep.returns _ _ _ hstart ht
      change Confined own rows d.backend.committed ∧ (∀ e ∈ d.backend.journal,
        e.Of phone d.backend.committed) ∧ UserSession.Kept phone d.backend.committed d.stored
      rw [hcommitted, hjournal, hd]
      refine ⟨hturn.committed, ?_, h.mono (hturn.committed.owners phone)⟩
      intro e he
      exact (hturn.journal e he).mono fun id ho ↦ hturn.level.owns.mp ho

/-- A shop of another phone is none of the sender's. -/
theorem tends_other {shop : Shop} (hmem : shop ∈ rows.shops) (hne : shop.phone ≠ phone) :
    Tends (· ≠ shop.id) rows phone := by
  rintro db hc id ho rfl
  have hshop : db.Owns shop.phone shop.id := hc.owners _ _ ⟨shop, hmem, rfl, rfl⟩
  exact hne (Database.Owns.unique ho hshop)

theorem tends_all (rows : Database) (phone : String) : Tends (fun _ ↦ True) rows phone :=
  fun _ _ _ _ ↦ trivial

/-- A message takes no shop away, and gives none to another phone. -/
theorem hearing_owners (h : UserSession.Kept phone rows stored) (owner : String) (id : UUID)
    (ho : rows.Owns owner id) :
    (hearing dep phone text env stored rows).backend.committed.Owns owner id :=
  (hearing_own (tends_all rows phone) h).1.owners owner id ho

end Message

/-! ## The town -/

/-- The sessions that are stored, by phone, and the committed rows. -/
structure Town where
  stored : String → Option UserSession
  rows : Database

/-- A message of a phone, the end of a session's lifetime, or calls of the services. -/
inductive Arrival
  | message (phone text : String) (env : Env)
  | expiry (phone : String)
  | request (session : ServiceSession)

namespace Town

def next (dep : Deployment) (s : Town) : Arrival → Town
  | .message phone text env =>
      let desk := hearing dep phone text env (s.stored phone) s.rows
      ⟨Function.update s.stored phone desk.stored, desk.backend.committed⟩
  | .expiry phone => { s with stored := Function.update s.stored phone none }
  | .request session => { s with rows := session.serve dep s.rows }

abbrev Step (dep : Deployment) : Town → Arrival → Town → Prop :=
  Steps (fun s x ↦ some (s.next dep x)) fun _ _ ↦ True

/-- Nobody has said anything yet. -/
def New (s : Town) : Prop := ∀ phone, s.stored phone = none

/-- Every stored session is kept for its phone. -/
def Sound (s : Town) : Prop := ∀ phone, UserSession.Kept phone s.rows (s.stored phone)

theorem sound_new {s : Town} (h : s.New) : s.Sound := by
  intro phone session hs
  rw [h phone] at hs
  cases hs

/-- A session is stored that is kept for its phone; nobody loses a shop. -/
theorem sound_store {s : Town} (h : s.Sound) {rows : Database} {phone : String}
    {stored : Option UserSession} (ho : ∀ owner id, s.rows.Owns owner id → rows.Owns owner id)
    (hk : UserSession.Kept phone rows stored) :
    Sound ⟨Function.update s.stored phone stored, rows⟩ := by
  intro other
  change UserSession.Kept other rows (Function.update s.stored phone stored other)
  by_cases hp : other = phone
  · subst hp
    rw [Function.update_self]
    exact hk
  · rw [Function.update_of_ne hp]
    exact (h other).mono (ho other)

theorem sound_next (dep : Deployment) {s : Town} (h : s.Sound) (x : Arrival) :
    (s.next dep x).Sound := by
  cases x with
  | message phone text env =>
      apply sound_store h (hearing_owners (h phone))
      exact (hearing_own (tends_all s.rows phone) (h phone)).2.2
  | expiry phone =>
      apply sound_store h fun _ _ ho ↦ ho
      intro session hs
      cases hs
  | request session =>
      intro phone
      exact (h phone).mono fun id hid ↦ owns_of_serve dep session hid

theorem sound_run {dep : Deployment} {init : Town → Prop} {history : List (Moment Town Arrival)}
    {s : Town} (h₀ : ∀ s, init s → s.Sound) (run : Run init (Step dep) history s) : s.Sound := by
  induction run with
  | start h => exact h₀ _ h
  | next _ h ih =>
      obtain ⟨hnext, -⟩ := h
      cases hnext
      exact sound_next dep ih _

/-- Nobody loses a shop. -/
theorem owners_next (dep : Deployment) {s : Town} (h : s.Sound) (x : Arrival) {phone : String}
    {id : UUID} (ho : s.rows.Owns phone id) : (s.next dep x).rows.Owns phone id := by
  cases x with
  | message other text env => exact hearing_owners (h other) phone id ho
  | expiry other => exact ho
  | request session => exact owns_of_serve dep session ho

theorem owners_run {dep : Deployment} {start s : Town} (hstart : start.Sound)
    {history : List (Moment Town Arrival)} (run : Run (· = start) (Step dep) history s)
    {phone : String} {id : UUID} (ho : start.rows.Owns phone id) : s.rows.Owns phone id := by
  induction run with
  | start h => exact h ▸ ho
  | next run hstep ih =>
      obtain ⟨hnext, -⟩ := hstep
      cases hnext
      exact owners_next dep (sound_run (fun s (hs : s = start) ↦ hs ▸ hstart) run) _ ih

/-- Who has a shop after a step has it at the end. -/
theorem owners_after {dep : Deployment} {init : Town → Prop} (h₀ : ∀ s, init s → s.Sound)
    {history : List (Moment Town Arrival)} {s : Town} (run : Run init (Step dep) history s)
    {m : Moment Town Arrival} (hm : m ∈ history) {phone : String} {id : UUID}
    (ho : m.after.rows.Owns phone id) : s.rows.Owns phone id := by
  induction run with
  | start h => cases hm
  | next run hstep ih =>
      obtain ⟨hnext, -⟩ := hstep
      cases hnext
      rcases List.mem_append.mp hm with hm | hm
      · exact owners_next dep (sound_run h₀ run) _ (ih hm)
      · rw [List.mem_singleton.mp hm] at ho
        exact ho

/-- A town that messages, requests and expiries lead to from one in which nobody
has said anything. -/
def Reached (dep : Deployment) (s : Town) : Prop :=
  ∃ history, Run New (Step dep) history s

end Town

/-! ## Whose shop changes -/

/-- The call is for this shop, or for a product of it. -/
def ServiceCall.Names (rows : Database) (shop : Shop) : ServiceCall → Prop
  | createShop _ => False
  | updateLocale phone _ => phone = shop.phone
  | createProduct data => data.shopId = shop.id
  | recordSale shopId _ _ _ => shopId = shop.id
  | updateProduct p _ | deleteProduct p | addStock p _ _ | deductStock p _ _
  | updateThreshold p _ _ => ∃ product ∈ rows.products, product.id = p ∧ product.shopId = shop.id

/-- A call that does not name a shop is for the others. -/
theorem ServiceCall.for_of_not_names {rows : Database} {shop : Shop} (hmem : shop ∈ rows.shops)
    {call : ServiceCall} (h : ¬ call.Names rows shop) :
    call.For (· ≠ shop.id) (Confined (· ≠ shop.id) rows) := by
  have hproduct : ∀ p, (¬ ∃ product ∈ rows.products, product.id = p ∧ product.shopId = shop.id) →
      ∀ db, Confined (· ≠ shop.id) rows db → db.Within (· ≠ shop.id) p := by
    intro p hnone db hc
    apply hc.within.mp
    intro product hproduct hid hshop
    exact hnone ⟨product, hproduct, hid, hshop⟩
  cases call with
  | createShop data => trivial
  | updateLocale phone locale =>
      intro db hc shop' hmem' hphone hid
      have hshop : db.Owns shop.phone shop.id := hc.owners _ _ ⟨shop, hmem, rfl, rfl⟩
      exact h (hshop.unique ⟨shop', hmem', hid, hphone⟩)
  | createProduct data => exact h
  | recordSale shopId p q recordedBy => exact h
  | updateProduct p data => exact hproduct p h
  | deleteProduct p => exact hproduct p h
  | addStock p q commit => exact hproduct p h
  | deductStock p q commit => exact hproduct p h
  | updateThreshold p n commit => exact hproduct p h

/-- The step was made by the phone of the shop, or by a request that names it. -/
def Town.Concerns (shop : Shop) (m : Moment Town Arrival) : Prop :=
  match m.label with
  | .message phone _ _ => phone = shop.phone
  | .expiry _ => False
  | .request session => ∃ entry ∈ session.calls, entry.1.Names m.before.rows shop

/-- A step that does not concern a shop leaves its row and its rows. -/
theorem Town.confined_next (dep : Deployment) {s : Town} (hs : s.Sound) {x : Arrival} {shop : Shop}
    (hmem : shop ∈ s.rows.shops) (h : ¬ Town.Concerns shop ⟨s, x, s.next dep x⟩) :
    Confined (· ≠ shop.id) s.rows (s.next dep x).rows := by
  cases x with
  | message phone text env =>
      have hne : shop.phone ≠ phone := fun he ↦ h he.symm
      exact (hearing_own (tends_other hmem hne) (hs phone)).1
  | expiry phone => exact .refl s.rows
  | request session =>
      apply (tenancy_confined (· ≠ shop.id) s.rows).serve dep (.refl s.rows)
      intro entry hentry
      apply ServiceCall.for_of_not_names hmem
      intro hnames
      exact h ⟨entry, hentry, hnames⟩

theorem Town.confined_run {dep : Deployment} {start s : Town} (hstart : start.Sound)
    {history : List (Moment Town Arrival)} (run : Run (· = start) (Town.Step dep) history s)
    {shop : Shop} (hmem : shop ∈ start.rows.shops) (h : ∀ m ∈ history, ¬ Town.Concerns shop m) :
    Confined (· ≠ shop.id) start.rows s.rows := by
  induction run with
  | start h₀ =>
      rw [h₀]
      exact .refl start.rows
  | next run hstep ih =>
      obtain ⟨hold, hlast⟩ := List.forall_mem_append.mp h
      have hmid := ih hold
      obtain ⟨hnext, -⟩ := hstep
      cases hnext
      have hs := Town.sound_run (fun s (hs : s = start) ↦ hs ▸ hstart) run
      have hkept := hmid.shops shop hmem fun hn ↦ hn rfl
      exact hmid.trans (Town.confined_next dep hs hkept (hlast _ List.mem_cons_self))

/-- The rows of a shop only ever change by messages of its phone and by requests
that name it: in every other stretch of a run they stay as they are. -/
theorem shop_changes_by_its_own {dep : Deployment} {start s : Town} (hstart : start.Reached dep)
    {history : List (Moment Town Arrival)} (run : Run (· = start) (Town.Step dep) history s)
    {shop : Shop} (hmem : shop ∈ start.rows.shops) (h : ∀ m ∈ history, ¬ Town.Concerns shop m) :
    shop ∈ s.rows.shops ∧ SameShop shop.id start.rows s.rows := by
  obtain ⟨before, hbefore⟩ := hstart
  have hsound : start.Sound := Town.sound_run (fun _ ↦ Town.sound_new) hbefore
  have hconfined := Town.confined_run hsound run hmem h
  exact ⟨hconfined.shops shop hmem fun hn ↦ hn rfl, hconfined.rows shop.id fun hn ↦ hn rfl⟩

/-- Nobody has said anything in a town with one shop. -/
def quietTown : Town := ⟨fun _ ↦ none, .sample⟩

/-- Another phone asks for its report, and gets a shop. -/
def newcomer : Arrival := .message "254700000002" "generate report" .calm

theorem quietTown_new : quietTown.New := fun _ ↦ rfl

theorem shop_changes_by_its_own_newcomer :
    (quietTown.next .sample newcomer).rows.shops.map Shop.phone =
        ["254700000001", "254700000002"] ∧
      SameShop ⟨1⟩ Database.sample (quietTown.next .sample newcomer).rows := by
  have hstep : Town.Step .sample quietTown newcomer (quietTown.next .sample newcomer) :=
    ⟨rfl, trivial⟩
  have hmem : (⟨⟨1⟩, "254700000001", some "Dairy", .en⟩ : Shop) ∈ quietTown.rows.shops :=
    List.mem_cons_self
  have hsame := shop_changes_by_its_own ⟨[], .start quietTown_new⟩ (.next (.start rfl) hstep) hmem
    (by
      intro m hm hconcerns
      rw [List.mem_singleton.mp hm] at hconcerns
      have hphone : "254700000002" = "254700000001" := hconcerns
      exact absurd hphone (by decide))
  exact ⟨by decide +kernel, hsame.2⟩

/-- Every message of every run stays in the shop of its sender: the shops of the
other phones keep their rows, and the tools, the report and the alerts it sets
off are for the sender and the sender's shop. -/
theorem messages_stay_in_their_shop {dep : Deployment} {s : Town}
    {history : List (Moment Town Arrival)} (run : Run Town.New (Town.Step dep) history s) :
    ∀ m ∈ history, ∀ phone text env, m.label = .message phone text env →
      (∀ shop ∈ m.before.rows.shops, shop.phone ≠ phone →
        shop ∈ m.after.rows.shops ∧ SameShop shop.id m.before.rows m.after.rows) ∧
      (∀ e ∈ (hearing dep phone text env (m.before.stored phone) m.before.rows).backend.journal,
        e.Of phone m.after.rows) ∧
      ∀ other ≠ phone, m.after.stored other = m.before.stored other := by
  intro m hm phone text env hlabel
  obtain ⟨pre, hpre⟩ := At.of_mem hm
  obtain ⟨hrun, hnext, -⟩ := run.at_step hpre
  have hs : m.before.Sound := Town.sound_run (fun _ ↦ Town.sound_new) hrun
  rw [hlabel, Option.some.injEq] at hnext
  rw [← hnext]
  refine ⟨fun shop hmem hne ↦ ?_, ?_, fun other ho ↦ ?_⟩
  · have hc := Town.confined_next dep (x := .message phone text env) hs hmem fun he ↦ hne he.symm
    exact ⟨hc.shops shop hmem fun hn ↦ hn rfl, hc.rows shop.id fun hn ↦ hn rfl⟩
  · exact (hearing_own (tends_all m.before.rows phone) (hs phone)).2.1
  · exact Function.update_of_ne ho _ _

theorem messages_stay_in_their_shop_newcomer :
    let desk := hearing .sample "254700000002" "generate report" .calm none .sample
    desk.backend.journal.length = 1 ∧
      ∀ e ∈ desk.backend.journal, e.Of "254700000002" (quietTown.next .sample newcomer).rows := by
  have hstep : Town.Step .sample quietTown newcomer (quietTown.next .sample newcomer) :=
    ⟨rfl, trivial⟩
  have hall := messages_stay_in_their_shop (.next (.start quietTown_new) hstep) _
    List.mem_cons_self "254700000002" "generate report" .calm rfl
  exact ⟨by decide +kernel, hall.2.1⟩

end SokoFlow
