import SokoFlow.Foundation.Runs
import SokoFlow.Worker

/-!
# What was confirmed is what is recorded

A run of messages of one phone, each saved before the next comes, on rows that
may be any others every time.  What a confirmed sale records goes back to the
last prompt, to the last product that was selected before it, and to the rows
of the message that named the product.
-/

namespace SokoFlow

open Effect FlowM Dialogue Runs ConversationStore

/-! ## The phone of a session -/

def Turn.SamePhone (t t' : Turn) : Prop := t'.session.phone = t.session.phone

instance : IsPreorder Turn Turn.SamePhone where
  refl _ := rfl
  trans _ _ _ h h' := Eq.trans h' h

section Phone

variable {α : Type} {dep : Deployment} {text : String}

theorem phone_onDb (x : DbM α) : Within Turn.SamePhone (onDb x) := by
  intro t
  change Turn.SamePhone t (final (zoom _ _ x t))
  unfold zoom
  cases x t.backend <;> rfl

theorem phone_ofExcept (x : Except Exc α) :
    Within Turn.SamePhone (MonadExcept.ofExcept x : FlowM α) := by
  cases x with
  | ok a => exact .pure _
  | error e => exact .throw _

theorem phone_session : Within Turn.SamePhone session := .reads _

theorem phone_edit (f : SessionContext → SessionContext) :
    Within Turn.SamePhone (editContext f) := .modify fun _ ↦ rfl

theorem phone_goto (newState previousState : SessionState) (key : MessageKey) (params : Params) :
    Within Turn.SamePhone (do
      transition newState
      buildResult previousState key params) := fun _ ↦ rfl

theorem phone_end (previousState : SessionState) (key : MessageKey) (params : Params) :
    Within Turn.SamePhone (do
      transition .IDLE
      clearContextPreservingHistory
      buildResult previousState key params) := fun _ ↦ rfl

theorem phone_result (previousState : SessionState) (key : MessageKey) (params : Params) :
    Within Turn.SamePhone (buildResult previousState key params) := fun _ ↦ rfl

theorem phone_corrupted : Within Turn.SamePhone (corrupted : FlowM α) := fun _ ↦ rfl

theorem phone_transition (newState : SessionState) :
    Within Turn.SamePhone (transition newState) := fun _ ↦ rfl

theorem phone_shopOfSession : Within Turn.SamePhone AddProductFlow.shopOfSession := by
  apply phone_session.bind
  intro s
  cases s.context.shopId with
  | some id => exact .pure _
  | none => exact (phone_onDb _).bind fun _ ↦ (phone_edit _).bind fun _ ↦ .pure _

theorem phone_remember (call : Option Analytics.ToolCall) :
    Within Turn.SamePhone (AnalyticsFlow.remember call) := by
  cases call with
  | none => exact .pure _
  | some call => exact (phone_onDb _).bind fun _ ↦ phone_edit _

theorem phone_handleConfirm : Within Turn.SamePhone (AddProductFlow.handleConfirm dep text) := by
  refine phone_session.bind fun s ↦ (phone_ofExcept _).bind fun isConfirmed ↦ ?_
  split
  · exact phone_end _ _ _
  · split
    · refine Within.bind ?_ fun _ ↦ phone_end _ _ _
      exact phone_shopOfSession.bind fun _ ↦ phone_onDb _
    · exact phone_ofExcept _

theorem phone_handleSaleProductName :
    Within Turn.SamePhone (RecordSaleFlow.handleSaleProductName dep text) := by
  refine phone_session.bind fun s ↦ (phone_onDb _).bind fun _ ↦ (phone_edit _).bind fun _ ↦
    (phone_onDb _).bind fun found ↦ ?_
  cases found with
  | notFound => exact phone_result _ _ _
  | exactMatch m => exact (phone_edit _).bind fun _ ↦ phone_goto _ _ _ _
  | ambiguous candidates => exact (phone_edit _).bind fun _ ↦ phone_goto _ _ _ _

theorem phone_handleSaleProductQty :
    Within Turn.SamePhone (RecordSaleFlow.handleSaleProductQty dep text) := by
  refine (phone_ofExcept _).bind fun q ↦ phone_session.bind fun s ↦ ?_
  split
  · split
    · exact phone_corrupted
    · apply (phone_onDb _).bind
      intro row
      split
      · exact phone_ofExcept _
      · exact (phone_edit _).bind fun _ ↦ phone_goto _ _ _ _
  · exact phone_corrupted

theorem phone_handleConfirmSaleProduct :
    Within Turn.SamePhone (RecordSaleFlow.handleConfirmSaleProduct dep text) := by
  refine phone_session.bind fun s ↦ (phone_ofExcept _).bind fun isConfirmed ↦ ?_
  split
  · exact phone_end _ _ _
  · split
    · split
      · exact phone_corrupted
      · refine Within.bind (Within.tryCatch ?_ fun e ↦ .throw _) fun sale ↦ ?_
        · apply phone_session.bind
          intro s
          cases s.context.shopId with
          | none => exact phone_corrupted
          | some shopId => exact phone_onDb _
        · refine (phone_transition _).bind fun _ ↦ Within.bind (fun _ ↦ rfl) fun _ ↦
            Within.bind ?_ fun _ ↦ phone_result _ _ _
          split
          · exact phone_onDb _
          · exact .pure _
    · exact phone_corrupted

theorem phone_handleStockName :
    Within Turn.SamePhone (StockLookupFlow.handleStockName dep text) := by
  refine (phone_ofExcept _).bind fun name ↦ phone_session.bind fun s ↦ (phone_onDb _).bind fun _ ↦
    (phone_edit _).bind fun _ ↦ (phone_onDb _).bind fun found ↦ ?_
  cases found with
  | notFound => exact (phone_edit _).bind fun _ ↦ phone_result _ _ _
  | ambiguous candidates => exact (phone_edit _).bind fun _ ↦ phone_goto _ _ _ _
  | exactMatch m => exact (phone_onDb _).bind fun _ ↦ phone_end _ _ _

theorem phone_handleQuery : Within Turn.SamePhone (AnalyticsFlow.handleQuery dep text) := by
  rw [AnalyticsFlow.handleQuery_eq]
  refine phone_session.bind fun s ↦ (phone_onDb _).bind fun _ ↦ (phone_edit _).bind fun _ ↦
    (phone_onDb _).bind fun _ ↦ (phone_onDb _).bind fun outcome ↦ Within.bind ?_ fun _ ↦
    phone_result _ _ _
  cases outcome with
  | needsSelection candidates pending tool => exact (phone_transition _).bind fun _ ↦ phone_edit _
  | answered answer call => exact (phone_edit _).bind fun _ ↦ phone_remember call
  | answeredEmpty answer call => exact (phone_edit _).bind fun _ ↦ phone_remember call
  | _ => exact .pure _

theorem phone_handleProductSelection :
    Within Turn.SamePhone (AnalyticsFlow.handleProductSelection dep text) := by
  rw [AnalyticsFlow.handleProductSelection_eq]
  refine phone_session.bind fun s ↦ (phone_ofExcept _).bind fun m ↦ ?_
  split
  · exact phone_end _ _ _
  · exact (phone_onDb _).bind fun _ ↦ (phone_onDb _).bind fun result ↦
      (phone_remember _).bind fun _ ↦ (phone_edit _).bind fun _ ↦ phone_goto _ _ _ _

theorem phone_handleIdle : Within Turn.SamePhone (FSMEngine.handleIdle dep text) := by
  have hstart : Within Turn.SamePhone FSMEngine.startFlow :=
    (phone_onDb _).bind fun _ ↦ phone_edit _
  apply phone_session.bind
  intro s
  cases IntentResolver.resolve dep.unicode text with
  | UNKNOWN =>
      apply (phone_onDb _).bind
      intro routed
      split
      · exact phone_handleQuery
      · exact phone_ofExcept _
  | GENERATE_REPORT =>
      refine hstart.bind fun _ ↦ (phone_transition _).bind fun _ ↦ Within.bind ?_ fun _ ↦
        phone_goto _ _ _ _
      exact phone_session.bind fun _ ↦ phone_shopOfSession.bind fun _ ↦ phone_onDb _
  | _ => exact phone_session.bind fun _ ↦ hstart.bind fun _ ↦ phone_goto _ _ _ _

theorem phone_handler (state : SessionState) :
    Within Turn.SamePhone (FSMEngine.handler dep state text) := by
  cases state with
  | IDLE =>
      rw [FSMEngine.handler_idle dep (.inl rfl)]
      exact phone_handleIdle
  | START_ADD_PRODUCT =>
      rw [FSMEngine.handler_idle dep (.inr (.inl rfl))]
      exact phone_handleIdle
  | REPORT_PENDING =>
      rw [FSMEngine.handler_idle dep (.inr (.inr rfl))]
      exact phone_handleIdle
  | ADD_PRODUCT_NAME =>
      exact phone_session.bind fun _ ↦ (phone_ofExcept _).bind fun _ ↦ (phone_edit _).bind fun _ ↦
        phone_goto _ _ _ _
  | ADD_PRODUCT_PRICE =>
      exact phone_session.bind fun _ ↦ (phone_ofExcept _).bind fun _ ↦ (phone_edit _).bind fun _ ↦
        phone_goto _ _ _ _
  | ADD_PRODUCT_QTY =>
      apply phone_session.bind
      intro s
      split
      · exact (phone_ofExcept _).bind fun _ ↦ (phone_edit _).bind fun _ ↦ phone_goto _ _ _ _
      · exact phone_ofExcept _
  | CONFIRM_ADD_PRODUCT => exact phone_handleConfirm
  | RECORD_SALE_PRODUCT => exact phone_handleSaleProductName
  | RECORD_SALE_PRODUCT_SELECTION =>
      exact phone_session.bind fun _ ↦ (phone_ofExcept _).bind fun _ ↦ (phone_edit _).bind fun _ ↦
        (phone_transition _).bind fun _ ↦ (phone_edit _).bind fun _ ↦ phone_result _ _ _
  | RECORD_SALE_QTY => exact phone_handleSaleProductQty
  | CONFIRM_SALE => exact phone_handleConfirmSaleProduct
  | CHECK_STOCK_PRODUCT => exact phone_handleStockName
  | CHECK_STOCK_PRODUCT_SELECTION =>
      exact phone_session.bind fun _ ↦ (phone_ofExcept _).bind fun _ ↦ (phone_edit _).bind fun _ ↦
        (phone_onDb _).bind fun _ ↦ phone_end _ _ _
  | ANALYTICS_PRODUCT_SELECTION => exact phone_handleProductSelection

/-- A message never changes whose session it is. -/
theorem phone_processMessage : Within Turn.SamePhone (FSMEngine.processMessage dep text) := by
  apply phone_session.bind
  intro s
  split
  · exact phone_end _ _ _
  · refine Within.tryCatch ?_ fun e ↦ ?_
    · exact (phone_handler _).bind fun _ ↦ Within.bind (.modify fun _ ↦ rfl) fun _ ↦ .pure _
    · cases e with
      | invalidInput message key params =>
          refine Within.bind (.modify fun _ ↦ rfl) fun _ ↦ phone_session.bind fun s ↦ ?_
          split
          · exact phone_end _ _ _
          · exact phone_result _ _ _
      | _ => exact .throw _

end Phone

/-! ## One message -/

variable {dep : Deployment} {text : String} {t t' : Turn} {r : FSMResult}

/-- The replies that take the user from a product to the prompt. -/
def MessageKey.guides : MessageKey → Bool
  | PRODUCT_CHOICES | ASK_SALE_QUANTITY | ASK_QUANTITY | CONFIRM_SALE => true
  | _ => false

/-- A product is selected. -/
def Dialogue.Phase.inSale : Phase → Bool
  | .saleChoice .. | .saleQty .. | .confirmSale .. => true
  | _ => false

/-- The products the rows hold for a name, most similar first. -/
def candidatesOf (dep : Deployment) (shopId : UUID) (name : String) (products : List Product) :
    List ScoredProductMatch :=
  ProductRepository.findProductsByFuzzySearch dep shopId
    (Text.lower dep.unicode (Text.strip name)) 3 products

/-- How a message with this text, on these rows, takes a sale further. -/
inductive Move (dep : Deployment) (phone text : String) (products : List Product)
    (left : Database) : Phase → MessageKey × Params → Phase → Prop
  | away {p p' : Phase} {reply : MessageKey × Params} (h : p'.inSale = false) :
      Move dep phone text products left p reply p'
  | stay {p : Phase} {reply : MessageKey × Params} (h : reply.1.guides = false) :
      Move dep phone text products left p reply p
  | named {shop : Shop} {m : ScoredProductMatch} {others : List ScoredProductMatch}
      (hshop : left.shopByPhone phone = some shop)
      (hm : candidatesOf dep shop.id text products = m :: others)
      (hsure : confidentMatchThreshold ≤ m.similarityScore.val) (hn : m.name ≠ "") :
      Move dep phone text products left .saleName (.ASK_SALE_QUANTITY, [])
        (.saleQty shop.id (itemOf m hn))
  | listed {shop : Shop} {choices : Choices} {named : ∀ m ∈ choices.val, m.name ≠ ""}
      (hshop : left.shopByPhone phone = some shop)
      (hm : candidatesOf dep shop.id text products = choices.val) :
      Move dep phone text products left .saleName
        (.PRODUCT_CHOICES, [("candidates", .candidates choices.val)])
        (.saleChoice shop.id choices named)
  | picked {shop : UUID} {choices : Choices} {named : ∀ m ∈ choices.val, m.name ≠ ""} {i : ℕ}
      {m : ScoredProductMatch}
      (hi : Text.readInt dep.unicode (Text.strip text) = some ((i : ℤ) + 1))
      (hm : choices.val[i]? = some m) :
      Move dep phone text products left (.saleChoice shop choices named) (.ASK_QUANTITY, [])
        (.saleQty shop (itemOf m (named m (List.mem_of_getElem? hm))))
  | prompted {shop : UUID} {item : Item} {q : Quantity} :
      Move dep phone text products left (.saleQty shop item) (salePrompt item q)
        (.confirmSale shop item q)

/-! ## Refused inputs -/

/-- Refusing with this exception does not lead the user on. -/
def Exc.Unguiding (e : Exc) : Prop :=
  ∀ message key params, e = .invalidInput message key params →
    (key.getD .UNKNOWN_ERROR).guides = false

theorem Exc.unguiding_of_silent {e : Exc} (h : e.isInvalidInput = false) : e.Unguiding := by
  rintro message key params rfl
  cases h

theorem unguiding_raises {α : Type} {x : FlowM α} (h : Silent x) : Raises Exc.Unguiding x :=
  h.mono fun _ ↦ Exc.unguiding_of_silent

theorem unguiding_invalidInput {α : Type} {message : String} {key : MessageKey} {params : Params}
    (h : key.guides = false) : Fails Exc.Unguiding (invalidInput message key params : Except Exc α) := by
  rintro e he message' key' params' rfl
  cases he
  exact h

theorem resolveProductChoice_unguiding (u : Unicode) (candidates : List ScoredProductMatch) :
    Fails Exc.Unguiding (resolveProductChoice u candidates text) := by
  unfold resolveProductChoice
  split
  · exact unguiding_invalidInput rfl
  · split
    · exact unguiding_invalidInput rfl
    · split
      · exact unguiding_invalidInput rfl
      · split
        · exact unguiding_invalidInput rfl
        · exact .ok _

theorem parseSaleQuantity_unguiding (u : Unicode) :
    Fails Exc.Unguiding (RecordSaleFlow.parseSaleQuantity u text) := by
  refine .bind ?_ fun q ↦ ?_
  · unfold parseQuantity
    split
    · exact unguiding_invalidInput rfl
    · split
      · exact .ok _
      · exact unguiding_invalidInput rfl
  · split
    · exact .ok _
    · exact unguiding_invalidInput rfl

theorem parseConfirmation_unguiding (u : Unicode) :
    Fails Exc.Unguiding (parseConfirmation u text) := by
  unfold parseConfirmation
  dsimp only
  split
  · exact .ok _
  · split
    · exact .ok _
    · exact unguiding_invalidInput rfl

theorem toInvalidInput_unguiding (e : Exc) : (RecordSaleFlow.toInvalidInput e).Unguiding := by
  rcases FSMEngine.toInvalidInput_cases e with h | ⟨message, h⟩
  · exact Exc.unguiding_of_silent h
  · rw [h]
    rintro _ _ _ ⟨⟩
    rfl

namespace RecordSaleFlow

theorem handleSaleProductSelection_unguiding :
    Raises Exc.Unguiding (handleSaleProductSelection dep text) := by
  refine .bind (.reads _) fun s ↦ .bind (.ofExcept (resolveProductChoice_unguiding _ _)) fun m ↦ ?_
  exact fun _ _ _ h ↦ by cases h

theorem handleSaleProductQty_unguiding : Raises Exc.Unguiding (handleSaleProductQty dep text) := by
  refine .bind (.ofExcept (parseSaleQuantity_unguiding _)) fun q ↦ .bind (.reads _) fun s ↦ ?_
  split
  · split
    · exact unguiding_raises silent_corrupted
    · refine .bind (.zoom fun _ _ _ h ↦ Exc.unguiding_of_silent (getStock_silent h)) fun row ↦ ?_
      split
      · exact .ofExcept (unguiding_invalidInput rfl)
      · exact fun _ _ _ h ↦ by cases h
  · exact unguiding_raises silent_corrupted

theorem handleConfirmSaleProduct_unguiding :
    Raises Exc.Unguiding (handleConfirmSaleProduct dep text) := by
  refine .bind (.reads _) fun s ↦ .bind (.ofExcept (parseConfirmation_unguiding _)) fun c ↦ ?_
  split
  · exact fun _ _ _ h ↦ by cases h
  · split
    · split
      · exact unguiding_raises silent_corrupted
      · refine .bind (.tryCatch fun e ↦ .throw (toInvalidInput_unguiding e)) fun sale ↦ ?_
        refine .bind (fun _ _ _ h ↦ by cases h) fun _ ↦ .bind (fun _ _ _ h ↦ by cases h) fun _ ↦ ?_
        refine .bind ?_ fun _ ↦ fun _ _ _ h ↦ by cases h
        split
        · refine unguiding_raises (silent_onDb fun _ _ _ h ↦ enqueue_error h)
        · exact .pure _
    · exact unguiding_raises silent_corrupted

theorem handleSaleProductName_moves (hs : Shows t.session .saleName)
    (h : handleSaleProductName dep text t = .ok r t') :
    ∃ p', Move dep t.session.phone text t.backend.working.products t'.backend.working .saleName
      r.reply p' ∧ Shows t'.session p' := by
  unfold handleSaleProductName at h
  rw [session_bind] at h
  obtain ⟨shopId, b₁, hshop, h⟩ := onDb_bind_ok h
  obtain ⟨⟨shop, hphone, rfl⟩, hgoods, -⟩ := getShopId_ok hshop
  rw [editContext_bind] at h
  obtain ⟨found, b₂, hfound, h⟩ := onDb_bind_ok h
  obtain ⟨hmatch, hu, -⟩ := findProductsByFuzzyName_ok hfound
  dsimp only at hfound hmatch hu
  rw [← hu.working] at hphone
  have hs₁ : Shows (t.session.edit fun c ↦ { c with shopId := some shop.id }) .saleName :=
    ⟨hs.state, hs.content, fun _ h ↦ by cases h⟩
  cases found with
  | notFound =>
      cases h
      exact ⟨.saleName, .away rfl, hs₁⟩
  | exactMatch m =>
      obtain ⟨others, hm, hsure⟩ := findProductsByFuzzyName_exact hfound
      cases h
      rw [hgoods.products] at hm
      refine ⟨.saleQty shop.id (itemOf m hmatch.named), .named hphone hm hsure hmatch.named, ?_⟩
      refine hs₁.advance (fun c ↦ { c with
        productId := some m.id
        productName := some m.name
        productPrice := some m.price }) (.saleQty shop.id (itemOf m hmatch.named)) _
        (fun _ ↦ rfl) rfl ?_
      exact fun _ h ↦ h
  | ambiguous candidates =>
      have hm := findProductsByFuzzyName_ambiguous hfound
      cases h
      rw [hgoods.products] at hm
      let choices : Choices := ⟨candidates, hmatch.1⟩
      have named : ∀ m ∈ choices.val, m.name ≠ "" := fun m hm ↦ (hmatch.2 m hm).named
      have hm : candidatesOf dep shop.id text t.backend.working.products = choices.val := hm
      refine ⟨.saleChoice shop.id choices named, .listed hphone hm, ?_⟩
      refine hs₁.advance (fun c ↦ { c with productCandidates := candidates })
        (.saleChoice shop.id choices named) _ (fun _ ↦ rfl) rfl ?_
      exact fun _ h ↦ h

theorem handleSaleProductSelection_moves {shop : UUID} {choices : Choices}
    {named : ∀ m ∈ choices.val, m.name ≠ ""} {phone : String}
    (hs : Shows t.session (.saleChoice shop choices named))
    (h : handleSaleProductSelection dep text t = .ok r t') :
    ∃ p', Move dep phone text t.backend.working.products t'.backend.working
      (.saleChoice shop choices named) r.reply p' ∧ Shows t'.session p' := by
  obtain ⟨p', hstep, hs'⟩ := handleSaleProductSelection_follows hs h []
  obtain ⟨hstate, hreply⟩ : t'.session.state = .RECORD_SALE_QTY ∧ r.reply = (.ASK_QUANTITY, []) := by
    unfold handleSaleProductSelection at h
    rw [session_bind] at h
    obtain ⟨m, -, h⟩ := ofExcept_bind_ok h
    cases h
    exact ⟨rfl, rfl⟩
  rw [hreply]
  cases hstep with
  | stay =>
      have hne := hstate.symm.trans hs'.state
      cases hne
  | leave => exact ⟨.idle, .away rfl, hs'⟩
  | picked _ hi hm => exact ⟨_, .picked hi hm, hs'⟩

theorem handleSaleProductQty_moves {shop : UUID} {item : Item} {phone : String}
    (hs : Shows t.session (.saleQty shop item)) (h : handleSaleProductQty dep text t = .ok r t') :
    ∃ p', Move dep phone text t.backend.working.products t'.backend.working (.saleQty shop item)
      r.reply p' ∧ Shows t'.session p' := by
  obtain ⟨p', hstep, hs'⟩ := handleSaleProductQty_follows hs h []
  have hstate : t'.session.state = .CONFIRM_SALE := by
    have hid : t.session.context.productId = some item.id := congrArg (·.productId) hs.content
    have hname : t.session.context.productName = some item.name :=
      congrArg (·.productName) hs.content
    have hprice : t.session.context.productPrice = some item.price :=
      congrArg (·.productPrice) hs.content
    unfold handleSaleProductQty at h
    obtain ⟨q, -, h⟩ := ofExcept_bind_ok h
    rw [session_bind, hid, hname, hprice] at h
    dsimp only at h
    rw [if_neg item.named] at h
    obtain ⟨row, b₁, -, h⟩ := onDb_bind_ok h
    split at h <;> cases h
    rfl
  generalize r.reply = reply at hstep
  cases hstep with
  | stay =>
      have hne := hstate.symm.trans hs'.state
      cases hne
  | leave => exact ⟨.idle, .away rfl, hs'⟩
  | quantity hq => exact ⟨_, .prompted, hs'⟩

theorem handleConfirmSaleProduct_moves {shop : UUID} {item : Item} {q : Quantity} {phone : String}
    (hs : Shows t.session (.confirmSale shop item q))
    (h : handleConfirmSaleProduct dep text t = .ok r t') :
    ∃ p', Move dep phone text t.backend.working.products t'.backend.working
      (.confirmSale shop item q) r.reply p' ∧ Shows t'.session p' := by
  obtain ⟨p', hstep, hs'⟩ := handleConfirmSaleProduct_follows hs h []
  have hstate : t'.session.state = .IDLE := by
    by_cases hc : Confirms dep text
    · rw [handleConfirmSaleProduct_of_confirms hc] at h
      cases ho : t.session.context.order with
      | none =>
          rw [ho] at h
          cases h
      | some o =>
          rw [ho] at h
          dsimp only at h
          split at h
          · cases h
          · obtain ⟨-, hclosed, -⟩ := conclude_ok h
            rw [hclosed]
            rfl
    · unfold handleConfirmSaleProduct at h
      rw [session_bind] at h
      obtain ⟨isConfirmed, hp, h⟩ := ofExcept_bind_ok h
      cases isConfirmed with
      | true => exact absurd hp hc
      | false =>
          cases h
          rfl
  generalize r.reply = reply at hstep
  cases hstep with
  | stay =>
      have hne := hstate.symm.trans hs'.state
      cases hne
  | leave => exact ⟨.idle, .away rfl, hs'⟩

end RecordSaleFlow

namespace FSMEngine

/-- Only the flow of a sale selects a product for one. -/
theorem away_of_step {phone : String} {products : List Product} {left : Database}
    {p p' : Phase} {reply : MessageKey × Params} (h : Dialogue.Step dep products text p reply p')
    (hp : p.inSale = false) (hn : p ≠ .saleName) : Move dep phone text products left p reply p' := by
  cases h <;> first | exact .away rfl | exact .away hp | exact absurd rfl hn

theorem handler_moves {p : Phase} (hs : Shows t.session p)
    (h : handler dep t.session.state text t = .ok r t') :
    ∃ p', Move dep t.session.phone text t.backend.working.products t'.backend.working p r.reply p' ∧
      Shows t'.session p' := by
  by_cases hsale : p = .saleName ∨ p.inSale = true
  · rw [hs.state] at h
    cases p with
    | saleName => exact RecordSaleFlow.handleSaleProductName_moves hs h
    | saleChoice shop choices named => exact RecordSaleFlow.handleSaleProductSelection_moves hs h
    | saleQty shop item => exact RecordSaleFlow.handleSaleProductQty_moves hs h
    | confirmSale shop item q => exact RecordSaleFlow.handleConfirmSaleProduct_moves hs h
    | _ => rcases hsale with hsale | hsale <;> cases hsale
  · obtain ⟨p', hstep, hs'⟩ := handler_follows hs h
    rw [not_or, Bool.not_eq_true] at hsale
    exact ⟨p', away_of_step hstep hsale.2 hsale.1, hs'⟩

theorem handler_unguiding {p : Phase} (hp : p.inSale = true) :
    Raises Exc.Unguiding (handler dep p.state text) := by
  cases p with
  | saleChoice shop choices named => exact RecordSaleFlow.handleSaleProductSelection_unguiding
  | saleQty shop item => exact RecordSaleFlow.handleSaleProductQty_unguiding
  | confirmSale shop item q => exact RecordSaleFlow.handleConfirmSaleProduct_unguiding
  | _ => cases hp

theorem onInvalidInput_reply {previousState : SessionState} {message : String}
    {key : Option MessageKey} {params : Params}
    (h : onInvalidInput dep previousState message key params t = .ok r t') :
    r.messageKey = .TOO_MANY_INVALID ∨ r.messageKey = key.getD .UNKNOWN_ERROR := by
  unfold onInvalidInput at h
  rw [setSession_bind, session_bind] at h
  split at h <;> cases h
  · exact .inl rfl
  · exact .inr rfl

/-- One message takes a sale further by one move. -/
theorem processMessage_moves {p : Phase} (hs : Shows t.session p)
    (h : processMessage dep text t = .ok r t') :
    ∃ p', Move dep t.session.phone text t.backend.working.products t'.backend.working p r.reply p' ∧
      Shows t'.session p' := by
  rcases processMessage_ok h with ⟨-, hk⟩ | ⟨-, t₁, hk, rfl⟩ | ⟨-, m, k, ps, t₁, hh, hsame, -, hk⟩
  · cases hk
    exact ⟨.idle, .away rfl, .reset _ _ _⟩
  · obtain ⟨p', hmove, hs'⟩ := handler_moves hs hk
    exact ⟨p', hmove, hs'.accepted⟩
  · rcases onInvalidInput_ok hk with ⟨-, h⟩ | ⟨-, rfl⟩
    · cases h
      exact ⟨.idle, .away rfl, .reset _ _ _⟩
    · refine ⟨p, ?_, ?_⟩
      · cases hp : p.inSale with
        | false => exact .away hp
        | true =>
            rw [hs.state] at hh
            have hkey := handler_unguiding hp _ _ _ hh m k ps rfl
            refine .stay ?_
            change r.messageKey.guides = false
            rcases onInvalidInput_reply hk with hr | hr <;> rw [hr]
            · rfl
            · exact hkey
      · dsimp only
        rw [hsame]
        exact hs.refused

/-- Selling is answered by its own reply, and nothing else is. -/
theorem processMessage_recorded (hs : t.session.state = .CONFIRM_SALE) (hc : Confirms dep text)
    (h : processMessage dep text t = .ok r t') (hr : r.messageKey = .SALE_RECORDED) :
    ∃ o product row sale, Sells dep text t.session t.backend.working t'.backend.working o product
      row sale := by
  have hcon := processMessage_confirmed hs hc
  generalize processMessage dep text t = res at h hcon
  cases hcon with
  | corrupted ho => cases h
  | failed ho hr he => cases h
  | unalerted ho hr hcon => cases h
  | refused ho hr' he =>
      rcases onInvalidInput_reply h with hkey | hkey
      · cases hkey.symm.trans hr
      · cases hkey.symm.trans hr
  | @recorded o sale b r t₁ ho hr' hcon =>
      cases h
      obtain ⟨product, row, db, hw, hl, -, -⟩ := SalesService.recordSale_ok hr'
      obtain ⟨-, -, -, hwork, -⟩ := RecordSaleFlow.conclude_ok hcon
      refine ⟨o, product, row, sale.sale, hs, hc, ho, ?_⟩
      rw [hwork, hl.working]
      exact hw

end FSMEngine

/-! ## A conversation -/

/-- A message, the rows it meets, and whether the stored session had expired. -/
structure Incoming where
  env : Env
  rows : Database
  text : String
  expired : Bool := false

/-- What is stored for the phone, the last reply, and the rows left with it. -/
structure Chat where
  stored : Option UserSession
  reply : Option (MessageKey × Params) := none
  left : Database

namespace Chat

/-- The stored session a message is processed with. -/
def met (s : Chat) (x : Incoming) : Option UserSession := if x.expired then none else s.stored

/-- One message, processed and saved. -/
def next (dep : Deployment) (phone : String) (s : Chat) (x : Incoming) : Chat :=
  match conversation dep phone x.text ⟨s.met x, .connect x.env x.rows⟩ with
  | .ok p d => ⟨d.stored, some p.result.reply, d.backend.committed⟩
  | .error _ d => ⟨d.stored, none, d.backend.committed⟩

/-- Every message of the phone is saved before the next one is read. -/
abbrev Step (dep : Deployment) (phone : String) : Chat → Incoming → Chat → Prop :=
  Steps (fun s x ↦ some (s.next dep phone x)) fun _ _ ↦ True

def New (s : Chat) : Prop := s.stored = none

end Chat

abbrev Talk := Moment Chat Incoming

namespace Talk

/-- The session in which the message is processed. -/
def session (phone : String) (m : Talk) : UserSession := current phone (m.before.met m.label)

def Replied (key : MessageKey) (m : Talk) : Prop := m.after.reply.map Prod.fst = some key

instance (key : MessageKey) (m : Talk) : Decidable (m.Replied key) :=
  inferInstanceAs (Decidable (_ = _))

/-- The reply asks how many units of a product are sold. -/
def AsksQuantity (m : Talk) : Prop := m.Replied .ASK_SALE_QUANTITY ∨ m.Replied .ASK_QUANTITY

/-- A confirming reply to a prompt, and the answer that the sale is recorded. -/
def Records (dep : Deployment) (phone : String) (m : Talk) : Prop :=
  (m.session phone).state = .CONFIRM_SALE ∧ Confirms dep m.label.text ∧ m.Replied .SALE_RECORDED

instance (dep : Deployment) (phone : String) (m : Talk) : Decidable (m.Records dep phone) :=
  inferInstanceAs (Decidable (_ ∧ _ ∧ _))

end Talk

section History

variable (dep : Deployment) (phone : String) (history : List Talk)

/-- The message names products of the sender's shop, most similar first. -/
structure NamesGoods (shop : UUID) (found : List ScoredProductMatch) (m : Talk) : Prop where
  sender : (m.after.left.shopByPhone phone).map Shop.id = some shop
  found : candidatesOf dep shop m.label.text m.label.rows.products = found

/-- The last list that was shown has these lines. -/
def Listed (shop : UUID) (choices : Choices) : Prop :=
  ∃ pre m, Last (Talk.Replied .PRODUCT_CHOICES) history pre m ∧
    m.after.reply = some (.PRODUCT_CHOICES, [("candidates", .candidates choices.val)]) ∧
    NamesGoods dep phone shop choices.val m

/-- The message, after this history, names a product or picks one off the last list. -/
inductive Selects (shop : UUID) (item : Item) (m : Talk) : Prop
  | named {best : ScoredProductMatch} {others : List ScoredProductMatch} (hn : best.name ≠ "")
      (h : NamesGoods dep phone shop (best :: others) m)
      (hsure : confidentMatchThreshold ≤ best.similarityScore.val) (hitem : item = itemOf best hn)
  | picked {choices : Choices} {i : ℕ} {line : ScoredProductMatch} (hn : line.name ≠ "")
      (h : Listed dep phone history shop choices)
      (hi : Text.readInt dep.unicode (Text.strip m.label.text) = some ((i : ℤ) + 1))
      (hline : choices.val[i]? = some line) (hitem : item = itemOf line hn)

/-- The last message answered by asking for a quantity selected this product. -/
def Selected (shop : UUID) (item : Item) : Prop :=
  ∃ pre m, Last Talk.AsksQuantity history pre m ∧ Selects dep phone pre shop item m

/-- The last prompt showed this quantity of the product selected before it. -/
def Prompted (shop : UUID) (item : Item) (quantity : Quantity) : Prop :=
  ∃ pre m, Last (Talk.Replied .CONFIRM_SALE) history pre m ∧
    m.after.reply = some (salePrompt item quantity) ∧ Selected dep phone pre shop item

/-- What a phase of a sale holds comes from the messages so far. -/
def Explained : Phase → Prop
  | .saleChoice shop choices _ => Listed dep phone history shop choices
  | .saleQty shop item => Selected dep phone history shop item
  | .confirmSale shop item quantity => Prompted dep phone history shop item quantity
  | _ => True

end History

section Invariant

variable {phone : String} {history : List Talk} {shop : UUID} {m : Talk}

theorem Talk.replied_iff {key : MessageKey} {reply : MessageKey × Params}
    (h : m.after.reply = some reply) : m.Replied key ↔ reply.1 = key := by
  unfold Talk.Replied
  rw [h]
  simp

theorem Talk.not_replied (h : m.after.reply = none) (key : MessageKey) : ¬ m.Replied key := by
  intro hr
  unfold Talk.Replied at hr
  rw [h] at hr
  cases hr

theorem Talk.quiet_of_unguiding {reply : MessageKey × Params} (h : m.after.reply = some reply)
    (hg : reply.1.guides = false) {key : MessageKey} (hkey : key.guides = true) :
    ¬ m.Replied key := by
  intro hr
  rw [← (m.replied_iff h).mp hr, hg] at hkey
  cases hkey

theorem Explained.of_not_inSale {p : Phase} (h : p.inSale = false) :
    Explained dep phone history p := by
  cases p <;> trivial

/-- A message that is answered by nothing that guides explains nothing away. -/
theorem Explained.later {p : Phase} (h : Explained dep phone history p)
    (hm : ∀ key : MessageKey, key.guides = true → ¬ m.Replied key) :
    Explained dep phone (history ++ [m]) p := by
  cases p with
  | saleChoice shop choices named =>
      obtain ⟨pre, m₀, hlast, h⟩ := h
      exact ⟨pre, m₀, hlast.earlier (hm _ rfl), h⟩
  | saleQty shop item =>
      obtain ⟨pre, m₀, hlast, h⟩ := h
      refine ⟨pre, m₀, hlast.earlier ?_, h⟩
      rintro (hr | hr)
      · exact hm _ rfl hr
      · exact hm _ rfl hr
  | confirmSale shop item quantity =>
      obtain ⟨pre, m₀, hlast, h⟩ := h
      exact ⟨pre, m₀, hlast.earlier (hm _ rfl), h⟩
  | _ => trivial

/-- A move of a sale is explained by the message that makes it. -/
theorem Explained.move {p p' : Phase} {reply : MessageKey × Params}
    (h : Explained dep phone history p) (hr : m.after.reply = some reply)
    (hmove : Move dep phone m.label.text m.label.rows.products m.after.left p reply p') :
    Explained dep phone (history ++ [m]) p' := by
  cases hmove with
  | away hp => exact .of_not_inSale hp
  | stay hg => exact h.later fun key ↦ m.quiet_of_unguiding hr hg
  | @named owner best others hshop hm hsure hn =>
      have hnames : NamesGoods dep phone owner.id (best :: others) m := ⟨by rw [hshop]; rfl, hm⟩
      exact ⟨history, m, .here (.inl ((m.replied_iff hr).mpr rfl)), .named hn hnames hsure rfl⟩
  | @listed owner choices named hshop hm =>
      exact ⟨history, m, .here ((m.replied_iff hr).mpr rfl), hr, by rw [hshop]; rfl, hm⟩
  | @picked shop choices named i line hi hline =>
      have hn : line.name ≠ "" := named line (List.mem_of_getElem? hline)
      exact ⟨history, m, .here (.inr ((m.replied_iff hr).mpr rfl)), .picked hn h hi hline rfl⟩
  | @prompted shop item q => exact ⟨history, m, .here ((m.replied_iff hr).mpr rfl), hr, h⟩

/-- The stored session shows a phase that the messages so far explain. -/
def Accounted (dep : Deployment) (phone : String) (history : List Talk)
    (stored : Option UserSession) : Prop :=
  (current phone stored).phone = phone ∧
    ∃ p, Shows (current phone stored) p ∧ Explained dep phone history p

theorem accounted_none : Accounted dep phone history none :=
  ⟨rfl, .idle, .fresh phone, trivial⟩

theorem Accounted.met {s : Chat} (h : Accounted dep phone history s.stored) (x : Incoming) :
    Accounted dep phone history (s.met x) := by
  unfold Chat.met
  split
  · exact accounted_none
  · exact h

theorem accounted_next {s : Chat} {x : Incoming} (h : Accounted dep phone history s.stored) :
    Accounted dep phone (history ++ [⟨s, x, s.next dep phone x⟩]) (s.next dep phone x).stored := by
  generalize hm : (⟨s, x, s.next dep phone x⟩ : Talk) = m
  have hlabel : m.label = x := by rw [← hm]
  have hafter : m.after = s.next dep phone x := by rw [← hm]
  obtain ⟨hphone, p, hs, he⟩ := h.met x
  unfold Chat.next at hafter ⊢
  cases hc : conversation dep phone x.text ⟨s.met x, .connect x.env x.rows⟩ with
  | ok processed d =>
      rw [hc] at hafter
      obtain ⟨hh, hstored⟩ := conversation_ok hc
      obtain ⟨t, ht, hsession, hcommitted, -, -⟩ := handleMessage_ok hh
      obtain ⟨p', hmove, hs'⟩ := FSMEngine.processMessage_moves hs ht
      have hsame := phone_processMessage.of_ok ht
      have hmove : Move dep phone m.label.text m.label.rows.products m.after.left p
          processed.result.reply p' := by
        rw [hlabel, hafter, ← hphone]
        dsimp only
        rw [hcommitted]
        exact hmove
      have hcur : current phone d.stored = t.session := by
        rw [hstored, hsession]
        rfl
      refine ⟨?_, p', ?_, he.move ?_ hmove⟩
      · dsimp only
        rw [hcur]
        exact hsame.trans hphone
      · dsimp only
        rw [hcur]
        exact hs'
      · rw [hafter]
  | error e d =>
      rw [hc] at hafter
      obtain ⟨-, hstored⟩ := conversation_error hc
      dsimp only
      rw [hstored]
      exact ⟨hphone, p, hs, he.later fun key _ ↦ Talk.not_replied (by rw [hafter]) key⟩

/-- After every run the stored session is accounted for. -/
theorem accounted_run {s : Chat} (run : Run Chat.New (Chat.Step dep phone) history s) :
    Accounted dep phone history s.stored := by
  refine run.invariant (I := fun history s ↦ Accounted dep phone history s.stored) ?_ ?_
  · intro s hs
    rw [hs]
    exact accounted_none
  · rintro history s x s' h ⟨hnext, -⟩
    cases hnext
    exact accounted_next h

/-- Every message of a run meets a session that the messages before it account for. -/
theorem accounted_at {s : Chat} (run : Run Chat.New (Chat.Step dep phone) history s)
    {pre : List Talk} (hm : At history pre m) :
    Accounted dep phone pre (m.before.met m.label) ∧ m.after = m.before.next dep phone m.label := by
  induction run with
  | start h₀ =>
      obtain ⟨post, h⟩ := hm
      exact absurd h.symm (by simp)
  | next run h ih =>
      rcases hm.cases with hm | ⟨rfl, rfl⟩
      · exact ih hm
      · obtain ⟨hnext, -⟩ := h
        cases hnext
        exact ⟨(accounted_run run).met _, rfl⟩

/-- The order of a prompt is what the prompt showed. -/
theorem Dialogue.Shows.order {s : UserSession} {item : Item} {q : Quantity}
    (h : Shows s (.confirmSale shop item q)) :
    s.context.order = some ⟨shop, item.id, item.name, q.val⟩ := by
  have hid : s.context.productId = some item.id := congrArg (·.productId) h.content
  have hname : s.context.productName = some item.name := congrArg (·.productName) h.content
  have hq : s.context.productQty = some q.val := congrArg (·.productQty) h.content
  have hshop : s.context.shopId = some shop := h.shop shop rfl
  unfold SessionContext.order
  rw [hid, hname, hq, hshop]
  exact if_neg item.named

/-- A phase that waits for a confirmation has a prompt behind it. -/
theorem Accounted.prompted {stored : Option UserSession}
    (h : Accounted dep phone history stored) (hs : (current phone stored).state = .CONFIRM_SALE) :
    ∃ shop item q, Prompted dep phone history shop item q ∧
      (current phone stored).context.order = some ⟨shop, item.id, item.name, q.val⟩ := by
  obtain ⟨-, p, hp, he⟩ := h
  rw [hp.state] at hs
  cases p with
  | confirmSale shop item q => exact ⟨shop, item, q, he, hp.order⟩
  | _ => cases hs

/-- One sale of what the last prompt showed, at the price of the catalogue. -/
def SellsPrompted (dep : Deployment) (phone : String) (pre : List Talk) (m : Talk) : Prop :=
  ∃ shop item q product row sale, Prompted dep phone pre shop item q ∧
    SalesService.SaleWrite shop item.id q.val "System" product row sale m.label.rows m.after.left ∧
    (product.price = item.price → sale.total = item.price * q.val)

/-- A confirming reply that succeeds records one sale, of what the last prompt
showed, and no other message sells anything. -/
theorem sale_is_prompted {s : Chat} (run : Run Chat.New (Chat.Step dep phone) history s)
    {pre : List Talk} (hm : At history pre m) :
    (m.Records dep phone → SellsPrompted dep phone pre m) ∧
      (¬ m.Records dep phone → KeepsStock m.label.rows m.after.left) := by
  obtain ⟨hacc, hafter⟩ := accounted_at run hm
  unfold Chat.next at hafter
  cases hc : conversation dep phone m.label.text
      ⟨m.before.met m.label, .connect m.label.env m.label.rows⟩ with
  | error e d =>
      rw [hc] at hafter
      obtain ⟨hh, -⟩ := conversation_error hc
      have hkeeps := handleMessage_error_effect (by rfl) hh
      refine ⟨?_, fun _ ↦ ?_⟩
      · rintro ⟨-, -, hr⟩
        exact absurd hr (Talk.not_replied (by rw [hafter]) _)
      · rw [hafter]
        exact hkeeps
  | ok processed d =>
      rw [hc] at hafter
      obtain ⟨hh, -⟩ := conversation_ok hc
      have hreply : m.after.reply = some processed.result.reply := by rw [hafter]
      have hleft : m.after.left = d.backend.committed := by rw [hafter]
      refine ⟨?_, fun hno ↦ ?_⟩
      · rintro ⟨hstate, hconfirms, hr⟩
        obtain ⟨t, ht, -, hcommitted, -, -⟩ := handleMessage_ok hh
        obtain ⟨shop, item, q, hprompted, horder⟩ := hacc.prompted hstate
        have hkey : processed.result.messageKey = .SALE_RECORDED := (m.replied_iff hreply).mp hr
        obtain ⟨o, product, row, sale, hsells⟩ :=
          FSMEngine.processMessage_recorded hstate hconfirms ht hkey
        have ho : o = ⟨shop, item.id, item.name, q.val⟩ :=
          Option.some.inj (hsells.order.symm.trans horder)
        have hw : SalesService.SaleWrite shop item.id q.val "System" product row sale
            m.label.rows m.after.left := by
          have hwrite := hsells.write
          rw [ho] at hwrite
          rw [hleft, hcommitted]
          exact hwrite
        refine ⟨shop, item, q, product, row, sale, hprompted, hw, fun hprice ↦ ?_⟩
        have hmem : sale ∈ m.after.left.sales := by
          rw [hw.sales]
          exact List.mem_append_right _ (List.mem_singleton_self _)
        rw [m.after.left.valid.sales.total sale hmem, hw.unitPrice, hw.quantity, hprice]
      · rw [hleft]
        rcases handleMessage_ok_effect (by rfl) hh with hk | ⟨o, product, row, sale, hsells, -, hkey⟩
        · exact hk
        · exact absurd ⟨hsells.state, hsells.confirms, (m.replied_iff hreply).mpr hkey⟩ hno

end Invariant

/-! ## Two runs -/

/-- Ten litres of milk at a price, and a larger size, in the shop of a phone. -/
def kindsOfMilk (phone : String) (price : ℚ) : Rows where
  shops := [⟨⟨1⟩, phone, some "Dairy", .en⟩]
  products := [⟨⟨2⟩, ⟨1⟩, "Milk 1L", "M-AAAAAA", price⟩, ⟨⟨4⟩, ⟨1⟩, "Milk 2L", "M-BBBBBB", 110⟩]
  inventory := [⟨⟨3⟩, ⟨2⟩, 10, 5⟩]

def twoKinds : Database := ⟨kindsOfMilk "254700000001" 60, by decide +kernel⟩

def repriced : Database := ⟨kindsOfMilk "254700000009" 100, by decide +kernel⟩

/-- What is typed to sell two units of the first kind of milk, the last three lines on these rows. -/
def milkSale (later : Database) : List Incoming :=
  [⟨.calm, twoKinds, "record sale", false⟩, ⟨.calm, twoKinds, "milk", false⟩,
    ⟨.calm, later, "1", false⟩, ⟨.calm, later, "2", false⟩, ⟨.calm, later, "yes", false⟩]

theorem run_of_milkSale {P : List Talk → Prop} [DecidablePred P] (later : Database)
    (h : ((trace (fun s x ↦ some (Chat.next .sample "254700000001" s x))
      ⟨none, none, twoKinds⟩ (milkSale later)).any fun r ↦ decide (P r.1)) = true) :
    ∃ history s, Run Chat.New (Chat.Step .sample "254700000001") history s ∧ P history := by
  have hnew : Chat.New ⟨none, none, twoKinds⟩ := rfl
  apply exists_run_of_trace (milkSale later) hnew
  simpa using h

theorem sale_of_milk_is_prompted :
    ∃ pre m, Talk.Records .sample "254700000001" m ∧ SellsPrompted .sample "254700000001" pre m := by
  obtain ⟨history, s, run, h⟩ := run_of_milkSale
    (P := fun history ↦ history.getLast?.any fun m ↦ m.Records .sample "254700000001") twoKinds
    (by decide +kernel)
  obtain ⟨m, hlast, hm⟩ := (Option.any_eq_true _ _).mp h
  have hm : m.Records .sample "254700000001" := of_decide_eq_true hm
  obtain ⟨pre, rfl⟩ := List.getLast?_eq_some_iff.mp hlast
  exact ⟨pre, m, hm, (sale_is_prompted run ⟨[], rfl⟩).1 hm⟩

/-- The total of a prompt. -/
def shownTotal (m : Talk) : Option ℚ :=
  match m.after.reply with
  | some (.CONFIRM_SALE, [_, _, (_, .decimal total)]) => some total
  | _ => none

/-- The price rises, and the shop changes its phone, before a line of the list
is picked: what is recorded is not what is shown, in a shop that is not the
sender's any more. -/
theorem total_of_stale_list :
    ∃ history s, Run Chat.New (Chat.Step .sample "254700000001") history s ∧
      history.map (fun m ↦ m.after.reply.map Prod.fst) = [some .START_SALE,
        some .PRODUCT_CHOICES, some .ASK_QUANTITY, some .CONFIRM_SALE, some .SALE_RECORDED] ∧
      history.map (fun m ↦ (m.label.rows.product ⟨2⟩).map Product.price) =
        [some 60, some 60, some 100, some 100, some 100] ∧
      history.map (fun m ↦ (m.label.rows.shopByPhone "254700000001").map Shop.id) =
        [some ⟨1⟩, some ⟨1⟩, none, none, none] ∧
      history.filterMap shownTotal = [120] ∧
      history.flatMap (fun m ↦ m.after.left.sales.map fun sale ↦
        (sale.shopId, sale.productId, sale.quantity, sale.total)) = [(⟨1⟩, ⟨2⟩, 2, 200)] :=
  run_of_milkSale repriced (by decide +kernel)

end SokoFlow
