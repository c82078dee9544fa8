import SokoFlow.Conversation.Dialogue
import SokoFlow.Conversation.Refusal

/-!
# The machine follows the dialogue

Every handler, run on a session that shows a phase, ends in a session that
shows a phase one step further.
-/

namespace SokoFlow

open DbM Effect FlowM Dialogue

variable {dep : Deployment} {text : String} {t t' : Turn} {r : FSMResult}

/-- The reply of a result. -/
def FSMResult.reply (r : FSMResult) : MessageKey × Params := (r.messageKey, r.messageParams)

/-- The dialogue makes a step from `p`, and the session shows where it leads. -/
def Follows (dep : Deployment) (text : String) (products : List Product) (p : Phase)
    (r : FSMResult) (s' : UserSession) : Prop :=
  ∃ p', Step dep products text p r.reply p' ∧ Shows s' p'

namespace AddProductFlow

theorem handleName_follows (hs : Shows t.session .addName)
    (h : handleName text t = .ok r t') (products : List Product) :
    Follows dep text products .addName r t'.session := by
  unfold handleName at h
  rw [session_bind] at h
  obtain ⟨name, hname, h⟩ := ofExcept_bind_ok h
  cases h
  exact ⟨.addPrice name, .name _ hname,
    hs.advance (fun c ↦ { c with productName := some name.val }) (.addPrice name) _
      (fun _ ↦ rfl) rfl fun _ h ↦ by cases h⟩

theorem handlePrice_follows {name : ProductName} (hs : Shows t.session (.addPrice name))
    (h : handlePrice dep text t = .ok r t') (products : List Product) :
    Follows dep text products (.addPrice name) r t'.session := by
  unfold handlePrice at h
  rw [session_bind] at h
  obtain ⟨price, hprice, h⟩ := ofExcept_bind_ok h
  cases h
  exact ⟨.addQty name price, .price _ hprice,
    hs.advance (fun c ↦ { c with productPrice := some price.val }) (.addQty name price) _
      (fun _ ↦ rfl) rfl fun _ h ↦ by cases h⟩

theorem handleQty_follows {name : ProductName} {price : Price}
    (hs : Shows t.session (.addQty name price)) (h : handleQty dep text t = .ok r t')
    (products : List Product) : Follows dep text products (.addQty name price) r t'.session := by
  have hname : t.session.context.productName = some name.val := congrArg (·.productName) hs.content
  have hprice : t.session.context.productPrice = some price.val :=
    congrArg (·.productPrice) hs.content
  unfold handleQty at h
  rw [session_bind, hname, hprice] at h
  obtain ⟨q, hq, h⟩ := ofExcept_bind_ok h
  cases h
  exact ⟨.confirmAdd name price q, .openingStock _ hq,
    hs.advance (fun c ↦ { c with productQty := some q.val }) (.confirmAdd name price q) _
      (fun _ ↦ rfl) rfl fun _ h ↦ by cases h⟩

theorem handleConfirm_follows {name : ProductName} {price : Price} {q : { n : ℤ // 0 ≤ n }}
    (hs : Shows t.session (.confirmAdd name price q)) (h : handleConfirm dep text t = .ok r t')
    (products : List Product) :
    Follows dep text products (.confirmAdd name price q) r t'.session := by
  have hname : t.session.context.productName = some name.val := congrArg (·.productName) hs.content
  have hprice : t.session.context.productPrice = some price.val :=
    congrArg (·.productPrice) hs.content
  have hqty : t.session.context.productQty = some q.val := congrArg (·.productQty) hs.content
  unfold handleConfirm at h
  rw [session_bind, hname, hprice, hqty] at h
  obtain ⟨isConfirmed, -, h⟩ := ofExcept_bind_ok h
  cases isConfirmed with
  | false =>
      cases h
      exact ⟨.idle, .leave _ _, .reset _ _ _⟩
  | true =>
      rw [if_neg (by simp)] at h
      obtain ⟨_, t₁, _, h⟩ := bind_eq_ok.mp h
      cases h
      exact ⟨.idle, .leave _ _, .reset _ _ _⟩

end AddProductFlow

namespace RecordSaleFlow

theorem handleSaleProductName_follows (hs : Shows t.session .saleName)
    (h : handleSaleProductName dep text t = .ok r t') :
    Follows dep text t.backend.working.products .saleName r t'.session := by
  unfold handleSaleProductName at h
  rw [session_bind] at h
  obtain ⟨shopId, b₁, hshop, h⟩ := onDb_bind_ok h
  have hproducts := (getShopId_ok hshop).2.1.products
  rw [editContext_bind] at h
  obtain ⟨found, b₂, hfound, h⟩ := onDb_bind_ok h
  have hfound := (findProductsByFuzzyName_ok hfound).1
  dsimp only at hfound
  rw [hproducts] at hfound
  have hs₁ : Shows (t.session.edit fun c ↦ { c with shopId := some shopId }) .saleName :=
    ⟨hs.state, hs.content, fun _ h ↦ by cases h⟩
  cases found with
  | notFound =>
      cases h
      exact ⟨.saleName, .stay _ _, hs₁⟩
  | exactMatch m =>
      cases h
      let item := itemOf m hfound.named
      refine ⟨.saleQty shopId item, .found _ hfound, ?_⟩
      refine hs₁.advance (fun c ↦ { c with
        productId := some m.id
        productName := some m.name
        productPrice := some m.price }) (.saleQty shopId item) _ (fun _ ↦ rfl) rfl ?_
      exact fun _ h ↦ h
  | ambiguous candidates =>
      cases h
      let choices : Choices := ⟨candidates, hfound.1⟩
      have named : ∀ m ∈ choices.val, m.name ≠ "" := fun m hm ↦ (hfound.2 m hm).named
      refine ⟨.saleChoice shopId choices named, .listed choices hfound.2, ?_⟩
      refine hs₁.advance (fun c ↦ { c with productCandidates := candidates })
        (.saleChoice shopId choices named) _ (fun _ ↦ rfl) rfl ?_
      exact fun _ h ↦ h

theorem handleSaleProductSelection_follows {shop : UUID} {choices : Choices}
    {named : ∀ m ∈ choices.val, m.name ≠ ""}
    (hs : Shows t.session (.saleChoice shop choices named))
    (h : handleSaleProductSelection dep text t = .ok r t') (products : List Product) :
    Follows dep text products (.saleChoice shop choices named) r t'.session := by
  have hcand : t.session.context.productCandidates = choices.val :=
    congrArg (·.productCandidates) hs.content
  unfold handleSaleProductSelection at h
  rw [session_bind, hcand] at h
  obtain ⟨m, hm, h⟩ := ofExcept_bind_ok h
  obtain ⟨i, hi, hget⟩ := resolveProductChoice_ok hm
  cases h
  let item := itemOf m (named m (List.mem_of_getElem? hget))
  refine ⟨.saleQty shop item, .picked _ hi hget, ?_⟩
  have hs' := hs.advance (fun c ↦ { c with
      productId := some m.id
      productName := some m.name
      productPrice := some m.price
      productCandidates := [] })
    (f := fun c ↦ { withProduct m c with productCandidates := [] })
    (.saleQty shop item) (time t) (fun _ ↦ rfl) rfl fun _ h ↦ by cases h; exact hs.shop shop rfl
  exact hs'.congr rfl rfl rfl

theorem handleSaleProductQty_follows {shop : UUID} {item : Item}
    (hs : Shows t.session (.saleQty shop item)) (h : handleSaleProductQty dep text t = .ok r t')
    (products : List Product) : Follows dep text products (.saleQty shop item) r t'.session := by
  have hid : t.session.context.productId = some item.id := congrArg (·.productId) hs.content
  have hname : t.session.context.productName = some item.name := congrArg (·.productName) hs.content
  have hprice : t.session.context.productPrice = some item.price :=
    congrArg (·.productPrice) hs.content
  unfold handleSaleProductQty at h
  obtain ⟨q, hq, h⟩ := ofExcept_bind_ok h
  rw [session_bind, hid, hname, hprice] at h
  dsimp only at h
  rw [if_neg item.named] at h
  obtain ⟨row, b₁, _, h⟩ := onDb_bind_ok h
  split at h
  · cases h
  · cases h
    refine ⟨.confirmSale shop item q, .quantity hq, ?_⟩
    refine hs.advance (fun c ↦ { c with productQty := some q.val }) (.confirmSale shop item q) _
      (fun _ ↦ rfl) rfl ?_
    exact fun _ h ↦ hs.shop _ h

theorem handleConfirmSaleProduct_follows {shop : UUID} {item : Item} {q : Quantity}
    (hs : Shows t.session (.confirmSale shop item q))
    (h : handleConfirmSaleProduct dep text t = .ok r t') (products : List Product) :
    Follows dep text products (.confirmSale shop item q) r t'.session := by
  have hid : t.session.context.productId = some item.id := congrArg (·.productId) hs.content
  have hname : t.session.context.productName = some item.name := congrArg (·.productName) hs.content
  have hqty : t.session.context.productQty = some q.val := congrArg (·.productQty) hs.content
  unfold handleConfirmSaleProduct at h
  rw [session_bind, hid, hname, hqty] at h
  obtain ⟨isConfirmed, -, h⟩ := ofExcept_bind_ok h
  cases isConfirmed with
  | false =>
      cases h
      exact ⟨.idle, .leave _ _, .reset _ _ _⟩
  | true =>
      rw [if_neg (by simp)] at h
      dsimp only at h
      rw [if_neg item.named] at h
      obtain ⟨sale, t₁, _, h⟩ := bind_eq_ok.mp h
      rw [transition_bind, clear_bind] at h
      obtain ⟨_, t₂, h₂, h⟩ := bind_eq_ok.mp h
      cases h
      refine ⟨.idle, .leave _ _, ?_⟩
      split at h₂
      · rw [(onDb_ok h₂).2]
        exact .reset _ _ _
      · cases h₂
        exact .reset _ _ _

end RecordSaleFlow

namespace StockLookupFlow

theorem handleStockName_follows (hs : Shows t.session .stockName)
    (h : handleStockName dep text t = .ok r t') :
    Follows dep text t.backend.working.products .stockName r t'.session := by
  unfold handleStockName at h
  obtain ⟨name, -, h⟩ := ofExcept_bind_ok h
  rw [session_bind] at h
  obtain ⟨shopId, b₁, hshop, h⟩ := onDb_bind_ok h
  have hproducts := (getShopId_ok hshop).2.1.products
  rw [editContext_bind] at h
  obtain ⟨found, b₂, hfound, h⟩ := onDb_bind_ok h
  have hfound := (findProductsByFuzzyName_ok hfound).1
  dsimp only at hfound
  rw [hproducts] at hfound
  have hs₁ : Shows (t.session.edit fun c ↦ { c with shopId := some shopId }) .stockName :=
    ⟨hs.state, hs.content, fun _ h ↦ by cases h⟩
  cases found with
  | notFound =>
      cases h
      have hcand : ([] : List ScoredProductMatch) = t.session.context.productCandidates :=
        (congrArg (·.productCandidates) hs.content).symm
      refine ⟨.stockName, .stay _ _, hs₁.congr rfl ?_ rfl⟩
      simp [contentOf, UserSession.edit, hcand]
  | ambiguous candidates =>
      cases h
      let choices : Choices := ⟨candidates, hfound.1⟩
      refine ⟨.stockChoice shopId choices, .stockListed choices hfound.2, ?_⟩
      refine hs₁.advance (fun c ↦ { c with productCandidates := candidates })
        (.stockChoice shopId choices) _ (fun _ ↦ rfl) rfl ?_
      exact fun _ h ↦ h
  | exactMatch m =>
      obtain ⟨row, b₃, _, h⟩ := onDb_bind_ok h
      cases h
      exact ⟨.idle, .leave _ _, .reset _ _ _⟩

theorem handleStockProductSelection_follows {p : Phase}
    (h : handleStockProductSelection dep text t = .ok r t') (products : List Product) :
    Follows dep text products p r t'.session := by
  unfold handleStockProductSelection at h
  rw [session_bind] at h
  obtain ⟨m, -, h⟩ := ofExcept_bind_ok h
  rw [editContext_bind] at h
  obtain ⟨row, b₁, _, h⟩ := onDb_bind_ok h
  cases h
  exact ⟨.idle, .leave _ _, .reset _ _ _⟩

end StockLookupFlow

namespace AnalyticsFlow

open Analytics

theorem remember_follows {p : Phase} {call : Option ToolCall} (hs : Shows t.session p)
    (h : AnalyticsFlow.remember call t = .ok () t') : Shows t'.session p := by
  cases call <;> cases h
  · exact hs
  · exact hs.congr rfl rfl rfl

/-- The outcome of a question parks the session at a choice or leaves it idle. -/
theorem settle_follows {outcome : AnalyticsOutcome} (hs : Shows t.session .idle)
    (ho : SelectionOk outcome) (h : settle outcome t = .ok () t') (products : List Product)
    (reply : MessageKey × Params) :
    ∃ p', Step dep products text .idle reply p' ∧ Shows t'.session p' := by
  have hstay : Shows t'.session .idle →
      ∃ p', Step dep products text .idle reply p' ∧ Shows t'.session p' :=
    fun h ↦ ⟨.idle, .stay _ _, h⟩
  cases outcome with
  | needsSelection candidates pending tool =>
      cases h
      let choices : Choices := ⟨candidates, ho.1⟩
      have htool : pendingTool tool = "get_stock_level" ∨ pendingTool tool = "get_product_price" := by
        rcases ho.2 with rfl | rfl
        · exact .inl rfl
        · exact .inr rfl
      let productTool : ProductTool := ⟨pendingTool tool, htool⟩
      refine ⟨.analyticsChoice choices productTool (argumentsOf pending), .analytics _ _ _ _, ?_⟩
      have hs' := hs.advance (fun c ↦ { c with
          productCandidates := candidates
          pendingAnalyticsCall := some ⟨pendingTool tool, argumentsOf pending, candidates⟩ })
        (f := fun c ↦ { c with
          productCandidates := candidates
          pendingAnalyticsCall := some ⟨pendingTool tool, argumentsOf pending, candidates⟩ })
        (.analyticsChoice choices productTool (argumentsOf pending)) (time t) (fun _ ↦ rfl) rfl
        fun _ h ↦ by cases h
      exact hs'.congr rfl rfl rfl
  | answered answer call =>
      have hs' : Shows (t.session.edit fun c ↦ { c with errorCount := 0 }) .idle :=
        hs.congr rfl rfl rfl
      exact hstay (remember_follows (t := { t with session := _ }) hs' h)
  | answeredEmpty answer call =>
      have hs' : Shows (t.session.edit fun c ↦ { c with errorCount := 0 }) .idle :=
        hs.congr rfl rfl rfl
      exact hstay (remember_follows (t := { t with session := _ }) hs' h)
  | _ =>
      cases h
      exact hstay hs

theorem handleQuery_follows (hs : Shows t.session .idle) (h : handleQuery dep text t = .ok r t')
    (products : List Product) : Follows dep text products .idle r t'.session := by
  rw [handleQuery_eq] at h
  rw [session_bind] at h
  obtain ⟨shopId, b₁, _, h⟩ := onDb_bind_ok h
  rw [editContext_bind] at h
  obtain ⟨fresh, b₂, _, h⟩ := onDb_bind_ok h
  obtain ⟨outcome, b₃, hrun, h⟩ := onDb_bind_ok h
  obtain ⟨_, t₄, hsettle, h⟩ := bind_eq_ok.mp h
  cases h
  have hs₁ : Shows (t.session.edit fun c ↦ { c with shopId := some shopId }) .idle :=
    ⟨hs.state, hs.content, fun _ h ↦ by cases h⟩
  exact settle_follows hs₁ (run_selectionOk hrun) hsettle products _

theorem handleProductSelection_follows {choices : Choices} {tool : ProductTool}
    {arguments : Json.Object} (hs : Shows t.session (.analyticsChoice choices tool arguments))
    (h : handleProductSelection dep text t = .ok r t') (products : List Product) :
    Follows dep text products (.analyticsChoice choices tool arguments) r t'.session := by
  have hpending : t.session.context.pendingAnalyticsCall =
      some ⟨tool.val, arguments, choices.val⟩ := congrArg (·.pendingAnalyticsCall) hs.content
  rw [handleProductSelection_eq] at h
  rw [session_bind, hpending] at h
  obtain ⟨m, -, h⟩ := ofExcept_bind_ok h
  obtain ⟨shopId, b₁, _, h⟩ := onDb_bind_ok h
  obtain ⟨result, b₂, _, h⟩ := onDb_bind_ok h
  have hc := hs.content
  simp only [contentOf, Phase.content, Content.mk.injEq] at hc
  refine ⟨.idle, .leave _ _, ?_⟩
  cases result with
  | success _ data validated =>
      cases h
      refine ⟨rfl, ?_, fun _ h ↦ by cases h⟩
      simp [contentOf, Phase.content, UserSession.moved, UserSession.edit, hc]
  | failure _ error =>
      unfold resumed at h
      dsimp only at h
      split at h <;> cases h
      all_goals
        refine ⟨rfl, ?_, fun _ h ↦ by cases h⟩
        simp [contentOf, Phase.content, UserSession.moved, UserSession.edit, hc]

end AnalyticsFlow

namespace FSMEngine

theorem enter_follows {newState : SessionState} {key : MessageKey} (hs : Shows t.session .idle)
    {p' : Phase} (hstate : p'.state = newState) (hcontent : p'.content = {})
    (hshop : p'.shop = none) (h : enter newState key t = .ok r t') : Shows t'.session p' := by
  cases h
  refine ⟨hstate.symm, ?_, fun _ h ↦ by rw [hshop] at h; cases h⟩
  exact (hs.content : contentOf t.session.context = {}).trans hcontent.symm

theorem handleDailyReport_ok (h : handleDailyReport t = .ok () t') :
    ∃ shopId, t'.session = t.session.edit fun c ↦ { c with shopId := shopId } := by
  unfold handleDailyReport at h
  rw [session_bind] at h
  obtain ⟨shopId, t₁, h₁, h⟩ := bind_eq_ok.mp h
  rw [(onDb_ok h).2]
  unfold AddProductFlow.shopOfSession at h₁
  rw [session_bind] at h₁
  cases hc : t.session.context.shopId with
  | some id =>
      rw [hc] at h₁
      cases h₁
      exact ⟨t.session.context.shopId, rfl⟩
  | none =>
      rw [hc] at h₁
      obtain ⟨id, b₁, _, h₁⟩ := onDb_bind_ok h₁
      cases h₁
      exact ⟨some shopId, rfl⟩

theorem handleIdle_follows (hs : Shows t.session .idle) (h : handleIdle dep text t = .ok r t')
    (products : List Product) : Follows dep text products .idle r t'.session := by
  unfold handleIdle at h
  rw [session_bind] at h
  cases hi : IntentResolver.resolve dep.unicode text with
  | UNKNOWN =>
      rw [hi] at h
      obtain ⟨routed, b₁, _, h⟩ := onDb_bind_ok h
      cases routed with
      | false => cases h
      | true =>
          rw [if_pos rfl] at h
          exact AnalyticsFlow.handleQuery_follows (t := ⟨t.session, b₁⟩) hs h products
  | RECORD_SALE =>
      rw [hi] at h
      exact ⟨.saleName, .recordSale _, enter_follows hs rfl rfl rfl h⟩
  | CHECK_STOCK =>
      rw [hi] at h
      exact ⟨.stockName, .checkStock _, enter_follows hs rfl rfl rfl h⟩
  | ADD_PRODUCT =>
      rw [hi] at h
      exact ⟨.addName, .addProduct _, enter_follows hs rfl rfl rfl h⟩
  | GENERATE_REPORT =>
      rw [hi] at h
      obtain ⟨_, t₁, h₁, h⟩ := bind_eq_ok.mp h
      cases h₁
      rw [transition_bind] at h
      obtain ⟨_, t₂, h₂, h⟩ := bind_eq_ok.mp h
      cases h
      obtain ⟨shopId, hs₂⟩ := handleDailyReport_ok h₂
      refine ⟨.idle, .stay _ _, rfl, ?_, fun _ h ↦ by cases h⟩
      dsimp only
      rw [hs₂]
      exact hs.content

theorem handler_follows {p : Phase} (hs : Shows t.session p)
    (h : handler dep t.session.state text t = .ok r t') :
    Follows dep text t.backend.working.products p r t'.session := by
  rw [hs.state] at h
  cases p with
  | idle =>
      have hidle : handler dep Phase.idle.state text = handleIdle dep text :=
        handler_idle dep (.inl rfl) text
      rw [hidle] at h
      exact handleIdle_follows hs h _
  | addName => exact AddProductFlow.handleName_follows hs h _
  | addPrice name => exact AddProductFlow.handlePrice_follows hs h _
  | addQty name price => exact AddProductFlow.handleQty_follows hs h _
  | confirmAdd name price quantity => exact AddProductFlow.handleConfirm_follows hs h _
  | saleName => exact RecordSaleFlow.handleSaleProductName_follows hs h
  | saleChoice shop choices named =>
      exact RecordSaleFlow.handleSaleProductSelection_follows hs h _
  | saleQty shop item => exact RecordSaleFlow.handleSaleProductQty_follows hs h _
  | confirmSale shop item quantity =>
      exact RecordSaleFlow.handleConfirmSaleProduct_follows hs h _
  | stockName => exact StockLookupFlow.handleStockName_follows hs h
  | stockChoice shop choices => exact StockLookupFlow.handleStockProductSelection_follows h _
  | analyticsChoice choices tool arguments =>
      exact AnalyticsFlow.handleProductSelection_follows hs h _

theorem reset_follows {p : Phase} {previousState : SessionState} {key : MessageKey}
    (h : reset previousState key t = .ok r t') (products : List Product) :
    Follows dep text products p r t'.session := by
  cases h
  exact ⟨.idle, .leave _ _, .reset _ _ _⟩

/-- The three ways a message can end: an override, an accepted input, or an
invalid one that the engine counts. -/
theorem processMessage_ok (h : processMessage dep text t = .ok r t') :
    (isOverride dep text = true ∧ reset t.session.state .FLOW_CANCELLED t = .ok r t') ∨
    (isOverride dep text = false ∧ ∃ t₁, handler dep t.session.state text t = .ok r t₁ ∧
      t' = { t₁ with session := t₁.session.accepted }) ∨
    (isOverride dep text = false ∧ ∃ message key params t₁,
      handler dep t.session.state text t = .error (.invalidInput message key params) t₁ ∧
      t₁.session = t.session ∧ Backend.Untouched t.backend t₁.backend ∧
      onInvalidInput dep t.session.state message key params t₁ = .ok r t') := by
  unfold processMessage at h
  rw [session_bind] at h
  split at h
  · rename_i ho
    exact .inl ⟨ho, h⟩
  · rename_i ho
    rw [Bool.not_eq_true] at ho
    rcases tryCatch_eq_ok.mp h with h | ⟨e, t₁, h₁, h⟩
    · obtain ⟨result, t₁, h₁, h⟩ := bind_eq_ok.mp h
      cases h
      exact .inr (.inl ⟨ho, t₁, h₁, rfl⟩)
    · cases e with
      | invalidInput message key params =>
          rcases bind_eq_error.mp h₁ with h₁ | ⟨_, _, _, h₁⟩
          · obtain ⟨hs, hu⟩ := handler_refuses _ _ _ _ h₁ rfl
            exact .inr (.inr ⟨ho, message, key, params, t₁, h₁, hs, hu, h⟩)
          · cases h₁
      | _ => cases h

theorem onInvalidInput_ok {previousState : SessionState} {message : String}
    {key : Option MessageKey} {params : Params}
    (h : onInvalidInput dep previousState message key params t = .ok r t') :
    (dep.settings.maxFsmErrors ≤ t.session.refused.context.errorCount ∧
      reset previousState .TOO_MANY_INVALID { t with session := t.session.refused } = .ok r t') ∨
    (t.session.refused.context.errorCount < dep.settings.maxFsmErrors ∧
      t' = { t with session := t.session.refused }) := by
  unfold onInvalidInput at h
  rw [setSession_bind, session_bind] at h
  split at h
  · rename_i hmax
    exact .inl ⟨hmax, h⟩
  · rename_i hmax
    cases h
    exact .inr ⟨by simpa using hmax, rfl⟩

theorem processMessage_follows {p : Phase} (hs : Shows t.session p)
    (h : processMessage dep text t = .ok r t') :
    Follows dep text t.backend.working.products p r t'.session := by
  rcases processMessage_ok h with ⟨-, hk⟩ | ⟨-, t₁, hk, rfl⟩ | ⟨-, m, k, ps, t₁, -, hsame, -, hk⟩
  · exact reset_follows hk _
  · obtain ⟨p', hstep, hs'⟩ := handler_follows hs hk
    exact ⟨p', hstep, hs'.accepted⟩
  · rcases onInvalidInput_ok hk with ⟨-, h⟩ | ⟨-, rfl⟩
    · exact reset_follows h _
    · refine ⟨p, .stay _ _, ?_⟩
      dsimp only
      rw [hsame]
      exact hs.refused

end FSMEngine

end SokoFlow
