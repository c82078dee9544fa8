import SokoFlow.Conversation.Engine
import SokoFlow.Conversation.Lookups

/-!
# Invalid inputs

A handler that reports an invalid input has not changed the session yet, nor
the rows.
-/

namespace SokoFlow

open DbM Effect FlowM

variable {dep : Deployment} {text : String}

section Services

variable {b b' : Backend} {e : Exc}

theorem technical_of_returns {α : Type} {x : DbM α} (h : ∀ b, ∃ a b', x b = .ok a b') :
    ∀ b e b', x b = .error e b' → e.isTechnical = true := by
  intro b e b' he
  obtain ⟨a, b'', hok⟩ := h b
  rw [hok] at he
  cases he

theorem enqueue_error {task : Task} (h : enqueue task b = .error e b') : e.isTechnical = true := by
  rw [enqueue_apply] at h
  dsimp only at h
  split at h <;> cases h <;> rfl

theorem hasFreshContext_returns (dep : Deployment) (s : UserSession) (b : Backend) :
    ∃ fresh b', AnalyticsRoutingPolicy.hasFreshContext dep s b = .ok fresh b' ∧
      Backend.Untouched b b' := by
  unfold AnalyticsRoutingPolicy.hasFreshContext
  cases s.context.lastAnalyticsCall with
  | none => exact ⟨_, _, rfl, refl_of Backend.Untouched b⟩
  | some call => exact ⟨_, _, rfl, ask_within Env.clock b⟩

theorem canRoute_returns (dep : Deployment) (s : UserSession) (text : String) (b : Backend) :
    ∃ routed b', AnalyticsRoutingPolicy.canRoute dep s text b = .ok routed b' ∧
      Backend.Untouched b b' := by
  obtain ⟨fresh, b₁, h₁, hu₁⟩ := hasFreshContext_returns dep s b
  unfold AnalyticsRoutingPolicy.canRoute
  dsimp only
  split
  · exact ⟨_, _, rfl, refl_of Backend.Untouched b⟩
  · rw [bind_of_ok h₁]
    split
    · exact ⟨_, _, rfl, hu₁⟩
    · split
      · obtain ⟨again, b₂, h₂, hu₂⟩ := hasFreshContext_returns dep s b₁
        exact ⟨again, b₂, h₂, trans_of Backend.Untouched hu₁ hu₂⟩
      · exact ⟨_, _, rfl, hu₁⟩

end Services

theorem silent_end (previousState : SessionState) (key : MessageKey) (params : Params) :
    Silent (do
      transition .IDLE
      clearContextPreservingHistory
      buildResult previousState key params) :=
  fun _ _ _ h ↦ by cases h

namespace AddProductFlow

theorem handleName_refuses : Refuses (handleName text) :=
  .session_bind fun _ ↦ .ofExcept_bind fun _ ↦ .of_silent fun _ _ _ h ↦ by cases h

theorem handlePrice_refuses : Refuses (handlePrice dep text) :=
  .session_bind fun _ ↦ .ofExcept_bind fun _ ↦ .of_silent fun _ _ _ h ↦ by cases h

theorem handleQty_refuses : Refuses (handleQty dep text) := by
  refine .session_bind fun s ↦ ?_
  split
  · exact .ofExcept_bind fun _ ↦ .of_silent fun _ _ _ h ↦ by cases h
  · exact .ofExcept _

theorem createStocked_silent {shopId : UUID} {name : String} {price : ℚ} {quantity : ℤ}
    {b b' : Backend} {e : Exc} (h : createStocked dep shopId name price quantity b = .error e b') :
    e.isInvalidInput = false := by
  unfold createStocked at h
  split at h
  · rcases bind_eq_error.mp h with h | ⟨p, b₁, _, h⟩
    · rcases ProductService.createProduct_error h with he | ⟨sku, _, _, _, _, rfl, _⟩
      · exact Exc.not_invalidInput_of_technical he
      · rfl
    · split at h
      · rcases bind_eq_error.mp h with h | ⟨_, _, _, h⟩
        · exact Exc.not_invalidInput_of_technical (InventoryService.addStock_error h)
        · cases h
      · cases h
  · cases h
    rfl

theorem shopOfSession_silent : Silent shopOfSession := by
  refine .bind silent_session fun s ↦ ?_
  cases s.context.shopId with
  | some id => exact .pure _
  | none =>
      exact .bind (silent_onDb fun _ _ _ h ↦ getShopId_error h) fun _ ↦
        .bind (silent_editContext _) fun _ ↦ .pure _

theorem handleConfirm_refuses : Refuses (handleConfirm dep text) := by
  refine .session_bind fun s ↦ .ofExcept_bind fun isConfirmed ↦ ?_
  split
  · exact .of_silent (silent_end _ _ _)
  · split
    · refine .of_silent (.bind (.bind shopOfSession_silent fun _ ↦ ?_) fun _ ↦ silent_end _ _ _)
      exact .zoom fun _ _ _ h ↦ createStocked_silent h
    · exact .ofExcept _

end AddProductFlow

namespace RecordSaleFlow

theorem handleSaleProductName_refuses : Refuses (handleSaleProductName dep text) := by
  refine .of_silent (.bind silent_session fun s ↦ .bind (silent_onDb fun _ _ _ h ↦ getShopId_error h)
    fun _ ↦ .bind (silent_editContext _) fun _ ↦
    .bind (silent_onDb fun _ _ _ h ↦ findProductsByFuzzyName_error h) fun found ↦ ?_)
  cases found with
  | notFound => exact silent_buildResult _ _ _
  | exactMatch m => exact fun _ _ _ h ↦ by cases h
  | ambiguous candidates => exact fun _ _ _ h ↦ by cases h

theorem handleSaleProductSelection_refuses : Refuses (handleSaleProductSelection dep text) :=
  .session_bind fun _ ↦ .ofExcept_bind fun _ ↦ .of_silent fun _ _ _ h ↦ by cases h

theorem getStock_within (id : UUID) : Within Backend.Untouched (InventoryService.getStock id) := by
  apply (select_within _).bind
  intro found
  cases found with
  | none => exact .throw _
  | some row => exact .pure _

theorem getStock_silent {id : UUID} {b b' : Backend} {e : Exc}
    (h : InventoryService.getStock id b = .error e b') : e.isInvalidInput = false := by
  rcases (InventoryService.getStock_error h).2 with he | ⟨-, rfl⟩
  · exact Exc.not_invalidInput_of_technical he
  · rfl

theorem handleSaleProductQty_refuses : Refuses (handleSaleProductQty dep text) := by
  refine .ofExcept_bind fun q ↦ .session_bind fun s ↦ ?_
  split
  · split
    · exact .of_silent silent_corrupted
    · refine .onDb_bind (getStock_within _) (fun _ _ _ h ↦ getStock_silent h) fun row ↦ ?_
      split
      · exact .ofExcept _
      · exact .of_silent fun _ _ _ h ↦ by cases h
  · exact .of_silent silent_corrupted

theorem recordSaleTransaction_error {productId : UUID} {unitsSold : ℤ} {t t' : Turn} {e : Exc}
    (h : recordSaleTransaction productId unitsSold t = .error e t') :
    t'.session = t.session ∧ Backend.Untouched t.backend t'.backend := by
  unfold recordSaleTransaction at h
  rw [session_bind] at h
  cases hs : t.session.context.shopId with
  | none =>
      rw [hs] at h
      cases h
      exact ⟨rfl, refl_of Backend.Untouched _⟩
  | some shopId =>
      rw [hs] at h
      obtain ⟨b, hr, rfl⟩ := zoom_eq_error.mp h
      exact ⟨rfl, (SalesService.recordSale_error hr).1⟩

theorem handleConfirmSaleProduct_refuses : Refuses (handleConfirmSaleProduct dep text) := by
  refine .session_bind fun s ↦ .ofExcept_bind fun isConfirmed ↦ ?_
  split
  · exact .of_silent (silent_end _ _ _)
  · split
    · split
      · exact .of_silent silent_corrupted
      · intro t e t' h hi
        rcases bind_eq_error.mp h with h | ⟨sale, t₁, _, h⟩
        · obtain ⟨e', t₁, h₁, h⟩ := tryCatch_eq_error.mp h
          cases h
          exact recordSaleTransaction_error h₁
        · rw [transition_bind, clear_bind] at h
          have hsilent : e.isInvalidInput = false := by
            rcases bind_eq_error.mp h with h | ⟨_, _, _, h⟩
            · split at h
              · obtain ⟨b, h, -⟩ := zoom_eq_error.mp h
                exact Exc.not_invalidInput_of_technical (enqueue_error h)
              · cases h
            · cases h
          rw [hsilent] at hi
          cases hi
    · exact .of_silent silent_corrupted

end RecordSaleFlow

namespace StockLookupFlow

theorem handleStockName_refuses : Refuses (handleStockName dep text) := by
  refine .ofExcept_bind fun name ↦ .of_silent ?_
  refine .bind silent_session fun s ↦ .bind (silent_onDb fun _ _ _ h ↦ getShopId_error h) fun _ ↦
    .bind (silent_editContext _) fun _ ↦
    .bind (silent_onDb fun _ _ _ h ↦ findProductsByFuzzyName_error h) fun found ↦ ?_
  cases found with
  | notFound => exact fun _ _ _ h ↦ by cases h
  | ambiguous candidates => exact fun _ _ _ h ↦ by cases h
  | exactMatch m =>
      exact .bind (.zoom fun _ _ _ h ↦ RecordSaleFlow.getStock_silent h) fun _ ↦ silent_end _ _ _

theorem handleStockProductSelection_refuses : Refuses (handleStockProductSelection dep text) := by
  refine .session_bind fun s ↦ .ofExcept_bind fun m ↦ .of_silent ?_
  exact .bind (silent_editContext _) fun _ ↦
    .bind (.zoom fun _ _ _ h ↦ RecordSaleFlow.getStock_silent h) fun _ ↦ silent_end _ _ _

end StockLookupFlow

namespace AnalyticsFlow

open Analytics

theorem remember_silent (call : Option ToolCall) : Silent (remember call) := by
  cases call <;> exact fun _ _ _ h ↦ by cases h

theorem settle_silent (outcome : AnalyticsOutcome) : Silent (settle outcome) := by
  cases outcome with
  | answered answer call => exact .bind (silent_editContext _) fun _ ↦ remember_silent call
  | answeredEmpty answer call => exact .bind (silent_editContext _) fun _ ↦ remember_silent call
  | _ => exact fun _ _ _ h ↦ by cases h

theorem handleQuery_silent : Silent (handleQuery dep text) := by
  rw [handleQuery_eq]
  refine .bind silent_session fun s ↦ .bind (silent_onDb fun _ _ _ h ↦ getShopId_error h) fun _ ↦
    .bind (silent_editContext _) fun _ ↦ .bind (silent_onDb ?_) fun _ ↦ .bind (silent_onDb ?_) fun outcome ↦
    .bind (settle_silent outcome) fun _ ↦ silent_buildResult _ _ _
  · apply technical_of_returns
    intro b
    obtain ⟨fresh, b', h, -⟩ := hasFreshContext_returns dep s b
    exact ⟨fresh, b', h⟩
  · exact technical_of_returns (run_returns dep text _ _)

theorem handleProductSelection_refuses : Refuses (handleProductSelection dep text) := by
  rw [handleProductSelection_eq]
  refine .session_bind fun s ↦ .ofExcept_bind fun m ↦ .of_silent ?_
  split
  · exact silent_end _ _ _
  · refine .bind (silent_onDb fun _ _ _ h ↦ getShopId_error h) fun _ ↦
      .bind (silent_onDb (technical_of_returns (execute_returns dep _ _ _))) fun result ↦ ?_
    exact .bind (remember_silent _) fun _ ↦ .bind (silent_editContext _) fun _ ↦
      fun _ _ _ h ↦ by cases h

end AnalyticsFlow

namespace FSMEngine

theorem handleDailyReport_silent : Silent handleDailyReport :=
  .bind silent_session fun _ ↦ .bind AddProductFlow.shopOfSession_silent fun _ ↦
    silent_onDb fun _ _ _ h ↦ enqueue_error h

theorem handleIdle_refuses : Refuses (handleIdle dep text) := by
  refine .session_bind fun s ↦ ?_
  cases IntentResolver.resolve dep.unicode text with
  | UNKNOWN =>
      refine .onDb_bind (fun b ↦ ?_) (fun b e b' h ↦ ?_) fun routed ↦ ?_
      · obtain ⟨routed, b', h, hu⟩ := canRoute_returns dep s text b
        rw [h]
        exact hu
      · obtain ⟨routed, b'', hr, -⟩ := canRoute_returns dep s text b
        rw [hr] at h
        cases h
      · split
        · exact .of_silent AnalyticsFlow.handleQuery_silent
        · exact .ofExcept _
  | RECORD_SALE => exact .of_silent fun _ _ _ h ↦ by cases h
  | CHECK_STOCK => exact .of_silent fun _ _ _ h ↦ by cases h
  | ADD_PRODUCT => exact .of_silent fun _ _ _ h ↦ by cases h
  | GENERATE_REPORT =>
      refine .of_silent (.bind (fun _ _ _ h ↦ by cases h) fun _ ↦ .bind (silent_transition _) fun _ ↦ ?_)
      exact .bind handleDailyReport_silent fun _ ↦ fun _ _ _ h ↦ by cases h

theorem handler_refuses (state : SessionState) : Refuses (handler dep state text) := by
  cases state with
  | IDLE =>
      rw [handler_idle dep (.inl rfl)]
      exact handleIdle_refuses
  | START_ADD_PRODUCT =>
      rw [handler_idle dep (.inr (.inl rfl))]
      exact handleIdle_refuses
  | ADD_PRODUCT_NAME => exact AddProductFlow.handleName_refuses
  | ADD_PRODUCT_PRICE => exact AddProductFlow.handlePrice_refuses
  | ADD_PRODUCT_QTY => exact AddProductFlow.handleQty_refuses
  | CONFIRM_ADD_PRODUCT => exact AddProductFlow.handleConfirm_refuses
  | RECORD_SALE_PRODUCT => exact RecordSaleFlow.handleSaleProductName_refuses
  | RECORD_SALE_PRODUCT_SELECTION => exact RecordSaleFlow.handleSaleProductSelection_refuses
  | RECORD_SALE_QTY => exact RecordSaleFlow.handleSaleProductQty_refuses
  | CONFIRM_SALE => exact RecordSaleFlow.handleConfirmSaleProduct_refuses
  | CHECK_STOCK_PRODUCT => exact StockLookupFlow.handleStockName_refuses
  | CHECK_STOCK_PRODUCT_SELECTION => exact StockLookupFlow.handleStockProductSelection_refuses
  | REPORT_PENDING =>
      rw [handler_idle dep (.inr (.inr rfl))]
      exact handleIdle_refuses
  | ANALYTICS_PRODUCT_SELECTION => exact AnalyticsFlow.handleProductSelection_refuses

end FSMEngine

end SokoFlow
