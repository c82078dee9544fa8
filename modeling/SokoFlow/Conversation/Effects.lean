import SokoFlow.Conversation.Refinement

/-!
# What a message does to stock and sales

A message keeps every sale and takes no stock, except when it confirms a sale:
then it records that sale, and only that one.
-/

namespace SokoFlow

open DbM Effect FlowM

/-- No sale is recorded or lost, and no product has less in stock. -/
structure KeepsStock (db db' : Database) : Prop where
  sales : db'.sales = db.sales
  stock : ∀ p, db.stock p ≤ db'.stock p

namespace KeepsStock

theorem refl (db : Database) : KeepsStock db db := ⟨rfl, fun _ ↦ le_refl _⟩

theorem trans {db db' db'' : Database} (h : KeepsStock db db') (h' : KeepsStock db' db'') :
    KeepsStock db db'' :=
  ⟨h'.sales.trans h.sales, fun p ↦ (h.stock p).trans (h'.stock p)⟩

theorem of_rows {db db' : Database} (hs : db'.sales = db.sales)
    (hi : db'.inventory = db.inventory) : KeepsStock db db' where
  sales := hs
  stock p := by rw [Database.stock, Database.stock, Database.inventoryOf, Database.inventoryOf, hi]

theorem of_write {db db' : Database} {p : UUID} {row : Inventory}
    (hw : Database.InventoryWrite p row db db') (h : db.stock p ≤ row.quantity) :
    KeepsStock db db' where
  sales := hw.sales
  stock p' := by
    by_cases hp : p' = p
    · subst hp
      rw [Database.stock_of_inventoryOf hw.row]
      exact h
    · rw [Database.stock, Database.stock, hw.others p' hp]

end KeepsStock

namespace Backend

/-- Rows that are kept from some database, committed or not, are still kept from it. -/
def Gentle (b b' : Backend) : Prop :=
  ∀ db, KeepsStock db b.committed → KeepsStock db b.working →
    KeepsStock db b'.committed ∧ KeepsStock db b'.working

namespace Gentle

instance : IsPreorder Backend Gentle where
  refl _ := fun _ hc hw ↦ ⟨hc, hw⟩
  trans _ _ _ h h' := fun db hc hw ↦ h' db (h db hc hw).1 (h db hc hw).2

theorem of_rows {b b' : Backend} (hc : b'.committed = b.committed) (hw : b'.working = b.working) :
    Gentle b b' := fun _ h h' ↦ ⟨hc ▸ h, hw ▸ h'⟩

theorem of_untouched {b b' : Backend} (h : Untouched b b') : Gentle b b' :=
  of_rows h.committed h.working

theorem of_observed {b b' : Backend} (h : Observed b b') : Gentle b b' :=
  of_rows h.committed h.working

/-- New rows that keep the session's ones, committed or not. -/
theorem of_landed {b b' : Backend} {commit : Bool} {db : Database} (hl : Landed commit db b b')
    (hk : KeepsStock b.working db) : Gentle b b' := by
  intro db₀ hc hw
  have hdb : KeepsStock db₀ db := hw.trans hk
  refine ⟨?_, hl.working ▸ hdb⟩
  rw [hl.committed]
  cases commit with
  | true => exact hdb
  | false => exact hc

theorem committed {b b' : Backend} (h : Gentle b b') (hb : b.working = b.committed) :
    KeepsStock b.committed b'.committed :=
  (h b.committed (.refl _) (hb ▸ .refl _)).1

end Gentle

end Backend

/-! ## Services -/

section Services

variable {α : Type} {b b' : Backend}

theorem within_gentle {x : DbM α} (h : Within Backend.Untouched x) : Within Backend.Gentle x :=
  h.mono fun _ _ ↦ .of_untouched

theorem update_gentle {run : Database → Except Exc (α × Database)}
    (h : ∀ db a db', run db = .ok (a, db') → KeepsStock db db') :
    Within Backend.Gentle (update run) := by
  intro b
  cases hu : update run b with
  | ok a b' =>
      obtain ⟨db, hr, hl⟩ := update_ok hu
      exact .of_landed hl (h _ _ _ hr)
  | error e b' => exact .of_untouched (update_error hu).1

theorem rollback_gentle : Within Backend.Gentle rollback := fun _ _ hc _ ↦ ⟨hc, hc⟩

theorem commit_gentle : Within Backend.Gentle commit := by
  intro b db hc hw
  rw [commit_apply]
  split
  · exact ⟨hc, hc⟩
  · split
    · exact ⟨hc, hc⟩
    · exact ⟨hw, hw⟩

theorem enqueue_within (task : Task) :
    Within (fun b b' ↦ b'.committed = b.committed ∧ b'.working = b.working) (enqueue task) := by
  intro b
  rw [enqueue_apply]
  dsimp only
  split <;> exact ⟨rfl, rfl⟩

theorem getShopId_gentle (sender : String) : Within Backend.Gentle (getShopId sender) := by
  apply (within_gentle (select_within _)).bind
  intro found
  cases found with
  | some shop => exact .pure _
  | none =>
      refine (within_gentle (ask_within _)).bind fun id ↦ (update_gentle ?_).bind fun shop ↦
        commit_gentle.bind fun _ ↦ (within_gentle (select_within _)).bind fun again ↦ ?_
      · intro db shop db' h
        have hrows := (Database.insertShop_ok h).1
        exact .of_rows (by rw [hrows]) (by rw [hrows])
      · cases again with
        | some shop => exact .pure _
        | none => exact .throw _

theorem commitOr_gentle {flush : DbM α} (hf : Within Backend.Gentle flush) (conflict : Exc) :
    Within Backend.Gentle (ProductService.commitOr flush conflict) := by
  refine .tryCatch (hf.bind fun _ ↦ commit_gentle.bind fun _ ↦ .pure _) fun e ↦ ?_
  cases e with
  | integrityError text => exact rollback_gentle.bind fun _ ↦ .throw _
  | _ => exact .throw _

theorem createProduct_gentle (dep : Deployment) (data : ProductService.ProductCreate) :
    Within Backend.Gentle (ProductService.createProduct dep data) := by
  refine Within.bind (Within.bind (within_gentle (ask_within _)) fun _ ↦ .pure _) fun sku ↦
    (within_gentle (ask_within _)).bind fun id ↦
    (commitOr_gentle (update_gentle ?_) _).bind fun p ↦
    (within_gentle (select_within _)).bind fun found ↦ ?_
  · intro db p db' h
    have hrows := (Database.insertProduct_ok h).1
    exact .of_rows (by rw [hrows]) (by rw [hrows])
  · cases found with
    | some p => exact .pure _
    | none => exact .throw _

theorem addStock_gentle (p : UUID) {q : ℤ} (hq : 0 < q) :
    Within Backend.Gentle (InventoryService.addStock p q) := by
  refine (within_gentle (ask_within _)).bind fun id ↦ (update_gentle ?_).bind fun row ↦
    .tryCatch ((Within.pure _).bind fun _ ↦ commit_gentle.bind fun _ ↦
      (within_gentle (select_within _)).bind fun found ↦ ?_)
      fun e ↦ rollback_gentle.bind fun _ ↦ .throw _
  · intro db row db' h
    obtain ⟨hrow, hw⟩ := Database.addStock_ok h
    exact .of_write hw (by omega)
  · cases found with
    | some row => exact .pure _
    | none => exact .throw _

theorem createStocked_gentle (dep : Deployment) (shopId : UUID) (name : String) (price : ℚ)
    (quantity : ℤ) :
    Within Backend.Gentle (AddProductFlow.createStocked dep shopId name price quantity) := by
  unfold AddProductFlow.createStocked
  split
  · apply (createProduct_gentle dep _).bind
    intro p
    split
    · rename_i hq
      exact (addStock_gentle p.id hq).bind fun _ ↦ .pure _
    · exact .pure _
  · exact .throw _

end Services

/-! ## Handlers -/

/-- A turn of the conversation that is gentle to the rows. -/
abbrev Turn.Gentle (t t' : Turn) : Prop := Backend.Gentle t.backend t'.backend

instance : IsPreorder Turn Turn.Gentle where
  refl t := refl_of Backend.Gentle t.backend
  trans _ _ _ h h' := trans_of Backend.Gentle h h'

section Flow

variable {α : Type}

theorem gentle_onDb {x : DbM α} (h : Within Backend.Gentle x) : Within Turn.Gentle (onDb x) :=
  .zoom h fun _ _ hb ↦ hb

theorem gentle_ofExcept (x : Except Exc α) :
    Within Turn.Gentle (MonadExcept.ofExcept x : FlowM α) := by
  cases x with
  | ok a => exact .pure _
  | error e => exact .throw _

theorem gentle_session : Within Turn.Gentle session := .reads _

theorem gentle_edit (f : SessionContext → SessionContext) : Within Turn.Gentle (editContext f) :=
  .modify fun _ ↦ refl_of Backend.Gentle _

theorem gentle_transition (newState : SessionState) : Within Turn.Gentle (transition newState) :=
  fun _ ↦ .of_rows rfl rfl

theorem gentle_clear : Within Turn.Gentle clearContextPreservingHistory := fun _ ↦ .of_rows rfl rfl

theorem gentle_result (previousState : SessionState) (key : MessageKey) (params : Params) :
    Within Turn.Gentle (buildResult previousState key params) :=
  fun _ ↦ refl_of Backend.Gentle _

theorem gentle_corrupted : Within Turn.Gentle (corrupted : FlowM α) :=
  fun _ ↦ refl_of Backend.Gentle _

theorem gentle_goto (newState previousState : SessionState) (key : MessageKey) (params : Params) :
    Within Turn.Gentle (do
      transition newState
      buildResult previousState key params) :=
  (gentle_transition _).bind fun _ ↦ gentle_result _ _ _

theorem gentle_end (previousState : SessionState) (key : MessageKey) (params : Params) :
    Within Turn.Gentle (do
      transition .IDLE
      clearContextPreservingHistory
      buildResult previousState key params) :=
  (gentle_transition _).bind fun _ ↦ gentle_clear.bind fun _ ↦ gentle_result _ _ _

theorem gentle_shopOfSession : Within Turn.Gentle AddProductFlow.shopOfSession := by
  apply gentle_session.bind
  intro s
  cases s.context.shopId with
  | some id => exact .pure _
  | none =>
      exact (gentle_onDb (getShopId_gentle _)).bind fun _ ↦ (gentle_edit _).bind fun _ ↦ .pure _

theorem gentle_enqueue (task : Task) : Within Turn.Gentle (onDb (enqueue task)) :=
  gentle_onDb ((enqueue_within task).mono fun _ _ h ↦ .of_rows h.1 h.2)

theorem gentle_find (dep : Deployment) (shopId : UUID) (name : String) :
    Within Turn.Gentle (onDb (ProductService.findProductsByFuzzyName dep shopId name)) := by
  refine gentle_onDb (within_gentle ((select_within _).bind fun found ↦ ?_))
  cases found with
  | nil => exact .pure _
  | cons best others =>
      dsimp only
      split <;> exact .pure _

theorem gentle_getStock (p : UUID) : Within Turn.Gentle (onDb (InventoryService.getStock p)) :=
  gentle_onDb (within_gentle (RecordSaleFlow.getStock_within p))

end Flow

variable {dep : Deployment} {text : String} {t t' : Turn} {r : FSMResult}

namespace FSMEngine

open Analytics

theorem handleConfirm_gentle : Within Turn.Gentle (AddProductFlow.handleConfirm dep text) := by
  refine gentle_session.bind fun s ↦ (gentle_ofExcept _).bind fun isConfirmed ↦ ?_
  split
  · exact gentle_end _ _ _
  · split
    · refine Within.bind ?_ fun _ ↦ gentle_end _ _ _
      exact gentle_shopOfSession.bind fun _ ↦ gentle_onDb (createStocked_gentle _ _ _ _ _)
    · exact gentle_ofExcept _

theorem handleSaleProductName_gentle :
    Within Turn.Gentle (RecordSaleFlow.handleSaleProductName dep text) := by
  refine gentle_session.bind fun s ↦ (gentle_onDb (getShopId_gentle _)).bind fun _ ↦
    (gentle_edit _).bind fun _ ↦ (gentle_find _ _ _).bind fun found ↦ ?_
  cases found with
  | notFound => exact gentle_result _ _ _
  | exactMatch m => exact (gentle_edit _).bind fun _ ↦ gentle_goto _ _ _ _
  | ambiguous candidates => exact (gentle_edit _).bind fun _ ↦ gentle_goto _ _ _ _

theorem handleSaleProductQty_gentle :
    Within Turn.Gentle (RecordSaleFlow.handleSaleProductQty dep text) := by
  refine (gentle_ofExcept _).bind fun q ↦ gentle_session.bind fun s ↦ ?_
  split
  · split
    · exact gentle_corrupted
    · apply (gentle_getStock _).bind
      intro row
      split
      · exact gentle_ofExcept _
      · exact (gentle_edit _).bind fun _ ↦ gentle_goto _ _ _ _
  · exact gentle_corrupted

theorem handleStockName_gentle :
    Within Turn.Gentle (StockLookupFlow.handleStockName dep text) := by
  refine (gentle_ofExcept _).bind fun name ↦ gentle_session.bind fun s ↦
    (gentle_onDb (getShopId_gentle _)).bind fun _ ↦ (gentle_edit _).bind fun _ ↦
    (gentle_find _ _ _).bind fun found ↦ ?_
  cases found with
  | notFound => exact (gentle_edit _).bind fun _ ↦ gentle_result _ _ _
  | ambiguous candidates => exact (gentle_edit _).bind fun _ ↦ gentle_goto _ _ _ _
  | exactMatch m => exact (gentle_getStock _).bind fun _ ↦ gentle_end _ _ _

theorem remember_gentle (call : Option ToolCall) :
    Within Turn.Gentle (AnalyticsFlow.remember call) := by
  cases call with
  | none => exact .pure _
  | some call => exact (gentle_onDb (within_gentle (ask_within _))).bind fun _ ↦ gentle_edit _

theorem settle_gentle (outcome : AnalyticsOutcome) :
    Within Turn.Gentle (AnalyticsFlow.settle outcome) := by
  cases outcome with
  | needsSelection candidates pending tool =>
      exact (gentle_transition _).bind fun _ ↦ gentle_edit _
  | answered answer call => exact (gentle_edit _).bind fun _ ↦ remember_gentle call
  | answeredEmpty answer call => exact (gentle_edit _).bind fun _ ↦ remember_gentle call
  | _ => exact .pure _

theorem hasFreshContext_gentle (s : UserSession) :
    Within Backend.Gentle (AnalyticsRoutingPolicy.hasFreshContext dep s) := by
  intro b
  obtain ⟨fresh, b', h, hu⟩ := hasFreshContext_returns dep s b
  rw [h]
  exact .of_untouched hu

theorem canRoute_gentle (s : UserSession) :
    Within Backend.Gentle (AnalyticsRoutingPolicy.canRoute dep s text) := by
  intro b
  obtain ⟨routed, b', h, hu⟩ := canRoute_returns dep s text b
  rw [h]
  exact .of_untouched hu

theorem handleQuery_gentle : Within Turn.Gentle (AnalyticsFlow.handleQuery dep text) := by
  rw [AnalyticsFlow.handleQuery_eq]
  refine gentle_session.bind fun s ↦ (gentle_onDb (getShopId_gentle _)).bind fun _ ↦
    (gentle_edit _).bind fun _ ↦ (gentle_onDb (hasFreshContext_gentle _)).bind fun _ ↦
    (gentle_onDb ?_).bind fun outcome ↦ (settle_gentle outcome).bind fun _ ↦ gentle_result _ _ _
  exact (run_within _ _ _ _).mono fun _ _ ↦ .of_observed

theorem handleProductSelection_gentle :
    Within Turn.Gentle (AnalyticsFlow.handleProductSelection dep text) := by
  rw [AnalyticsFlow.handleProductSelection_eq]
  refine gentle_session.bind fun s ↦ (gentle_ofExcept _).bind fun m ↦ ?_
  split
  · exact gentle_end _ _ _
  · refine (gentle_onDb (getShopId_gentle _)).bind fun _ ↦ (gentle_onDb ?_).bind fun result ↦
      (remember_gentle _).bind fun _ ↦ (gentle_edit _).bind fun _ ↦ gentle_goto _ _ _ _
    exact (execute_within _ _ _ _).mono fun _ _ ↦ .of_observed

theorem enter_gentle (newState : SessionState) (key : MessageKey) :
    Within Turn.Gentle (enter newState key) :=
  gentle_session.bind fun _ ↦
    Within.bind ((gentle_onDb (within_gentle (ask_within _))).bind fun _ ↦ gentle_edit _) fun _ ↦
    gentle_goto _ _ _ _

theorem handleIdle_gentle : Within Turn.Gentle (handleIdle dep text) := by
  apply gentle_session.bind
  intro s
  cases IntentResolver.resolve dep.unicode text with
  | UNKNOWN =>
      apply (gentle_onDb (canRoute_gentle _)).bind
      intro routed
      split
      · exact handleQuery_gentle
      · exact gentle_ofExcept _
  | RECORD_SALE => exact enter_gentle _ _
  | CHECK_STOCK => exact enter_gentle _ _
  | ADD_PRODUCT => exact enter_gentle _ _
  | GENERATE_REPORT =>
      refine Within.bind ((gentle_onDb (within_gentle (ask_within _))).bind fun _ ↦ gentle_edit _)
        fun _ ↦ (gentle_transition _).bind fun _ ↦ Within.bind ?_ fun _ ↦ gentle_goto _ _ _ _
      exact gentle_session.bind fun _ ↦ gentle_shopOfSession.bind fun _ ↦ gentle_enqueue _

/-- Only the confirmation of a sale is not gentle. -/
theorem handler_gentle {state : SessionState} (h : state ≠ .CONFIRM_SALE) :
    Within Turn.Gentle (handler dep state text) := by
  cases state with
  | CONFIRM_SALE => exact absurd rfl h
  | IDLE =>
      rw [handler_idle dep (.inl rfl)]
      exact handleIdle_gentle
  | START_ADD_PRODUCT =>
      rw [handler_idle dep (.inr (.inl rfl))]
      exact handleIdle_gentle
  | REPORT_PENDING =>
      rw [handler_idle dep (.inr (.inr rfl))]
      exact handleIdle_gentle
  | ADD_PRODUCT_NAME =>
      exact gentle_session.bind fun _ ↦ (gentle_ofExcept _).bind fun _ ↦
        (gentle_edit _).bind fun _ ↦ gentle_goto _ _ _ _
  | ADD_PRODUCT_PRICE =>
      exact gentle_session.bind fun _ ↦ (gentle_ofExcept _).bind fun _ ↦
        (gentle_edit _).bind fun _ ↦ gentle_goto _ _ _ _
  | ADD_PRODUCT_QTY =>
      apply gentle_session.bind
      intro s
      split
      · exact (gentle_ofExcept _).bind fun _ ↦ (gentle_edit _).bind fun _ ↦ gentle_goto _ _ _ _
      · exact gentle_ofExcept _
  | CONFIRM_ADD_PRODUCT => exact handleConfirm_gentle
  | RECORD_SALE_PRODUCT => exact handleSaleProductName_gentle
  | RECORD_SALE_PRODUCT_SELECTION =>
      exact gentle_session.bind fun _ ↦ (gentle_ofExcept _).bind fun _ ↦
        (gentle_edit _).bind fun _ ↦ (gentle_transition _).bind fun _ ↦
        (gentle_edit _).bind fun _ ↦ gentle_result _ _ _
  | RECORD_SALE_QTY => exact handleSaleProductQty_gentle
  | CHECK_STOCK_PRODUCT => exact handleStockName_gentle
  | CHECK_STOCK_PRODUCT_SELECTION =>
      exact gentle_session.bind fun _ ↦ (gentle_ofExcept _).bind fun _ ↦
        (gentle_edit _).bind fun _ ↦ (gentle_getStock _).bind fun _ ↦ gentle_end _ _ _
  | ANALYTICS_PRODUCT_SELECTION => exact handleProductSelection_gentle

end FSMEngine

end SokoFlow
