import Mathlib.Data.List.Chain
import SokoFlow.Conversation.Confirmation
import SokoFlow.Reachable

/-!
# The walk of the machine

The history of a session, followed by its state, is the path the machine has
taken.  A handler that returns makes that path longer along the edges of the
machine, and nothing ever shortens it.
-/

namespace SokoFlow

open Effect FlowM FSMEngine

/-- The states one transition leads to. -/
def SessionState.successors : SessionState → List SessionState
  | .IDLE => [.ADD_PRODUCT_NAME, .RECORD_SALE_PRODUCT, .CHECK_STOCK_PRODUCT, .REPORT_PENDING,
      .ANALYTICS_PRODUCT_SELECTION]
  | .ADD_PRODUCT_NAME => [.ADD_PRODUCT_PRICE, .IDLE]
  | .ADD_PRODUCT_PRICE => [.ADD_PRODUCT_QTY, .IDLE]
  | .ADD_PRODUCT_QTY => [.CONFIRM_ADD_PRODUCT, .IDLE]
  | .RECORD_SALE_PRODUCT => [.RECORD_SALE_PRODUCT_SELECTION, .RECORD_SALE_QTY, .IDLE]
  | .RECORD_SALE_PRODUCT_SELECTION => [.RECORD_SALE_QTY, .IDLE]
  | .RECORD_SALE_QTY => [.CONFIRM_SALE, .IDLE]
  | .CHECK_STOCK_PRODUCT => [.CHECK_STOCK_PRODUCT_SELECTION, .IDLE]
  | .START_ADD_PRODUCT | .CONFIRM_ADD_PRODUCT | .CONFIRM_SALE | .CHECK_STOCK_PRODUCT_SELECTION
  | .REPORT_PENDING | .ANALYTICS_PRODUCT_SELECTION => [.IDLE]

/-- One edge of the machine. -/
def Edge (s s' : SessionState) : Prop := s' ∈ s.successors

instance (s s' : SessionState) : Decidable (Edge s s') := inferInstanceAs (Decidable (_ ∈ _))

/-- What one message may add to a walk that has come to `s`. -/
def Allowed (s : SessionState) (path : List SessionState) : Prop :=
  path.length ≤ 2 ∧ (s :: path).IsChain Edge

instance (s : SessionState) (path : List SessionState) : Decidable (Allowed s path) :=
  inferInstanceAs (Decidable (_ ∧ _))

theorem Allowed.nil (s : SessionState) : Allowed s [] := ⟨Nat.zero_le 2, List.isChain_singleton s⟩

/-- The history and the state it has led to. -/
def UserSession.trail (s : UserSession) : List SessionState := s.context.history ++ [s.state]

theorem UserSession.trail_moved {s : UserSession} {newState : SessionState} (h : s.state ≠ newState)
    (now : Timestamp) : (s.moved newState now).trail = s.trail ++ [newState] := by
  simp [trail, moved, h]

theorem UserSession.trail_moved_self {s : UserSession} {newState : SessionState}
    (h : s.state = newState) (now : Timestamp) : (s.moved newState now).trail = s.trail := by
  simp [trail, moved, h]

/-! ## What a handler adds -/

/-- From state `s` the program adds one of the paths of `P` to the walk. -/
def Walks {α : Type} (P : List SessionState → Prop) (s : SessionState) (x : FlowM α) : Prop :=
  ∀ t a t', t.session.state = s → x t = .ok a t' →
    ∃ path, P path ∧ t'.session.trail = t.session.trail ++ path

/-- The program does not move the machine. -/
abbrev Stays {α : Type} (x : FlowM α) : Prop := Keeps (fun t : Turn ↦ t.session.trail) x

section Rules

variable {α β : Type} {P : List SessionState → Prop} {s : SessionState} {x : FlowM α}
  {f : α → FlowM β}

theorem stays_onDb (y : DbM α) : Stays (onDb y) :=
  .zoom (fun _ _ ↦ by rfl) y

theorem stays_ofExcept (y : Except Exc α) : Stays (MonadExcept.ofExcept y : FlowM α) := by
  cases y with
  | ok a => exact .pure a
  | error e => exact .throw e

theorem stays_edit {g : SessionContext → SessionContext} (h : ∀ c, (g c).history = c.history) :
    Stays (editContext g) := .modify fun t ↦ by
  change (g t.session.context).history ++ _ = _
  rw [h]
  rfl

theorem stays_corrupted : Stays (corrupted : FlowM α) := fun _ _ _ h ↦ by cases h

theorem Walks.of_stays (h : P []) (hx : Stays x) : Walks P s x :=
  fun t a t' _ ht ↦ ⟨[], h, by rw [List.append_nil]; exact hx t a t' ht⟩

theorem Walks.after (hx : Stays x) (hf : ∀ a, Walks P s (f a)) : Walks P s (x >>= f) := by
  intro t b t'' hs h
  obtain ⟨a, t', h₁, h₂⟩ := bind_eq_ok.mp h
  have hkept : t'.session.trail = t.session.trail := hx t a t' h₁
  have hstate : t'.session.state = t.session.state := by
    have := congrArg List.getLast? hkept
    simpa [UserSession.trail] using this
  obtain ⟨path, hp, hpath⟩ := hf a t' b t'' (hstate.trans hs) h₂
  exact ⟨path, hp, hkept ▸ hpath⟩

theorem Walks.before (hx : Walks P s x) (hf : ∀ a, Stays (f a)) : Walks P s (x >>= f) := by
  intro t b t'' hs h
  obtain ⟨a, t', h₁, h₂⟩ := bind_eq_ok.mp h
  obtain ⟨path, hp, hpath⟩ := hx t a t' hs h₁
  exact ⟨path, hp, (hf a t' b t'' h₂).trans hpath⟩

theorem Walks.reading {f : UserSession → FlowM β} (h : ∀ u : UserSession, u.state = s → Walks P s (f u)) :
    Walks P s (session >>= f) :=
  fun t b t' hs ht ↦ h t.session hs t b t' hs ht

/-- A transition adds an edge, and the rest goes on from there. -/
theorem Walks.step {newState : SessionState} {f : Unit → FlowM β} (h : s ≠ newState)
    (hf : Walks (fun path ↦ P (newState :: path)) newState (f ())) :
    Walks P s (transition newState >>= f) := by
  rintro t b t' rfl ht
  rw [transition_bind] at ht
  obtain ⟨path, hp, hpath⟩ := hf _ _ _ rfl ht
  refine ⟨newState :: path, hp, ?_⟩
  rw [hpath, UserSession.trail_moved h, List.append_assoc]
  rfl

theorem stays_clear (previousState : SessionState) (key : MessageKey) (params : Params) :
    Stays (do
      clearContextPreservingHistory
      buildResult previousState key params) := fun _ _ _ h ↦ by
  cases h
  rfl

theorem Walks.goto {newState : SessionState} (h : s ≠ newState) (hP : P [newState])
    (previousState : SessionState) (key : MessageKey) (params : Params) :
    Walks P s (do
      transition newState
      buildResult previousState key params) :=
  .step h (.of_stays hP (.reads _))

theorem Walks.close (h : s ≠ .IDLE) (hP : P [.IDLE]) (previousState : SessionState)
    (key : MessageKey) (params : Params) :
    Walks P s (do
      transition .IDLE
      clearContextPreservingHistory
      buildResult previousState key params) :=
  .step h (.of_stays hP (stays_clear _ _ _))

end Rules

/-! ## The handlers -/

variable {dep : Deployment} {text : String}

/-- A handler of state `s` adds an allowed path. -/
abbrev Handles (s : SessionState) (x : FlowM FSMResult) : Prop := Walks (Allowed s) s x

theorem handleName_walks : Handles .ADD_PRODUCT_NAME (AddProductFlow.handleName text) :=
  .after (.reads _) fun _ ↦ .after (stays_ofExcept _) fun _ ↦
    .after (stays_edit fun _ ↦ rfl) fun _ ↦ .goto (by decide) (by decide) _ _ _

theorem handlePrice_walks : Handles .ADD_PRODUCT_PRICE (AddProductFlow.handlePrice dep text) :=
  .after (.reads _) fun _ ↦ .after (stays_ofExcept _) fun _ ↦
    .after (stays_edit fun _ ↦ rfl) fun _ ↦ .goto (by decide) (by decide) _ _ _

theorem handleQty_walks : Handles .ADD_PRODUCT_QTY (AddProductFlow.handleQty dep text) := by
  refine .after (.reads _) fun s ↦ ?_
  split
  · exact .after (stays_ofExcept _) fun _ ↦ .after (stays_edit fun _ ↦ rfl) fun _ ↦
      .goto (by decide) (by decide) _ _ _
  · exact .of_stays (.nil _) (stays_ofExcept _)

theorem stays_shopOfSession : Stays AddProductFlow.shopOfSession := by
  refine .bind (.reads _) fun s ↦ ?_
  cases s.context.shopId with
  | some id => exact .pure _
  | none =>
      exact .bind (stays_onDb _) fun _ ↦ .bind (stays_edit fun _ ↦ rfl) fun _ ↦ .pure _

theorem handleConfirm_walks :
    Handles .CONFIRM_ADD_PRODUCT (AddProductFlow.handleConfirm dep text) := by
  refine .after (.reads _) fun s ↦ .after (stays_ofExcept _) fun isConfirmed ↦ ?_
  split
  · exact .close (by decide) (by decide) _ _ _
  · split
    · refine .after (.bind stays_shopOfSession fun _ ↦ stays_onDb _) fun _ ↦ ?_
      exact .close (by decide) (by decide) _ _ _
    · exact .of_stays (.nil _) (stays_ofExcept _)

theorem handleSaleProductName_walks :
    Handles .RECORD_SALE_PRODUCT (RecordSaleFlow.handleSaleProductName dep text) := by
  refine .after (.reads _) fun s ↦ .after (stays_onDb _) fun shopId ↦
    .after (stays_edit fun _ ↦ rfl) fun _ ↦ .after (stays_onDb _) fun found ↦ ?_
  cases found with
  | notFound => exact .of_stays (.nil _) (.reads _)
  | exactMatch m =>
      exact .after (stays_edit fun _ ↦ rfl) fun _ ↦ .goto (by decide) (by decide) _ _ _
  | ambiguous candidates =>
      exact .after (stays_edit fun _ ↦ rfl) fun _ ↦ .goto (by decide) (by decide) _ _ _

theorem handleSaleProductSelection_walks : Handles .RECORD_SALE_PRODUCT_SELECTION
    (RecordSaleFlow.handleSaleProductSelection dep text) :=
  .after (.reads _) fun _ ↦ .after (stays_ofExcept _) fun _ ↦ .after (stays_edit fun _ ↦ rfl) fun _ ↦
    .step (by decide) (.of_stays (by decide) (.bind (stays_edit fun _ ↦ rfl) fun _ ↦ .reads _))

theorem handleSaleProductQty_walks :
    Handles .RECORD_SALE_QTY (RecordSaleFlow.handleSaleProductQty dep text) := by
  refine .after (stays_ofExcept _) fun quantity ↦ .after (.reads _) fun s ↦ ?_
  split
  · split
    · exact .of_stays (.nil _) stays_corrupted
    · refine .after (stays_onDb _) fun row ↦ ?_
      split
      · exact .of_stays (.nil _) (stays_ofExcept _)
      · exact .after (stays_edit fun _ ↦ rfl) fun _ ↦ .goto (by decide) (by decide) _ _ _
  · exact .of_stays (.nil _) stays_corrupted

theorem stays_attemptSale (productId : UUID) (unitsSold : ℤ) :
    Stays (RecordSaleFlow.attemptSale productId unitsSold) := by
  intro t sale t' h
  rcases tryCatch_eq_ok.mp h with h | ⟨e, t₁, -, h⟩
  · unfold RecordSaleFlow.recordSaleTransaction at h
    rw [session_bind] at h
    cases hs : t.session.context.shopId with
    | none =>
        rw [hs] at h
        cases h
    | some shopId =>
        rw [hs] at h
        exact stays_onDb _ _ _ _ h
  · cases h

theorem handleConfirmSaleProduct_walks :
    Handles .CONFIRM_SALE (RecordSaleFlow.handleConfirmSaleProduct dep text) := by
  refine .after (.reads _) fun s ↦ .after (stays_ofExcept _) fun isConfirmed ↦ ?_
  split
  · exact .close (by decide) (by decide) _ _ _
  · split
    · split
      · exact .of_stays (.nil _) stays_corrupted
      · refine .after (stays_attemptSale _ _) fun sale ↦ .step (by decide) (.of_stays (by decide) ?_)
        refine .bind (fun _ _ _ h ↦ by cases h; rfl) fun _ ↦ .bind ?_ fun _ ↦ .reads _
        split
        · exact stays_onDb _
        · exact .pure _
    · exact .of_stays (.nil _) stays_corrupted

theorem handleStockName_walks :
    Handles .CHECK_STOCK_PRODUCT (StockLookupFlow.handleStockName dep text) := by
  refine .after (stays_ofExcept _) fun name ↦ .after (.reads _) fun s ↦
    .after (stays_onDb _) fun shopId ↦ .after (stays_edit fun _ ↦ rfl) fun _ ↦
    .after (stays_onDb _) fun found ↦ ?_
  cases found with
  | notFound => exact .of_stays (.nil _) (.bind (stays_edit fun _ ↦ rfl) fun _ ↦ .reads _)
  | ambiguous candidates =>
      exact .after (stays_edit fun _ ↦ rfl) fun _ ↦ .goto (by decide) (by decide) _ _ _
  | exactMatch m =>
      exact .after (stays_onDb _) fun _ ↦ .close (by decide) (by decide) _ _ _

theorem handleStockProductSelection_walks : Handles .CHECK_STOCK_PRODUCT_SELECTION
    (StockLookupFlow.handleStockProductSelection dep text) :=
  .after (.reads _) fun _ ↦ .after (stays_ofExcept _) fun _ ↦ .after (stays_edit fun _ ↦ rfl) fun _ ↦
    .after (stays_onDb _) fun _ ↦ .close (by decide) (by decide) _ _ _

theorem stays_remember (call : Option Analytics.ToolCall) :
    Stays (AnalyticsFlow.remember call) := by
  cases call with
  | none => exact .pure _
  | some call => exact .bind (stays_onDb _) fun _ ↦ stays_edit fun _ ↦ rfl

theorem settle_walks (outcome : Analytics.AnalyticsOutcome) :
    Walks (Allowed .IDLE) .IDLE (AnalyticsFlow.settle outcome) := by
  have hanswered (call : Option Analytics.ToolCall) : Stays (do
      editContext fun c ↦ { c with errorCount := 0 }
      AnalyticsFlow.remember call) :=
    .bind (stays_edit fun _ ↦ rfl) fun _ ↦ stays_remember call
  cases outcome with
  | needsSelection candidates pending tool =>
      exact .step (by decide) (.of_stays (by decide) (stays_edit fun _ ↦ rfl))
  | answered answer call => exact .of_stays (.nil _) (hanswered call)
  | answeredEmpty answer call => exact .of_stays (.nil _) (hanswered call)
  | _ => exact .of_stays (.nil _) (.pure _)

theorem handleQuery_walks : Handles .IDLE (AnalyticsFlow.handleQuery dep text) := by
  rw [AnalyticsFlow.handleQuery_eq]
  refine .after (.reads _) fun s ↦ .after (stays_onDb _) fun shopId ↦
    .after (stays_edit fun _ ↦ rfl) fun _ ↦ .after (stays_onDb _) fun fresh ↦
    .after (stays_onDb _) fun outcome ↦ ?_
  exact .before (settle_walks outcome) fun _ ↦ .reads _

theorem handleProductSelection_walks : Handles .ANALYTICS_PRODUCT_SELECTION
    (AnalyticsFlow.handleProductSelection dep text) := by
  rw [AnalyticsFlow.handleProductSelection_eq]
  refine .after (.reads _) fun s ↦ .after (stays_ofExcept _) fun m ↦ ?_
  split
  · exact .close (by decide) (by decide) _ _ _
  · refine .after (stays_onDb _) fun shopId ↦ .after (stays_onDb _) fun result ↦ ?_
    exact .after (stays_remember _) fun _ ↦ .after (stays_edit fun _ ↦ rfl) fun _ ↦
      .goto (by decide) (by decide) _ _ _

theorem stays_startFlow : Stays startFlow :=
  .bind (stays_onDb _) fun _ ↦ stays_edit fun _ ↦ rfl

theorem enter_walks {newState : SessionState} (h : newState ≠ .IDLE) (key : MessageKey)
    (hs : newState ∈ SessionState.IDLE.successors) : Handles .IDLE (enter newState key) :=
  .after (.reads _) fun _ ↦ .after stays_startFlow fun _ ↦
    .goto h.symm ⟨by simp, by simpa [Edge] using hs⟩ _ _ _

theorem handleIdle_walks : Handles .IDLE (handleIdle dep text) := by
  refine .after (.reads _) fun s ↦ ?_
  cases IntentResolver.resolve dep.unicode text with
  | UNKNOWN =>
      refine .after (stays_onDb _) fun routed ↦ ?_
      split
      · exact handleQuery_walks
      · exact .of_stays (.nil _) (stays_ofExcept _)
  | RECORD_SALE => exact enter_walks (by decide) _ (by decide)
  | CHECK_STOCK => exact enter_walks (by decide) _ (by decide)
  | ADD_PRODUCT => exact enter_walks (by decide) _ (by decide)
  | GENERATE_REPORT =>
      -- the report is asked for between the two edges
      refine .after stays_startFlow fun _ ↦ .step (by decide) (.after ?_ fun _ ↦
        .goto (by decide) (by decide) _ _ _)
      exact .bind (.reads _) fun _ ↦ .bind stays_shopOfSession fun _ ↦ stays_onDb _

/-- A state the machine can stop in. -/
def SessionState.Resting (s : SessionState) : Prop := s ≠ .START_ADD_PRODUCT ∧ s ≠ .REPORT_PENDING

theorem handler_walks {s : SessionState} (h : s.Resting) : Handles s (handler dep s text) := by
  cases s with
  | IDLE =>
      rw [handler_idle dep (.inl rfl)]
      exact handleIdle_walks
  | START_ADD_PRODUCT => exact absurd rfl h.1
  | ADD_PRODUCT_NAME => exact handleName_walks
  | ADD_PRODUCT_PRICE => exact handlePrice_walks
  | ADD_PRODUCT_QTY => exact handleQty_walks
  | CONFIRM_ADD_PRODUCT => exact handleConfirm_walks
  | RECORD_SALE_PRODUCT => exact handleSaleProductName_walks
  | RECORD_SALE_PRODUCT_SELECTION => exact handleSaleProductSelection_walks
  | RECORD_SALE_QTY => exact handleSaleProductQty_walks
  | CONFIRM_SALE => exact handleConfirmSaleProduct_walks
  | CHECK_STOCK_PRODUCT => exact handleStockName_walks
  | CHECK_STOCK_PRODUCT_SELECTION => exact handleStockProductSelection_walks
  | REPORT_PENDING => exact absurd rfl h.2
  | ANALYTICS_PRODUCT_SELECTION => exact handleProductSelection_walks

/-! ## Messages -/

/-- Going back to `IDLE` adds at most that edge. -/
theorem reset_walks (s : SessionState) (previousState : SessionState) (key : MessageKey) :
    Handles s (reset previousState key) := by
  intro t r t' hs h
  cases h
  by_cases hi : s = .IDLE
  · refine ⟨[], .nil s, ?_⟩
    rw [List.append_nil]
    exact UserSession.trail_moved_self (hs.trans hi) (time t)
  · refine ⟨[.IDLE], ⟨by decide, ?_⟩, UserSession.trail_moved (hs ▸ hi) (time t)⟩
    have hedge : Edge s .IDLE := by cases s <;> first | decide | exact absurd rfl hi
    simpa using hedge

/-- A message adds an allowed path to the walk. -/
theorem processMessage_walks {s : SessionState} (hs : s.Resting) :
    Handles s (processMessage dep text) := by
  rintro t r t' rfl h
  rcases processMessage_ok h with ⟨-, hk⟩ | ⟨-, t₁, hk, rfl⟩ | ⟨-, m, k, ps, t₁, -, hsame, -, hk⟩
  · exact reset_walks _ _ _ t r t' rfl hk
  · exact handler_walks hs t r t₁ rfl hk
  · rcases onInvalidInput_ok hk with ⟨-, h⟩ | ⟨-, rfl⟩
    · obtain ⟨path, hp, hpath⟩ := reset_walks t.session.state _ _ _ r t'
        (congrArg UserSession.state hsame) h
      exact ⟨path, hp, by rw [hpath, ← hsame]⟩
    · refine ⟨[], .nil _, ?_⟩
      rw [List.append_nil, ← hsame]
      rfl

theorem Dialogue.Phase.resting (p : Dialogue.Phase) : p.state.Resting := by
  cases p <;> simp [SessionState.Resting, Dialogue.Phase.state]

/-- In a session that shows a phase, a message adds an allowed path. -/
theorem hear_walks {s : UserSession} (h : ∃ p, Dialogue.Shows s p) (visit : Backend × String) :
    ∃ path, Allowed s.state path ∧ (hear dep s visit).trail = s.trail ++ path := by
  obtain ⟨p, hs⟩ := h
  unfold hear
  split
  · rename_i hp
    exact processMessage_walks (hs.state ▸ p.resting) _ _ _ rfl hp
  · exact ⟨[], .nil _, by rw [List.append_nil]⟩

/-- A walk goes on from the state it has come to. -/
theorem trail_isChain_append {s : UserSession} {path : List SessionState}
    (hs : s.trail.IsChain Edge) (hp : (s.state :: path).IsChain Edge) :
    (s.trail ++ path).IsChain Edge := by
  unfold UserSession.trail at hs ⊢
  rw [List.append_assoc, List.singleton_append]
  exact List.isChain_split.mpr ⟨hs, hp⟩

/-- The history and the state are a walk of the machine from `IDLE`, and one
more message makes it longer by at most two edges. -/
theorem history_is_walk (dep : Deployment) (phone : String) (visits : List (Backend × String)) :
    let s := talk dep (UserSession.fresh phone) visits
    s.trail.head? = some .IDLE ∧ s.trail.IsChain Edge ∧
      ∀ visit, ∃ path : List SessionState, path.length ≤ 2 ∧
        (hear dep s visit).trail = s.trail ++ path := by
  have hshows (more : List (Backend × String)) :
      ∃ p, Dialogue.Shows (talk dep (UserSession.fresh phone) more) p :=
    talk_shows ⟨.idle, .fresh phone⟩ more
  have hwalk : (talk dep (UserSession.fresh phone) visits).trail.head? = some .IDLE ∧
      (talk dep (UserSession.fresh phone) visits).trail.IsChain Edge := by
    induction visits using List.reverseRecOn with
    | nil => exact ⟨rfl, .singleton _⟩
    | append_singleton visits visit ih =>
        obtain ⟨path, hp, hpath⟩ := hear_walks (hshows visits) visit
        rw [talk_append, hpath]
        refine ⟨?_, trail_isChain_append ih.2 hp.2⟩
        rw [List.head?_append, ih.1]
        rfl
  refine ⟨hwalk.1, hwalk.2, fun visit ↦ ?_⟩
  obtain ⟨path, hp, hpath⟩ := hear_walks (hshows visits) visit
  exact ⟨path, hp.1, hpath⟩

end SokoFlow
