import SokoFlow.Conversation.Refinement

/-!
# What a reachable session holds

A conversation is any list of messages, each handled on any state of the
database and of the world; a session is kept only when its message returns.
-/

namespace SokoFlow

open Dialogue FSMEngine

/-- The session after one message. -/
def hear (dep : Deployment) (s : UserSession) (visit : Backend × String) : UserSession :=
  match processMessage dep visit.2 ⟨s, visit.1⟩ with
  | .ok _ t => t.session
  | .error _ _ => s

/-- The session after a conversation. -/
def talk (dep : Deployment) (s : UserSession) (visits : List (Backend × String)) : UserSession :=
  visits.foldl (hear dep) s

theorem talk_append {dep : Deployment} (s : UserSession) (visits : List (Backend × String))
    (visit : Backend × String) :
    talk dep s (visits ++ [visit]) = hear dep (talk dep s visits) visit := by
  simp [talk]

theorem hear_shows {dep : Deployment} {s : UserSession} (h : ∃ p, Shows s p)
    (visit : Backend × String) : ∃ p, Shows (hear dep s visit) p := by
  obtain ⟨p, hs⟩ := h
  unfold hear
  split
  · rename_i hp
    obtain ⟨p', -, hs'⟩ := processMessage_follows hs hp
    exact ⟨p', hs'⟩
  · exact ⟨p, hs⟩

theorem talk_shows {dep : Deployment} {s : UserSession} (h : ∃ p, Shows s p)
    (visits : List (Backend × String)) : ∃ p, Shows (talk dep s visits) p := by
  induction visits generalizing s with
  | nil => exact h
  | cons visit visits ih => exact ih (hear_shows h visit)

/-! ## The fields each state needs -/

/-- No flow has left anything in the context. -/
structure Blank (c : SessionContext) : Prop where
  productId : c.productId = none
  productName : c.productName = none
  productPrice : c.productPrice = none
  productQty : c.productQty = none
  productCandidates : c.productCandidates = []
  pendingAnalyticsCall : c.pendingAnalyticsCall = none

def NameSet (c : SessionContext) : Prop :=
  ∃ name, c.productName = some name ∧ 2 ≤ Text.len name ∧ Text.len name ≤ 100

def PriceSet (c : SessionContext) : Prop := ∃ price, c.productPrice = some price ∧ 0 < price

/-- A choice in a shop is open. -/
structure ChoiceOpen (c : SessionContext) : Prop where
  shopId : c.shopId ≠ none
  productCandidates : c.productCandidates ≠ []

/-- A sale is about a product of a shop. -/
structure SaleOpen (c : SessionContext) : Prop where
  shopId : c.shopId ≠ none
  productId : c.productId ≠ none
  productName : ∃ name, c.productName = some name ∧ name ≠ ""
  productPrice : c.productPrice ≠ none
  productCandidates : c.productCandidates = []

/-- A tool call that takes one product waits for the choice of it. -/
structure CallPending (c : SessionContext) : Prop where
  productCandidates : c.productCandidates ≠ []
  pendingAnalyticsCall : ∃ call, c.pendingAnalyticsCall = some call ∧
    call.candidates = c.productCandidates ∧
    (call.toolName = "get_stock_level" ∨ call.toolName = "get_product_price")

/-- The context holds what the state needs. -/
def ContextOk (s : UserSession) : Prop :=
  let c := s.context
  match s.state with
  | .IDLE | .ADD_PRODUCT_NAME | .RECORD_SALE_PRODUCT | .CHECK_STOCK_PRODUCT => Blank c
  | .ADD_PRODUCT_PRICE => NameSet c
  | .ADD_PRODUCT_QTY => NameSet c ∧ PriceSet c
  | .CONFIRM_ADD_PRODUCT => NameSet c ∧ PriceSet c ∧ ∃ q, c.productQty = some q ∧ 0 ≤ q
  | .RECORD_SALE_PRODUCT_SELECTION | .CHECK_STOCK_PRODUCT_SELECTION => ChoiceOpen c
  | .RECORD_SALE_QTY => SaleOpen c
  | .CONFIRM_SALE => SaleOpen c ∧ ∃ q, c.productQty = some q ∧ 1 ≤ q
  | .ANALYTICS_PRODUCT_SELECTION => CallPending c
  -- left within the message that enters them, or never entered
  | .REPORT_PENDING | .START_ADD_PRODUCT => False

theorem Blank.of_content {c : SessionContext} (h : contentOf c = {}) : Blank c := by
  simp only [contentOf, Content.mk.injEq] at h
  exact ⟨h.1, h.2.1, h.2.2.1, h.2.2.2.1, h.2.2.2.2.1, h.2.2.2.2.2⟩

/-- A phase holds what its state needs, so a session that shows it does. -/
theorem Shows.contextOk {s : UserSession} {p : Phase} (h : Shows s p) : ContextOk s := by
  have hstate := h.state
  have hc := h.content
  have hshop := h.shop
  unfold ContextOk
  rw [hstate]
  have hset : ∀ shop, p.shop = some shop → s.context.shopId ≠ none := by
    intro shop hp hn
    rw [hshop shop hp] at hn
    cases hn
  have item_open : ∀ shop (item : Item), p.shop = some shop →
      p.content.productId = some item.id → p.content.productName = some item.name →
      p.content.productPrice = some item.price → p.content.productCandidates = [] →
      SaleOpen s.context := by
    intro shop item h₀ h₁ h₂ h₃ h₄
    rw [← hc] at h₁ h₂ h₃ h₄
    exact ⟨hset shop h₀, Option.ne_none_iff_exists'.mpr ⟨_, h₁⟩, ⟨_, h₂, item.named⟩,
      Option.ne_none_iff_exists'.mpr ⟨_, h₃⟩, h₄⟩
  cases p with
  | idle => exact .of_content h.content
  | addName => exact .of_content h.content
  | saleName => exact .of_content h.content
  | stockName => exact .of_content h.content
  | addPrice name => exact ⟨name.val, congrArg (·.productName) hc, name.property⟩
  | addQty name price =>
      exact ⟨⟨name.val, congrArg (·.productName) hc, name.property⟩,
        ⟨price.val, congrArg (·.productPrice) hc, price.property.1⟩⟩
  | confirmAdd name price quantity =>
      exact ⟨⟨name.val, congrArg (·.productName) hc, name.property⟩,
        ⟨price.val, congrArg (·.productPrice) hc, price.property.1⟩,
        ⟨quantity.val, congrArg (·.productQty) hc, quantity.property⟩⟩
  | saleChoice shop choices named =>
      have hl : s.context.productCandidates = choices.val := congrArg (·.productCandidates) hc
      exact ⟨hset shop rfl, hl ▸ choices.property⟩
  | stockChoice shop choices =>
      have hl : s.context.productCandidates = choices.val := congrArg (·.productCandidates) hc
      exact ⟨hset shop rfl, hl ▸ choices.property⟩
  | saleQty shop item => exact item_open shop item rfl rfl rfl rfl rfl
  | confirmSale shop item quantity =>
      exact ⟨item_open shop item rfl rfl rfl rfl rfl,
        ⟨quantity.val, congrArg (·.productQty) hc, quantity.property⟩⟩
  | analyticsChoice choices tool arguments =>
      have hl : s.context.productCandidates = choices.val := congrArg (·.productCandidates) hc
      exact ⟨hl ▸ choices.property, _, congrArg (·.pendingAnalyticsCall) hc, hl.symm, tool.property⟩

/-- After any conversation the context holds exactly what the state needs. -/
theorem context_of_reachable (dep : Deployment) (phone : String)
    (visits : List (Backend × String)) :
    ContextOk (talk dep (UserSession.fresh phone) visits) := by
  obtain ⟨p, hs⟩ : ∃ p, Shows (talk dep (UserSession.fresh phone) visits) p :=
    talk_shows ⟨.idle, Shows.fresh phone⟩ visits
  exact Shows.contextOk hs

end SokoFlow
