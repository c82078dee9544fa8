import SokoFlow.Alerts
import SokoFlow.ProductSelection
import SokoFlow.Tenants

/-!
# A sale over the phone

Five messages of a phone sell units of a product, in a town where the other
phones write and requests for the other shops are served between them.  Each
message takes the conversation from one prompt to the next, and what happens
between two messages of the phone leaves the prompt and the rows of its shop.
-/

namespace SokoFlow

open DbM Effect FlowM FSMEngine Runs SalesService InventoryService

variable {dep : Deployment} {phone text : String} {env : Env} {t : Turn}

/-! ## One message -/

/-- The message was answered from rows it has not changed, and the session now
waits in this state, with this in its context. -/
structure Turn.Leads (t : Turn) (state : SessionState) (P : SessionContext → Prop) (t' : Turn) :
    Prop where
  backend : Backend.Untouched t.backend t'.backend
  calm : t'.backend.aborted = false
  phone : t'.session.phone = t.session.phone
  state : t'.session.state = state
  context : P t'.session.context

theorem onDb_of_ok {α : Type} {x : DbM α} {a : α} {b : Backend} (h : x t.backend = .ok a b) :
    onDb x t = .ok a { t with backend := b } :=
  zoom_eq_ok.mpr ⟨b, h, rfl⟩

theorem cancel_leads (ha : t.backend.aborted = false) (h : isOverride dep text = true) :
    ∃ r t', processMessage dep text t = .ok r t' ∧ t.Leads .IDLE (fun _ ↦ True) t' := by
  have hreset : ∃ r t', reset t.session.state .FLOW_CANCELLED t = .ok r t' ∧
      t.Leads .IDLE (fun _ ↦ True) t' :=
    ⟨_, _, rfl, ⟨⟨rfl, rfl, rfl, rfl⟩, ha, rfl, rfl, trivial⟩⟩
  unfold processMessage
  rw [session_bind, if_pos h]
  exact hreset

/-- What the handler leads to, the message leads to: a context is not asked for
its errors. -/
theorem leads_of_handler {state : SessionState} {P : SessionContext → Prop}
    (hP : ∀ c : SessionContext, P c → P { c with errorCount := 0 })
    (ho : isOverride dep text = false)
    (h : ∃ r t', handler dep t.session.state text t = .ok r t' ∧ t.Leads state P t') :
    ∃ r t', processMessage dep text t = .ok r t' ∧ t.Leads state P t' := by
  obtain ⟨r, t', hr, hl⟩ := h
  refine ⟨r, _, processMessage_of_ok ho hr, ?_⟩
  exact ⟨hl.backend, hl.calm, hl.phone, hl.state, hP _ hl.context⟩

theorem opening_leads (ha : t.backend.aborted = false) (hs : t.session.state = .IDLE)
    (ho : isOverride dep text = false)
    (hi : IntentResolver.resolve dep.unicode text = .RECORD_SALE) :
    ∃ r t', processMessage dep text t = .ok r t' ∧
      t.Leads .RECORD_SALE_PRODUCT (fun _ ↦ True) t' := by
  apply leads_of_handler (fun _ h ↦ h) ho
  have henter : handler dep t.session.state text t = enter .RECORD_SALE_PRODUCT .START_SALE t := by
    rw [hs]
    change handleIdle dep text t = _
    unfold handleIdle
    rw [session_bind, hi]
  rw [henter]
  exact ⟨_, _, rfl, ⟨⟨rfl, rfl, rfl, rfl⟩, ha, rfl, rfl, trivial⟩⟩

theorem getShopId_listed {sender : String} {shop : Shop} {b : Backend} (hf : b.env.Faultless)
    (ha : b.aborted = false) (h : b.working.shopByPhone sender = some shop) :
    ∃ b', getShopId sender b = .ok shop.id b' ∧ Backend.Untouched b b' ∧ b'.aborted = false := by
  obtain ⟨b', hb, hu, ha'⟩ := select_calm (fun db ↦ db.shopByPhone sender) hf ha
  refine ⟨b', ?_, hu, ha'⟩
  unfold getShopId
  rw [bind_of_ok hb, h]
  rfl

/-- The text names the product better than any other of its shop, and well enough. -/
structure Identifies (dep : Deployment) (text : String) (product : Product) (db : Database) :
    Prop where
  sure : confidentMatchThreshold ≤ likeness dep text product
  clear : ∀ p ∈ db.products, p.shopId = product.shopId → p.id ≠ product.id →
    likeness dep text p < likeness dep text product

theorem find_named {product : Product} {b : Backend} (hf : b.env.Faultless)
    (ha : b.aborted = false) (hmem : product ∈ b.working.products)
    (h : Identifies dep text product b.working) :
    ∃ b', ProductService.findProductsByFuzzyName dep product.shopId text 3 b =
        .ok (.exactMatch (scoredFor dep text product)) b' ∧
      Backend.Untouched b b' ∧ b'.aborted = false := by
  obtain ⟨r, b', hb⟩ := findProductsByFuzzyName_returns hf ha
  obtain ⟨-, hu, ha'⟩ := findProductsByFuzzyName_ok hb
  obtain ⟨m, rfl⟩ := exactMatch_of_confident hmem rfl h.sure hb
  obtain ⟨p, ⟨hp, hshop, hbest⟩, rfl, -⟩ := exactMatch_best hb
  have hid : p.id = product.id := by
    by_contra hne
    exact absurd (h.clear p hp hshop hne) (not_lt.mpr (hbest product hmem rfl))
  rw [eq_of_id hmem hp hid] at hb
  exact ⟨b', hb, hu, ha'⟩

/-- The product a sale is about. -/
structure Chosen (product : Product) (c : SessionContext) : Prop where
  shopId : c.shopId = some product.shopId
  productId : c.productId = some product.id
  productName : c.productName = some product.name
  productPrice : c.productPrice = some product.price

theorem name_leads {product : Product} {shop : Shop} (hf : t.backend.env.Faultless)
    (ha : t.backend.aborted = false) (hs : t.session.state = .RECORD_SALE_PRODUCT)
    (hshop : t.backend.working.shopByPhone t.session.phone = some shop)
    (howned : product.shopId = shop.id) (hmem : product ∈ t.backend.working.products)
    (ho : isOverride dep text = false) (hn : Identifies dep text product t.backend.working) :
    ∃ r t', processMessage dep text t = .ok r t' ∧
      t.Leads .RECORD_SALE_QTY (Chosen product) t' := by
  apply leads_of_handler (fun c h ↦ ⟨h.shopId, h.productId, h.productName, h.productPrice⟩) ho
  rw [hs]
  change ∃ r t', RecordSaleFlow.handleSaleProductName dep text t = .ok r t' ∧ _
  obtain ⟨b₁, hb₁, hu₁, ha₁⟩ := getShopId_listed hf ha hshop
  rw [← hu₁.working] at hmem hn
  obtain ⟨b₂, hb₂, hu₂, ha₂⟩ := find_named (hu₁.env ▸ hf) ha₁ hmem hn
  rw [howned] at hb₂
  have hshopId : onDb (getShopId t.session.phone) t = .ok shop.id { t with backend := b₁ } :=
    onDb_of_ok hb₁
  unfold RecordSaleFlow.handleSaleProductName
  rw [session_bind, bind_of_ok hshopId, editContext_bind, bind_of_ok (onDb_of_ok hb₂)]
  have hu : Backend.Untouched t.backend b₂ := trans_of Backend.Untouched hu₁ hu₂
  refine ⟨_, _, rfl, ⟨⟨hu.env, hu.committed, hu.working, hu.journal⟩, ha₂, rfl, rfl, ?_⟩⟩
  exact ⟨congrArg some howned.symm, rfl, rfl, rfl⟩

/-- The sale the user is asked to confirm. -/
def Orders (product : Product) (quantity : ℤ) (c : SessionContext) : Prop :=
  c.order = some ⟨product.shopId, product.id, product.name, quantity⟩

theorem amount_leads {product : Product} {row : Inventory} {quantity : Quantity}
    (hf : t.backend.env.Faultless) (ha : t.backend.aborted = false)
    (hs : t.session.state = .RECORD_SALE_QTY) (hc : Chosen product t.session.context)
    (hnamed : product.name ≠ "") (hrow : t.backend.working.inventoryOf product.id = some row)
    (henough : quantity.val ≤ row.quantity) (ho : isOverride dep text = false)
    (hq : RecordSaleFlow.parseSaleQuantity dep.unicode text = .ok quantity) :
    ∃ r t', processMessage dep text t = .ok r t' ∧
      t.Leads .CONFIRM_SALE (Orders product quantity.val) t' := by
  apply leads_of_handler (fun c h ↦ h) ho
  rw [hs]
  change ∃ r t', RecordSaleFlow.handleSaleProductQty dep text t = .ok r t' ∧ _
  obtain ⟨b, hb, hu, ha'⟩ := InventoryService.getStock_calm hf ha hrow
  have hparsed : (MonadExcept.ofExcept (RecordSaleFlow.parseSaleQuantity dep.unicode text) :
      FlowM Quantity) t = .ok quantity t := by
    rw [hq]
    rfl
  unfold RecordSaleFlow.handleSaleProductQty
  rw [bind_of_ok hparsed, session_bind, hc.productId, hc.productName, hc.productPrice]
  dsimp only
  rw [if_neg hnamed, bind_of_ok (onDb_of_ok hb), if_neg (not_lt.mpr henough)]
  refine ⟨_, _, rfl, ⟨⟨hu.env, hu.committed, hu.working, hu.journal⟩, ha', rfl, rfl, ?_⟩⟩
  simp [Orders, SessionContext.order, UserSession.moved, UserSession.edit, hc.productId,
    hc.productName, hc.shopId, hnamed]

/-- A confirmed order is sold, and the alert handed over if there is one. -/
theorem confirm_sells {product : Product} {row : Inventory} {quantity : ℤ}
    (hf : t.backend.env.Faultless) (hbroker : ∀ n, t.backend.env.broker n = .done)
    (ha : t.backend.aborted = false) (hs : t.session.state = .CONFIRM_SALE)
    (hc : Orders product quantity t.session.context)
    (hsell : Sellable t.backend.working product.shopId product.id quantity product row)
    (hq : 0 < quantity) (hfits : FitsMoney (product.price * quantity))
    (hconfirms : Confirms dep text) :
    ∃ r t' sale, processMessage dep text t = .ok r t' ∧ t'.session.state = .IDLE ∧
      t'.backend.aborted = false ∧ t'.backend.env = t.backend.env ∧
      SaleWrite product.shopId product.id quantity "System" product row sale t.backend.working
        t'.backend.working ∧
      r.messageKey = .SALE_RECORDED ∧
      ("remaining_stock", .int (row.quantity - quantity)) ∈ r.messageParams := by
  have hby : FitsFreeText 20 (kept 20 "System") := by decide
  obtain ⟨sale, b, hr⟩ := recordSale_accepted hf ha hsell hq hfits hby
  obtain ⟨product', row', db, hw, hl, hleft, -⟩ := recordSale_ok hr
  obtain rfl : product' = product := Option.some.inj (hw.sellable.found.symm.trans hsell.found)
  obtain rfl : row' = row := Option.some.inj (hw.sellable.stocked.symm.trans hsell.stocked)
  have horder : t.session.context.order =
      some ⟨product'.shopId, product'.id, product'.name, quantity⟩ := hc
  have hh := RecordSaleFlow.handleConfirmSaleProduct_of_confirms hconfirms t
  simp only [horder, hr] at hh
  have hdone : ∀ n, b.env.broker n = .done := fun n ↦ by rw [hl.env, hbroker]
  obtain ⟨r, t', hend, henv⟩ : ∃ r t', RecordSaleFlow.conclude t.session
      ⟨product'.shopId, product'.id, product'.name, quantity⟩ sale { t with backend := b } =
        .ok r t' ∧ t'.backend.env = b.env := by
    rw [RecordSaleFlow.conclude_apply]
    dsimp only
    split
    · rw [enqueue_apply]
      have hnow : (later (later { t with backend := b })).backend.env.broker
          (later (later { t with backend := b })).backend.tick = .done := hdone _
      simp only [hnow]
      exact ⟨_, _, rfl, rfl⟩
    · exact ⟨_, _, rfl, rfl⟩
  obtain ⟨hresult, hsession, -, hworking, haborted⟩ := RecordSaleFlow.conclude_ok hend
  have hhandled : handler dep t.session.state text t = .ok r t' := by
    rw [hs]
    exact hh.trans hend
  refine ⟨r, _, sale.sale, processMessage_of_ok hconfirms.not_override hhandled, ?_, ?_,
    henv.trans hl.env, ?_, ?_, ?_⟩
  · change t'.session.state = _
    rw [hsession]
    rfl
  · exact haborted.trans hl.aborted
  · change SaleWrite _ _ _ _ _ _ _ _ t'.backend.working
    rw [hworking, hl.working]
    exact hw
  · rw [hresult]
    rfl
  · rw [hresult, ← hleft]
    exact List.mem_cons_of_mem _ (List.mem_cons_of_mem _ List.mem_cons_self)

/-! ## Between the messages -/

/-- What this phone writes. -/
def Arrival.saidBy (phone : String) : Arrival → Option String
  | .message sender text _ => if sender = phone then some text else none
  | _ => none

/-- The phone is served by a database and a broker that work. -/
def Arrival.ServedWell (phone : String) : Arrival → Prop
  | .message sender _ env => sender = phone → env.Faultless ∧ ∀ n, env.broker n = .done
  | _ => True

/-- The step does not concern the shop, and keeps the session of its phone. -/
def Town.Apart (shop : Shop) (m : Moment Town Arrival) : Prop :=
  ¬ Town.Concerns shop m ∧ m.label ≠ .expiry shop.phone

theorem Town.stored_run {start s : Town} {history : List (Moment Town Arrival)}
    (run : Run (· = start) (Town.Step dep) history s) {shop : Shop}
    (h : ∀ m ∈ history, Town.Apart shop m) : s.stored shop.phone = start.stored shop.phone := by
  induction run with
  | start h₀ => rw [h₀]
  | @next history s s' x run hstep ih =>
      obtain ⟨hold, hlast⟩ := List.forall_mem_append.mp h
      obtain ⟨hconcerns, hexpiry⟩ := hlast _ List.mem_cons_self
      obtain ⟨hnext, -⟩ := hstep
      cases hnext
      rw [← ih hold]
      cases x with
      | message sender text env =>
          exact Function.update_of_ne (fun he ↦ hconcerns he.symm) _ _
      | expiry sender =>
          apply Function.update_of_ne
          rintro rfl
          exact hexpiry rfl
      | request session => rfl

/-- The rows of the shop are those of `db`, and its phone is at this prompt. -/
structure Town.Prompts (shop : Shop) (db : Database) (state : SessionState)
    (P : SessionContext → Prop) (s : Town) : Prop where
  sound : s.Sound
  listed : shop ∈ s.rows.shops
  rows : SameShop shop.id db s.rows
  state : (ConversationStore.current shop.phone (s.stored shop.phone)).state = state
  context : P (ConversationStore.current shop.phone (s.stored shop.phone)).context

namespace Town.Prompts

variable {shop : Shop} {db : Database} {state state' : SessionState}
  {P P' : SessionContext → Prop} {s s' : Town}

theorem apart (h : s.Prompts shop db state P) {history : List (Moment Town Arrival)}
    (run : Run (· = s) (Town.Step dep) history s') (hapart : ∀ m ∈ history, Town.Apart shop m) :
    s'.Prompts shop db state P := by
  have hc := Town.confined_run h.sound run h.listed fun m hm ↦ (hapart m hm).1
  have hstored := Town.stored_run run hapart
  refine ⟨?_, ?_, ?_, ?_, ?_⟩
  · exact Town.sound_run (fun s₀ (hs : s₀ = s) ↦ hs ▸ h.sound) run
  · exact hc.shops shop h.listed fun hn ↦ hn rfl
  · exact h.rows.trans (hc.rows shop.id fun hn ↦ hn rfl)
  · rw [hstored]
    exact h.state
  · rw [hstored]
    exact h.context

theorem shopByPhone (h : s.Prompts shop db state P) :
    s.rows.shopByPhone shop.phone = some shop :=
  Table.lookup_of_mem s.rows.valid.shops.phones h.listed

end Town.Prompts

theorem conversation_of_handled {stored : Option UserSession} {b b' : Backend}
    {processed : Processed}
    (h : handleMessage dep phone text (ConversationStore.current phone stored) b =
      .ok processed b') :
    conversation dep phone text ⟨stored, b⟩ = .ok processed ⟨some processed.session, b'⟩ := by
  have hzoom : zoom Desk.backend (fun b d ↦ { d with backend := b })
      (handleMessage dep phone text (ConversationStore.current phone stored)) ⟨stored, b⟩ =
        .ok processed ⟨stored, b'⟩ := zoom_eq_ok.mpr ⟨b', h, rfl⟩
  have hsaved : ConversationStore.saveSession processed.session stored stored =
      .ok (some processed.session) :=
    if_pos (ConversationStore.accepts_self stored)
  apply (bind_of_ok (reads_apply Desk.stored ⟨stored, b⟩)).trans
  apply (bind_of_ok hzoom).trans
  dsimp only
  rw [hsaved]

/-- A message that was processed on a database that works is committed and saved. -/
theorem hearing_calm {stored : Option UserSession} {rows : Database} {r : FSMResult} {t' : Turn}
    (hf : env.Faultless) (h : processMessage dep text
      ⟨ConversationStore.current phone stored, .connect env rows⟩ = .ok r t')
    (henv : t'.backend.env = env) (ha : t'.backend.aborted = false) :
    (∃ processed, conversation dep phone text ⟨stored, .connect env rows⟩ =
        .ok processed (hearing dep phone text env stored rows) ∧ processed.result = r) ∧
      (hearing dep phone text env stored rows).stored = some t'.session ∧
      (hearing dep phone text env stored rows).backend.committed = t'.backend.working := by
  have hcalm : t'.backend.env.Faultless := henv ▸ hf
  obtain ⟨b₁, h₁, hu₁, ha₁⟩ := select_calm
    (fun db ↦ ((db.shopByPhone phone).map Shop.locale).getD .en) hcalm ha
  obtain ⟨b₂, h₂, hl₂⟩ := commit_calm (hu₁.env ▸ hcalm) ha₁
  have hhandled : ∃ processed : Processed, handleMessage dep phone text
      (ConversationStore.current phone stored) (.connect env rows) = .ok processed b₂ ∧
        processed.result = r := by
    refine ⟨_, (handleMessage_of_ok h).trans (getWorkerDb_eq_ok.mpr ⟨b₁, bind_of_ok h₁, h₂⟩), rfl⟩
  obtain ⟨processed, hh, hr⟩ := hhandled
  have hdone := conversation_of_handled hh
  have hhearing : hearing dep phone text env stored rows = ⟨some processed.session, b₂⟩ := by
    unfold hearing
    rw [hdone]
    rfl
  rw [hhearing]
  obtain ⟨t₁, ht₁, hsession, -⟩ := handleMessage_ok hh
  rw [h] at ht₁
  cases ht₁
  refine ⟨⟨processed, hdone, hr⟩, congrArg some hsession, ?_⟩
  exact hl₂.committed.trans hu₁.working

namespace Town.Prompts

variable {shop : Shop} {db : Database} {state state' : SessionState}
  {P P' : SessionContext → Prop} {s : Town}

theorem sender (h : s.Prompts shop db state P) :
    (ConversationStore.current shop.phone (s.stored shop.phone)).phone = shop.phone := by
  have hown : Turn.Own (fun _ ↦ True) s.rows shop.phone (fun _ ↦ False)
      ⟨ConversationStore.current shop.phone (s.stored shop.phone), .connect .calm s.rows⟩ :=
    own_current (h.sound shop.phone)
  exact hown.sender

/-- The message leads from one prompt to the next. -/
theorem message (h : s.Prompts shop db state P) (hf : env.Faultless)
    (hlead : ∀ t : Turn, t.backend = .connect env s.rows → t.session.phone = shop.phone →
      t.session.state = state → P t.session.context →
        ∃ r t', processMessage dep text t = .ok r t' ∧ t.Leads state' P' t') :
    (s.next dep (.message shop.phone text env)).Prompts shop db state' P' := by
  obtain ⟨r, t', ht', hl⟩ := hlead
    ⟨ConversationStore.current shop.phone (s.stored shop.phone), .connect env s.rows⟩ rfl
    h.sender h.state h.context
  obtain ⟨-, hstored, hcommitted⟩ := hearing_calm hf ht' hl.backend.env hl.calm
  have hrows : (s.next dep (.message shop.phone text env)).rows = s.rows :=
    hcommitted.trans hl.backend.working
  have hsession : (s.next dep (.message shop.phone text env)).stored shop.phone = some t'.session :=
    (Function.update_self _ _ _).trans hstored
  refine ⟨Town.sound_next dep h.sound _, ?_, ?_, ?_, ?_⟩
  · rw [hrows]
    exact h.listed
  · rw [hrows]
    exact h.rows
  · rw [hsession]
    exact hl.state
  · rw [hsession]
    exact hl.context

end Town.Prompts

/-! ## The conversation -/

/-- The phone of the shop wrote these texts and was served well; no other step
concerned the shop. -/
structure Town.Conversed (shop : Shop) (texts : List String)
    (history : List (Moment Town Arrival)) : Prop where
  said : history.filterMap (fun m ↦ m.label.saidBy shop.phone) = texts
  served : ∀ m ∈ history, m.label.ServedWell shop.phone
  apart : ∀ m ∈ history, m.label.saidBy shop.phone = none → Town.Apart shop m

theorem Arrival.eq_of_saidBy {x : Arrival} (h : x.saidBy phone = some text) :
    ∃ env, x = .message phone text env := by
  cases x with
  | message sender written env =>
      by_cases hs : sender = phone
      · have hsaid : some written = some text := (if_pos hs).symm.trans h
        rw [hs, Option.some.inj hsaid]
        exact ⟨env, rfl⟩
      · have hsaid : none = some text := (if_neg hs).symm.trans h
        cases hsaid
  | expiry sender => cases h
  | request session => cases h

/-- The last thing the phone said, what came before it and what after. -/
theorem Town.Conversed.last {start s : Town} {shop : Shop} {past : List String}
    {history : List (Moment Town Arrival)} (h : Town.Conversed shop (past ++ [text]) history)
    (run : Run (· = start) (Town.Step dep) history s) :
    ∃ before env s₀ after,
      ⟨s₀, .message shop.phone text env, s₀.next dep (.message shop.phone text env)⟩ ∈ history ∧
      env.Faultless ∧ (∀ n, env.broker n = .done) ∧ Town.Conversed shop past before ∧
      Run (· = start) (Town.Step dep) before s₀ ∧ (∀ m ∈ after, Town.Apart shop m) ∧
      Run (· = s₀.next dep (.message shop.phone text env)) (Town.Step dep) after s := by
  obtain ⟨before, ⟨s₀, x, s₁⟩, after, rfl, hx, hpast, hafter, hrun, ⟨hnext, -⟩, hrest⟩ :=
    run.split_said h.said
  obtain ⟨env, rfl⟩ := Arrival.eq_of_saidBy hx
  obtain rfl : s₀.next dep (.message shop.phone text env) = s₁ := Option.some.inj hnext
  obtain ⟨hserved, hlast⟩ := List.forall_mem_append.mp h.served
  obtain ⟨hf, hbroker⟩ := hlast _ List.mem_cons_self rfl
  refine ⟨before, env, s₀, after, by simp, hf, hbroker, ⟨hpast, hserved, ?_⟩, hrun, ?_, hrest⟩
  · exact (List.forall_mem_append.mp h.apart).1
  · intro m hm
    exact h.apart m (List.mem_append_right _ (List.mem_cons_of_mem _ hm)) (hafter m hm)

/-- Wherever these texts lead to, the phone is at this prompt. -/
def Town.Awaits (dep : Deployment) (start : Town) (shop : Shop) (texts : List String)
    (state : SessionState) (P : SessionContext → Prop) : Prop :=
  ∀ history s, Run (· = start) (Town.Step dep) history s → Town.Conversed shop texts history →
    s.Prompts shop start.rows state P

namespace Town.Awaits

variable {start : Town} {shop : Shop} {past : List String} {state state' : SessionState}
  {P P' : SessionContext → Prop}

theorem silent (hsound : start.Sound) (hmem : shop ∈ start.rows.shops) :
    Town.Awaits dep start shop []
      (ConversationStore.current shop.phone (start.stored shop.phone)).state fun _ ↦ True := by
  intro history s run h
  have hprompts : start.Prompts shop start.rows
      (ConversationStore.current shop.phone (start.stored shop.phone)).state fun _ ↦ True :=
    ⟨hsound, hmem, .refl _, rfl, trivial⟩
  apply hprompts.apart run
  intro m hm
  exact h.apart m hm (List.filterMap_eq_nil_iff.mp h.said m hm)

/-- One more text leads to the next prompt. -/
theorem next (h : Town.Awaits dep start shop past state P)
    (hlead : ∀ t : Turn, t.backend.env.Faultless → t.backend.aborted = false →
      SameShop shop.id start.rows t.backend.working →
      t.backend.working.shopByPhone t.session.phone = some shop → t.session.state = state →
      P t.session.context → ∃ r t', processMessage dep text t = .ok r t' ∧ t.Leads state' P' t') :
    Town.Awaits dep start shop (past ++ [text]) state' P' := by
  intro history s run hc
  obtain ⟨before, env, s₀, after, -, hf, -, hpast, hrun, hafter, hrest⟩ := hc.last run
  have hprompts := h before s₀ hrun hpast
  have hnext : (s₀.next dep (.message shop.phone text env)).Prompts shop start.rows state' P' := by
    apply hprompts.message hf
    intro t ht hphone hs hP
    have hshop := hprompts.shopByPhone
    apply hlead t
    · rw [ht]
      exact hf
    · rw [ht]
      rfl
    · rw [ht]
      exact hprompts.rows
    · rw [ht, hphone]
      exact hshop
    · exact hs
    · exact hP
  exact hnext.apart hrest hafter

end Town.Awaits

/-- The five messages of a sale: whatever the phone was doing is cancelled first. -/
structure SaleScript (dep : Deployment) (db : Database) (product : Product)
    (quantity : Quantity) where
  cancel : String
  opening : String
  name : String
  amount : String
  confirm : String
  cancels : isOverride dep cancel = true
  goesOn : ∀ text ∈ [opening, name, amount], isOverride dep text = false
  opens : IntentResolver.resolve dep.unicode opening = .RECORD_SALE
  names : Identifies dep name product db
  counts : RecordSaleFlow.parseSaleQuantity dep.unicode amount = .ok quantity
  confirms : Confirms dep confirm

def SaleScript.texts {db : Database} {product : Product} {quantity : Quantity}
    (script : SaleScript dep db product quantity) : List String :=
  [script.cancel, script.opening, script.name, script.amount, script.confirm]

/-- The shop and its rows are as they were, less the units on the row of the
product and with one sale more, at its price. -/
structure Sold (shop : Shop) (product : Product) (row : Inventory) (quantity : ℤ)
    (db db' : Database) : Prop where
  shop : shop ∈ db'.shops
  products : db'.products.filter (·.shopId = product.shopId) =
    db.products.filter (·.shopId = product.shopId)
  left : db'.inventoryOf product.id = some (deducted row quantity)
  others : ∀ p ∈ db.products, p.shopId = product.shopId → p.id ≠ product.id →
    db'.inventoryOf p.id = db.inventoryOf p.id
  sale : ∃ sale : Sale, db'.sales.filter (·.shopId = product.shopId) =
      db.sales.filter (·.shopId = product.shopId) ++ [sale] ∧
    sale.productId = product.id ∧ sale.quantity = quantity ∧ sale.unitPrice = product.price ∧
    sale.total = product.price * quantity

theorem Identifies.of_sameShop {product : Product} {db db' : Database}
    (h : Identifies dep text product db) (hs : SameShop product.shopId db db') :
    Identifies dep text product db' :=
  ⟨h.sure, fun p hp hshop hne ↦ h.clear p ((hs.mem_products hshop).mpr hp) hshop hne⟩

/-- A sale, with steps before and after it that leave the shop alone. -/
theorem Sold.of_saleWrite {shop : Shop} {product : Product} {row : Inventory} {sale : Sale} {quantity : ℤ}
    {recordedBy : String} {db db₀ db₁ db' : Database} (hbefore : SameShop product.shopId db db₀)
    (hw : SaleWrite product.shopId product.id quantity recordedBy product row sale db₀ db₁)
    (hafter : SameShop product.shopId db₁ db') (hshop : shop ∈ db'.shops) :
    Sold shop product row quantity db db' := by
  have hmem : product ∈ db₁.products := by
    rw [hw.products]
    exact (Database.mem_of_product hw.sellable.found).1
  have hsale : sale ∈ db₁.sales := by
    rw [hw.sales]
    exact List.mem_append_right _ List.mem_cons_self
  refine ⟨hshop, ?_, ?_, ?_, sale, ?_, hw.productId, hw.quantity, hw.unitPrice, ?_⟩
  · rw [← hafter.products, hw.products, hbefore.products]
  · rw [← hafter.inventory product hmem rfl]
    exact hw.left
  · intro p hp hshop hne
    have hp₀ := (hbefore.mem_products hshop).mp hp
    have hp₁ : p ∈ db₁.products := hw.products ▸ hp₀
    calc db'.inventoryOf p.id = db₁.inventoryOf p.id := (hafter.inventory p hp₁ hshop).symm
      _ = db₀.inventoryOf p.id := hw.others p.id hne
      _ = db.inventoryOf p.id := (hbefore.inventory p hp hshop).symm
  · rw [← hafter.sales, hw.sales, List.filter_append, hbefore.sales]
    have hown : [sale].filter (·.shopId = product.shopId) = [sale] := by
      simp [hw.shopId]
    rw [hown]
  · rw [db₁.valid.sales.total sale hsale, hw.unitPrice, hw.quantity]

/-- The four messages before the reply lead to the confirmation. -/
theorem awaits_confirmation {start : Town} (hsound : start.Sound) {shop : Shop}
    (hshop : shop ∈ start.rows.shops) {product : Product} (hmem : product ∈ start.rows.products)
    (howned : product.shopId = shop.id) (hnamed : product.name ≠ "") {row : Inventory}
    (hrow : start.rows.inventoryOf product.id = some row) {quantity : Quantity}
    (henough : quantity.val ≤ row.quantity) (script : SaleScript dep start.rows product quantity) :
    Town.Awaits dep start shop [script.cancel, script.opening, script.name, script.amount]
      .CONFIRM_SALE (Orders product quantity.val) := by
  obtain ⟨hopening, hname, hamount⟩ : isOverride dep script.opening = false ∧
      isOverride dep script.name = false ∧ isOverride dep script.amount = false := by
    simpa using script.goesOn
  have hcancelled : Town.Awaits dep start shop [script.cancel] .IDLE fun _ ↦ True := by
    apply (Town.Awaits.silent hsound hshop).next
    intro t hf ha hrows hfound hs hP
    exact cancel_leads ha script.cancels
  have hopened : Town.Awaits dep start shop [script.cancel, script.opening]
      .RECORD_SALE_PRODUCT fun _ ↦ True := by
    apply hcancelled.next
    intro t hf ha hrows hfound hs hP
    exact opening_leads ha hs hopening script.opens
  have hchosen : Town.Awaits dep start shop [script.cancel, script.opening, script.name]
      .RECORD_SALE_QTY (Chosen product) := by
    apply hopened.next
    intro t hf ha hrows hfound hs hP
    have hmem' := (hrows.mem_products howned).mp hmem
    exact name_leads hf ha hs hfound howned hmem' hname (script.names.of_sameShop (howned ▸ hrows))
  apply hchosen.next
  intro t hf ha hrows hfound hs hP
  have hrow' := (hrows.inventory product hmem howned).symm.trans hrow
  exact amount_leads hf ha hs hP hnamed hrow' henough hamount script.counts

/-- Five messages of a phone sell units of a product of its shop, whatever the
other phones write and whatever is served for the other shops between them:
the units are off its row, the sale is recorded at its price, and the user is
told what is left. -/
theorem sale_goes_through {start s : Town} (hstart : start.Reached dep) {shop : Shop}
    (hshop : shop ∈ start.rows.shops) {product : Product} (hmem : product ∈ start.rows.products)
    (howned : product.shopId = shop.id) (hnamed : product.name ≠ "") {row : Inventory}
    (hrow : start.rows.inventoryOf product.id = some row) {quantity : Quantity}
    (henough : quantity.val ≤ row.quantity) (hfits : FitsMoney (product.price * quantity.val))
    (script : SaleScript dep start.rows product quantity) {history : List (Moment Town Arrival)}
    (run : Run (· = start) (Town.Step dep) history s)
    (h : Town.Conversed shop script.texts history) :
    Sold shop product row quantity.val start.rows s.rows ∧
      (ConversationStore.current shop.phone (s.stored shop.phone)).state = .IDLE ∧
      ∃ m ∈ history, ∃ env processed d,
        m.label = .message shop.phone script.confirm env ∧
        conversation dep shop.phone script.confirm
          ⟨m.before.stored shop.phone, .connect env m.before.rows⟩ = .ok processed d ∧
        processed.result.messageKey = .SALE_RECORDED ∧
        ("remaining_stock", .int (row.quantity - quantity.val)) ∈
          processed.result.messageParams := by
  obtain ⟨before, hbefore⟩ := hstart
  have hsound : start.Sound := Town.sound_run (fun _ ↦ Town.sound_new) hbefore
  have hasked := awaits_confirmation hsound hshop hmem howned hnamed hrow henough script
  obtain ⟨past, env, s₀, after, hlast, hf, hbroker, hpast, hrun, hafter, hrest⟩ :
      ∃ past env s₀ after, ⟨s₀, .message shop.phone script.confirm env,
          s₀.next dep (.message shop.phone script.confirm env)⟩ ∈ history ∧ env.Faultless ∧
        (∀ n, env.broker n = .done) ∧
        Town.Conversed shop [script.cancel, script.opening, script.name, script.amount] past ∧
        Run (· = start) (Town.Step dep) past s₀ ∧ (∀ m ∈ after, Town.Apart shop m) ∧
        Run (· = s₀.next dep (.message shop.phone script.confirm env)) (Town.Step dep) after s :=
    h.last run
  have hprompts := hasked past s₀ hrun hpast
  have hrows : SameShop product.shopId start.rows s₀.rows := howned ▸ hprompts.rows
  have hsell : Sellable s₀.rows product.shopId product.id quantity.val product row :=
    ⟨Database.product_of_mem ((hrows.mem_products rfl).mp hmem), rfl,
      (hrows.inventory product hmem rfl).symm.trans hrow, henough⟩
  obtain ⟨r, t', sale, hturn, hidle, ha, henv, hw, hkey, hleft⟩ :=
    confirm_sells (t := ⟨ConversationStore.current shop.phone (s₀.stored shop.phone),
      .connect env s₀.rows⟩) hf hbroker rfl hprompts.state hprompts.context hsell quantity.property
      hfits script.confirms
  obtain ⟨⟨processed, hdone, rfl⟩, hstored, hcommitted⟩ := hearing_calm hf hturn henv ha
  have hmid : (s₀.next dep (.message shop.phone script.confirm env)).rows = t'.backend.working :=
    hcommitted
  rw [← hmid] at hw
  have hlisted : shop ∈ (s₀.next dep (.message shop.phone script.confirm env)).rows.shops := by
    rw [hw.shops]
    exact hprompts.listed
  have hquiet := Town.confined_run (Town.sound_next dep hprompts.sound _) hrest hlisted fun m hm ↦
    (hafter m hm).1
  have hend : SameShop product.shopId (s₀.next dep (.message shop.phone script.confirm env)).rows
      s.rows := hquiet.rows product.shopId fun hn ↦ hn howned
  have hkept : shop ∈ s.rows.shops := hquiet.shops shop hlisted fun hn ↦ hn rfl
  refine ⟨.of_saleWrite hrows hw hend hkept, ?_, _, hlast, env, processed, _, rfl, hdone, hkey, hleft⟩
  rw [Town.stored_run hrest hafter]
  have hsession : (s₀.next dep (.message shop.phone script.confirm env)).stored shop.phone =
      some t'.session := (Function.update_self _ _ _).trans hstored
  rw [hsession]
  exact hidle

/-- Any arrivals make a run. -/
theorem Town.exists_run (dep : Deployment) (start : Town) (arrivals : List Arrival) :
    ∃ history, Run (· = start) (Town.Step dep) history (arrivals.foldl (Town.next dep) start) ∧
      history.map (·.label) = arrivals := by
  induction arrivals using List.reverseRecOn with
  | nil => exact ⟨[], .start rfl, rfl⟩
  | append_singleton arrivals x ih =>
      obtain ⟨history, run, hlabels⟩ := ih
      rw [List.foldl_append]
      refine ⟨_, run.next ⟨rfl, trivial⟩, ?_⟩
      rw [List.map_append, hlabels]
      rfl

theorem six_bottles_pos : (0 : ℤ) < 6 := by
  decide

theorem milk_identified :
    Identifies .sample "Milk" ⟨⟨2⟩, ⟨1⟩, "Milk", "M-AAAAAA", 60⟩ Database.sample := by
  refine ⟨by decide +kernel, fun p hp _ hne ↦ ?_⟩
  rw [List.mem_singleton.mp hp] at hne
  exact absurd rfl hne

theorem cancel_overrides : isOverride .sample "cancel" = true := by
  decide +kernel

theorem sale_texts_go_on :
    ∀ text ∈ ["record sale", "Milk", "6"], isOverride .sample text = false := by
  decide +kernel

theorem record_sale_opens :
    IntentResolver.resolve Deployment.sample.unicode "record sale" = .RECORD_SALE := by
  decide +kernel

theorem yes_confirms : Confirms .sample "yes" := by
  decide +kernel

def sampleScript :
    SaleScript .sample .sample ⟨⟨2⟩, ⟨1⟩, "Milk", "M-AAAAAA", 60⟩ ⟨6, six_bottles_pos⟩ where
  cancel := "cancel"
  opening := "record sale"
  name := "Milk"
  amount := "6"
  confirm := "yes"
  cancels := cancel_overrides
  goesOn := sale_texts_go_on
  opens := record_sale_opens
  names := milk_identified
  counts := rfl
  confirms := yes_confirms

def shopkeeper (text : String) : Arrival := .message "254700000001" text .calm

/-- The shopkeeper sells, and a newcomer writes before the product is named. -/
def sellingDay : List Arrival :=
  ["cancel", "record sale"].map shopkeeper ++ newcomer :: ["Milk", "6", "yes"].map shopkeeper

theorem of_sellingDay {x : Arrival} (h : x ∈ sellingDay) :
    (∃ text, x = shopkeeper text) ∨ x = newcomer := by
  rcases List.mem_append.mp h with h | h
  · obtain ⟨text, -, rfl⟩ := List.mem_map.mp h
    exact .inl ⟨text, rfl⟩
  · rcases List.mem_cons.mp h with rfl | h
    · exact .inr rfl
    · obtain ⟨text, -, rfl⟩ := List.mem_map.mp h
      exact .inl ⟨text, rfl⟩

theorem sale_goes_through_sellingDay :
    Sold ⟨⟨1⟩, "254700000001", some "Dairy", .en⟩ ⟨⟨2⟩, ⟨1⟩, "Milk", "M-AAAAAA", 60⟩
      ⟨⟨3⟩, ⟨2⟩, 10, 5⟩ 6 .sample (sellingDay.foldl (Town.next .sample) quietTown).rows := by
  obtain ⟨history, run, hlabels⟩ := Town.exists_run .sample quietTown sellingDay
  have hday : ∀ m ∈ history, (∃ text, m.label = shopkeeper text) ∨ m.label = newcomer := by
    intro m hm
    apply of_sellingDay
    rw [← hlabels]
    exact List.mem_map_of_mem hm
  have hconversed : Town.Conversed ⟨⟨1⟩, "254700000001", some "Dairy", .en⟩ sampleScript.texts
      history := by
    refine ⟨?_, fun m hm ↦ ?_, fun m hm hquiet ↦ ?_⟩
    · have hsaid : (history.map (·.label)).filterMap (Arrival.saidBy "254700000001") =
          sampleScript.texts := by
        rw [hlabels]
        decide +kernel
      rwa [List.filterMap_map] at hsaid
    · rcases hday m hm with ⟨text, hl⟩ | hl
      · rw [hl]
        exact fun _ ↦ ⟨Env.calm_faultless, fun _ ↦ rfl⟩
      · rw [hl]
        exact fun hphone ↦ absurd hphone (by decide)
    · rcases hday m hm with ⟨text, hl⟩ | hl
      · rw [hl] at hquiet
        cases hquiet
      · refine ⟨fun hconcerns ↦ ?_, fun hexpiry ↦ ?_⟩
        · rw [Town.Concerns, hl] at hconcerns
          have hphone : "254700000002" = "254700000001" := hconcerns
          exact absurd hphone (by decide)
        · rw [hl] at hexpiry
          cases hexpiry
  exact (sale_goes_through ⟨[], .start quietTown_new⟩ List.mem_cons_self List.mem_cons_self rfl
    (by decide) rfl (by decide) (by decide +kernel) sampleScript run hconversed).1

end SokoFlow
