import SokoFlow.Conversation.FollowUp
import SokoFlow.Services.Tenancy

/-!
# Whose rows a message works on

A message works on the shop of its sender: the session of a phone only ever
knows shops of that phone, and with these every service, tool and task of the
message is called.
-/

namespace SokoFlow

open DbM Effect FlowM Analytics

/-- The product is one of a shop of this phone. -/
def Database.Sells (db : Database) (phone : String) (productId : UUID) : Prop :=
  ∃ product ∈ db.products, product.id = productId ∧ db.Owns phone product.shopId

/-- What a message may set off for its sender: tools on a shop of the phone,
its report, and an alert for a product of it. -/
def Event.Of (phone : String) (db : Database) : Event → Prop
  | .enqueued (.report shopId recipient) _ => recipient = phone ∧ db.Owns phone shopId
  | .enqueued (.lowStockAlert recipient productId _) rows =>
      recipient = phone ∧ ∃ p : UUID, productId = p.text ∧ rows.Sells phone p
  | .enqueued (.conversation ..) _ => False
  | .handled _ shopId _ => db.Owns phone shopId
  | .generated .. | .completed .. => True

theorem Event.Of.mono {phone : String} {db db' : Database} {e : Event} (h : e.Of phone db)
    (ho : ∀ shopId, db.Owns phone shopId → db'.Owns phone shopId) : e.Of phone db' := by
  cases e with
  | handled tool shopId arguments => exact ho shopId h
  | enqueued task rows =>
      cases task with
      | report shopId recipient => exact ⟨h.1, ho shopId h.2⟩
      | _ => exact h
  | generated messages response => exact h
  | completed tool arguments => exact h

/-! ## Tools of one shop -/

/-- Rows are the same, no task was posted, and every tool ran for this shop. -/
structure Backend.Serves (shopId : UUID) (b b' : Backend) : Prop where
  committed : b'.committed = b.committed
  working : b'.working = b.working
  journal : ∃ more, b'.journal = b.journal ++ more ∧
    ∀ e ∈ more, ∀ phone db, Database.Owns db phone shopId → e.Of phone db

namespace Backend.Serves

variable {shopId : UUID} {b b' : Backend}

instance : IsPreorder Backend (Backend.Serves shopId) where
  refl b := ⟨rfl, rfl, [], by simp⟩
  trans _ _ _ h h' := by
    obtain ⟨more, hj, hm⟩ := h.journal
    obtain ⟨more', hj', hm'⟩ := h'.journal
    refine ⟨h'.committed.trans h.committed, h'.working.trans h.working, more ++ more', ?_, ?_⟩
    · rw [hj', hj, List.append_assoc]
    · exact List.forall_mem_append.mpr ⟨hm, hm'⟩

theorem of_untouched (h : Untouched b b') : Serves shopId b b' :=
  ⟨h.committed, h.working, [], by simp [h.journal]⟩

end Backend.Serves

section Tools

variable {shopId : UUID} (dep : Deployment)

theorem note_serves {event : Event}
    (h : ∀ phone db, Database.Owns db phone shopId → event.Of phone db) :
    Within (Backend.Serves shopId) (note event) :=
  fun _ ↦ ⟨rfl, rfl, [event], rfl, fun _ he ↦ List.mem_singleton.mp he ▸ h⟩

theorem execute_serves (toolName : String) (rawArgs : Json.Object) :
    Within (Backend.Serves shopId) (Analytics.execute dep toolName rawArgs shopId) := by
  unfold Analytics.execute executeWith
  split
  · exact .pure _
  · refine .tryCatch ?_ fun _ ↦ .pure _
    refine .bind (note_serves fun _ _ ho ↦ ho) fun _ ↦ .bind ?_ fun _ ↦
      .bind (note_serves fun _ _ _ ↦ trivial) fun _ ↦ .pure _
    exact (handler_queries dep shopId _).within.mono fun _ _ ↦ .of_untouched

theorem respond_serves (last : Bool) (calls : List NormalizedToolCall) :
    Within (Backend.Serves shopId) (respond (handler dep) dep shopId last calls) := by
  unfold respond
  split
  · exact .pure _
  · split
    · split <;> exact .pure _
    · refine .bind (execute_serves dep _ _) fun result ↦ ?_
      cases result with
      | success tool data validated => exact .pure _
      | failure tool error =>
          dsimp only
          split <;> exact .pure _
  · split <;> exact .pure _

theorem attempt_serves (last : Bool) (messages : List LLMMessage) :
    Within (Backend.Serves shopId) (attempt (handler dep) dep shopId last messages) := by
  refine .bind (.bind ((ask_within _).mono fun _ _ ↦ .of_untouched) fun _ ↦
    .bind (note_serves fun _ _ _ ↦ trivial) fun _ ↦ .pure _) fun response ↦ ?_
  cases response with
  | error e => exact .pure _
  | ok response => exact respond_serves dep last response.toolCalls

theorem run_serves (messageText : String) (prior : Option ToolCall) :
    Within (Backend.Serves shopId) (run dep messageText shopId prior) := by
  refine .bind (attempt_serves dep false _) fun first ↦ ?_
  cases first with
  | inl outcome => exact .pure _
  | inr more =>
      refine .bind (attempt_serves dep true _) fun second ↦ ?_
      cases second <;> exact .pure _

end Tools

/-! ## Shops and products are committed at once -/

/-- The session sees the shops and products that are committed. -/
structure Backend.Level (b : Backend) : Prop where
  shops : b.working.shops = b.committed.shops
  products : b.working.products = b.committed.products

namespace Backend.Level

variable {α : Type} {b b' : Backend}

theorem of_same (h : b.Level) (hc : b'.committed = b.committed) (hw : b'.working = b.working) :
    b'.Level := by
  refine ⟨?_, ?_⟩ <;> rw [hc, hw]
  · exact h.shops
  · exact h.products

theorem owns (h : b.Level) {phone : String} {shopId : UUID} :
    b.working.Owns phone shopId ↔ b.committed.Owns phone shopId := by
  unfold Database.Owns
  rw [h.shops]

theorem of_within {x : DbM α} (hx : Within Backend.Untouched x) : Keeping Backend.Level x where
  returns _ _ _ h hr := h.of_same (hx.of_ok hr).committed (hx.of_ok hr).working
  raises _ _ _ h hr := h.of_same (hx.of_error hr).committed (hx.of_error hr).working

theorem commit : Contract (fun _ ↦ True) commit (fun _ ↦ Backend.Level) Backend.Level where
  returns b a b' _ hx := by
    rw [commit_apply] at hx
    split at hx
    · cases hx
    · split at hx <;> cases hx <;> exact ⟨rfl, rfl⟩
  raises b e b' _ hx := by
    rw [commit_apply] at hx
    split at hx
    · cases hx
      exact ⟨rfl, rfl⟩
    · split at hx <;> cases hx

theorem rollback : Contract (fun _ ↦ True) rollback (fun _ ↦ Backend.Level) Backend.Level :=
  .modify fun _ _ ↦ ⟨rfl, rfl⟩

/-- Whatever a statement does, a commit puts it right, and an exception does nothing. -/
theorem update (run : Database → Except Exc (α × Database)) :
    Contract Backend.Level (update run) (fun _ _ ↦ True) Backend.Level where
  returns _ _ _ _ _ := trivial
  raises _ _ _ h hx := h.of_same (update_error hx).1.committed (update_error hx).1.working

theorem getShopId (sender : String) : Keeping Backend.Level (getShopId sender) := by
  apply Contract.bind (of_within (select_within _))
  intro found
  cases found with
  | some shop => exact Keeping.pure _
  | none =>
      apply Contract.bind (of_within (ask_within _))
      intro id
      apply Contract.bind (update _)
      intro shop
      apply Contract.bind commit
      intro _
      apply Contract.bind (of_within (select_within _))
      intro again
      cases again with
      | some shop => exact Keeping.pure _
      | none => exact Keeping.throw _

theorem createProduct (dep : Deployment) (data : ProductService.ProductCreate) :
    Keeping Backend.Level (ProductService.createProduct dep data) := by
  apply Contract.bind (Keeping.bind (of_within (ask_within _)) fun _ ↦ .pure _)
  intro sku
  apply Contract.bind (of_within (ask_within _))
  intro id
  refine Contract.bind (Q := fun _ ↦ Backend.Level) (.tryCatch (.bind (update _) fun _ ↦
    .bind commit fun _ ↦ .pure fun _ h ↦ h) fun e ↦ ?_) fun _ ↦ ?_
  · cases e with
    | integrityError text =>
        exact .bind (rollback.weaken (fun _ _ ↦ trivial) (fun _ _ h ↦ h) fun _ h ↦ h) fun _ ↦
          .throw fun _ h ↦ h
    | _ => exact .throw fun _ h ↦ h
  · apply Contract.bind (of_within (select_within _))
    intro found
    cases found with
    | some product => exact Keeping.pure _
    | none => exact Keeping.throw _

theorem addStock (p : UUID) (q : ℤ) : Keeping Backend.Level (InventoryService.addStock p q) := by
  apply Contract.bind (of_within (ask_within _))
  intro id
  apply Contract.bind (update _)
  intro row
  have hfinish : Contract (fun _ ↦ True)
      (pure () >>= fun _ ↦ DbM.commit >>= fun _ ↦ InventoryService.refresh row.id)
      (fun _ ↦ Backend.Level) fun _ ↦ True := by
    refine .bind (Q := fun _ _ ↦ True) (.pure fun _ h ↦ h) fun _ ↦ ?_
    refine .bind (commit.weaken (fun _ h ↦ h) (fun _ _ h ↦ h) fun _ _ ↦ trivial) fun _ ↦ ?_
    refine Contract.bind ((of_within (select_within _)).weaken (fun _ h ↦ h) (fun _ _ h ↦ h)
      fun _ _ ↦ trivial) fun found ↦ ?_
    cases found with
    | some row => exact .pure fun _ h ↦ h
    | none => exact .throw fun _ _ ↦ trivial
  exact hfinish.tryCatch fun _ ↦ .bind rollback fun _ ↦ .throw fun _ h ↦ h

theorem createStocked (dep : Deployment) (shopId : UUID) (name : String) (price : ℚ)
    (quantity : ℤ) :
    Keeping Backend.Level (AddProductFlow.createStocked dep shopId name price quantity) := by
  unfold AddProductFlow.createStocked
  split
  · apply Contract.bind (createProduct dep _)
    intro p
    split
    · exact Keeping.bind (addStock p.id quantity) fun _ ↦ .pure _
    · exact Keeping.pure _
  · exact Keeping.throw _

theorem recordSale (shopId p : UUID) (q : ℤ) :
    Keeping Backend.Level (SalesService.recordSale shopId p q) where
  returns b r b' h hx := by
    obtain ⟨product, row, db, hw, hl, -, -⟩ := SalesService.recordSale_ok hx
    refine ⟨?_, ?_⟩ <;> rw [hl.working, hl.committed, if_neg Bool.false_ne_true]
    · exact hw.shops.trans h.shops
    · exact hw.products.trans h.products
  raises b e b' h hx := by
    have hu := (SalesService.recordSale_error hx).1
    exact h.of_same hu.committed hu.working

end Backend.Level

/-! ## A turn on the own shop -/

/-- The session is the phone's, the shops it knows are the phone's, and what
the message has done so far was done to rows of `own` and for the phone.  The
shops in `known` are known to be the phone's. -/
structure Turn.Own (own : UUID → Prop) (base : Database) (phone : String) (known : UUID → Prop)
    (t : Turn) : Prop where
  sender : t.session.phone = phone
  shop : ∀ id, t.session.context.shopId = some id → t.backend.working.Owns phone id
  working : Confined own base t.backend.working
  committed : Confined own base t.backend.committed
  level : t.backend.Level
  knows : ∀ id, known id → t.backend.working.Owns phone id
  journal : ∀ e ∈ t.backend.journal, e.Of phone t.backend.working

/-- Shops of the phone are shops of `own`. -/
def Tends (own : UUID → Prop) (base : Database) (phone : String) : Prop :=
  ∀ db, Confined own base db → ∀ id, db.Owns phone id → own id

section Turn

variable {α β : Type} {own known : UUID → Prop} {base : Database} {phone : String}

theorem tenancy_known : Tenancy own fun db ↦
    Confined own base db ∧ ∀ id, known id → db.Owns phone id where
  write h h' := ⟨h.1.trans h', fun id hk ↦ h'.owners phone id (h.2 id hk)⟩
  within h h' hp := h'.1.within.mp (h.1.within.mpr hp)

/-- What is known of the rows of a turn, with all shops the phone has. -/
theorem Turn.Own.holds {t : Turn} (h : t.Own own base phone known) :
    t.backend.Holds (fun _ ↦ True) fun db ↦
      Confined own base db ∧ ∀ id, t.backend.working.Owns phone id → db.Owns phone id where
  clock _ := trivial
  began _ _ := trivial
  working := ⟨h.working, fun _ ho ↦ ho⟩
  committed := ⟨h.committed, fun _ ho ↦ h.level.owns.mp ho⟩

theorem Turn.Own.of_holds {t : Turn} {b : Backend} (h : t.Own own base phone known)
    (hb : b.Holds (fun _ ↦ True) fun db ↦
      Confined own base db ∧ ∀ id, t.backend.working.Owns phone id → db.Owns phone id)
    (hl : b.Level) (hj : b.journal = t.backend.journal) :
    Turn.Own own base phone known { t with backend := b } where
  sender := h.sender
  shop id hid := hb.working.2 id (h.shop id hid)
  working := hb.working.1
  committed := hb.committed.1
  level := hl
  knows id hk := hb.working.2 id (h.knows id hk)
  journal e he := (h.journal e (hj ▸ he)).mono hb.working.2

/-- A service on rows of `own`. -/
theorem own_rows {x : DbM α}
    (hx : ∀ known : UUID → Prop, Keeping (Backend.Holds (fun _ ↦ True) fun db ↦
      Confined own base db ∧ ∀ id, known id → db.Owns phone id) x)
    (hl : Keeping Backend.Level x) (hj : Within SameJournal x) :
    Keeping (Turn.Own own base phone known) (onDb x) where
  returns t a t' h hr := by
    obtain ⟨b, hb, rfl⟩ := zoom_eq_ok.mp hr
    exact h.of_holds ((hx _).returns _ a b h.holds hb) (hl.returns _ a b h.level hb) (hj.of_ok hb)
  raises t e t' h hr := by
    obtain ⟨b, hb, rfl⟩ := zoom_eq_error.mp hr
    exact h.of_holds ((hx _).raises _ e b h.holds hb) (hl.raises _ e b h.level hb) (hj.of_error hb)

/-- Tools of a shop of the phone. -/
theorem own_serves {x : DbM α} {shopId : UUID} (hk : known shopId)
    (hx : Within (Backend.Serves shopId) x) : Keeping (Turn.Own own base phone known) (onDb x) := by
  apply Keeping.zoom_of_within hx
  intro t b h hb
  obtain ⟨more, hj, hm⟩ := hb.journal
  refine ⟨h.sender, ?_, ?_, ?_, h.level.of_same hb.committed hb.working, ?_, ?_⟩
  · intro id hid
    rw [hb.working]
    exact h.shop id hid
  · rw [hb.working]
    exact h.working
  · rw [hb.committed]
    exact h.committed
  · intro id hid
    rw [hb.working]
    exact h.knows id hid
  · rw [hj, hb.working]
    exact List.forall_mem_append.mpr ⟨h.journal, fun e he ↦ hm e he _ _ (h.knows shopId hk)⟩

theorem Turn.Own.untouched {t : Turn} {b : Backend} (h : t.Own own base phone known)
    (hu : Backend.Untouched t.backend b) : Turn.Own own base phone known { t with backend := b } where
  sender := h.sender
  shop id hid := by
    rw [hu.working]
    exact h.shop id hid
  working := by
    rw [hu.working]
    exact h.working
  committed := by
    rw [hu.committed]
    exact h.committed
  level := h.level.of_same hu.committed hu.working
  knows id hk := by
    rw [hu.working]
    exact h.knows id hk
  journal := by
    rw [hu.journal, hu.working]
    exact h.journal

theorem own_untouched {x : DbM α} (hx : Within Backend.Untouched x) :
    Keeping (Turn.Own own base phone known) (onDb x) :=
  .zoom_of_within hx fun _ _ h hu ↦ h.untouched hu

theorem own_ofExcept (x : Except Exc α) :
    Keeping (Turn.Own own base phone known) (MonadExcept.ofExcept x : FlowM α) := by
  cases x with
  | ok a => exact .pure _
  | error e => exact .throw _

/-- The session read is the phone's. -/
theorem own_session {f : UserSession → FlowM α}
    (hf : ∀ s, s.phone = phone → Keeping (Turn.Own own base phone known) (f s)) :
    Keeping (Turn.Own own base phone known) (session >>= f) := by
  refine Contract.bind (Q := fun s t ↦ t.Own own base phone known ∧ s.phone = phone)
    (.reads fun t h ↦ ⟨h, h.sender⟩) fun s ↦ .given fun hs ↦ hf s hs

theorem own_edit {f : SessionContext → SessionContext} (hf : ∀ c, (f c).shopId = c.shopId) :
    Keeping (Turn.Own own base phone known) (editContext f) := by
  apply Contract.modify
  intro t h
  refine ⟨h.sender, fun id hid ↦ h.shop id ?_, h.working, h.committed, h.level, h.knows, h.journal⟩
  rw [← hid]
  exact (hf _).symm

theorem own_setShop {shopId : UUID} (hk : known shopId) :
    Keeping (Turn.Own own base phone known)
      (editContext fun c ↦ { c with shopId := some shopId }) := by
  apply Contract.modify
  intro t h
  refine ⟨h.sender, fun id hid ↦ ?_, h.working, h.committed, h.level, h.knows, h.journal⟩
  cases hid
  exact h.knows shopId hk

theorem own_count (f : UserSession → UserSession) (hp : ∀ s, (f s).phone = s.phone)
    (hs : ∀ s, (f s).context.shopId = s.context.shopId) :
    Keeping (Turn.Own own base phone known) (setSession f) := by
  apply Contract.modify
  intro t h
  refine ⟨(hp _).trans h.sender, fun id hid ↦ h.shop id ?_, h.working, h.committed, h.level,
    h.knows, h.journal⟩
  rw [← hid]
  exact (hs _).symm

theorem own_transition (newState : SessionState) :
    Keeping (Turn.Own own base phone known) (transition newState) :=
  .bind (own_untouched (ask_within _)) fun _ ↦ own_count _ (fun _ ↦ rfl) fun _ ↦ rfl

theorem own_clear : Keeping (Turn.Own own base phone known) clearContextPreservingHistory :=
  .bind (own_untouched (ask_within _)) fun _ ↦ own_count _ (fun _ ↦ rfl) fun _ ↦ rfl

theorem own_result (previousState : SessionState) (key : MessageKey) (params : Params) :
    Keeping (Turn.Own own base phone known) (buildResult previousState key params) :=
  .bind (.reads fun _ h ↦ h) fun _ ↦ .pure _

theorem own_corrupted : Keeping (Turn.Own own base phone known) (corrupted : FlowM α) :=
  .bind (.reads fun _ h ↦ h) fun _ ↦ .throw _

theorem own_goto (newState previousState : SessionState) (key : MessageKey) (params : Params) :
    Keeping (Turn.Own own base phone known) (do
      transition newState
      buildResult previousState key params) :=
  .bind (own_transition _) fun _ ↦ own_result _ _ _

theorem own_end (previousState : SessionState) (key : MessageKey) (params : Params) :
    Keeping (Turn.Own own base phone known) (do
      transition .IDLE
      clearContextPreservingHistory
      buildResult previousState key params) :=
  .bind (own_transition _) fun _ ↦ .bind own_clear fun _ ↦ own_result _ _ _

/-! ### The shop of the sender -/

/-- What is known while a program runs is not needed after it. -/
theorem own_forget {known' : UUID → Prop} {x : FlowM α} (hk : ∀ id, known id → known' id)
    (hx : Keeping (Turn.Own own base phone known') x) :
    Contract (Turn.Own own base phone known') x (fun _ ↦ Turn.Own own base phone known)
      (Turn.Own own base phone known) := by
  have hforget : ∀ t : Turn, t.Own own base phone known' → t.Own own base phone known :=
    fun t h ↦ ⟨h.sender, h.shop, h.working, h.committed, h.level, fun id hid ↦ h.knows id (hk id hid),
      h.journal⟩
  exact hx.weaken (fun _ h ↦ h) (fun _ t h ↦ hforget t h) hforget

theorem getShopId_owns {shopId : UUID} {b b' : Backend} (h : getShopId phone b = .ok shopId b') :
    b'.working.Owns phone shopId := by
  obtain ⟨found, b₁, h₁, h⟩ := bind_eq_ok.mp h
  obtain ⟨hq, hu⟩ := select_ok h₁
  cases hf : found with
  | some shop =>
      rw [hf] at h
      cases h
      have hfound : b.working.shopByPhone phone = some shop := hq ▸ hf
      rw [hu.working]
      exact ⟨shop, Table.mem_of_lookup hfound, rfl, Table.key_of_lookup hfound⟩
  | none =>
      rw [hf] at h
      obtain ⟨id, b₂, h₂, h⟩ := bind_eq_ok.mp h
      obtain ⟨shop, b₃, h₃, h⟩ := bind_eq_ok.mp h
      obtain ⟨db, hrun, hl⟩ := update_ok h₃
      obtain ⟨hrows, hphone, -⟩ := Database.insertShop_ok hrun
      obtain ⟨⟨⟩, b₄, h₄, h⟩ := bind_eq_ok.mp h
      have hc := commit_ok h₄ hl.aborted
      obtain ⟨again, b₅, h₅, h⟩ := bind_eq_ok.mp h
      obtain ⟨hq', hu'⟩ := select_ok h₅
      have hworking : b₄.working = db := hc.working.trans hl.working
      have hmem : shop ∈ db.shops := by
        rw [hrows]
        exact List.mem_append_right _ List.mem_cons_self
      rw [hworking, Table.lookup_of_mem db.valid.shops.ids hmem] at hq'
      rw [hq'] at h
      cases h
      rw [hu'.working, hworking]
      exact ⟨shop, hmem, rfl, hphone⟩

theorem getShopId_keeping (known : UUID → Prop) :
    Keeping (Backend.Holds (fun _ ↦ True) fun db ↦
      Confined own base db ∧ ∀ id, known id → db.Owns phone id) (getShopId phone) := by
  apply Keeping.bind (select_keeping _)
  intro found
  cases found with
  | some shop => exact .pure _
  | none =>
      refine .bind (ask_keeping _) fun id ↦ .bind (update_keeping fun db shop db' hP h ↦ ?_) fun _ ↦
        .bind commit_keeping fun _ ↦ .bind (select_keeping _) fun again ↦ ?_
      · exact tenancy_known.write hP (.of_shops (Database.insertShop_ok h).1)
      · cases again with
        | some shop => exact .pure _
        | none => exact .throw _

/-- The shop that is found or made is the sender's. -/
theorem own_getShopId {f : UUID → FlowM α}
    (hf : ∀ id known, known id → Keeping (Turn.Own own base phone known) (f id)) :
    Keeping (Turn.Own own base phone known) (onDb (getShopId phone) >>= f) := by
  have hkeep : Keeping (Turn.Own own base phone known) (onDb (getShopId phone)) :=
    own_rows getShopId_keeping (Backend.Level.getShopId phone)
      (getShopId_sameJournal phone)
  have hknown : Contract (Turn.Own own base phone known) (onDb (getShopId phone))
      (fun id ↦ Turn.Own own base phone fun i ↦ known i ∨ i = id)
      (Turn.Own own base phone known) := by
    refine ⟨fun t id t' h hr ↦ ?_, hkeep.raises⟩
    have h' := hkeep.returns t id t' h hr
    refine ⟨h'.sender, h'.shop, h'.working, h'.committed, h'.level, ?_, h'.journal⟩
    rintro i (hi | rfl)
    · exact h'.knows i hi
    · exact getShopId_owns (onDb_ok hr).1
  exact Contract.bind hknown fun id ↦ own_forget (fun _ ↦ .inl) (hf id _ (.inr rfl))

end Turn

end SokoFlow
