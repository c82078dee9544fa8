import SokoFlow.NewProduct

/-!
# Business exceptions that escape

A message is answered when no business exception of a service gets past the
engine.  Five situations make one escape, and no others.
-/

namespace SokoFlow

open DbM Effect FlowM ProductService

variable {dep : Deployment} {text : String} {b b' : Backend} {t t' : Turn} {e : Exc} {α : Type}

abbrev Exc.Plain (e : Exc) : Prop := e.isBusiness = false

/-- No business exception is raised. -/
abbrev Contained {σ α : Type} (x : EStateM Exc σ α) : Prop := Raises Exc.Plain x

theorem Exc.plain_of_technical (h : e.isTechnical = true) : e.Plain := by
  cases e <;> first | rfl | cases h

theorem not_plain (h : e.isBusiness = true) : ¬ e.Plain := by simp [h]

/-! ## What the services raise -/

/-- The SKU of a name and six draws. -/
def skuOf (dep : Deployment) (name : String) (pick : ℕ → ℕ) : String :=
  String.ofList (skuInitials dep.unicode name ++ '-' :: skuSuffix pick)

/-- A product of this name and price, in this shop, meets a constraint of its table. -/
structure Clash (dep : Deployment) (name : String) (price : ℚ) (pick : ℕ → ℕ) (shopId : UUID)
    (db : Database) : Prop where
  positive : 0 < price
  sku : FitsText 50 (skuOf dep name pick)
  price : FitsMoney (Decimal.round price)
  clash : skuOf dep name pick ∈ db.products.map (·.sku) ∨ shopId ∉ db.shops.map (·.id)

theorem createStocked_business {shopId : UUID} {name : String} {price : ℚ} {quantity : ℤ}
    (h : AddProductFlow.createStocked dep shopId name price quantity b = .error e b')
    (he : e.isBusiness = true) : ∃ pick, Clash dep name price pick shopId b.working := by
  unfold AddProductFlow.createStocked at h
  split at h
  · rename_i hpos
    have hstock (product : Product) :
        Contained (if 0 < quantity then do
          let _ ← InventoryService.addStock product.id quantity
        else pure ()) := by
      split
      · exact .bind (fun _ _ _ h ↦ Exc.plain_of_technical (InventoryService.addStock_error h))
          fun _ ↦ .pure _
      · exact .pure _
    have h := Raises.first hstock (not_plain he) h
    rcases createProduct_error h with ht | ⟨sku, b₁, id, why, hsku, -, hr⟩
    · exact absurd (Exc.plain_of_technical ht) (not_plain he)
    · obtain ⟨rfl, -, -⟩ := generateSku_ok hsku
      obtain ⟨hs, hp, hclash⟩ := (Database.insertProduct_integrityError_iff hpos).mp ⟨why, hr⟩
      exact ⟨_, hpos, hs, hp, hclash⟩
  · cases h
    cases he

theorem createStocked_of_clash {shopId : UUID} {name : String} {price : ℚ} {pick : ℕ → ℕ}
    (quantity : ℤ) (h : Clash dep name price pick shopId b.working)
    (hpick : ∀ n, b.env.random n = pick) (hf : b.env.Faultless) (ha : b.aborted = false) :
    ∃ e b', AddProductFlow.createStocked dep shopId name price quantity b = .error e b' ∧
      e.isBusiness = true := by
  let data : ProductCreate := ⟨name, price, shopId, h.positive⟩
  obtain ⟨why, hr⟩ : ∃ why, insertion dep data b b.working = .error (.integrityError why) := by
    unfold insertion
    rw [hpick]
    exact (Database.insertProduct_integrityError_iff h.positive).mpr ⟨h.sku, h.price, h.clash⟩
  obtain ⟨b₁, hcreate, -⟩ := createProduct_calm_error hf ha hr
  refine ⟨.resourceAlreadyExists "Product" "SKU" (skuOf dep name (b.env.random b.tick)), b₁, ?_, rfl⟩
  rw [show AddProductFlow.createStocked dep shopId name price quantity = _ from
    AddProductFlow.createStocked_apply data quantity]
  exact bind_of_error hcreate

/-- The product is the shop's, its stock has run short. -/
structure RanShort (db : Database) (o : Order) : Prop where
  product : ∃ product, db.product o.productId = some product ∧ product.shopId = o.shopId
  stock : ∃ row, db.inventoryOf o.productId = some row ∧ row.quantity < o.quantity

/-- Of what a sale raises, only the missing stock stays a business exception. -/
theorem recordSale_business {o : Order} {by_ : String}
    (h : SalesService.recordSale o.shopId o.productId o.quantity by_ b = .error e b')
    (he : (RecordSaleFlow.toInvalidInput e).isBusiness = true) : RanShort b.working o := by
  rcases (SalesService.recordSale_error h).2 with ht | hr
  · cases e <;> first | exact absurd ht Bool.false_ne_true | exact absurd he Bool.false_ne_true
  · cases hr with
    | short hp hs hi hq => exact ⟨⟨_, hp, hs⟩, ⟨_, hi, hq⟩⟩
    | _ => cases he

/-! ## What a handler passes on -/

theorem ofExcept_business {α : Type} {y : Except Exc α} {f : α → FlowM FSMResult}
    (hy : Fails Exc.Plain y) (he : e.isBusiness = true)
    (h : (MonadExcept.ofExcept y >>= f) t = .error e t') : ∃ a, y = .ok a ∧ f a t = .error e t' := by
  rcases ofExcept_bind_error h with ⟨hwrong, -⟩ | h
  · exact absurd (hy e hwrong) (not_plain he)
  · exact h

theorem ofExcept_bind_of_ok {α : Type} {y : Except Exc α} {a : α} (h : y = .ok a)
    (f : α → FlowM FSMResult) : (MonadExcept.ofExcept y >>= f) t = f a t := by
  rw [h]
  rfl

theorem onDb_business {α : Type} {x : DbM α} {f : α → FlowM FSMResult}
    (hx : ∀ b e b', x b = .error e b' → e.isTechnical = true) (he : e.isBusiness = true)
    (h : (onDb x >>= f) t = .error e t') :
    ∃ a b, x t.backend = .ok a b ∧ f a { t with backend := b } = .error e t' := by
  rcases onDb_bind_error h with ⟨b, hb, -⟩ | h
  · exact absurd (Exc.plain_of_technical (hx _ _ _ hb)) (not_plain he)
  · exact h

theorem plain_corrupted {α : Type} : Contained (corrupted : FlowM α) := fun _ _ _ h ↦ by
  cases h
  rfl

theorem plain_end (previousState : SessionState) (key : MessageKey) (params : Params) :
    Contained (do
      transition .IDLE
      clearContextPreservingHistory
      buildResult previousState key params) :=
  fun _ _ _ h ↦ by cases h

/-- Looking the stock up and showing it raises for a product without a row. -/
theorem getStock_business {p : UUID} {f : Inventory → FlowM FSMResult}
    (hf : ∀ row, Contained (f row)) (he : e.isBusiness = true)
    (h : (onDb (InventoryService.getStock p) >>= f) t = .error e t') :
    t.backend.working.inventoryOf p = none := by
  have h := Raises.first hf (not_plain he) h
  obtain ⟨b, hb, -⟩ := zoom_eq_error.mp h
  rcases (InventoryService.getStock_error hb).2 with ht | ⟨hnone, -⟩
  · exact absurd (Exc.plain_of_technical ht) (not_plain he)
  · exact hnone

theorem getStock_raises {p : UUID} {f : Inventory → FlowM FSMResult}
    (hf : t.backend.env.Faultless) (ha : t.backend.aborted = false)
    (hnone : t.backend.working.inventoryOf p = none) :
    ∃ e t', (onDb (InventoryService.getStock p) >>= f) t = .error e t' ∧ e.isBusiness = true := by
  obtain ⟨b, hb⟩ := InventoryService.getStock_calm_none hf ha hnone
  exact ⟨_, _, bind_of_error (zoom_eq_error.mpr ⟨b, hb, rfl⟩), rfl⟩

/-! ## Reading the input -/

theorem parseProductName_plain : Fails Exc.Plain (parseProductName text) := by
  intro e h
  unfold parseProductName invalidInput at h
  dsimp only at h
  split at h <;> cases h
  rfl

theorem parsePrice_plain (u : Unicode) : Fails Exc.Plain (parsePrice u text) := by
  intro e h
  unfold parsePrice invalidInput at h
  dsimp only at h
  split at h
  · split at h
    · split at h <;> cases h
      rfl
    · cases h
      rfl
  · cases h
    rfl
  · cases h
    rfl

theorem parseQuantity_plain (u : Unicode) : Fails Exc.Plain (parseQuantity u text) := by
  intro e h
  unfold parseQuantity invalidInput at h
  split at h
  · cases h
    rfl
  · split at h <;> cases h
    rfl

theorem parseSaleQuantity_plain (u : Unicode) :
    Fails Exc.Plain (RecordSaleFlow.parseSaleQuantity u text) := by
  refine .bind (parseQuantity_plain u) fun q e h ↦ ?_
  split at h <;> cases h
  rfl

theorem parseConfirmation_plain (u : Unicode) : Fails Exc.Plain (parseConfirmation u text) := by
  intro e h
  unfold parseConfirmation invalidInput at h
  dsimp only at h
  split at h
  · cases h
  · split at h <;> cases h
    rfl

theorem resolveProductChoice_plain (u : Unicode) (candidates : List ScoredProductMatch) :
    Fails Exc.Plain (resolveProductChoice u candidates text) := by
  intro e h
  unfold resolveProductChoice invalidInput at h
  split at h
  · cases h
    rfl
  · split at h
    · cases h
      rfl
    · split at h
      · cases h
        rfl
      · split at h <;> cases h
        rfl

/-! ## The handlers -/

/-- The SKU, or the shop, of a confirmed product can be refused. -/
structure ProductRefused (dep : Deployment) (s : UserSession) (db : Database) (name : String)
    (price : ℚ) (pick : ℕ → ℕ) : Prop where
  positive : 0 < price
  sku : FitsText 50 (skuOf dep name pick)
  price : FitsMoney (Decimal.round price)
  shop : s.context.shopId = none → FitsText 20 s.phone
  clash : skuOf dep name pick ∈ db.products.map (·.sku) ∨
    ∃ shopId, s.context.shopId = some shopId ∧ shopId ∉ db.shops.map (·.id)

/-- The name is, without doubt, that of one product of the sender's shop. -/
def Names (dep : Deployment) (s : UserSession) (db : Database) (name : String)
    (m : ScoredProductMatch) : Prop :=
  ∃ shop others, db.shopByPhone s.phone = some shop ∧
    ProductRepository.findProductsByFuzzySearch dep shop.id
      (Text.lower dep.unicode (Text.strip name)) 3 db.products = m :: others ∧
    confidentMatchThreshold ≤ m.similarityScore.val

/-- The messages that make a business exception escape. -/
inductive Unforeseen (dep : Deployment) (s : UserSession) (text : String) (db : Database) : Prop
  | product {name : String} {price : ℚ} {quantity : ℤ} {pick : ℕ → ℕ}
      (hs : s.state = .CONFIRM_ADD_PRODUCT) (hc : Confirms dep text)
      (hname : s.context.productName = some name) (hprice : s.context.productPrice = some price)
      (hqty : s.context.productQty = some quantity) (h : ProductRefused dep s db name price pick)
  | quantity {quantity : Quantity} {productId : UUID} {name : String} {price : ℚ}
      (ho : FSMEngine.isOverride dep text = false)
      (hs : s.state = .RECORD_SALE_QTY)
      (hq : RecordSaleFlow.parseSaleQuantity dep.unicode text = .ok quantity)
      (hid : s.context.productId = some productId) (hname : s.context.productName = some name)
      (hprice : s.context.productPrice = some price) (hnamed : name ≠ "")
      (h : db.inventoryOf productId = none)
  | sale {o : Order} (hs : s.state = .CONFIRM_SALE) (hc : Confirms dep text)
      (ho : s.context.order = some o) (h : RanShort db o)
  | lookup {name : ProductName} {m : ScoredProductMatch} (ho : FSMEngine.isOverride dep text = false)
      (hs : s.state = .CHECK_STOCK_PRODUCT)
      (hn : parseProductName text = .ok name) (hm : Names dep s db name.val m)
      (h : db.inventoryOf m.id = none)
  | choice {m : ScoredProductMatch} (ho : FSMEngine.isOverride dep text = false)
      (hs : s.state = .CHECK_STOCK_PRODUCT_SELECTION)
      (hm : resolveProductChoice dep.unicode s.context.productCandidates text = .ok m)
      (h : db.inventoryOf m.id = none)

namespace AddProductFlow

theorem handleName_contained : Contained (handleName text) := by
  refine .bind (.reads _) fun s ↦ .bind (.ofExcept parseProductName_plain) fun name ↦ ?_
  exact fun _ _ _ h ↦ by cases h

theorem handlePrice_contained : Contained (handlePrice dep text) := by
  refine .bind (.reads _) fun s ↦ .bind (.ofExcept (parsePrice_plain _)) fun price ↦ ?_
  exact fun _ _ _ h ↦ by cases h

theorem handleQty_contained : Contained (handleQty dep text) := by
  refine .bind (.reads _) fun s ↦ ?_
  split
  · refine .bind (.ofExcept (parseQuantity_plain _)) fun quantity ↦ ?_
    exact fun _ _ _ h ↦ by cases h
  · refine .ofExcept fun e h ↦ ?_
    cases h
    rfl

theorem shopOfSession_contained : Contained shopOfSession := by
  refine .bind (.reads _) fun s ↦ ?_
  cases s.context.shopId with
  | some shopId => exact .pure _
  | none =>
      refine .bind (.zoom fun _ _ _ h ↦ Exc.plain_of_technical (getShopId_error h)) fun _ ↦ ?_
      exact .bind (.modify _) fun _ ↦ .pure _

theorem shopOfSession_business {f : UUID → FlowM Unit} (he : e.isBusiness = true)
    (h : (shopOfSession >>= f) t = .error e t') :
    ∃ shopId t₁, f shopId t₁ = .error e t' ∧
      t.backend.working.SameGoods t₁.backend.working ∧
      (t.session.context.shopId = some shopId ∧ t₁ = t ∨
        t.session.context.shopId = none ∧ FitsText 20 t.session.phone ∧
          shopId ∈ t₁.backend.working.shops.map (·.id)) := by
  obtain ⟨shopId, t₁, hshop, h⟩ := Raises.second shopOfSession_contained (not_plain he) h
  refine ⟨shopId, t₁, h, ?_⟩
  unfold shopOfSession at hshop
  rw [session_bind] at hshop
  cases hs : t.session.context.shopId with
  | some id =>
      rw [hs] at hshop
      cases hshop
      exact ⟨.refl _, .inl ⟨rfl, rfl⟩⟩
  | none =>
      rw [hs] at hshop
      obtain ⟨id, b, hb, hshop⟩ := onDb_bind_ok hshop
      cases hshop
      obtain ⟨⟨shop, hfound, rfl⟩, hgoods, -⟩ := getShopId_ok hb
      have hmem : shop ∈ b.working.shops := Table.mem_of_lookup hfound
      have hphone : shop.phone = t.session.phone := Table.key_of_lookup hfound
      refine ⟨hgoods, .inr ⟨rfl, ?_, List.mem_map_of_mem hmem⟩⟩
      rw [← hphone]
      exact b.working.valid.shops.fits shop hmem

theorem shopOfSession_calm {name : String} {price : ℚ} {pick : ℕ → ℕ}
    (hf : t.backend.env.Faultless) (ha : t.backend.aborted = false)
    (h : ProductRefused dep t.session t.backend.working name price pick) :
    ∃ shopId t₁, shopOfSession t = .ok shopId t₁ ∧
      Clash dep name price pick shopId t₁.backend.working := by
  cases hs : t.session.context.shopId with
  | some shopId =>
      refine ⟨shopId, t, ?_, h.positive, h.sku, h.price, ?_⟩
      · unfold shopOfSession
        rw [session_bind, hs]
        rfl
      · rcases h.clash with htaken | ⟨id, hid, hgone⟩
        · exact .inl htaken
        · rw [hs, Option.some.injEq] at hid
          exact .inr (hid ▸ hgone)
  | none =>
      obtain ⟨id, b, hb⟩ := getShopId_calm hf ha (h.shop hs)
      obtain ⟨-, hgoods, -⟩ := getShopId_ok hb
      have hz : onDb (getShopId t.session.phone) t = .ok id { t with backend := b } :=
        zoom_eq_ok.mpr ⟨b, hb, rfl⟩
      refine ⟨id, ⟨t.session.edit fun c ↦ { c with shopId := some id }, b⟩, ?_, h.positive, h.sku,
        h.price, ?_⟩
      · unfold shopOfSession
        rw [session_bind, hs]
        exact bind_of_ok hz
      · rcases h.clash with htaken | ⟨id, hid, -⟩
        · exact .inl (hgoods.products ▸ htaken)
        · rw [hs] at hid
          cases hid

theorem handleConfirm_business (hs : t.session.state = .CONFIRM_ADD_PRODUCT)
    (h : handleConfirm dep text t = .error e t') (he : e.isBusiness = true) :
    Unforeseen dep t.session text t.backend.working := by
  unfold handleConfirm at h
  rw [session_bind] at h
  obtain ⟨isConfirmed, hc, h⟩ := ofExcept_business (parseConfirmation_plain _) he h
  cases isConfirmed with
  | false => exact absurd (plain_end _ _ _ _ _ _ h) (not_plain he)
  | true =>
      rw [if_neg (by simp)] at h
      cases hname : t.session.context.productName with
      | none =>
          rw [hname] at h
          cases h
          cases he
      | some name =>
          cases hprice : t.session.context.productPrice with
          | none =>
              rw [hname, hprice] at h
              cases h
              cases he
          | some price =>
              cases hqty : t.session.context.productQty with
              | none =>
                  rw [hname, hprice, hqty] at h
                  cases h
                  cases he
              | some quantity =>
                  rw [hname, hprice, hqty] at h
                  have h := Raises.first (fun _ ↦ plain_end _ _ _) (not_plain he) h
                  obtain ⟨shopId, t₁, h, hgoods, hshop⟩ := shopOfSession_business he h
                  obtain ⟨b, hb, -⟩ := zoom_eq_error.mp h
                  obtain ⟨pick, hclash⟩ := createStocked_business hb he
                  refine .product hs hc hname hprice hqty
                    ⟨hclash.positive, hclash.sku, hclash.price, fun hnone ↦ ?_, ?_⟩
                  · rcases hshop with ⟨hsome, -⟩ | ⟨-, hfits, -⟩
                    · rw [hnone] at hsome
                      cases hsome
                    · exact hfits
                  · rcases hclash.clash with htaken | hgone
                    · exact .inl (hgoods.products ▸ htaken)
                    · rcases hshop with ⟨hsome, rfl⟩ | ⟨-, -, hmem⟩
                      · exact .inr ⟨shopId, hsome, hgone⟩
                      · exact absurd hmem hgone

end AddProductFlow

namespace RecordSaleFlow

theorem handleSaleProductName_contained : Contained (handleSaleProductName dep text) := by
  refine .bind (.reads _) fun s ↦ ?_
  refine .bind (.zoom fun _ _ _ h ↦ Exc.plain_of_technical (getShopId_error h)) fun shopId ↦ ?_
  refine .bind (.modify _) fun _ ↦ ?_
  refine .bind (.zoom fun _ _ _ h ↦ Exc.plain_of_technical (findProductsByFuzzyName_error h))
    fun found ↦ ?_
  cases found with
  | notFound => exact fun _ _ _ h ↦ by cases h
  | exactMatch m => exact fun _ _ _ h ↦ by cases h
  | ambiguous candidates => exact fun _ _ _ h ↦ by cases h

theorem handleSaleProductSelection_contained : Contained (handleSaleProductSelection dep text) := by
  refine .bind (.reads _) fun s ↦ .bind (.ofExcept (resolveProductChoice_plain _ _)) fun m ↦ ?_
  exact fun _ _ _ h ↦ by cases h

theorem handleSaleProductQty_business (ho : FSMEngine.isOverride dep text = false)
    (hs : t.session.state = .RECORD_SALE_QTY)
    (h : handleSaleProductQty dep text t = .error e t') (he : e.isBusiness = true) :
    Unforeseen dep t.session text t.backend.working := by
  unfold handleSaleProductQty at h
  obtain ⟨quantity, hq, h⟩ := ofExcept_business (parseSaleQuantity_plain _) he h
  rw [session_bind] at h
  cases hid : t.session.context.productId with
  | none =>
      rw [hid] at h
      exact absurd (plain_corrupted _ _ _ h) (not_plain he)
  | some productId =>
      cases hname : t.session.context.productName with
      | none =>
          rw [hid, hname] at h
          exact absurd (plain_corrupted _ _ _ h) (not_plain he)
      | some name =>
          cases hprice : t.session.context.productPrice with
          | none =>
              rw [hid, hname, hprice] at h
              exact absurd (plain_corrupted _ _ _ h) (not_plain he)
          | some price =>
              rw [hid, hname, hprice] at h
              dsimp only at h
              split at h
              · exact absurd (plain_corrupted _ _ _ h) (not_plain he)
              · rename_i hnamed
                refine .quantity ho hs hq hid hname hprice hnamed
                  (getStock_business (fun row ↦ ?_) he h)
                split
                · refine .ofExcept fun e he ↦ ?_
                  cases he
                  rfl
                · exact fun _ _ _ h ↦ by cases h

theorem handleSaleProductQty_raises {quantity : Quantity} {productId : UUID} {name : String}
    {price : ℚ} (hq : parseSaleQuantity dep.unicode text = .ok quantity)
    (hid : t.session.context.productId = some productId)
    (hname : t.session.context.productName = some name)
    (hprice : t.session.context.productPrice = some price) (hnamed : name ≠ "")
    (hf : t.backend.env.Faultless) (ha : t.backend.aborted = false)
    (hnone : t.backend.working.inventoryOf productId = none) :
    ∃ e t', handleSaleProductQty dep text t = .error e t' ∧ e.isBusiness = true := by
  unfold handleSaleProductQty
  rw [ofExcept_bind_of_ok hq, session_bind, hid, hname, hprice]
  dsimp only
  rw [if_neg hnamed]
  exact getStock_raises hf ha hnone

theorem handleConfirmSaleProduct_business (hs : t.session.state = .CONFIRM_SALE)
    (h : handleConfirmSaleProduct dep text t = .error e t') (he : e.isBusiness = true) :
    Unforeseen dep t.session text t.backend.working := by
  by_cases hc : Confirms dep text
  · rw [handleConfirmSaleProduct_of_confirms hc] at h
    cases ho : t.session.context.order with
    | none =>
        rw [ho] at h
        cases h
        cases he
    | some o =>
        rw [ho] at h
        dsimp only at h
        cases hr : SalesService.recordSale o.shopId o.productId o.quantity "System" t.backend with
        | error e₁ b =>
            rw [hr] at h
            cases h
            exact .sale hs hc ho (recordSale_business hr he)
        | ok sale b =>
            rw [hr] at h
            exact absurd (Exc.plain_of_technical (conclude_error h).1) (not_plain he)
  · unfold handleConfirmSaleProduct at h
    rw [session_bind] at h
    obtain ⟨isConfirmed, hp, h⟩ := ofExcept_business (parseConfirmation_plain _) he h
    cases isConfirmed with
    | true => exact absurd hp hc
    | false => exact absurd (plain_end _ _ _ _ _ _ h) (not_plain he)

end RecordSaleFlow

theorem getShopId_found {sender : String} {id : UUID} (h : getShopId sender b = .ok id b')
    (hmem : id ∈ b.working.shops.map (·.id)) :
    ∃ shop, b.working.shopByPhone sender = some shop ∧ shop.id = id := by
  obtain ⟨found, b₁, h₁, h⟩ := bind_eq_ok.mp h
  obtain ⟨hq, hu⟩ := select_ok h₁
  cases hf : found with
  | some shop =>
      rw [hf] at h
      cases h
      exact ⟨shop, hq ▸ hf, rfl⟩
  | none =>
      rw [hf] at h
      dsimp only at h
      rw [bind_of_ok (ask_apply _ _)] at h
      obtain ⟨shop, b₂, h₂, h⟩ := bind_eq_ok.mp h
      obtain ⟨_, b₃, h₃, h⟩ := bind_eq_ok.mp h
      obtain ⟨again, b₄, h₄, h⟩ := bind_eq_ok.mp h
      obtain ⟨db, hr, -⟩ := update_ok h₂
      obtain ⟨-, hrow, -⟩ := Database.write_eq_ok.mp hr
      have hid : id = shop.id := by
        cases again with
        | none => cases h
        | some shop' =>
            cases h
            exact Table.key_of_lookup (select_ok h₄).1.symm
      have hnew : shop.id ∉ b₁.working.shops.map (·.id) := by
        rw [hrow]
        exact Database.freshId_notMem _ _
      rw [hu.working, ← hid] at hnew
      exact absurd hmem hnew

namespace StockLookupFlow

theorem handleStockName_business (ho : FSMEngine.isOverride dep text = false)
    (hs : t.session.state = .CHECK_STOCK_PRODUCT)
    (h : handleStockName dep text t = .error e t') (he : e.isBusiness = true) :
    Unforeseen dep t.session text t.backend.working := by
  unfold handleStockName at h
  obtain ⟨name, hn, h⟩ := ofExcept_business parseProductName_plain he h
  rw [session_bind] at h
  obtain ⟨shopId, b, hshop, h⟩ := onDb_business (fun _ _ _ ↦ getShopId_error) he h
  rw [editContext_bind] at h
  obtain ⟨found, b₁, hfind, h⟩ := onDb_business (fun _ _ _ ↦ findProductsByFuzzyName_error) he h
  obtain ⟨-, hgoods, -⟩ := getShopId_ok hshop
  obtain ⟨hmatch, hu, -⟩ := findProductsByFuzzyName_ok hfind
  cases found with
  | notFound => cases h
  | ambiguous candidates => cases h
  | exactMatch m =>
      have hnone := getStock_business (fun _ ↦ plain_end _ _ _) he h
      obtain ⟨others, hfound, hsure⟩ := findProductsByFuzzyName_exact hfind
      obtain ⟨p, hp, -, hpshop, -, -⟩ := hmatch.product
      have hp' : p ∈ t.backend.working.products := hgoods.products ▸ hp
      have hmem : shopId ∈ t.backend.working.shops.map (·.id) := by
        rw [← hmatch.shop, hpshop]
        exact t.backend.working.valid.products.shop p hp'
      obtain ⟨shop, hshop', rfl⟩ := getShopId_found hshop hmem
      rw [hgoods.products] at hfound
      refine .lookup ho hs hn ⟨shop, others, hshop', hfound, hsure⟩ ?_
      have hsame : b₁.working.inventory = t.backend.working.inventory := by
        rw [hu.working, hgoods.inventory]
      rw [Database.inventoryOf, ← hsame]
      exact hnone

/-- How a lookup ends, once the product is known. -/
def showStock (s : UserSession) (m : ScoredProductMatch) : FlowM FSMResult := do
  let inventory ← onDb (InventoryService.getStock m.id)
  transition .IDLE
  clearContextPreservingHistory
  buildResult s.state .STOCK_REMAINING (stockParams m.name inventory.quantity)

/-- The name of a product is looked up without touching the rows. -/
theorem handleStockName_finds {name : ProductName} {m : ScoredProductMatch}
    (hn : parseProductName text = .ok name)
    (hm : Names dep t.session t.backend.working name.val m) (hf : t.backend.env.Faultless)
    (ha : t.backend.aborted = false) :
    ∃ t₁, handleStockName dep text t = showStock t.session m t₁ ∧
      t₁.backend.working = t.backend.working ∧ t₁.backend.env.Faultless ∧
      t₁.backend.aborted = false := by
  obtain ⟨shop, others, hshop, hfound, hsure⟩ := hm
  obtain ⟨b, hb, hu, ha'⟩ := select_calm (fun db ↦ db.shopByPhone t.session.phone) hf ha
  have hid : getShopId t.session.phone t.backend = .ok shop.id b := by
    unfold getShopId
    rw [bind_of_ok hb, hshop]
    rfl
  rw [← hu.working] at hfound
  obtain ⟨b₁, hfind, hu₁, ha₁⟩ := findProductsByFuzzyName_calm (hu.env ▸ hf) ha' hfound hsure
  let t₁ : Turn := ⟨t.session.edit fun c ↦ { c with shopId := some shop.id }, b⟩
  have hz : onDb (getShopId t.session.phone) t = .ok shop.id { t with backend := b } :=
    zoom_eq_ok.mpr ⟨b, hid, rfl⟩
  have hz₁ : onDb (findProductsByFuzzyName dep shop.id name.val) t₁ =
      .ok (.exactMatch m) { t₁ with backend := b₁ } := zoom_eq_ok.mpr ⟨b₁, hfind, rfl⟩
  refine ⟨{ t₁ with backend := b₁ }, ?_, hu₁.working.trans hu.working, hu₁.env ▸ hu.env ▸ hf, ha₁⟩
  unfold handleStockName
  rw [ofExcept_bind_of_ok hn, session_bind, bind_of_ok hz, editContext_bind, bind_of_ok hz₁]
  rfl

theorem handleStockName_raises {name : ProductName} {m : ScoredProductMatch}
    (hn : parseProductName text = .ok name)
    (hm : Names dep t.session t.backend.working name.val m) (hf : t.backend.env.Faultless)
    (ha : t.backend.aborted = false) (hnone : t.backend.working.inventoryOf m.id = none) :
    ∃ e t', handleStockName dep text t = .error e t' ∧ e.isBusiness = true := by
  obtain ⟨t₁, hshow, hw, hf₁, ha₁⟩ := handleStockName_finds hn hm hf ha
  rw [hshow]
  exact getStock_raises hf₁ ha₁ (hw ▸ hnone)

theorem handleStockProductSelection_raises {m : ScoredProductMatch}
    (hm : resolveProductChoice dep.unicode t.session.context.productCandidates text = .ok m)
    (hf : t.backend.env.Faultless) (ha : t.backend.aborted = false)
    (hnone : t.backend.working.inventoryOf m.id = none) :
    ∃ e t', handleStockProductSelection dep text t = .error e t' ∧ e.isBusiness = true := by
  unfold handleStockProductSelection
  rw [session_bind, ofExcept_bind_of_ok hm, editContext_bind]
  exact getStock_raises hf ha hnone

theorem handleStockProductSelection_business
    (ho : FSMEngine.isOverride dep text = false)
    (hs : t.session.state = .CHECK_STOCK_PRODUCT_SELECTION)
    (h : handleStockProductSelection dep text t = .error e t') (he : e.isBusiness = true) :
    Unforeseen dep t.session text t.backend.working := by
  unfold handleStockProductSelection at h
  rw [session_bind] at h
  obtain ⟨m, hm, h⟩ := ofExcept_business (resolveProductChoice_plain _ _) he h
  rw [editContext_bind] at h
  have hnone := getStock_business (fun _ ↦ plain_end _ _ _) he h
  exact .choice ho hs hm hnone

end StockLookupFlow

namespace AnalyticsFlow

open Analytics

theorem plain_of_returns {α : Type} {x : DbM α} (h : ∀ b, ∃ a b', x b = .ok a b') :
    Contained (onDb x) :=
  .zoom fun _ _ _ hx ↦ Exc.plain_of_technical (technical_of_returns h _ _ _ hx)

theorem plain_getShopId (sender : String) : Contained (onDb (getShopId sender)) :=
  .zoom fun _ _ _ h ↦ Exc.plain_of_technical (getShopId_error h)

theorem remember_contained (call : Option ToolCall) : Contained (remember call) := by
  cases call <;> exact fun _ _ _ h ↦ by cases h

/-- Whatever fails in a tool is part of the outcome. -/
theorem handleQuery_contained : Contained (handleQuery dep text) := by
  rw [handleQuery_eq]
  refine .bind (.reads _) fun s ↦ .bind (plain_getShopId _) fun shopId ↦ .bind (.modify _) fun _ ↦ ?_
  refine .bind (plain_of_returns fun b ↦ ?_) fun fresh ↦ ?_
  · obtain ⟨fresh, b', h, -⟩ := hasFreshContext_returns dep s b
    exact ⟨fresh, b', h⟩
  · refine .bind (plain_of_returns (run_returns dep text _ _)) fun outcome ↦ .bind ?_ fun _ ↦ ?_
    · cases outcome with
      | answered answer call => exact .bind (.modify _) fun _ ↦ remember_contained call
      | answeredEmpty answer call => exact .bind (.modify _) fun _ ↦ remember_contained call
      | _ => exact fun _ _ _ h ↦ by cases h
    · exact fun _ _ _ h ↦ by cases h

theorem handleProductSelection_contained : Contained (handleProductSelection dep text) := by
  rw [handleProductSelection_eq]
  refine .bind (.reads _) fun s ↦ .bind (.ofExcept (resolveProductChoice_plain _ _)) fun m ↦ ?_
  cases s.context.pendingAnalyticsCall with
  | none => exact plain_end _ _ _
  | some pending =>
      refine .bind (plain_getShopId _) fun shopId ↦ ?_
      refine .bind (plain_of_returns (execute_returns dep _ _ _)) fun result ↦ ?_
      exact .bind (remember_contained _) fun _ ↦ .bind (.modify _) fun _ ↦ fun _ _ _ h ↦ by cases h

end AnalyticsFlow

namespace FSMEngine

theorem handleIdle_contained : Contained (handleIdle dep text) := by
  refine .bind (.reads _) fun s ↦ ?_
  cases IntentResolver.resolve dep.unicode text with
  | UNKNOWN =>
      refine .bind (AnalyticsFlow.plain_of_returns fun b ↦ ?_) fun routed ↦ ?_
      · obtain ⟨routed, b', h, -⟩ := canRoute_returns dep s text b
        exact ⟨routed, b', h⟩
      · split
        · exact AnalyticsFlow.handleQuery_contained
        · refine .ofExcept fun e h ↦ ?_
          cases h
          rfl
  | RECORD_SALE => exact fun _ _ _ h ↦ by cases h
  | CHECK_STOCK => exact fun _ _ _ h ↦ by cases h
  | ADD_PRODUCT => exact fun _ _ _ h ↦ by cases h
  | GENERATE_REPORT =>
      have hreport : Contained handleDailyReport :=
        .bind (.reads _) fun s ↦ .bind AddProductFlow.shopOfSession_contained fun shopId ↦
          .zoom fun _ _ _ h ↦ Exc.plain_of_technical (enqueue_error h)
      refine .bind (fun _ _ _ h ↦ by cases h) fun _ ↦ .bind (fun _ _ _ h ↦ by cases h) fun _ ↦ ?_
      exact .bind hreport fun _ ↦ fun _ _ _ h ↦ by cases h

theorem handler_business (ho : isOverride dep text = false)
    (h : handler dep t.session.state text t = .error e t') (he : e.isBusiness = true) :
    Unforeseen dep t.session text t.backend.working := by
  have hnot {x : FlowM FSMResult} (hx : Contained x) (h : x t = .error e t') :
      Unforeseen dep t.session text t.backend.working := absurd (hx _ _ _ h) (not_plain he)
  cases hs : t.session.state with
  | IDLE =>
      rw [hs, handler_idle dep (.inl rfl)] at h
      exact hnot handleIdle_contained h
  | START_ADD_PRODUCT =>
      rw [hs, handler_idle dep (.inr (.inl rfl))] at h
      exact hnot handleIdle_contained h
  | ADD_PRODUCT_NAME =>
      rw [hs] at h
      exact hnot AddProductFlow.handleName_contained h
  | ADD_PRODUCT_PRICE =>
      rw [hs] at h
      exact hnot AddProductFlow.handlePrice_contained h
  | ADD_PRODUCT_QTY =>
      rw [hs] at h
      exact hnot AddProductFlow.handleQty_contained h
  | CONFIRM_ADD_PRODUCT =>
      rw [hs] at h
      exact AddProductFlow.handleConfirm_business hs h he
  | RECORD_SALE_PRODUCT =>
      rw [hs] at h
      exact hnot RecordSaleFlow.handleSaleProductName_contained h
  | RECORD_SALE_PRODUCT_SELECTION =>
      rw [hs] at h
      exact hnot RecordSaleFlow.handleSaleProductSelection_contained h
  | RECORD_SALE_QTY =>
      rw [hs] at h
      exact RecordSaleFlow.handleSaleProductQty_business ho hs h he
  | CONFIRM_SALE =>
      rw [hs] at h
      exact RecordSaleFlow.handleConfirmSaleProduct_business hs h he
  | CHECK_STOCK_PRODUCT =>
      rw [hs] at h
      exact StockLookupFlow.handleStockName_business ho hs h he
  | CHECK_STOCK_PRODUCT_SELECTION =>
      rw [hs] at h
      exact StockLookupFlow.handleStockProductSelection_business ho hs h he
  | REPORT_PENDING =>
      rw [hs, handler_idle dep (.inr (.inr rfl))] at h
      exact hnot handleIdle_contained h
  | ANALYTICS_PRODUCT_SELECTION =>
      rw [hs] at h
      exact hnot AnalyticsFlow.handleProductSelection_contained h

/-! ## One message -/

variable {s : UserSession} {db : Database}

/-- No business exception escapes, and a sale that fails by one gets a reply,
whatever the world outside does. -/
structure Answered (dep : Deployment) (s : UserSession) (text : String) (db : Database) :
    Prop where
  contained : ∀ b e t, b.working = db → processMessage dep text ⟨s, b⟩ = .error e t →
    e.isBusiness = false
  replied : ∀ b o e b', b.working = db → s.state = .CONFIRM_SALE → Confirms dep text →
    s.context.order = some o →
    SalesService.recordSale o.shopId o.productId o.quantity "System" b = .error e b' →
    e.isBusiness = true → ∃ r t, processMessage dep text ⟨s, b⟩ = .ok r t

/-- A quiet world in which every SKU is drawn alike. -/
def drawing (pick : ℕ → ℕ) : Env := { Env.calm with random := fun _ ↦ pick }

theorem drawing_faultless (pick : ℕ → ℕ) : (drawing pick).Faultless := ⟨fun _ ↦ rfl, fun _ ↦ rfl⟩

theorem raises_of_handler {b : Backend} (ho : isOverride dep text = false)
    (h : ∃ e t, handler dep s.state text ⟨s, b⟩ = .error e t ∧ e.isBusiness = true) :
    ∃ e t, processMessage dep text ⟨s, b⟩ = .error e t ∧ e.isBusiness = true := by
  obtain ⟨e, t, h, he⟩ := h
  have hi : e.isInvalidInput = false := by
    cases e <;> first | rfl | cases he
  exact ⟨e, t, processMessage_of_error (t := ⟨s, b⟩) ho h hi, he⟩

theorem raises_of_unforeseen (h : Unforeseen dep s text db) :
    ∃ b e t, b.working = db ∧ processMessage dep text ⟨s, b⟩ = .error e t ∧
      e.isBusiness = true := by
  have hquiet (ho : isOverride dep text = false)
      (h : ∃ e t, handler dep s.state text ⟨s, .connect .calm db⟩ = .error e t ∧
        e.isBusiness = true) :
      ∃ b e t, b.working = db ∧ processMessage dep text ⟨s, b⟩ = .error e t ∧
        e.isBusiness = true := by
    obtain ⟨e, t, he⟩ := raises_of_handler ho h
    exact ⟨.connect .calm db, e, t, rfl, he⟩
  cases h with
  | @product name price quantity pick hs hc hname hprice hqty h =>
      let t : Turn := ⟨s, .connect (drawing pick) db⟩
      obtain ⟨shopId, t₁, hshop, hclash⟩ := AddProductFlow.shopOfSession_calm (t := t)
        (drawing_faultless pick) rfl h
      obtain ⟨ha, henv⟩ := AddProductFlow.shopOfSession_goes_on hshop rfl
      obtain ⟨e, b', he, hb⟩ := createStocked_of_clash quantity hclash (fun n ↦ by rw [henv]; rfl)
        (henv ▸ drawing_faultless pick) ha
      have hi : e.isInvalidInput = false := by
        cases e <;> first | rfl | cases hb
      exact ⟨.connect (drawing pick) db, e, _, rfl,
        AddProductFlow.processMessage_of_persist_error (t := t) hs hc hname hprice hqty
          (AddProductFlow.persist_of_error hshop he) hi, hb⟩
  | quantity ho hs hq hid hname hprice hnamed h =>
      apply hquiet ho
      rw [hs]
      exact RecordSaleFlow.handleSaleProductQty_raises hq hid hname hprice hnamed
        Env.calm_faultless rfl h
  | @sale o hs hc ho h =>
      obtain ⟨⟨product, hp, hshop⟩, row, hrow, hlt⟩ := h
      obtain ⟨b', hr⟩ : ∃ b', SalesService.recordSale o.shopId o.productId o.quantity "System"
          (.connect .calm db) = .error _ b' :=
        SalesService.recordSale_refused Env.calm_faultless rfl (.short hp hshop hrow hlt)
      apply hquiet hc.not_override
      rw [hs]
      change ∃ e t, RecordSaleFlow.handleConfirmSaleProduct dep text _ = .error e t ∧ _
      rw [RecordSaleFlow.handleConfirmSaleProduct_of_confirms hc, ho]
      dsimp only
      rw [hr]
      exact ⟨_, _, rfl, rfl⟩
  | lookup ho hs hn hm h =>
      apply hquiet ho
      rw [hs]
      exact StockLookupFlow.handleStockName_raises hn hm Env.calm_faultless rfl h
  | choice ho hs hm h =>
      apply hquiet ho
      rw [hs]
      exact StockLookupFlow.handleStockProductSelection_raises hm Env.calm_faultless rfl h

theorem onInvalidInput_returns (previousState : SessionState) (message : String)
    (key : Option MessageKey) (params : Params) (t : Turn) :
    ∃ r t', onInvalidInput dep previousState message key params t = .ok r t' := by
  unfold onInvalidInput
  rw [setSession_bind, session_bind]
  split <;> exact ⟨_, _, rfl⟩

theorem toInvalidInput_of_business {e : Exc} (he : e.isBusiness = true)
    (hi : (RecordSaleFlow.toInvalidInput e).isInvalidInput = false) :
    (RecordSaleFlow.toInvalidInput e).isBusiness = true := by
  cases e <;> first | exact he | cases hi

theorem answered_of_foreseen (h : ¬ Unforeseen dep s text db) : Answered dep s text db := by
  have hcontained : ∀ b e t, b.working = db → processMessage dep text ⟨s, b⟩ = .error e t →
      e.isBusiness = false := by
    intro b e t hw hr
    obtain ⟨ho, hh, -⟩ := processMessage_raised hr
    rw [← Bool.not_eq_true]
    intro he
    exact h (hw ▸ handler_business (t := ⟨s, b⟩) ho hh he)
  refine ⟨hcontained, fun b o e b' hw hs hc ho hr he ↦ ?_⟩
  have hcon := processMessage_confirmed (t := ⟨s, b⟩) hs hc
  generalize hres : processMessage dep text ⟨s, b⟩ = res at hcon
  cases hcon with
  | corrupted hnone =>
      rw [ho] at hnone
      cases hnone
  | failed ho' hr' hi =>
      cases ho.symm.trans ho'
      cases hr.symm.trans hr'
      have hb := toInvalidInput_of_business he hi
      rw [hcontained b _ _ hw hres] at hb
      cases hb
  | refused ho' hr' hi =>
      exact onInvalidInput_returns _ _ _ _ _
  | recorded ho' hr' hcon => exact ⟨_, _, rfl⟩
  | unalerted ho' hr' hcon =>
      cases ho.symm.trans ho'
      cases hr.symm.trans hr'

/-- In any conversation, a message on any rows is answered unless it is one of
the five the handlers do not foresee. -/
theorem message_answered_iff (dep : Deployment) (phone : String) (visits : List (Backend × String))
    (text : String) (db : Database) :
    let s := talk dep (UserSession.fresh phone) visits
    Answered dep s text db ↔ ¬ Unforeseen dep s text db := by
  intro s
  constructor
  · intro h hu
    obtain ⟨b, e, t, hw, hr, he⟩ := raises_of_unforeseen hu
    rw [h.contained b e t hw hr] at he
    cases he
  · exact answered_of_foreseen

/-! Someone else buys the milk that was ordered. -/

/-- What is said up to the confirmation of a sale. -/
def milk (quantity : String) : List (Backend × String) :=
  ["record sale", "Milk", quantity].map fun text ↦ (.connect .calm .sample, text)

/-- Three units are left. -/
def soldMeanwhile : Database where
  toRows := { Database.sample.toRows with inventory := [⟨⟨3⟩, ⟨2⟩, 3, 5⟩] }
  valid := by decide +kernel

/-- The confirmation gets no reply, and the session stays where it was. -/
theorem sale_of_missing_milk_unanswered :
    let s := talk .sample (UserSession.fresh "254700000001") (milk "8")
    let r := processMessage .sample "yes" ⟨s, .connect .calm soldMeanwhile⟩
    s.state = .CONFIRM_SALE ∧
      AddProductFlow.raised r = some (.insufficientStock (UUID.text ⟨2⟩) 8 3) ∧
      ¬ Answered .sample s "yes" soldMeanwhile := by
  intro s r
  have hraised : AddProductFlow.raised r = some (.insufficientStock (UUID.text ⟨2⟩) 8 3) := by decide +kernel
  refine ⟨by decide +kernel, hraised, fun h ↦ ?_⟩
  cases hr : r with
  | ok result t =>
      rw [hr] at hraised
      cases hraised
  | error e t =>
      rw [hr] at hraised
      cases hraised
      have hnot := h.contained _ _ _ rfl hr
      cases hnot

end FSMEngine

end SokoFlow
