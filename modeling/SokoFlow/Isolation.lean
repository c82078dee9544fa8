import SokoFlow.Analytics.Executor
import SokoFlow.Revenue
import SokoFlow.StockLedger

/-!
# Tenant isolation of the tools

Two runs of a tool on rows that agree on one shop.  The queries filter by the
shop or look a product of it up, so neither what they return nor what they
raise tells the runs apart.
-/

namespace SokoFlow

open DbM Effect Analytics

/-! ## Sales belong to the shop of their product -/

/-- Every sale is of a product of the shop that made it. -/
def Database.Owned (db : Database) : Prop := ∀ sale ∈ db.sales, StockLedger.Owned db sale

/-- Rows that sessions of the services lead to from empty tables. -/
def Database.Reachable (db : Database) : Prop :=
  ∃ dep sessions, ServiceSession.serveAll dep sessions .empty = db

theorem owned_of_change {db db' : Database} (h : StockLedger.CatalogueChange db db')
    (ho : db.Owned) : db'.Owned := by
  intro sale hsale
  have hold : sale ∈ db.sales := h.sales ▸ hsale
  exact StockLedger.owned_of_catalogue h hsale (ho sale hold)

theorem eq_of_id {db : Database} {p p' : Product} (hp : p ∈ db.products) (hp' : p' ∈ db.products)
    (h : p'.id = p.id) : p' = p := by
  have hfound := Database.product_of_mem hp
  have hfound' := Database.product_of_mem hp'
  rw [h, hfound] at hfound'
  exact (Option.some.inj hfound').symm

theorem stable_owned : Stable (fun _ ↦ True) Database.Owned where
  quiet {db db'} hP hproducts hsales sale hsale := by
    rw [hsales] at hsale
    exact StockLedger.owned_of_products hproducts (hP sale hsale)
  created {_ _ _ _ _ new db db'} hP h := by
    obtain ⟨hrows, -, -, -, -, hfresh⟩ := Database.insertProduct_ok h
    refine owned_of_change ⟨by rw [hrows], by rw [hrows], fun p hp p' hp' hid ↦ ?_⟩ hP
    rw [hrows] at hp'
    rcases List.mem_append.mp hp' with hp' | hp'
    · rw [eq_of_id hp hp' hid]
    · rw [List.mem_singleton.mp hp'] at hid
      exact absurd (hid ▸ List.mem_map_of_mem hp) hfresh
  changed {old new _ price db db'} hP hold h := by
    unfold Database.setProduct at h
    cases price with
    | none => cases h
    | some price =>
        obtain ⟨-, rfl, hrows⟩ := Database.write_eq_ok.mp h
        refine owned_of_change ⟨by rw [hrows], by rw [hrows], fun p hp p' hp' hid ↦ ?_⟩ hP
        rw [hrows] at hp'
        obtain ⟨q, hq, rfl⟩ := List.mem_map.mp hp'
        have hold' := (Database.mem_of_product hold).1
        by_cases hne : q.id = old.id
        · rw [if_pos hne] at hid ⊢
          rw [← eq_of_id hp hold' hid]
        · rw [if_neg hne] at hid ⊢
          rw [eq_of_id hp hq hid]
  deleted {old db db'} hP h := by
    obtain ⟨-, -, hrows⟩ := Database.write_eq_ok.mp h
    refine owned_of_change ⟨by rw [hrows], by rw [hrows], fun p hp p' hp' hid ↦ ?_⟩ hP
    rw [hrows] at hp'
    rw [eq_of_id hp (List.mem_filter.mp hp').1 hid]
  sold {productId _ product _ _ _ new db db'} hP _ hfound h sale hsale := by
    obtain ⟨-, rfl, hrows⟩ := Database.write_eq_ok.mp h
    have hproducts : db'.products = db.products := by rw [hrows]
    rw [hrows] at hsale
    apply StockLedger.owned_of_products hproducts
    rcases List.mem_append.mp hsale with hsale | hsale
    · exact hP sale hsale
    · rw [List.mem_singleton.mp hsale]
      exact ⟨product, hfound, rfl⟩

theorem owned_of_reachable {db : Database} (h : db.Reachable) : db.Owned := by
  obtain ⟨dep, sessions, rfl⟩ := h
  refine stable_owned.serveAll dep (fun _ _ _ ↦ trivial) fun sale hsale ↦ ?_
  cases hsale

/-! ## Rows that agree on a shop -/

structure SameShop (shopId : UUID) (db db' : Database) : Prop where
  products : db.products.filter (·.shopId = shopId) = db'.products.filter (·.shopId = shopId)
  inventory : ∀ p ∈ db.products, p.shopId = shopId → db.inventoryOf p.id = db'.inventoryOf p.id
  sales : db.sales.filter (·.shopId = shopId) = db'.sales.filter (·.shopId = shopId)

/-- What the tools of a shop can tell of the rows. -/
structure View (shopId : UUID) (db db' : Database) : Prop extends SameShop shopId db db' where
  owned : db.Owned
  owned' : db'.Owned

/-- Two sessions at the same point of the same world, on related rows. -/
structure Alike (V : Database → Database → Prop) (b b' : Backend) : Prop where
  env : b.env = b'.env
  tick : b.tick = b'.tick
  began : b.began = b'.began
  aborted : b.aborted = b'.aborted
  working : V b.working b'.working

section Queries

variable {V : Database → Database → Prop} {α β γ : Type}

theorem ask_alike (q : Env → ℕ → α) : Agree (Alike V) (ask q) (ask q) := by
  intro b b' h
  refine ⟨by rw [h.env, h.tick], h.env, ?_, h.began, h.aborted, h.working⟩
  show b.tick + 1 = b'.tick + 1
  rw [h.tick]

theorem note_alike (event : Event) : Agree (Alike V) (note event) (note event) :=
  .modify fun _ _ h ↦ ⟨h.env, h.tick, h.began, h.aborted, h.working⟩

theorem served_alike {b b' : Backend} (h : Alike V b b') : Alike V b.served b'.served := by
  have hstarted : b.started = b'.started := by
    unfold Backend.started
    rw [h.began, h.env, h.tick]
  refine ⟨h.env, ?_, ?_, h.aborted, h.working⟩
  · show b.tick + 2 = b'.tick + 2
    rw [h.tick]
  · show some b.started = some b'.started
    rw [hstarted]

theorem select_alike {q q' : Database → α} (h : ∀ db db', V db db' → q db = q' db') :
    Agree (Alike V) (select q) (select q') := by
  intro b b' hb
  have hs := served_alike hb
  rw [select, select, execute_apply, execute_apply, hb.aborted, hb.env, hb.tick]
  cases ha : b'.aborted with
  | true => exact ⟨rfl, hs⟩
  | false =>
      cases b'.env.statementFault (b'.tick + 1) with
      | some text => exact ⟨rfl, hs.env, hs.tick, hs.began, rfl, hs.working⟩
      | none => exact ⟨h _ _ hb.working, hs.env, hs.tick, hs.began, hs.aborted, hs.working⟩

/-- A query that is read through `g` is the query of what `g` reads. -/
theorem select_bind_map (q : Database → α) (g : α → β) (f : β → DbM γ) :
    (select q >>= fun a ↦ f (g a)) = (select (fun db ↦ g (q db)) >>= f) := by
  funext b
  cases h : select q b with
  | ok a b' =>
      obtain ⟨ha, hf, rfl, rfl⟩ := select_eq_ok.mp h
      have h' : select (fun db ↦ g (q db)) b = .ok (g (q b.working)) b.served :=
        select_eq_ok.mpr ⟨ha, hf, rfl, rfl⟩
      rw [bind_of_ok h, bind_of_ok h']
  | error e b' =>
      have h' : select (fun db ↦ g (q db)) b = .error e b' := by
        rw [select, execute_apply] at h ⊢
        split at h
        · rename_i ha
          rw [if_pos ha]
          cases h
          rfl
        · rename_i ha
          rw [if_neg ha]
          cases hf : b.env.statementFault (b.tick + 1) with
          | some text =>
              rw [hf] at h
              cases h
              rfl
          | none =>
              rw [hf] at h
              cases h
      rw [bind_of_error h, bind_of_error h']

end Queries

/-! ## What the queries of a shop read -/

section Shop

variable {shopId : UUID} {db db' : Database} {dep : Deployment}

theorem SameShop.product (h : SameShop shopId db db') (id : UUID) :
    (db.product id).filter (·.shopId = shopId) = (db'.product id).filter (·.shopId = shopId) := by
  unfold Database.product
  rw [Table.lookup_filter db.valid.products.ids, Table.lookup_filter db'.valid.products.ids,
    h.products]

theorem SameShop.salesOf (h : SameShop shopId db db') (start stop : Timestamp) :
    SalesRepository.salesOf db.sales shopId start stop =
      SalesRepository.salesOf db'.sales shopId start stop := by
  rw [SalesRepository.salesOf_eq, SalesRepository.salesOf_eq, h.sales]

theorem SameShop.totalRevenueAndCount (h : SameShop shopId db db') (start stop : Timestamp) :
    SalesRepository.totalRevenueAndCount shopId start stop db =
      SalesRepository.totalRevenueAndCount shopId start stop db' := by
  unfold SalesRepository.totalRevenueAndCount
  rw [h.salesOf]

theorem SameShop.inventoryOf (h : SameShop shopId db db') {p : Product}
    (hp : p ∈ db.products.filter (·.shopId = shopId)) :
    db.inventoryOf p.id = db'.inventoryOf p.id := by
  rw [List.mem_filter, decide_eq_true_eq] at hp
  exact h.inventory p hp.1 hp.2

theorem SameShop.productsWithLowStock (h : SameShop shopId db db') :
    SalesRepository.productsWithLowStock shopId db =
      SalesRepository.productsWithLowStock shopId db' := by
  unfold SalesRepository.productsWithLowStock
  rw [← h.products]
  apply List.filterMap_congr
  intro p hp
  rw [h.inventoryOf hp]

/-- A product with a sale of the shop is a product of the shop. -/
theorem shopId_of_sold (ho : db.Owned) {start stop : Timestamp} {p : Product} (hp : p ∈ db.products)
    {sale : Sale} (hs : sale ∈ SalesRepository.salesOf db.sales shopId start stop)
    (hid : sale.productId = p.id) : p.shopId = shopId := by
  unfold SalesRepository.salesOf at hs
  rw [List.mem_filter, decide_eq_true_eq] at hs
  obtain ⟨product, hfound, hshop⟩ := ho sale hs.1
  rw [hid, Database.product_of_mem hp] at hfound
  rw [Option.some.inj hfound, hshop, hs.2.1]

theorem perProduct_filter (ho : db.Owned) {α : Type} (amount : List Sale → α)
    (start stop : Timestamp) :
    SalesRepository.perProduct amount (SalesRepository.salesOf db.sales shopId start stop)
        db.products =
      SalesRepository.perProduct amount (SalesRepository.salesOf db.sales shopId start stop)
        (db.products.filter (·.shopId = shopId)) := by
  unfold SalesRepository.perProduct
  rw [List.filterMap_filter]
  apply List.filterMap_congr
  intro p hp
  by_cases hshop : p.shopId = shopId
  · simp [hshop]
  · have hnone : (SalesRepository.salesOf db.sales shopId start stop).filter (·.productId = p.id) = [] := by
      rw [List.filter_eq_nil_iff]
      intro sale hs hid
      exact hshop (shopId_of_sold ho hp hs (by simpa using hid))
    simp [hshop, hnone]

theorem View.perProduct (h : View shopId db db') {α : Type} (amount : List Sale → α)
    (start stop : Timestamp) :
    SalesRepository.perProduct amount (SalesRepository.salesOf db.sales shopId start stop)
        db.products =
      SalesRepository.perProduct amount (SalesRepository.salesOf db'.sales shopId start stop)
        db'.products := by
  rw [perProduct_filter h.owned, perProduct_filter h.owned', h.salesOf, h.products]

theorem SameShop.slowMovingProducts (h : SameShop shopId db db')
    (nameLe : String → String → Bool) (start stop : Timestamp) (maxSalesCount : ℤ) (limit : ℕ) :
    SalesRepository.slowMovingProducts nameLe shopId start stop maxSalesCount limit db =
      SalesRepository.slowMovingProducts nameLe shopId start stop maxSalesCount limit db' :=
  SalesRepository.slowMovingProducts_congr h.products (fun _ hp ↦ h.inventoryOf hp) (h.salesOf start stop)

theorem SameShop.findProductsByFuzzySearch (h : SameShop shopId db db') (term : String)
    (limit : ℕ) :
    ProductRepository.findProductsByFuzzySearch dep shopId term limit db.products =
      ProductRepository.findProductsByFuzzySearch dep shopId term limit db'.products := by
  unfold ProductRepository.findProductsByFuzzySearch
  rw [h.products]

end Shop

/-! ## The handlers -/

namespace Analytics

variable {shopId : UUID} (dep : Deployment)

theorem productOfShop_eq (id : UUID) (term : String) :
    productOfShop shopId id term =
      (select (fun db ↦ (db.product id).filter (·.shopId = shopId)) >>= fun found ↦
        match found with
        | none => throw (.productNotFound term)
        | some product => pure product) := by
  rw [← select_bind_map (fun db ↦ db.product id)]
  unfold productOfShop
  apply bind_congr
  intro found
  cases found with
  | none => rfl
  | some product =>
      by_cases h : product.shopId = shopId
      · simp [h, Option.filter]
      · simp [h, Option.filter]

/-- A product is found alike where the shops have the same products. -/
theorem productOfShop_alike {V : Database → Database → Prop} (id : UUID) (term : String)
    (hV : ∀ db db', V db db' →
      (db.product id).filter (·.shopId = shopId) = (db'.product id).filter (·.shopId = shopId)) :
    Agree (Alike V) (productOfShop shopId id term) (productOfShop shopId id term) := by
  rw [productOfShop_eq]
  refine .bind (select_alike hV) fun found ↦ ?_
  cases found with
  | none => exact .throw _
  | some product => exact .pure _

theorem productOfShop_agree (id : UUID) (term : String) :
    Agree (Alike (View shopId)) (productOfShop shopId id term) (productOfShop shopId id term) :=
  productOfShop_alike id term fun _ _ h ↦ h.product id

theorem resolveProduct_agree (searchTerm : String) (limit : ℕ) :
    Agree (Alike (View shopId)) (ProductResolver.resolveProduct dep shopId searchTerm limit)
      (ProductResolver.resolveProduct dep shopId searchTerm limit) := by
  unfold ProductResolver.resolveProduct
  split
  · exact .pure _
  · refine .bind (select_alike fun db db' h ↦ h.findProductsByFuzzySearch _ _) fun found ↦ ?_
    split
    · exact .pure _
    · split <;> exact .pure _
    · split <;> exact .pure _

theorem productByName_agree (name : Option String) :
    Agree (Alike (View shopId)) (productByName dep shopId name) (productByName dep shopId name) := by
  cases name with
  | none => exact .throw _
  | some name =>
      unfold productByName
      dsimp only
      split
      · exact .throw _
      · refine .bind (resolveProduct_agree dep name 5) fun found ↦ ?_
        cases found with
        | notFound => exact .throw _
        | exactMatch m => exact productOfShop_agree m.id name
        | ambiguous candidates => exact .throw _

theorem findProduct_agree (query : ProductQuery) :
    Agree (Alike (View shopId)) (findProduct dep shopId query) (findProduct dep shopId query) := by
  obtain ⟨id, name⟩ := query
  cases id with
  | none => exact productByName_agree dep name
  | some id =>
      unfold findProduct
      dsimp only
      split
      · exact productByName_agree dep name
      · exact productOfShop_agree _ _

/-- The product of a shop, as the session's rows have it. -/
def IsOf (shopId : UUID) (product : Product) (db : Database) : Prop :=
  product ∈ db.products.filter (·.shopId = shopId)

theorem productOfShop_isOf {id : UUID} {term : String} {product : Product} {b b' : Backend}
    (h : productOfShop shopId id term b = .ok product b') : IsOf shopId product b'.working := by
  obtain ⟨found, b₁, hs, h⟩ := bind_eq_ok.mp h
  obtain ⟨hq, hu⟩ := select_ok hs
  cases hf : found with
  | none =>
      rw [hf] at h
      cases h
  | some product' =>
      rw [hf] at h
      dsimp only at h
      split at h
      · rename_i hshop
        cases h
        rw [hf, ← hu.working] at hq
        exact List.mem_filter.mpr
          ⟨(Database.mem_of_product hq.symm).1, decide_eq_true hshop⟩
      · cases h

theorem productByName_isOf {name : Option String} {product : Product} {b b' : Backend}
    (h : productByName dep shopId name b = .ok product b') : IsOf shopId product b'.working := by
  cases name with
  | none => cases h
  | some name =>
      unfold productByName at h
      dsimp only at h
      split at h
      · cases h
      · obtain ⟨found, b₁, -, h⟩ := bind_eq_ok.mp h
        cases found with
        | notFound => cases h
        | exactMatch m => exact productOfShop_isOf h
        | ambiguous candidates => cases h

theorem findProduct_isOf {query : ProductQuery} {product : Product} {b b' : Backend}
    (h : findProduct dep shopId query b = .ok product b') : IsOf shopId product b'.working := by
  obtain ⟨id, name, hn⟩ := query
  cases id with
  | none => exact productByName_isOf dep h
  | some id =>
      unfold findProduct at h
      dsimp only at h
      split at h
      · exact productByName_isOf dep h
      · exact productOfShop_isOf h

theorem boundaries_agree {V : Database → Database → Prop} (period : ReportingPeriod) :
    Agree (Alike V) (boundaries dep period) (boundaries dep period) :=
  .bind (ask_alike _) fun _ ↦ .ofExcept _

theorem previousBoundaries_agree {V : Database → Database → Prop} (period : ReportingPeriod) :
    Agree (Alike V) (previousBoundaries dep period) (previousBoundaries dep period) :=
  .bind (ask_alike _) fun _ ↦ .ofExcept _

theorem totalRevenueAndCount_agree (interval : Timestamp × Timestamp) :
    Agree (Alike (View shopId)) (SalesRepository.getTotalRevenueAndCount shopId interval)
      (SalesRepository.getTotalRevenueAndCount shopId interval) :=
  select_alike fun _ _ h ↦ h.totalRevenueAndCount interval.1 interval.2

theorem stockLevel_agree (query : ProductQuery) :
    Agree (Alike (View shopId)) (handleGetStockLevel dep shopId query)
      (handleGetStockLevel dep shopId query) := by
  refine .bind_of (findProduct_agree dep query)
    (Q := fun product b _ ↦ IsOf shopId product b.working)
    (fun _ _ _ _ _ _ h _ ↦ findProduct_isOf dep h) fun product ↦ ?_
  have hinventory : Agree (Alike fun db db' ↦ View shopId db db' ∧ IsOf shopId product db)
      (select fun db ↦ db.inventoryOf product.id) (select fun db ↦ db.inventoryOf product.id) :=
    select_alike fun db db' h ↦ h.1.inventoryOf h.2
  refine .bind (hinventory.of_iff fun b b' ↦ ?_) fun found ↦ .pure _
  constructor
  · rintro ⟨⟨henv, htick, hbegan, haborted, hview⟩, hof⟩
    exact ⟨henv, htick, hbegan, haborted, hview, hof⟩
  · rintro ⟨henv, htick, hbegan, haborted, hview, hof⟩
    exact ⟨⟨henv, htick, hbegan, haborted, hview⟩, hof⟩

theorem topMovingProducts_agree (interval : Timestamp × Timestamp) :
    Agree (Alike (View shopId)) (SalesRepository.getTopMovingProducts shopId interval)
      (SalesRepository.getTopMovingProducts shopId interval) := by
  refine .bind (select_alike fun db db' h ↦ ?_) fun _ ↦
    .bind (select_alike fun db db' h ↦ ?_) fun _ ↦ .pure _
  · unfold SalesRepository.topMovingProductsByUnits
    rw [h.perProduct]
  · unfold SalesRepository.topMovingProductsByRevenue
    rw [h.perProduct]

theorem slowMovingProducts_agree (maxSalesCount limit : ℤ) (interval : Timestamp × Timestamp) :
    Agree (Alike (View shopId))
      (SalesRepository.getSlowMovingProducts dep shopId maxSalesCount limit interval)
      (SalesRepository.getSlowMovingProducts dep shopId maxSalesCount limit interval) := by
  unfold SalesRepository.getSlowMovingProducts
  dsimp only
  split
  · exact select_alike fun _ _ h ↦ h.slowMovingProducts _ _ _ _ _
  · exact .bind (select_alike fun _ _ _ ↦ rfl) fun _ ↦ .throw _

theorem handler_agree (input : ToolInput) :
    Agree (Alike (View shopId)) (handler dep shopId input) (handler dep shopId input) := by
  cases input with
  | getSalesSummary period =>
      exact .bind (.bind (boundaries_agree dep period) fun _ ↦ totalRevenueAndCount_agree _)
        fun _ ↦ .pure _
  | getTopProducts period ranking limit =>
      exact .bind (.bind (boundaries_agree dep period) fun _ ↦
        .bind (topMovingProducts_agree _) fun _ ↦ .pure _) fun _ ↦ .pure _
  | getStockLevel query => exact .bind (stockLevel_agree dep query) fun _ ↦ .pure _
  | getLowStockItems =>
      exact .bind (select_alike fun _ _ h ↦ h.productsWithLowStock) fun _ ↦ .pure _
  | getSalesTrend period comparison =>
      refine .bind (.bind (boundaries_agree dep period) fun _ ↦ .bind ?_ fun _ ↦
        .bind (totalRevenueAndCount_agree _) fun _ ↦
        .bind (totalRevenueAndCount_agree _) fun _ ↦ .pure _) fun _ ↦ .pure _
      cases comparison with
      | none => exact previousBoundaries_agree dep period
      | some comparison => exact boundaries_agree dep comparison
  | getSlowMovingItems period maxSalesCount limit =>
      exact .bind (.bind (boundaries_agree dep period) fun _ ↦ slowMovingProducts_agree dep _ _ _)
        fun _ ↦ .pure _
  | getProductPrice query =>
      exact .bind (.bind (findProduct_agree dep query) fun _ ↦ .pure _) fun _ ↦ .pure _

theorem execute_agree (toolName : String) (rawArgs : Json.Object) :
    Agree (Alike (View shopId)) (execute dep toolName rawArgs shopId)
      (execute dep toolName rawArgs shopId) := by
  unfold execute executeWith
  split
  · exact .pure _
  · refine .tryCatch ?_ fun _ ↦ .pure _
    exact .bind (note_alike _) fun _ ↦ .bind (handler_agree dep _) fun _ ↦
      .bind (note_alike _) fun _ ↦ .pure _

theorem productOfShop_absent {id : UUID} {term : String} {b : Backend} (hf : b.env.Faultless)
    (ha : b.aborted = false) (h : ∀ p, b.working.product id = some p → p.shopId ≠ shopId) :
    ∃ b', productOfShop shopId id term b = .error (.productNotFound term) b' := by
  have hnone : (b.working.product id).filter (·.shopId = shopId) = none := by
    cases hp : b.working.product id with
    | none => rfl
    | some p => simp [Option.filter, h p hp]
  obtain ⟨b', hs, -, -⟩ := select_returns (fun db ↦ (db.product id).filter (·.shopId = shopId)) hf ha
  rw [productOfShop_eq, bind_of_ok hs, hnone]
  exact ⟨b', rfl⟩

/-- Asked for a product of another shop, the tools say what they say when no
product has the id. -/
theorem execute_absent {toolName : String} {rawArgs : Json.Object} {query : ProductQuery}
    {id : UUID} (hid : query.productId = some id) (hnil : id ≠ UUID.nil)
    (hv : validateCall dep toolName rawArgs = .ok (.getStockLevel query) ∨
      validateCall dep toolName rawArgs = .ok (.getProductPrice query))
    {b : Backend} (hf : b.env.Faultless) (ha : b.aborted = false)
    (h : ∀ p, b.working.product id = some p → p.shopId ≠ shopId) :
    ∃ b', execute dep toolName rawArgs shopId b =
      .ok (.failure toolName (.ofExc (.productNotFound id.text))) b' := by
  have hfind (event : Event) : ∃ b', findProduct dep shopId query (b.noted event) =
      .error (.productNotFound id.text) b' := by
    unfold findProduct
    rw [hid]
    dsimp only
    rw [if_neg hnil]
    exact productOfShop_absent hf ha h
  have hraise (input : ToolInput) (hi : input = .getStockLevel query ∨ input = .getProductPrice query)
      (event : Event) : ∃ b', handler dep shopId input (b.noted event) =
        .error (.productNotFound id.text) b' := by
    obtain ⟨b', hb⟩ := hfind event
    refine ⟨b', ?_⟩
    rcases hi with rfl | rfl
    · exact bind_of_error (bind_of_error hb)
    · exact bind_of_error (bind_of_error hb)
  obtain ⟨input, hi, hvalid⟩ : ∃ input : ToolInput,
      (input = .getStockLevel query ∨ input = .getProductPrice query) ∧
        validateCall dep toolName rawArgs = .ok input := by
    rcases hv with hv | hv
    · exact ⟨_, .inl rfl, hv⟩
    · exact ⟨_, .inr rfl, hv⟩
  obtain ⟨b', hb⟩ := hraise input hi (.handled toolName shopId input.dump)
  refine ⟨b', ?_⟩
  have hrun : runHandler (handler dep) toolName input shopId b =
      .error (.productNotFound id.text) b' := by
    unfold runHandler note
    rw [bind_of_ok (modify_apply _ _), bind_of_error hb]
  unfold execute
  rw [executeWith_of_valid hvalid, hrun]

end Analytics

theorem alike_connect (env : Env) {V : Database → Database → Prop} {db db' : Database}
    (h : V db db') : Alike V (.connect env db) (.connect env db') :=
  ⟨rfl, rfl, rfl, rfl, h⟩

/-- A tool call answers two reachable databases that agree on the shop alike,
and does not tell another shop's product from none. -/
theorem tenant_isolation (dep : Deployment) {db db' : Database} (hr : db.Reachable)
    (hr' : db'.Reachable) {shopId : UUID} (h : SameShop shopId db db') :
    (∀ env toolName rawArgs, ∃ result b b',
        execute dep toolName rawArgs shopId (.connect env db) = .ok result b ∧
          execute dep toolName rawArgs shopId (.connect env db') = .ok result b') ∧
      ∀ (env : Env) (toolName : String) (rawArgs : Json.Object) (query : ProductQuery) (id : UUID),
        query.productId = some id → id ≠ UUID.nil →
        (validateCall dep toolName rawArgs = .ok (.getStockLevel query) ∨
          validateCall dep toolName rawArgs = .ok (.getProductPrice query)) →
        env.Faultless → (∀ p, db.product id = some p → p.shopId ≠ shopId) →
        ∃ b, execute dep toolName rawArgs shopId (.connect env db) =
          .ok (.failure toolName (.ofExc (.productNotFound id.text))) b := by
  refine ⟨fun env toolName rawArgs ↦ ?_, fun env toolName rawArgs query id hid hnil hv hf habsent ↦
    execute_absent dep hid hnil hv hf rfl habsent⟩
  have hview : View shopId db db' := ⟨h, owned_of_reachable hr, owned_of_reachable hr'⟩
  have hagree := execute_agree dep toolName rawArgs _ _ (alike_connect env hview)
  obtain ⟨result, b, hb⟩ := execute_returns dep toolName rawArgs shopId (.connect env db)
  obtain ⟨result', b', hb'⟩ := execute_returns dep toolName rawArgs shopId (.connect env db')
  rw [hb, hb'] at hagree
  obtain ⟨rfl, -⟩ := hagree
  exact ⟨result, b, b', hb, hb'⟩

/-- A shop with milk in stock. -/
def opened : List ServiceSession :=
  [⟨.calm, false, [(.createShop ⟨"Dairy", "254700000001", .en⟩, false)]⟩,
    ⟨.calm, false, [(.createProduct ⟨"Milk", 60, ⟨0⟩, by decide⟩, false)]⟩,
    ⟨.calm, false, [(.addStock ⟨1⟩ 10 true, false)]⟩]

/-- The same, and another shop that sells sugar. -/
def joined : List ServiceSession :=
  opened ++ [⟨.calm, false, [(.createShop ⟨"Mill", "254700000002", .en⟩, false)]⟩,
    ⟨.calm, false, [(.createProduct ⟨"Sugar", 150, ⟨1⟩, by decide⟩, false)]⟩]

theorem tenant_isolation_joined :
    let db := ServiceSession.serveAll .sample opened .empty
    let db' := ServiceSession.serveAll .sample joined .empty
    (db.product ⟨2⟩ = none ∧ (db'.product ⟨2⟩).map (·.shopId) = some ⟨1⟩) ∧
      ∃ result b b',
        execute .sample "get_stock_level" [("product_id", .str (UUID.text ⟨2⟩))] ⟨0⟩
            (.connect .calm db) = .ok result b ∧
          execute .sample "get_stock_level" [("product_id", .str (UUID.text ⟨2⟩))] ⟨0⟩
            (.connect .calm db') = .ok result b' := by
  intro db db'
  have hsame : SameShop ⟨0⟩ db db' :=
    ⟨by decide +kernel, by decide +kernel, by decide +kernel⟩
  obtain ⟨halike, -⟩ :=
    tenant_isolation .sample ⟨.sample, opened, rfl⟩ ⟨.sample, joined, rfl⟩ hsame
  exact ⟨⟨by decide +kernel, by decide +kernel⟩, halike .calm _ _⟩

end SokoFlow
