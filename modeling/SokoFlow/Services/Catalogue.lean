import Mathlib.Data.List.Sort
import SokoFlow.Transactions
import SokoFlow.Config

/-!
# `product_service.py`, `product_repo.py` and `shop_service.py`

Creating, changing and deleting rows commits inside the service and turns
`IntegrityError` into an exception of its own.
-/

namespace SokoFlow

open DbM Effect

/-! ## Looking a product up by name -/

namespace ProductRepository

def scored (dep : Deployment) (term : String) (p : Product) : ScoredProductMatch :=
  ⟨p.id, p.shopId, p.name, p.sku, p.price,
    dep.trigram.similarity (dep.trigram.lower p.name) term⟩

/-- `find_products_by_fuzzy_search.sql`; equal scores keep the storage order. -/
def findProductsByFuzzySearch (dep : Deployment) (shopId : UUID) (term : String) (limit : ℕ)
    (products : List Product) : List ScoredProductMatch :=
  let rows := (products.filter (·.shopId = shopId)).map (scored dep term)
  let rows := rows.filter fun m ↦ productMatchThreshold ≤ m.similarityScore.val
  (rows.insertionSort fun a b ↦ b.similarityScore.val ≤ a.similarityScore.val).take limit

def getProductsByFuzzyName (dep : Deployment) (shopId : UUID) (query : String) (limit : ℕ) :
    DbM (List ScoredProductMatch) :=
  let term := Text.lower dep.unicode (Text.strip query)
  select fun db ↦ findProductsByFuzzySearch dep shopId term limit db.products

/-- A match shows a product of the shop whose name is not empty. -/
structure IsMatch (shopId : UUID) (products : List Product) (m : ScoredProductMatch) : Prop where
  product : ∃ p ∈ products, m.id = p.id ∧ m.shopId = p.shopId ∧ m.name = p.name ∧ m.price = p.price
  shop : m.shopId = shopId
  named : m.name ≠ ""

theorem isMatch_of_mem {dep : Deployment} {shopId : UUID} {term : String} {limit : ℕ}
    {products : List Product} {m : ScoredProductMatch}
    (h : m ∈ findProductsByFuzzySearch dep shopId term limit products) :
    IsMatch shopId products m := by
  have h := List.mem_of_mem_take h
  rw [List.mem_insertionSort, List.mem_filter, List.mem_map] at h
  obtain ⟨⟨p, hp, rfl⟩, hs⟩ := h
  rw [List.mem_filter, decide_eq_true_eq] at hp
  rw [decide_eq_true_eq] at hs
  refine ⟨⟨p, hp.1, rfl, rfl, rfl, rfl⟩, hp.2, fun hn ↦ ?_⟩
  have hn : p.name = "" := hn
  have h0 : (scored dep term p).similarityScore.val = 0 := by
    rw [scored, hn, dep.trigram.lower_empty, dep.trigram.similarity_empty]
  rw [h0] at hs
  exact absurd hs (by decide +kernel)

end ProductRepository

namespace ProductService

/-- `random.choices(string.ascii_uppercase + string.digits, k=6)` -/
def skuSuffix (pick : ℕ → ℕ) : List Char :=
  let alphabet := "ABCDEFGHIJKLMNOPQRSTUVWXYZ0123456789".toList
  (List.range 6).map fun i ↦ alphabet.getD (pick i % 36) 'A'

def skuInitials (u : Unicode) (productName : String) : List Char :=
  (Text.splitChars productName.toList).flatMap fun word ↦ u.upper (word.take 1)

def generateSku (dep : Deployment) (productName : String) : DbM String := do
  let pick ← ask Env.random
  return String.ofList (skuInitials dep.unicode productName ++ '-' :: skuSuffix pick)

structure ProductCreate where
  name : String
  price : ℚ
  shopId : UUID
  positive : 0 < price

/-- The fields a request sets; a price set to `none` is an explicit null. -/
structure ProductUpdate where
  name : Option String
  price : Option (Option ℚ)
  name_nonempty : ∀ n ∈ name, n ≠ ""

/-- `db.refresh(product)` -/
def refreshProduct (id : UUID) : DbM Product := do
  match ← select fun db ↦ db.product id with
  | some product => return product
  | none => throw (.other "InvalidRequestError" "Could not refresh instance")

/-- Flush a change and commit it; `IntegrityError` is rolled back and replaced. -/
def commitOr {α : Type} (flush : DbM α) (conflict : Exc) : DbM α :=
  tryCatch (do
      let a ← flush
      commit
      return a)
    fun e ↦ match e with
      | .integrityError _ => do
          rollback
          throw conflict
      | e => throw e

def createProduct (dep : Deployment) (data : ProductCreate) : DbM Product := do
  let sku ← generateSku dep data.name
  let id ← ask Env.uuid
  let insert := update (Database.insertProduct data.shopId data.name sku data.price id)
  let product ← commitOr insert (.resourceAlreadyExists "Product" "SKU" sku)
  refreshProduct product.id

def getProduct (productId : UUID) : DbM Product := do
  match ← select fun db ↦ db.product productId with
  | none => throw (.resourceNotFound "Product" productId.text)
  | some product => return product

/-- The handler of `IntegrityError` reads `product.sku` after the rollback has
expired it, so the lazy load raises instead of the intended exception. -/
def updateProduct (productId : UUID) (data : ProductUpdate) : DbM Product := do
  let product ← getProduct productId
  let price := match data.price with
    | none => some product.price
    | some price => price
  let flush := update (Database.setProduct product (data.name.getD product.name) price)
  let product ← commitOr flush (.other "MissingGreenlet" "greenlet_spawn has not been called")
  refreshProduct product.id

def deleteProduct (productId : UUID) : DbM Unit := do
  let product ← getProduct productId
  commitOr (update (Database.deleteProduct product)) (.resourceConflict
    "Product cannot be deleted because related inventory or sales records exist.")

def findProductsByFuzzyName (dep : Deployment) (shopId : UUID) (query : String)
    (limit : ℕ := 3) : DbM ProductResolution := do
  match ← ProductRepository.getProductsByFuzzyName dep shopId query limit with
  | [] => return .notFound
  | best :: others =>
      if confidentMatchThreshold ≤ best.similarityScore.val then return .exactMatch best
      else return .ambiguous (best :: others)

/-! ### What they do -/

variable {b b' : Backend} {e : Exc}

/-- How `find_products_by_fuzzy_name` decides from the rows it finds. -/
def picked : List ScoredProductMatch → ProductResolution
  | [] => .notFound
  | best :: others =>
      if confidentMatchThreshold ≤ best.similarityScore.val then .exactMatch best
      else .ambiguous (best :: others)

theorem picked_exactMatch {found : List ScoredProductMatch} {m : ScoredProductMatch}
    (h : picked found = .exactMatch m) :
    ∃ others, found = m :: others ∧ confidentMatchThreshold ≤ m.similarityScore.val := by
  cases found with
  | nil => cases h
  | cons best others =>
      dsimp only [picked] at h
      split at h
      · rename_i hsure
        cases h
        exact ⟨others, rfl, hsure⟩
      · cases h

theorem picked_ambiguous {found candidates : List ScoredProductMatch}
    (h : picked found = .ambiguous candidates) : found = candidates ∧ candidates ≠ [] := by
  cases found with
  | nil => cases h
  | cons best others =>
      dsimp only [picked] at h
      split at h <;> cases h
      exact ⟨rfl, List.cons_ne_nil _ _⟩

theorem findProductsByFuzzyName_eq (dep : Deployment) (shopId : UUID) (query : String) (limit : ℕ) :
    findProductsByFuzzyName dep shopId query limit =
      (ProductRepository.getProductsByFuzzyName dep shopId query limit >>= fun found ↦
        pure (picked found)) := by
  unfold findProductsByFuzzyName
  apply bind_congr
  intro found
  cases found with
  | nil => rfl
  | cons best others => exact (apply_ite pure _ _ _).symm

theorem findProductsByFuzzyName_picks {dep : Deployment} {shopId : UUID} {query : String}
    {limit : ℕ} {r : ProductResolution}
    (h : findProductsByFuzzyName dep shopId query limit b = .ok r b') :
    r = picked (ProductRepository.findProductsByFuzzySearch dep shopId
        (Text.lower dep.unicode (Text.strip query)) limit b.working.products) ∧
      Backend.Untouched b b' ∧ b'.aborted = false := by
  rw [findProductsByFuzzyName_eq] at h
  obtain ⟨found, b₁, h₁, h⟩ := bind_eq_ok.mp h
  cases h
  obtain ⟨rfl, hu⟩ := select_ok h₁
  exact ⟨rfl, hu, select_aborted h₁⟩

theorem commitOr_ok {α : Type} {flush : DbM α} {conflict : Exc} {a : α}
    (h : commitOr flush conflict b = .ok a b') :
    ∃ b₁, flush b = .ok a b₁ ∧ commit b₁ = .ok () b' := by
  unfold commitOr at h
  rcases tryCatch_eq_ok.mp h with h | ⟨e, b₁, _, h⟩
  · obtain ⟨a', b₁, h₁, h⟩ := bind_eq_ok.mp h
    obtain ⟨_, b₂, h₂, h⟩ := bind_eq_ok.mp h
    cases h
    exact ⟨b₁, h₁, h₂⟩
  · cases e <;> simp [bind_of_ok (rollback_apply _)] at h

/-- What escapes is the replacement, for an `IntegrityError` of the flush, or
the exception of the flush or of the commit itself. -/
theorem commitOr_error {α : Type} {flush : DbM α} {conflict : Exc}
    (h : commitOr flush conflict b = .error e b') :
    (e = conflict ∧ ∃ text b₁, flush b = .error (.integrityError text) b₁) ∨
      (∃ b₁, flush b = .error e b₁ ∧ ∀ text, e ≠ .integrityError text) ∨
      ∃ a b₁, flush b = .ok a b₁ ∧ commit b₁ = .error e b' := by
  unfold commitOr at h
  obtain ⟨e', b₁, h₁, h⟩ := tryCatch_eq_error.mp h
  rcases bind_eq_error.mp h₁ with h₁ | ⟨a, b₂, h₂, h₁⟩
  · by_cases hi : ∃ text, e' = .integrityError text
    · obtain ⟨text, rfl⟩ := hi
      cases h
      exact .inl ⟨rfl, text, b₁, h₁⟩
    · have he : e' = e ∧ b₁ = b' := by
        cases e' <;> first | (cases h; exact ⟨rfl, rfl⟩) | exact absurd ⟨_, rfl⟩ hi
      obtain ⟨rfl, rfl⟩ := he
      exact .inr (.inl ⟨b₁, h₁, fun text ht ↦ hi ⟨text, ht⟩⟩)
  · rcases bind_eq_error.mp h₁ with h₁ | ⟨_, _, _, h₁⟩
    · have hc := h₁
      rw [commit_apply] at hc
      split at hc
      · cases hc
        cases h
        exact .inr (.inr ⟨a, b₂, h₂, h₁⟩)
      · split at hc <;> cases hc
    · cases h₁

theorem commitOr_update_ok {α : Type} {run : Database → Except Exc (α × Database)} {conflict : Exc}
    {a : α} (h : commitOr (update run) conflict b = .ok a b') :
    ∃ db, run b.working = .ok (a, db) ∧ Backend.Landed true db b b' := by
  obtain ⟨b₁, h₁, h₂⟩ := commitOr_ok h
  obtain ⟨db, hr, hl⟩ := update_ok h₁
  have hc := commit_ok h₂ hl.aborted
  rw [hl.working] at hc
  exact ⟨db, hr, hl.trans hc⟩

theorem refreshProduct_ok {id : UUID} {p : Product} (h : refreshProduct id b = .ok p b') :
    b.working.product id = some p ∧ Backend.Untouched b b' ∧ b'.aborted = false := by
  obtain ⟨found, b₁, h₁, h⟩ := bind_eq_ok.mp h
  obtain ⟨hq, hu⟩ := select_ok h₁
  cases hrow : found with
  | none =>
      rw [hrow] at h
      cases h
  | some row =>
      rw [hrow] at h
      cases h
      exact ⟨hq ▸ hrow, hu, select_aborted h₁⟩

theorem getProduct_ok {id : UUID} {p : Product} (h : getProduct id b = .ok p b') :
    b.working.product id = some p ∧ Backend.Untouched b b' := by
  obtain ⟨found, b₁, h₁, h⟩ := bind_eq_ok.mp h
  obtain ⟨hq, hu⟩ := select_ok h₁
  cases hrow : found with
  | none =>
      rw [hrow] at h
      cases h
  | some row =>
      rw [hrow] at h
      cases h
      exact ⟨hq ▸ hrow, hu⟩

theorem createProduct_ok {dep : Deployment} {data : ProductCreate} {p : Product}
    (h : createProduct dep data b = .ok p b') :
    ∃ db, Backend.Landed true db b b' ∧ p ∈ db.products ∧ p.shopId = data.shopId ∧
      p.name = data.name ∧ p.price = Decimal.round data.price ∧
      db.toRows = { b.working.toRows with products := b.working.products ++ [p] } := by
  obtain ⟨sku, b₁, h₁, h⟩ := bind_eq_ok.mp h
  have hu₁ : Backend.Untouched b b₁ := by
    cases h₁
    exact ask_within Env.random b
  rw [bind_of_ok (ask_apply _ _)] at h
  obtain ⟨p', b₂, h₂, h⟩ := bind_eq_ok.mp h
  obtain ⟨db, hr, hl⟩ := commitOr_update_ok h₂
  obtain ⟨hrows, hshop, hname, -, hprice, -⟩ := Database.insertProduct_ok hr
  obtain ⟨hlook, hu, ha⟩ := refreshProduct_ok h
  have hmem : p' ∈ db.products := by
    rw [hrows]
    exact List.mem_append_right _ (List.mem_singleton_self _)
  rw [hl.working, Database.product_of_mem hmem] at hlook
  cases hlook
  have hl₁ := Backend.Landed.of_untouched (ask_within Env.uuid b₁) (hl.untouched hu ha)
  refine ⟨db, .of_untouched hu₁ hl₁, hmem, hshop, hname, hprice, ?_⟩
  rw [hrows]
  simp only [hu₁.working]

theorem generateSku_ok {dep : Deployment} {name sku : String}
    (h : generateSku dep name b = .ok sku b') :
    sku = String.ofList (skuInitials dep.unicode name ++ '-' :: skuSuffix (b.env.random b.tick)) ∧
      Backend.Untouched b b' ∧ b'.aborted = b.aborted := by
  cases h
  exact ⟨rfl, ask_within Env.random b, rfl⟩

theorem refreshProduct_error {id : UUID} (h : refreshProduct id b = .error e b') :
    e.isTechnical = true := by
  rcases bind_eq_error.mp h with h | ⟨found, b₁, _, h⟩
  · exact (select_error h).2
  · cases found <;> cases h
    rfl

/-- A product that is not created either met a constraint with its SKU or its
shop, or something technical failed. -/
theorem createProduct_error {dep : Deployment} {data : ProductCreate}
    (h : createProduct dep data b = .error e b') :
    e.isTechnical = true ∨ ∃ sku b₁ id text, generateSku dep data.name b = .ok sku b₁ ∧
      e = .resourceAlreadyExists "Product" "SKU" sku ∧
      Database.insertProduct data.shopId data.name sku data.price id b.working =
        .error (.integrityError text) := by
  rcases bind_eq_error.mp h with h | ⟨sku, b₁, h₁, h⟩
  · cases h
  have hw := (generateSku_ok h₁).2.1.working
  rw [bind_of_ok (ask_apply _ _)] at h
  rcases bind_eq_error.mp h with h | ⟨p, b₂, _, h⟩
  · rcases commitOr_error h with ⟨rfl, text, b₂, hf⟩ | ⟨b₂, hf, hne⟩ | ⟨_, b₂, _, hc⟩
    · have hr := update_integrityError hf
      rw [← hw]
      exact .inr ⟨sku, b₁, _, text, h₁, rfl, hr⟩
    · rcases (update_error hf).2 with he | he
      · exact .inl he
      · exact .inl (Database.write_error he)
    · exact .inl (commit_error hc).1
  · exact .inl (refreshProduct_error h)

theorem updateProduct_ok {productId : UUID} {data : ProductUpdate} {p : Product}
    (h : updateProduct productId data b = .ok p b') :
    ∃ old db, b.working.product productId = some old ∧ Backend.Landed true db b b' ∧
      db.product productId = some p ∧ p.name = data.name.getD old.name ∧
      some p.price = (data.price.getD (some old.price)).map Decimal.round ∧
      db.shops = b.working.shops ∧ db.inventory = b.working.inventory ∧
      db.sales = b.working.sales := by
  obtain ⟨old, b₁, h₁, h⟩ := bind_eq_ok.mp h
  obtain ⟨hold, hu₁⟩ := getProduct_ok h₁
  have hid : old.id = productId := Table.key_of_lookup hold
  obtain ⟨p', b₂, h₂, h⟩ := bind_eq_ok.mp h
  obtain ⟨db, hr, hl⟩ := commitOr_update_ok h₂
  rw [hu₁.working] at hr
  obtain ⟨hid', hname, hprice, hlook', hshops, hinv, hsales⟩ :=
    Database.setProduct_ok (hid ▸ hold) hr
  obtain ⟨hlook, hu, ha⟩ := refreshProduct_ok h
  rw [hl.working, hid', hlook'] at hlook
  cases hlook
  refine ⟨old, db, hold, .of_untouched hu₁ (hl.untouched hu ha), hid ▸ hlook', hname, ?_,
    hshops, hinv, hsales⟩
  rw [hprice]
  cases data.price <;> rfl

theorem deleteProduct_ok {productId : UUID} (h : deleteProduct productId b = .ok () b') :
    ∃ db, Backend.Landed true db b b' ∧ db.product productId = none ∧
      db.shops = b.working.shops ∧ db.inventory = b.working.inventory ∧
      db.sales = b.working.sales := by
  obtain ⟨old, b₁, h₁, h⟩ := bind_eq_ok.mp h
  obtain ⟨hold, hu₁⟩ := getProduct_ok h₁
  have hid : old.id = productId := Table.key_of_lookup hold
  obtain ⟨db, hr, hl⟩ := commitOr_update_ok h
  rw [hu₁.working] at hr
  obtain ⟨hnone, hshops, hinv, hsales⟩ := Database.deleteProduct_ok hr
  exact ⟨db, .of_untouched hu₁ hl, hid ▸ hnone, hshops, hinv, hsales⟩

end ProductService

/-! ## Shops -/

namespace ShopService

structure CreateShop where
  name : String
  phone : String
  locale : ShopLocale := .en

/-- `db.refresh(shop)` -/
def refreshShop (id : UUID) : DbM Shop := do
  match ← select fun db ↦ Table.lookup Shop.id id db.shops with
  | some shop => return shop
  | none => throw (.other "InvalidRequestError" "Could not refresh instance")

def createShop (data : CreateShop) : DbM Shop := do
  let id ← ask Env.uuid
  let insert := update (Database.insertShop data.phone (some data.name) data.locale id)
  let shop ← ProductService.commitOr insert (.resourceAlreadyExists "Shop" "phone" data.phone)
  refreshShop shop.id

def updateLocale (phone : String) (locale : ShopLocale) : DbM Shop := do
  let found ← select fun db ↦ db.shopByPhone phone
  let id ← ask Env.uuid
  let shop ← update (match found with
    | none => Database.insertShop phone (some "SokoFlow Demo Shop") locale id
    | some shop => Database.setShopLocale shop locale)
  commit
  refreshShop shop.id

variable {b b' : Backend}

theorem refreshShop_ok {id : UUID} {shop : Shop} (h : refreshShop id b = .ok shop b') :
    Table.lookup Shop.id id b.working.shops = some shop ∧ Backend.Untouched b b' ∧
      b'.aborted = false := by
  obtain ⟨found, b₁, h₁, h⟩ := bind_eq_ok.mp h
  obtain ⟨hq, hu⟩ := select_ok h₁
  cases hrow : found with
  | none =>
      rw [hrow] at h
      cases h
  | some row =>
      rw [hrow] at h
      cases h
      exact ⟨hq ▸ hrow, hu, select_aborted h₁⟩

theorem refreshShop_landed {db : Database} {shop shop' : Shop} {b₁ : Backend}
    (hl : Backend.Landed true db b b₁) (hmem : shop ∈ db.shops)
    (h : refreshShop shop.id b₁ = .ok shop' b') : shop' = shop ∧ Backend.Landed true db b b' := by
  obtain ⟨hlook, hu, ha⟩ := refreshShop_ok h
  rw [hl.working, Table.lookup_of_mem db.valid.shops.ids hmem] at hlook
  exact ⟨(Option.some.inj hlook).symm, hl.untouched hu ha⟩

theorem createShop_ok {data : CreateShop} {shop : Shop} (h : createShop data b = .ok shop b') :
    ∃ db, Backend.Landed true db b b' ∧ shop ∈ db.shops ∧ shop.phone = data.phone ∧
      shop.name = some data.name ∧ shop.locale = data.locale ∧
      db.toRows = { b.working.toRows with shops := b.working.shops ++ [shop] } := by
  unfold createShop at h
  rw [bind_of_ok (ask_apply _ _)] at h
  obtain ⟨shop', b₂, h₂, h⟩ := bind_eq_ok.mp h
  obtain ⟨db, hr, hl⟩ := ProductService.commitOr_update_ok h₂
  obtain ⟨hrows, hphone, hname, hlocale⟩ := Database.insertShop_ok hr
  have hmem : shop' ∈ db.shops := by
    rw [hrows]
    exact List.mem_append_right _ (List.mem_singleton_self _)
  obtain ⟨rfl, hl⟩ := refreshShop_landed hl hmem h
  exact ⟨db, .of_untouched (ask_within Env.uuid b) hl, hmem, hphone, hname, hlocale, hrows⟩

theorem updateLocale_ok {phone : String} {locale : ShopLocale} {shop : Shop}
    (h : updateLocale phone locale b = .ok shop b') :
    ∃ db, Backend.Landed true db b b' ∧ shop ∈ db.shops ∧ shop.phone = phone ∧
      shop.locale = locale ∧ db.products = b.working.products ∧
      db.inventory = b.working.inventory ∧ db.sales = b.working.sales := by
  obtain ⟨found, b₁, h₁, h⟩ := bind_eq_ok.mp h
  obtain ⟨hq, hu₁⟩ := select_ok h₁
  rw [bind_of_ok (ask_apply _ _)] at h
  obtain ⟨shop', b₂, h₂, h⟩ := bind_eq_ok.mp h
  obtain ⟨_, b₃, h₃, h⟩ := bind_eq_ok.mp h
  obtain ⟨db, hr, hl₂⟩ := update_ok h₂
  have hl₃ := commit_ok h₃ hl₂.aborted
  rw [hl₂.working] at hl₃
  have hl : Backend.Landed true db b b₃ :=
    .of_untouched hu₁ (.of_untouched (ask_within Env.uuid b₁) (hl₂.trans hl₃))
  have hr : (match found with
      | none => Database.insertShop phone (some "SokoFlow Demo Shop") locale
          (b₁.env.uuid b₁.tick)
      | some shop => Database.setShopLocale shop locale) b.working = .ok (shop', db) :=
    hu₁.working ▸ hr
  cases hf : found with
  | none =>
      rw [hf] at hr
      obtain ⟨hrows, hphone, -, hlocale⟩ := Database.insertShop_ok hr
      have hmem : shop' ∈ db.shops := by
        rw [hrows]
        exact List.mem_append_right _ (List.mem_singleton_self _)
      obtain ⟨rfl, hl⟩ := refreshShop_landed hl hmem h
      exact ⟨db, hl, hmem, hphone, hlocale, by rw [hrows], by rw [hrows], by rw [hrows]⟩
  | some old =>
      rw [hf] at hr
      have hold : b.working.shopByPhone phone = some old := hq ▸ hf
      have hphone : old.phone = phone := Table.key_of_lookup hold
      obtain ⟨rfl, hmem, hprod, hinv, hsales⟩ :=
        Database.setShopLocale_ok (Table.mem_of_lookup hold) hr
      obtain ⟨rfl, hl⟩ := refreshShop_landed hl hmem h
      exact ⟨db, hl, hmem, hphone, rfl, hprod, hinv, hsales⟩

end ShopService

end SokoFlow
