import SokoFlow.Foundation.Runs
import SokoFlow.NewProduct

/-!
# Stored prices

Runs of `create_product` and `update_product`, each in a session of its own.
A price is checked when a product is created and not when it is changed, and
rounded to cents after either; whatever constraint an insert breaks is
reported as a duplicate SKU.
-/

namespace SokoFlow.Prices

open DbM Effect ProductService Runs

inductive Call
  | createProduct (data : ProductCreate)
  | updateProduct (productId : UUID) (data : ProductUpdate)

def Call.run (dep : Deployment) : Call → DbM Product
  | createProduct data => ProductService.createProduct dep data
  | updateProduct productId data => ProductService.updateProduct productId data

/-- The committed rows, and how the last call ended. -/
structure Catalogue where
  rows : Database
  reply : Option (Except Exc Product) := none

/-- The session of the request is closed, whatever the call returns. -/
def step (dep : Deployment) (s : Catalogue) (r : Env × Call) : Option Catalogue :=
  match getDb (r.2.run dep) (Backend.connect r.1 s.rows) with
  | .ok product b => some ⟨b.committed, some (.ok product)⟩
  | .error e b => some ⟨b.committed, some (.error e)⟩

def AllPositive (products : List Product) : Prop := ∀ p ∈ products, 0 < p.price

/-- What a call leaves: positive prices, the products as they were if it
fails, and a duplicate SKU is only reported for a SKU that a product has. -/
structure Kept (m : Moment Catalogue (Env × Call)) : Prop where
  positive : AllPositive m.after.rows.products
  unchanged : ∀ e, m.after.reply = some (.error e) →
    m.after.rows.products = m.before.rows.products
  duplicate : ∀ sku, m.after.reply = some (.error (.resourceAlreadyExists "Product" "SKU" sku)) →
    sku ∈ m.before.rows.products.map (·.sku)

/-- The SKU the session of a new product draws first. -/
def drawnSku (dep : Deployment) (env : Env) (name : String) : String :=
  String.ofList (skuInitials dep.unicode name ++ '-' :: skuSuffix (env.random 0))

/-- The insert meets neither a column that is too narrow nor a SKU in use. -/
def Insertable (dep : Deployment) (env : Env) (data : ProductCreate) (db : Database) : Prop :=
  FitsText 50 (drawnSku dep env data.name) ∧ FitsMoney (Decimal.round data.price) ∧
    drawnSku dep env data.name ∉ db.products.map (·.sku)

/-- A product that can be inserted is one of an existing shop at half a cent
or more, and no product is changed to a price that rounds to nothing. -/
def Sane (dep : Deployment) (s : Catalogue) : Env × Call → Prop
  | (env, .createProduct data) => Insertable dep env data s.rows →
      data.shopId ∈ s.rows.shops.map (·.id) ∧ mkRat 1 200 ≤ data.price
  | (_, .updateProduct productId data) => s.rows.product productId ≠ none →
      ∀ price ∈ data.price.join, mkRat 1 200 ≤ |price|

instance (dep : Deployment) (env : Env) (data : ProductCreate) (db : Database) :
    Decidable (Insertable dep env data db) := inferInstanceAs (Decidable (_ ∧ _))

instance (dep : Deployment) (s : Catalogue) (r : Env × Call) : Decidable (Sane dep s r) := by
  obtain ⟨env, call⟩ := r
  cases call <;> simp only [Sane] <;> infer_instance

variable {dep : Deployment} {env : Env} {db db' : Database} {b b' : Backend} {e : Exc}
  {data : ProductCreate}

/-! ## One statement and its commit -/

theorem commitOr_update_calm {α : Type} {run : Database → Except Exc (α × Database)} {a : α}
    (conflict : Exc) (hr : run b.working = .ok (a, db)) (hf : b.env.Faultless)
    (ha : b.aborted = false) :
    ∃ b', commitOr (update run) conflict b = .ok a b' ∧ Backend.Landed true db b b' := by
  obtain ⟨b₁, h₁, hl₁⟩ := update_calm hr hf ha
  obtain ⟨b₂, h₂, hl₂⟩ := commit_calm (hl₁.env ▸ hf) hl₁.aborted
  rw [hl₁.working] at hl₂
  exact ⟨b₂, tryCatch_of_ok ((bind_of_ok h₁).trans (bind_of_ok h₂)), hl₁.trans hl₂⟩

theorem refreshProduct_calm {p : Product} (hp : b.working.product p.id = some p)
    (hf : b.env.Faultless) (ha : b.aborted = false) :
    ∃ b', refreshProduct p.id b = .ok p b' ∧ Backend.Untouched b b' ∧ b'.aborted = false := by
  obtain ⟨b₁, h₁, hu₁, ha₁⟩ := select_calm (fun db ↦ db.product p.id) hf ha
  rw [hp] at h₁
  exact ⟨b₁, bind_of_ok h₁, hu₁, ha₁⟩

/-! ## The statements -/

/-- A row whose values fit is written, or refused by a constraint. -/
theorem write_of_fits {α : Type} (row : α) {fits : Prop} [Decidable fits] (rows : Rows) (h : fits) :
    (∃ db, Database.write row fits rows = .ok (row, db)) ∨
      ∃ text, Database.write row fits rows = .error (.integrityError text) := by
  by_cases hv : rows.Valid
  · exact .inl ⟨_, Database.write_of_valid h hv⟩
  · exact .inr (Database.write_integrityError_iff.mpr ⟨h, hv⟩)

section Statements

variable {shopId id : UUID} {name sku : String} {price : ℚ} {p old : Product}

theorem insertProduct_of_fits (id : UUID) (hsku : FitsText 50 sku)
    (hmoney : FitsMoney (Decimal.round price)) :
    (∃ p db', Database.insertProduct shopId name sku price id db = .ok (p, db')) ∨
      ∃ text, Database.insertProduct shopId name sku price id db = .error (.integrityError text) := by
  have hfits : (Product.mk (Database.freshId (db.products.map (·.id)) id) shopId name sku
      (Decimal.round price)).Fits := ⟨hsku, hmoney⟩
  rcases write_of_fits _ _ hfits with ⟨db', h⟩ | h
  · exact .inl ⟨_, db', h⟩
  · exact .inr h

/-- What an insert that succeeded has met. -/
theorem insertable_of_ok (h : Database.insertProduct shopId name sku price id db = .ok (p, db')) :
    FitsText 50 sku ∧ FitsMoney (Decimal.round price) ∧ sku ∉ db.products.map (·.sku) := by
  obtain ⟨hfits, rfl, hw⟩ := Database.write_eq_ok.mp h
  have hn := db'.valid.products.skus
  rw [hw, List.map_append, List.nodup_append] at hn
  exact ⟨hfits.1, hfits.2, fun hmem ↦ hn.2.2 _ hmem _ (List.mem_singleton_self _) rfl⟩

theorem setProduct_products
    (h : Database.setProduct old name (some price) db = .ok (p, db')) :
    db'.products = Table.change Product.id old.id (fun _ ↦ p) db.products ∧
      p.price = Decimal.round price := by
  obtain ⟨-, rfl, hw⟩ := Database.write_eq_ok.mp h
  rw [hw]
  exact ⟨rfl, rfl⟩

/-- A row may stand in for another with the same id, shop and SKU. -/
theorem valid_of_change (hold : old ∈ db.products) (new : Product) (hid : new.id = old.id)
    (hsku : new.sku = old.sku) (hshop : new.shopId = old.shopId) (hmoney : FitsMoney new.price)
    (hprice : 0 ≤ new.price) :
    Rows.Valid
      { db.toRows with products := Table.change Product.id new.id (fun _ ↦ new) db.products } := by
  have hp := db.valid.products
  have hsame : ∀ r ∈ db.products, r.id = new.id → r = old := by
    intro r hr hrid
    have := Database.product_of_mem hr
    rw [hrid, hid, Database.product_of_mem hold] at this
    exact (Option.some.inj this).symm
  have hids : (Table.change Product.id new.id (fun _ ↦ new) db.products).map (·.id) =
      db.products.map (·.id) := Table.map_change fun r _ hrid ↦ hrid.symm
  refine ⟨db.valid.shops, ⟨?_, ?_, ?_, ?_, ?_⟩, ?_, ?_⟩
  · exact Table.forall_change hp.fits fun _ _ _ ↦ ⟨hsku ▸ (hp.fits old hold).1, hmoney⟩
  · rw [hids]
    exact hp.ids
  · rw [Table.map_change fun r hr hrid ↦ by rw [hsame r hr hrid, hsku]]
    exact hp.skus
  · exact Table.forall_change hp.shop fun _ _ _ ↦ hshop ▸ hp.shop old hold
  · exact Table.forall_change hp.price fun _ _ _ ↦ hprice
  · have hi := db.valid.inventory
    refine ⟨hi.fits, hi.ids, hi.unique, ?_, hi.quantity, hi.threshold⟩
    rw [hids]
    exact hi.product
  · have hs := db.valid.sales
    refine ⟨hs.fits, hs.ids, hs.shop, ?_, hs.quantity, hs.total⟩
    rw [hids]
    exact hs.product

/-- A product takes any price that fits and is not negative. -/
theorem setProduct_of_price (hold : old ∈ db.products) (name : String) (price : ℚ)
    (hmoney : FitsMoney (Decimal.round price)) (hprice : 0 ≤ Decimal.round price) :
    ∃ p db', Database.setProduct old name (some price) db = .ok (p, db') := by
  have hv := valid_of_change hold { old with name := name, price := Decimal.round price } rfl rfl rfl
    hmoney hprice
  have hfits : Product.Fits { old with name := name, price := Decimal.round price } :=
    ⟨(db.valid.products.fits old hold).1, hmoney⟩
  exact ⟨_, _, Database.write_of_valid hfits hv⟩

end Statements

/-! ## The calls -/

variable {s s' : Catalogue} {r : Env × Call} {history : List (Moment Catalogue (Env × Call))}

/-- What the session of a new product inserts. -/
def insertionOn (dep : Deployment) (env : Env) (data : ProductCreate) (db : Database) :
    Except Exc (Product × Database) :=
  insertion dep data (Backend.connect env db) db

theorem insertionOn_eq (dep : Deployment) (env : Env) (data : ProductCreate) (db : Database) :
    insertionOn dep env data db = Database.insertProduct data.shopId data.name
      (drawnSku dep env data.name) data.price (env.uuid 1) db := rfl

/-- What an update writes over a row. -/
def changeOf (data : ProductUpdate) (old : Product) :
    Database → Except Exc (Product × Database) :=
  Database.setProduct old (data.name.getD old.name) (data.price.getD (some old.price))

/-- The exception of the handler of `update_product`, which reads an expired row. -/
def expired : Exc := .other "MissingGreenlet" "greenlet_spawn has not been called"

/-- What a call can do. -/
inductive Step (dep : Deployment) (s : Catalogue) : Env × Call → Catalogue → Prop
  | created {env : Env} {data : ProductCreate} {p : Product} {db : Database}
      (hr : insertionOn dep env data s.rows = .ok (p, db)) :
      Step dep s (env, .createProduct data) ⟨db, some (.ok p)⟩
  | refused {env : Env} {data : ProductCreate} {e : Exc}
      (hr : insertionOn dep env data s.rows = .error e) :
      Step dep s (env, .createProduct data) ⟨s.rows, some (.error
        (afterHandler (.resourceAlreadyExists "Product" "SKU" (drawnSku dep env data.name)) e))⟩
  | missing {env : Env} {productId : UUID} {data : ProductUpdate}
      (h : s.rows.product productId = none) :
      Step dep s (env, .updateProduct productId data)
        ⟨s.rows, some (.error (.resourceNotFound "Product" productId.text))⟩
  | changed {env : Env} {productId : UUID} {data : ProductUpdate} {old p : Product} {db : Database}
      (hold : s.rows.product productId = some old) (hr : changeOf data old s.rows = .ok (p, db)) :
      Step dep s (env, .updateProduct productId data) ⟨db, some (.ok p)⟩
  | unchanged {env : Env} {productId : UUID} {data : ProductUpdate} {old : Product} {e : Exc}
      (hold : s.rows.product productId = some old) (hr : changeOf data old s.rows = .error e) :
      Step dep s (env, .updateProduct productId data)
        ⟨s.rows, some (.error (afterHandler expired e))⟩

theorem step_of_ok (call : Call) {p : Product}
    (h : call.run dep (Backend.connect env s.rows) = .ok p b) :
    step dep s (env, call) = some ⟨b.committed, some (.ok p)⟩ := by
  have hg : getDb (call.run dep) (Backend.connect env s.rows) = _ := getDb_eq_ok.mpr ⟨b, h, rfl⟩
  rw [step, hg]

theorem step_of_error (call : Call)
    (h : call.run dep (Backend.connect env s.rows) = .error e b) :
    step dep s (env, call) = some ⟨b.committed, some (.error e)⟩ := by
  have hg : getDb (call.run dep) (Backend.connect env s.rows) = _ :=
    tryCatch_of_error (bind_of_error h)
  rw [step, hg]
  rfl

theorem getProduct_calm {productId : UUID} (hf : b.env.Faultless) (ha : b.aborted = false) :
    (b.working.product productId = none → ∃ b',
      getProduct productId b = .error (.resourceNotFound "Product" productId.text) b' ∧
        Backend.Untouched b b') ∧
    ∀ old, b.working.product productId = some old → ∃ b', getProduct productId b = .ok old b' ∧
      Backend.Untouched b b' ∧ b'.aborted = false := by
  obtain ⟨b₁, h₁, hu₁, ha₁⟩ := select_calm (fun db ↦ db.product productId) hf ha
  constructor
  · intro hnone
    rw [hnone] at h₁
    exact ⟨b₁, bind_of_ok h₁, hu₁⟩
  · intro old hold
    rw [hold] at h₁
    exact ⟨b₁, bind_of_ok h₁, hu₁, ha₁⟩

theorem updateProduct_eq (productId : UUID) (data : ProductUpdate) :
    updateProduct productId data = getProduct productId >>= fun old ↦
      commitOr (update (changeOf data old)) expired >>= fun p ↦ refreshProduct p.id := by
  unfold updateProduct changeOf
  cases data.price <;> rfl

section Update

variable {productId : UUID} {change : ProductUpdate} {old p : Product}

theorem updateProduct_calm (hf : env.Faultless) (hold : db.product productId = some old)
    (hr : changeOf change old db = .ok (p, db')) :
    ∃ b, updateProduct productId change (Backend.connect env db) = .ok p b ∧ b.committed = db' := by
  obtain ⟨b₁, h₁, hu₁, ha₁⟩ := (getProduct_calm (b := Backend.connect env db) hf rfl).2 old hold
  have hf₁ : b₁.env.Faultless := hu₁.env ▸ hf
  have hr₁ : changeOf change old b₁.working = .ok (p, db') := hu₁.working ▸ hr
  obtain ⟨b₂, h₂, hl₂⟩ := commitOr_update_calm expired hr₁ hf₁ ha₁
  have hid : old.id = productId := (Database.mem_of_product hold).2
  have hp : b₂.working.product p.id = some p := by
    obtain ⟨-, -, -, hlook, -⟩ := Database.setProduct_ok (hid ▸ hold) hr
    rw [hl₂.working]
    exact Database.product_of_mem (Database.mem_of_product hlook).1
  obtain ⟨b₃, h₃, hu₃, -⟩ := refreshProduct_calm hp (hl₂.env ▸ hf₁) hl₂.aborted
  refine ⟨b₃, ?_, hu₃.committed.trans hl₂.committed⟩
  rw [updateProduct_eq, bind_of_ok h₁, bind_of_ok h₂, h₃]

theorem updateProduct_calm_error (hf : env.Faultless) (hold : db.product productId = some old)
    (hr : changeOf change old db = .error e) :
    ∃ b, updateProduct productId change (Backend.connect env db) = .error (afterHandler expired e) b ∧
      b.committed = db := by
  obtain ⟨b₁, h₁, hu₁, ha₁⟩ := (getProduct_calm (b := Backend.connect env db) hf rfl).2 old hold
  have hr₁ : changeOf change old b₁.working = .error e := hu₁.working ▸ hr
  obtain ⟨b₂, h₂, hc₂⟩ := commitOr_update_calm_error expired hr₁ (hu₁.env ▸ hf) ha₁
  refine ⟨b₂, ?_, hc₂.trans hu₁.committed⟩
  rw [updateProduct_eq, bind_of_ok h₁, bind_of_error h₂]

end Update

theorem step_cases (hf : r.1.Faultless) (h : step dep s r = some s') : Step dep s r s' := by
  obtain ⟨env, call⟩ := r
  cases call with
  | createProduct data =>
      cases hr : insertionOn dep env data s.rows with
      | ok r =>
          obtain ⟨b, hb, hc⟩ := createProduct_calm (b := Backend.connect env s.rows) hf rfl hr
          rw [step_of_ok (.createProduct data) hb, hc] at h
          cases h
          exact .created hr
      | error e =>
          obtain ⟨b, hb, hc⟩ := createProduct_calm_error (b := Backend.connect env s.rows) hf rfl hr
          rw [step_of_error (.createProduct data) hb, hc] at h
          cases h
          exact .refused hr
  | updateProduct productId data =>
      cases hold : s.rows.product productId with
      | none =>
          obtain ⟨b, hb, hu⟩ := (getProduct_calm (b := Backend.connect env s.rows) hf rfl).1 hold
          have hb' : updateProduct productId data (Backend.connect env s.rows) = .error _ b :=
            bind_of_error hb
          rw [step_of_error (.updateProduct productId data) hb', hu.committed] at h
          cases h
          exact .missing hold
      | some old =>
          cases hr : changeOf data old s.rows with
          | ok r =>
              obtain ⟨b, hb, hc⟩ := updateProduct_calm hf hold hr
              rw [step_of_ok (.updateProduct productId data) hb, hc] at h
              cases h
              exact .changed hold hr
          | error e =>
              obtain ⟨b, hb, hc⟩ := updateProduct_calm_error hf hold hr
              rw [step_of_error (.updateProduct productId data) hb, hc] at h
              cases h
              exact .unchanged hold hr

/-! ## Exactly the sane calls -/

theorem insertionOn_integrity {text : String}
    (hr : insertionOn dep env data db = .error (.integrityError text)) :
    drawnSku dep env data.name ∈ db.products.map (·.sku) ∨
      Insertable dep env data db ∧ data.shopId ∉ db.shops.map (·.id) := by
  rw [insertionOn_eq] at hr
  obtain ⟨hfits, hmoney, htaken | hshop⟩ :=
    (Database.insertProduct_integrityError_iff data.positive).mp ⟨text, hr⟩
  · exact .inl htaken
  · by_cases htaken : drawnSku dep env data.name ∈ db.products.map (·.sku)
    · exact .inl htaken
    · exact .inr ⟨⟨hfits, hmoney, htaken⟩, hshop⟩

theorem insertionOn_technical {e : Exc} (hr : insertionOn dep env data db = .error e) :
    e.isTechnical = true := by
  rw [insertionOn_eq] at hr
  unfold Database.insertProduct at hr
  exact Database.write_error hr

theorem insertionOn_ok {p : Product} (hr : insertionOn dep env data db = .ok (p, db')) :
    Insertable dep env data db ∧ data.shopId ∈ db.shops.map (·.id) ∧
      db'.products = db.products ++ [p] ∧ p.price = Decimal.round data.price := by
  rw [insertionOn_eq] at hr
  obtain ⟨hrows, hshop, -, -, hprice, -⟩ := Database.insertProduct_ok hr
  have hproducts : db'.products = db.products ++ [p] := by rw [hrows]
  have hshops : db'.shops = db.shops := by rw [hrows]
  refine ⟨insertable_of_ok hr, ?_, hproducts, hprice⟩
  rw [← hshop, ← hshops]
  apply db'.valid.products.shop
  rw [hproducts]
  exact List.mem_append_right _ (List.mem_singleton_self p)

theorem half_cent_iff {price : ℚ} (hprice : 0 < price) :
    mkRat 1 200 ≤ price ↔ 0 < Decimal.round price := by
  have hround := Decimal.round_nonneg hprice.le
  rw [← not_iff_not, not_le, not_lt, ← abs_of_pos hprice, ← Decimal.round_eq_zero_iff,
    abs_of_pos hprice]
  exact ⟨fun h ↦ h.le, fun h ↦ le_antisymm h hround⟩

theorem afterHandler_eq_conflict {conflict : Exc} {sku : String} (he : e.isTechnical = true)
    (h : afterHandler conflict e = .resourceAlreadyExists "Product" "SKU" sku) :
    (∃ text, e = .integrityError text) ∧ conflict = .resourceAlreadyExists "Product" "SKU" sku := by
  cases e with
  | integrityError text => exact ⟨⟨text, rfl⟩, h⟩
  | other type text => cases h
  | _ => cases he

theorem setProduct_error {old : Product} {name : String} {price : Option ℚ}
    (h : Database.setProduct old name price db = .error e) : e.isTechnical = true := by
  cases price with
  | none =>
      cases h
      rfl
  | some price => exact Database.write_error h

/-- A call that fails and blames no SKU in vain keeps everything. -/
theorem kept_of_error {m : Moment Catalogue (Env × Call)} (hpos : AllPositive m.before.rows.products)
    (hrows : m.after.rows = m.before.rows) (hreply : m.after.reply = some (.error e))
    (he : ∀ sku, e = .resourceAlreadyExists "Product" "SKU" sku →
      sku ∈ m.before.rows.products.map (·.sku)) : Kept m := by
  refine ⟨?_, ?_, ?_⟩
  · rw [hrows]
    exact hpos
  · intro _ _
    rw [hrows]
  · intro sku hsku
    rw [hreply, Option.some.injEq, Except.error.injEq] at hsku
    exact he sku hsku

/-- A call that succeeds keeps everything if the prices are positive. -/
theorem kept_of_ok {m : Moment Catalogue (Env × Call)} {p : Product}
    (hpos : AllPositive m.after.rows.products) (hreply : m.after.reply = some (.ok p)) :
    Kept m := by
  refine ⟨hpos, ?_, ?_⟩
  · intro e he
    rw [hreply] at he
    cases he
  · intro sku hsku
    rw [hreply] at hsku
    cases hsku

/-- The price a row gets: the one of the request, rounded, or its old one. -/
theorem changeOf_ok {change : ProductUpdate} {old p : Product}
    (hold : old ∈ db.products) (hr : changeOf change old db = .ok (p, db')) :
    db'.products = Table.change Product.id old.id (fun _ ↦ p) db.products ∧ 0 ≤ p.price ∧
      ((change.price = none ∧ p.price = old.price) ∨
        ∃ price, change.price = some (some price) ∧ p.price = Decimal.round price) := by
  have hmem : p ∈ db'.products := by
    obtain ⟨-, -, -, hlook, -⟩ := Database.setProduct_ok (Database.product_of_mem hold) hr
    exact (Database.mem_of_product hlook).1
  have hnonneg := db'.valid.products.price p hmem
  unfold changeOf at hr
  cases hprice : change.price with
  | none =>
      rw [hprice, Option.getD_none] at hr
      obtain ⟨hproducts, hp⟩ := setProduct_products hr
      have hround : Decimal.round old.price = old.price := (db.valid.products.fits old hold).2.1
      exact ⟨hproducts, hnonneg, .inl ⟨rfl, hp.trans hround⟩⟩
  | some price =>
      rw [hprice, Option.getD_some] at hr
      cases price with
      | none => cases hr
      | some price =>
          obtain ⟨hproducts, hp⟩ := setProduct_products hr
          exact ⟨hproducts, hnonneg, .inr ⟨price, rfl, hp⟩⟩

theorem kept_iff_sane_step (hs : Step dep s r s') (hpos : AllPositive s.rows.products) :
    Kept ⟨s, r, s'⟩ ↔ Sane dep s r := by
  cases hs with
  | @created env data p db hr =>
      obtain ⟨hins, hshop, hproducts, hprice⟩ := insertionOn_ok hr
      constructor
      · intro hkept _
        have hp := hkept.positive p (by rw [hproducts]; simp)
        exact ⟨hshop, (half_cent_iff data.positive).mpr (hprice ▸ hp)⟩
      · intro hsane
        refine kept_of_ok (p := p) ?_ rfl
        intro q hq
        rw [hproducts, List.mem_append, List.mem_singleton] at hq
        rcases hq with hq | rfl
        · exact hpos q hq
        · rw [hprice]
          exact (half_cent_iff data.positive).mp (hsane hins).2
  | @refused env data e hr =>
      have htech := insertionOn_technical hr
      constructor
      · intro hkept hins
        rw [insertionOn_eq] at hr
        rcases insertProduct_of_fits (env.uuid 1) hins.1 hins.2.1 with
          ⟨p, db', hok⟩ | ⟨text, herr⟩
        · cases hok.symm.trans hr
        · cases herr.symm.trans hr
          exact absurd (hkept.duplicate _ rfl) hins.2.2
      · intro hsane
        apply kept_of_error hpos rfl rfl
        intro sku hsku
        obtain ⟨⟨text, rfl⟩, hconflict⟩ := afterHandler_eq_conflict htech hsku
        cases hconflict
        rcases insertionOn_integrity hr with htaken | ⟨hins, hshop⟩
        · exact htaken
        · exact absurd (hsane hins).1 hshop
  | missing hnone =>
      constructor
      · intro _ hsome
        exact absurd hnone hsome
      · intro _
        apply kept_of_error hpos rfl rfl
        simp
  | @changed env productId data old p db hold hr =>
      have hmem := (Database.mem_of_product hold).1
      obtain ⟨hproducts, hnonneg, hprice⟩ := changeOf_ok hmem hr
      constructor
      · intro hkept _ price hdata
        rw [Option.mem_def, Option.join_eq_some_iff] at hdata
        rcases hprice with ⟨hnone, -⟩ | ⟨price', hdata', hp⟩
        · rw [hnone] at hdata
          cases hdata
        · rw [hdata, Option.some.injEq, Option.some.injEq] at hdata'
          subst hdata'
          by_contra hlt
          rw [Decimal.round_eq_zero_iff.mpr (not_le.mp hlt)] at hp
          have hpos' : 0 < p.price := by
            apply hkept.positive
            rw [hproducts]
            exact List.mem_map.mpr ⟨old, hmem, by simp⟩
          exact hpos'.ne' hp
      · intro hsane
        refine kept_of_ok (p := p) ?_ rfl
        intro q hq
        rw [hproducts] at hq
        revert q
        apply Table.forall_change hpos
        intro _ _ _
        rcases hprice with ⟨-, hp⟩ | ⟨price, hdata, hp⟩
        · exact hp ▸ hpos old hmem
        · have hne : p.price ≠ 0 := by
            rw [hp, ne_eq, Decimal.round_eq_zero_iff, not_lt]
            exact hsane (by rw [hold]; simp) price (by simp [hdata])
          exact lt_of_le_of_ne hnonneg hne.symm
  | @unchanged env productId data old e hold hr =>
      have hmem := (Database.mem_of_product hold).1
      constructor
      · intro _ _ price hprice
        rw [Option.mem_def, Option.join_eq_some_iff] at hprice
        by_contra hlt
        have hzero : Decimal.round price = 0 := Decimal.round_eq_zero_iff.mpr (not_le.mp hlt)
        obtain ⟨p, db', hok⟩ := setProduct_of_price hmem (data.name.getD old.name) price
          (by rw [hzero]; decide +kernel) hzero.ge
        rw [changeOf, hprice, Option.getD_some] at hr
        cases hok.symm.trans hr
      · intro _
        apply kept_of_error hpos rfl rfl
        intro sku hsku
        obtain ⟨-, hconflict⟩ := afterHandler_eq_conflict (setProduct_error hr) hsku
        cases hconflict

/-! ## Runs -/

/-- The prices at the start are positive. -/
def Priced (s : Catalogue) : Prop := AllPositive s.rows.products

/-- Every call of a run keeps the prices positive, changes nothing when it
fails and names a duplicate SKU only when there is one, if and only if every
call of the run is sane. -/
theorem kept_iff_sane
    (run : Run Priced (Steps (step dep) fun _ r ↦ r.1.Faultless) history s) :
    (∀ m ∈ history, Kept m) ↔ ∀ m ∈ history, Sane dep m.before m.label := by
  have hrun : ((∀ m ∈ history, Kept m) → AllPositive s.rows.products) ∧
      ((∀ m ∈ history, Kept m) ↔ ∀ m ∈ history, Sane dep m.before m.label) := by
    apply run.invariant (I := fun history s ↦ ((∀ m ∈ history, Kept m) → AllPositive s.rows.products) ∧
      ((∀ m ∈ history, Kept m) ↔ ∀ m ∈ history, Sane dep m.before m.label))
    · intro s hs
      exact ⟨fun _ ↦ hs, by simp⟩
    · intro history s r s' ⟨hpos, hiff⟩ hs
      have hstep := step_cases hs.2 hs.1
      simp only [List.forall_mem_append, List.forall_mem_singleton]
      constructor
      · intro hkept
        exact hkept.2.positive
      · constructor
        · intro ⟨hbefore, hkept⟩
          exact ⟨hiff.mp hbefore, (kept_iff_sane_step hstep (hpos hbefore)).mp hkept⟩
        · intro ⟨hbefore, hsane⟩
          have hbefore' := hiff.mpr hbefore
          exact ⟨hbefore', (kept_iff_sane_step hstep (hpos hbefore')).mpr hsane⟩
  exact hrun.2

/-- A shop that sells milk. -/
def milkShop : Catalogue := ⟨.sample, none⟩

theorem milkShop_priced : Priced milkShop := by
  intro p hp
  rw [List.mem_singleton.mp hp]
  decide +kernel

theorem kept_of_new_sugar : ∃ history s,
    Run Priced (Steps (step .sample) fun _ r ↦ r.1.Faultless) history s ∧
      s.rows.products.length = 2 ∧ ∀ m ∈ history, Kept m := by
  have hrun : ∃ history s, Run Priced (Steps (step .sample) fun _ r ↦ r.1.Faultless) history s ∧
      (s.rows.products.length = 2 ∧ ∀ m ∈ history, Sane .sample m.before m.label) := by
    apply exists_run_of_labels (s := milkShop)
      [(.calm, .createProduct ⟨"Sugar", 150, ⟨1⟩, by decide⟩),
        (.calm, .updateProduct ⟨2⟩ ⟨none, some (some 65), fun _ h ↦ by cases h⟩)] _ milkShop_priced
    · decide +kernel
    · simp [Env.calm_faultless]
  obtain ⟨history, s, run, htwo, hsane⟩ := hrun
  exact ⟨history, s, run, htwo, (kept_iff_sane run).mpr hsane⟩

/-- The call reports a duplicate of a SKU that no product has. -/
def blamesFreeSku (m : Moment Catalogue (Env × Call)) : Bool :=
  match m.after.reply with
  | some (.error (.resourceAlreadyExists _ _ sku)) => sku ∉ m.before.rows.products.map (·.sku)
  | _ => false

/-- Sugar at 0.004 is stored at nothing, milk can be changed to nothing, and a
product of an unknown shop is reported as a duplicate of a SKU that is free. -/
theorem zero_prices_and_free_skus : ∃ history s,
    Run Priced (Steps (step .sample) fun _ r ↦ r.1.Faultless) history s ∧
      s.rows.products.map (·.price) = [0, 0] ∧ history.any blamesFreeSku = true ∧
      ¬ ∀ m ∈ history, Kept m := by
  have hrun : ∃ history s, Run Priced (Steps (step .sample) fun _ r ↦ r.1.Faultless) history s ∧
      s.rows.products.map (·.price) = [0, 0] ∧ history.any blamesFreeSku = true ∧
        ∃ m ∈ history, ∃ p ∈ m.after.rows.products, p.price = 0 := by
    apply exists_run_of_labels (s := milkShop)
      [(.calm, .createProduct ⟨"Sugar", mkRat 4 1000, ⟨1⟩, by decide +kernel⟩),
        (.calm, .updateProduct ⟨2⟩ ⟨none, some (some (mkRat (-1) 1000)), fun _ h ↦ by cases h⟩),
        (.calm, .createProduct ⟨"Tea", 90, ⟨404⟩, by decide⟩)] _ milkShop_priced
    · decide +kernel
    · simp [Env.calm_faultless]
  obtain ⟨history, s, run, hprices, hblames, m, hm, p, hp, hzero⟩ := hrun
  refine ⟨history, s, run, hprices, hblames, ?_⟩
  intro hkept
  exact ((hkept m hm).positive p hp).ne' hzero

end SokoFlow.Prices
