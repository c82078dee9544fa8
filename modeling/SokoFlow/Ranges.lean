import Mathlib.Data.List.GetD
import SokoFlow.Prices

/-!
# Numbers and their columns

What the conversation accepts as a price, a quantity or an order is not bounded
by what the columns of the tables hold: the details of a product and the total
of a sale can be confirmed and only then fail to be stored.
-/

namespace SokoFlow

open DbM Effect FlowM FSMEngine ProductService

/-! ## Amounts that fit -/

/-- `numeric field overflow`, and an integer out of range. -/
def outOfRange : Exc := .other "DBAPIError" "value out of range for its column"

theorem round_lt_iff {q : ℚ} (hq : 0 ≤ q) :
    Decimal.round q < 100000000 ↔ q < mkRat 19999999999 200 := by
  have hcents : Decimal.round q < 100000000 ↔ Decimal.halfUp (q * 100) < 10000000000 := by
    rw [Decimal.round, Decimal.ofCents, Rat.mkRat_eq_div, div_lt_iff₀ (by norm_num)]
    norm_num
    exact_mod_cast Iff.rfl
  rw [hcents, Decimal.halfUp, if_pos (by positivity), Int.floor_lt, Rat.mkRat_eq_div,
    Rat.mkRat_eq_div]
  push_cast
  constructor <;> intro h <;> linarith

/-- A rounded amount fits when it is less than half a cent above the largest. -/
theorem fitsMoney_round_iff {q : ℚ} (hq : 0 ≤ q) :
    FitsMoney (Decimal.round q) ↔ q < mkRat 19999999999 200 := by
  have hround := Decimal.round_nonneg hq
  rw [← round_lt_iff hq]
  constructor
  · intro h
    exact h.2.2
  · intro h
    exact ⟨Decimal.round_round q, by linarith, h⟩

/-! ## The details of a product -/

/-- The number a text for the price spells. -/
def writtenPrice (u : Unicode) (text : String) : Option ℚ :=
  match Decimal.read u (cleanPrice u text) with
  | some (.finite negative coefficient exponent) =>
      some (Decimal.literalValue negative coefficient exponent)
  | _ => none

/-- The number a text for the quantity spells. -/
def writtenQuantity (u : Unicode) (text : String) : Option ℤ := Text.readInt u (Text.strip text)

/-- An accepted price is the written one, rounded to cents. -/
theorem parsePrice_written {u : Unicode} {text : String} {price : Price}
    (h : parsePrice u text = .ok price) :
    ∃ q, writtenPrice u text = some q ∧ 0 ≤ q ∧ price.val = Decimal.round q := by
  unfold parsePrice at h
  cases hread : Decimal.read u (cleanPrice u text) with
  | none => simp [hread, invalidInput] at h
  | some literal =>
      cases literal with
      | finite negative coefficient exponent =>
          simp only [hread] at h
          cases hq : Decimal.quantize negative coefficient exponent with
          | none => simp [hq, invalidInput] at h
          | some cents =>
              simp only [hq] at h
              split at h
              · rename_i hpos
                cases h
                have hround := Decimal.quantize_eq_some hq
                have hwritten : writtenPrice u text =
                    some (Decimal.literalValue negative coefficient exponent) := by
                  unfold writtenPrice
                  rw [hread]
                refine ⟨_, hwritten, ?_, hround⟩
                by_contra hneg
                have hflip := Decimal.round_nonneg (neg_nonneg.mpr (not_le.mp hneg).le)
                rw [Decimal.round_neg, ← hround] at hflip
                linarith
              · cases h
      | infinite => simp [hread, invalidInput] at h
      | nan => simp [hread] at h
      | signalling => simp [hread, invalidInput] at h

theorem parseQuantity_written {u : Unicode} {text : String} {quantity : { n : ℤ // 0 ≤ n }}
    (h : parseQuantity u text = .ok quantity) : writtenQuantity u text = some quantity.val := by
  unfold parseQuantity at h
  split at h
  · cases h
  · rename_i n hn
    split at h <;> cases h
    exact hn

/-- The session waits for the confirmation of a product whose details are
these; what is stored as text fits, and the database has no faults. -/
structure ToConfirm (dep : Deployment) (t : Turn) (price : ℚ) (quantity : ℤ) : Prop where
  state : t.session.state = .CONFIRM_ADD_PRODUCT
  name : ∃ name, t.session.context.productName = some name ∧
    (skuInitials dep.unicode name).length ≤ 43
  price : t.session.context.productPrice = some price
  quantity : t.session.context.productQty = some quantity
  phone : FitsText 20 t.session.phone
  faultless : t.backend.env.Faultless
  usable : t.backend.aborted = false

/-- Confirming never meets a number that does not fit its column. -/
def StaysInRange (dep : Deployment) (price : ℚ) (quantity : ℤ) : Prop :=
  ∀ t text, ToConfirm dep t price quantity → Confirms dep text →
    ∀ t', processMessage dep text t ≠ .error outOfRange t'

variable {dep : Deployment} {t : Turn} {b : Backend} {text : String}

theorem fitsText_sku_iff {name : String} (pick : ℕ → ℕ) :
    FitsText 50 (String.ofList (skuInitials dep.unicode name ++ '-' :: skuSuffix pick)) ↔
      (skuInitials dep.unicode name).length ≤ 43 := by
  simp only [FitsText, Text.len, String.toList_ofList, List.length_append, List.length_cons,
    skuSuffix, List.length_map, List.length_range]
  omega

theorem shopOfSession_in_range (hphone : FitsText 20 t.session.phone) (hf : t.backend.env.Faultless)
    (ha : t.backend.aborted = false) : ∃ shopId t', AddProductFlow.shopOfSession t = .ok shopId t' := by
  unfold AddProductFlow.shopOfSession
  rw [session_bind]
  cases t.session.context.shopId with
  | some shopId => exact ⟨shopId, t, rfl⟩
  | none =>
      obtain ⟨id, b, hb⟩ := getShopId_calm hf ha hphone
      have hz : onDb (getShopId t.session.phone) t = .ok id { t with backend := b } :=
        zoom_eq_ok.mpr ⟨b, hb, rfl⟩
      exact ⟨id, _, bind_of_ok hz⟩

/-- With details that fit, the product is created and stocked, or its SKU or
its shop is refused. -/
theorem createStocked_in_range (data : ProductCreate) {quantity : ℤ} (hf : b.env.Faultless)
    (ha : b.aborted = false) (hname : (skuInitials dep.unicode data.name).length ≤ 43)
    (hprice : FitsMoney (Decimal.round data.price)) (hq : 0 ≤ quantity) (hfits : FitsInt quantity) :
    (∃ b', AddProductFlow.createStocked dep data.shopId data.name data.price quantity b =
        .ok () b') ∨
      ∃ sku b', AddProductFlow.createStocked dep data.shopId data.name data.price quantity b =
        .error (.resourceAlreadyExists "Product" "SKU" sku) b' := by
  have hsku := (fitsText_sku_iff (b.env.random b.tick)).mpr hname
  cases hr : insertion dep data b b.working with
  | ok r =>
      obtain ⟨product, db⟩ := r
      have hcreated : Created dep data b product db := ⟨hr, hf.statement _, hf.commit _⟩
      have hstocked : AddProductFlow.Stocked b quantity :=
        ⟨hf.statement _, fun _ ↦ ⟨hf.statement _, hfits, hf.commit _, hf.statement _⟩⟩
      obtain ⟨b', h, -⟩ := AddProductFlow.createStocked_stocked hcreated ha hq hstocked
      exact .inl ⟨b', h⟩
  | error e =>
      obtain ⟨b', h, -⟩ := createProduct_calm_error hf ha hr
      right
      rcases Prices.insertProduct_of_fits (b.env.uuid (b.tick + 1)) hsku hprice with
        ⟨p, db', hok⟩ | ⟨why, herr⟩
      · cases hok.symm.trans hr
      · cases herr.symm.trans hr
        rw [AddProductFlow.createStocked_apply]
        exact ⟨_, b', bind_of_error h⟩

theorem staysInRange {price : Price} {quantity : { n : ℤ // 0 ≤ n }} (hprice : FitsMoney price.val)
    (hfits : FitsInt quantity.val) : StaysInRange dep price.val quantity.val := by
  intro t text ht hc t' h
  obtain ⟨name, hname, hlen⟩ := ht.name
  obtain ⟨shopId, t₁, hshop⟩ := shopOfSession_in_range ht.phone ht.faultless ht.usable
  obtain ⟨ha₁, henv₁⟩ := AddProductFlow.shopOfSession_goes_on hshop ht.usable
  have hf₁ : t₁.backend.env.Faultless := henv₁ ▸ ht.faultless
  have hround : FitsMoney (Decimal.round price.val) := price.property.2.symm ▸ hprice
  rcases createStocked_in_range ⟨name, price.val, shopId, price.property.1⟩ hf₁ ha₁ hlen
      hround quantity.property hfits with ⟨b, hb⟩ | ⟨sku, b, hb⟩
  · have hpersist : AddProductFlow.persistProductDb dep name price.val quantity.val t =
        .ok () { t₁ with backend := b } := by
      unfold AddProductFlow.persistProductDb
      rw [bind_of_ok hshop]
      exact zoom_eq_ok.mpr ⟨b, hb, rfl⟩
    obtain ⟨r, t₂, hp, -⟩ := AddProductFlow.processMessage_of_persist ht.state hc hname ht.price
      ht.quantity hpersist
    rw [hp] at h
    cases h
  · have hpersist := AddProductFlow.persist_of_error hshop hb
    rw [AddProductFlow.processMessage_of_persist_error ht.state hc hname ht.price ht.quantity
      hpersist rfl] at h
    cases h

/-- Accepted details fit their columns, so that confirming them stays in range,
exactly when the numbers that were written are not too large. -/
theorem details_fit_iff {priceText quantityText : String} {price : Price}
    {quantity : { n : ℤ // 0 ≤ n }} (hp : parsePrice dep.unicode priceText = .ok price)
    (hq : parseQuantity dep.unicode quantityText = .ok quantity) :
    (FitsMoney price.val ∧ FitsInt quantity.val ∧ StaysInRange dep price.val quantity.val) ↔
      (∀ q ∈ writtenPrice dep.unicode priceText, q < mkRat 19999999999 200) ∧
        ∀ n ∈ writtenQuantity dep.unicode quantityText, n ≤ 2147483647 := by
  obtain ⟨q, hwritten, hnonneg, hround⟩ := parsePrice_written hp
  have hcount := parseQuantity_written hq
  have hmoney : FitsMoney price.val ↔ q < mkRat 19999999999 200 := by
    rw [hround, fitsMoney_round_iff hnonneg]
  have hint : FitsInt quantity.val ↔ quantity.val ≤ 2147483647 := by
    constructor
    · intro h
      exact h.2
    · intro h
      exact ⟨by have := quantity.property; omega, h⟩
  simp only [hwritten, hcount, Option.mem_some_iff, forall_eq']
  rw [← hmoney, ← hint]
  constructor
  · intro h
    exact ⟨h.1, h.2.1⟩
  · intro h
    exact ⟨h.1, h.2, staysInRange h.1 h.2⟩

theorem details_fit_of_milk : ∃ (price : Price) (quantity : { n : ℤ // 0 ≤ n }),
    parsePrice .ascii "KES 60.50" = .ok price ∧ parseQuantity .ascii "12" = .ok quantity ∧
      FitsMoney price.val ∧ FitsInt quantity.val ∧
        StaysInRange .sample price.val quantity.val := by
  have hp : parsePrice .ascii "KES 60.50" = .ok ⟨mkRat 6050 100, by decide +kernel⟩ := rfl
  have hq : parseQuantity .ascii "12" = .ok ⟨12, by decide⟩ := rfl
  have hsmall : (∀ q ∈ writtenPrice .ascii "KES 60.50", q < mkRat 19999999999 200) ∧
      ∀ n ∈ writtenQuantity .ascii "12", n ≤ 2147483647 := by decide +kernel
  have hfit := @details_fit_iff .sample _ _ _ _ hp hq
  exact ⟨_, _, hp, hq, hfit.mpr hsmall⟩

/-- A session that has a product to confirm. -/
def confirming (price : ℚ) (quantity : ℤ) : Turn where
  session := { UserSession.fresh "254700000001" with
    state := .CONFIRM_ADD_PRODUCT
    context := {
      productName := some "Gold"
      productPrice := some price
      productQty := some quantity } }
  backend := .connect .calm .sample

def raisesOutOfRange : EStateM.Result Exc Turn FSMResult → Bool
  | .error (.other type text) _ => type = "DBAPIError" && text = "value out of range for its column"
  | _ => false

theorem not_staysInRange {price : ℚ} {quantity : ℤ}
    (h : raisesOutOfRange (processMessage .sample "yes" (confirming price quantity)) = true) :
    ¬ StaysInRange .sample price quantity := by
  intro hstays
  have hphone : FitsText 20 "254700000001" := by decide
  have ht : ToConfirm .sample (confirming price quantity) price quantity :=
    ⟨rfl, ⟨"Gold", rfl, by decide +kernel⟩, rfl, rfl, hphone, Env.calm_faultless, rfl⟩
  have hnever := hstays _ "yes" ht rfl
  cases hr : processMessage .sample "yes" (confirming price quantity) with
  | ok r t' =>
      rw [hr] at h
      cases h
  | error e t' =>
      rw [hr] at h
      cases e with
      | other type text =>
          simp only [raisesOutOfRange, Bool.and_eq_true, decide_eq_true_eq] at h
          obtain ⟨rfl, rfl⟩ := h
          exact hnever t' hr
      | _ => cases h

/-- A price and a quantity that are accepted and cannot be stored. -/
theorem accepted_and_out_of_range : ∃ (price : Price) (quantity : { n : ℤ // 0 ≤ n }),
    parsePrice .ascii "100,000,000" = .ok price ∧ parseQuantity .ascii "2147483648" = .ok quantity ∧
      ¬ FitsMoney price.val ∧ ¬ StaysInRange .sample price.val 0 ∧
        ¬ FitsInt quantity.val ∧ ¬ StaysInRange .sample 60 quantity.val := by
  refine ⟨⟨100000000, by decide +kernel⟩, ⟨2147483648, by decide⟩, rfl, rfl, by decide +kernel, ?_,
    by decide, ?_⟩
  · apply not_staysInRange
    decide +kernel
  · apply not_staysInRange
    decide +kernel

/-! ## The total of a sale -/

open RecordSaleFlow SalesService

/-- The session waits for the quantity of a sale of this product. -/
structure AsksHowMany (t : Turn) (product : Product) : Prop where
  state : t.session.state = .RECORD_SALE_QTY
  productId : t.session.context.productId = some product.id
  name : t.session.context.productName = some product.name
  named : product.name ≠ ""
  price : t.session.context.productPrice = some product.price
  shopId : t.session.context.shopId = some product.shopId
  found : t.backend.working.product product.id = some product

/-- Confirming the sale on these rows stores it with this total. -/
def StoresTotal (dep : Deployment) (s : UserSession) (db : Database) (total : ℚ) : Prop :=
  ∀ env text, env.Faultless → Confirms dep text → ∃ sale,
    (final (processMessage dep text ⟨s, .connect env db⟩)).backend.working.sales =
      db.sales ++ [sale] ∧ sale.total = total

variable {product : Product} {r : FSMResult} {t₁ : Turn}

/-- A price times a quantity has whole cents, and fits up to the largest amount. -/
theorem fitsMoney_mul_iff {p : ℚ} {q : ℤ} (hp : FitsMoney p) (hnonneg : 0 ≤ p * q) :
    FitsMoney (p * q) ↔ p * q ≤ mkRat 9999999999 100 := by
  have hround := Decimal.round_mul_int hp.1 q
  rw [Rat.mkRat_eq_div]
  constructor
  · intro h
    have hcents : p * q = (Decimal.halfUp (p * q * 100) : ℚ) / 100 := by
      rw [Decimal.round, Decimal.ofCents, Rat.mkRat_eq_div] at hround
      exact hround.symm
    have hlt : (Decimal.halfUp (p * q * 100) : ℚ) < 10000000000 := by
      have := h.2.2
      rw [hcents] at this
      linarith
    have hle : (Decimal.halfUp (p * q * 100) : ℚ) ≤ 9999999999 := by
      have : Decimal.halfUp (p * q * 100) < 10000000000 := by exact_mod_cast hlt
      exact_mod_cast Int.le_sub_one_of_lt this
    rw [hcents]
    push_cast
    linarith
  · intro h
    push_cast at h
    exact ⟨hround, by linarith, by linarith⟩

/-- What the prompt for a sale says and leaves in the session. -/
structure ShowsSale (t t₁ : Turn) (product : Product) (r : FSMResult) (row : Inventory)
    (q : Quantity) : Prop where
  stocked : t.backend.working.inventoryOf product.id = some row
  enough : q.val ≤ row.quantity
  order : t₁.session.context.order = some ⟨product.shopId, product.id, product.name, q.val⟩
  shown : ("total", .decimal (product.price * q.val)) ∈ r.messageParams

theorem handleSaleProductQty_shows (ha : AsksHowMany t product)
    (h : handleSaleProductQty dep text t = .ok r t₁) :
    ∃ row q, ShowsSale t t₁ product r row q := by
  unfold handleSaleProductQty at h
  obtain ⟨q, -, h⟩ := ofExcept_bind_ok h
  rw [session_bind, ha.productId, ha.name, ha.price] at h
  dsimp only at h
  rw [if_neg ha.named] at h
  obtain ⟨row, b, hrow, h⟩ := onDb_bind_ok h
  obtain ⟨hstock, -, -⟩ := InventoryService.getStock_ok hrow
  split at h
  · cases h
  · rename_i henough
    cases h
    refine ⟨row, q, hstock, not_lt.mp henough, ?_, ?_⟩
    · simp [SessionContext.order, UserSession.moved, UserSession.edit, ha.productId, ha.name,
        ha.named, ha.shopId]
    · simp [UserSession.result]

theorem showsSale_of_processMessage (ha : AsksHowMany t product)
    (h : processMessage dep text t = .ok r t₁) (hs : t₁.session.state = .CONFIRM_SALE) :
    ∃ row q, ShowsSale t t₁ product r row q := by
  rcases processMessage_ok h with ⟨-, hk⟩ | ⟨-, t₂, hk, rfl⟩ | ⟨-, m, k, ps, t₂, -, hsame, -, hk⟩
  · cases hk
    cases hs
  · rw [ha.state] at hk
    obtain ⟨row, q, hp⟩ := handleSaleProductQty_shows ha hk
    exact ⟨row, q, hp.stocked, hp.enough, hp.order, hp.shown⟩
  · rcases onInvalidInput_ok hk with ⟨-, hk⟩ | ⟨-, rfl⟩
    · cases hk
      cases hs
    · have hstate : t₂.session.state = .CONFIRM_SALE := hs
      rw [hsame, ha.state] at hstate
      cases hstate

theorem conclude_working (s : UserSession) (o : Order) (sale : SaleResult) (t : Turn) :
    (final (conclude s o sale t)).backend.working = t.backend.working := by
  rw [conclude_apply]
  dsimp only
  split
  · rw [enqueue_apply]
    dsimp only
    cases (later (later t)).backend.env.broker (later (later t)).backend.tick <;> rfl
  · rfl

theorem storesTotal_of_fits {row : Inventory} {q : Quantity} (ha : AsksHowMany t product)
    (hp : ShowsSale t t₁ product r row q) (hs : t₁.session.state = .CONFIRM_SALE)
    (hfits : FitsMoney (product.price * q.val)) :
    StoresTotal dep t₁.session t.backend.working (product.price * q.val) := by
  intro env text hf hc
  have hsell : Sellable t.backend.working product.shopId product.id q.val product row :=
    ⟨ha.found, rfl, hp.stocked, hp.enough⟩
  obtain ⟨result, b, hr⟩ : ∃ result b, recordSale product.shopId product.id q.val "System"
      (.connect env t.backend.working) = .ok result b :=
    recordSale_accepted hf rfl hsell q.property hfits (by decide)
  obtain ⟨product', row', db, hw, hl, -, -⟩ := recordSale_ok hr
  have hproduct : product' = product := Option.some.inj (hw.sellable.found.symm.trans ha.found)
  have htotal : result.sale.total = product.price * q.val := by
    have hmem : result.sale ∈ db.sales := by
      rw [hw.sales]
      exact List.mem_append_right _ (List.mem_singleton_self _)
    rw [db.valid.sales.total _ hmem, hw.unitPrice, hw.quantity, hproduct]
  have hsales : b.working.sales = t.backend.working.sales ++ [result.sale] := by
    rw [hl.working]
    exact hw.sales
  refine ⟨result.sale, ?_, htotal⟩
  rw [← hsales]
  have hend := processMessage_confirmed (t := ⟨t₁.session, .connect env t.backend.working⟩) hs hc
  generalize processMessage dep text ⟨t₁.session, .connect env t.backend.working⟩ = res at hend
  cases hend with
  | corrupted ho =>
      rw [hp.order] at ho
      cases ho
  | failed ho hr' _ | refused ho hr' _ =>
      rw [hp.order] at ho
      cases ho
      rw [hr] at hr'
      cases hr'
  | recorded ho hr' hc' | unalerted ho hr' hc' =>
      rw [hp.order] at ho
      cases ho
      rw [hr] at hr'
      cases hr'
      have hworking := conclude_working t₁.session
        ⟨product.shopId, product.id, product.name, q.val⟩ result ⟨t₁.session, b⟩
      rw [hc'] at hworking
      exact congrArg (·.sales) hworking

theorem confirms_one (dep : Deployment) : Confirms dep "1" := by
  have hlower : Text.lower dep.unicode (Text.strip "1") = "1" := by
    have hascii : ∀ c ∈ ['1'], c.toNat < 128 := by
      intro c hc
      rw [List.mem_singleton.mp hc]
      decide
    have hstrip : Text.strip "1" = "1" := by decide
    rw [hstrip, Text.lower, show "1".toList = ['1'] from rfl, dep.unicode.lower_ascii _ hascii]
    rfl
  simp [Confirms, parseConfirmation, hlower]

theorem fitsMoney_of_storesTotal {s : UserSession} {db : Database} {total : ℚ}
    (h : StoresTotal dep s db total) : FitsMoney total := by
  obtain ⟨sale, hsales, rfl⟩ := h .calm "1" Env.calm_faultless (confirms_one dep)
  apply And.left
  apply And.right
  apply And.right
  apply (final (processMessage dep "1" ⟨s, .connect .calm db⟩)).backend.working.valid.sales.fits
  rw [hsales]
  exact List.mem_append_right _ (List.mem_singleton_self _)

/-- The total that is shown fits its column, and is stored when the sale is
confirmed, each exactly when it is no larger than the largest amount. -/
theorem shown_total_stored_iff (ha : AsksHowMany t product)
    (h : processMessage dep text t = .ok r t₁) (hs : t₁.session.state = .CONFIRM_SALE) :
    ∃ row q, ShowsSale t t₁ product r row q ∧
      (FitsMoney (product.price * q.val) ↔ product.price * q.val ≤ mkRat 9999999999 100) ∧
      (StoresTotal dep t₁.session t.backend.working (product.price * q.val) ↔
        product.price * q.val ≤ mkRat 9999999999 100) := by
  obtain ⟨row, q, hp⟩ := showsSale_of_processMessage ha h hs
  have hmem := (Database.mem_of_product ha.found).1
  have hvalid := t.backend.working.valid.products
  have hnonneg : 0 ≤ product.price * (q.val : ℚ) := by
    have hprice := hvalid.price product hmem
    have hq : (0 : ℚ) ≤ q.val := by exact_mod_cast q.property.le
    positivity
  have hfits := fitsMoney_mul_iff (hvalid.fits product hmem).2 hnonneg
  refine ⟨row, q, hp, hfits, ?_⟩
  rw [← hfits]
  constructor
  · intro h
    exact fitsMoney_of_storesTotal h
  · intro h
    exact storesTotal_of_fits ha hp hs h

/-- The quantity of a sale of the product is asked for. -/
def asking (product : Product) (db : Database) : Turn where
  session := { UserSession.fresh "254700000001" with
    state := .RECORD_SALE_QTY
    context := {
      productId := some product.id
      productName := some product.name
      productPrice := some product.price
      shopId := some product.shopId } }
  backend := .connect .calm db

def sampleMilk : Product := ⟨⟨2⟩, ⟨1⟩, "Milk", "M-AAAAAA", 60⟩

theorem asksHowMany_sampleMilk : AsksHowMany (asking sampleMilk .sample) sampleMilk :=
  ⟨rfl, rfl, rfl, by decide, rfl, rfl, rfl⟩

/-- A prompt to confirm the sale that shows this total. -/
def showsTotal (total : ℚ) : EStateM.Result Exc Turn FSMResult → Bool
  | .ok r t => t.session.state = .CONFIRM_SALE && r.messageParams.contains ("total", .decimal total)
  | _ => false

theorem exists_of_showsTotal {total : ℚ} {res : EStateM.Result Exc Turn FSMResult}
    (h : showsTotal total res = true) : ∃ r t₁, res = .ok r t₁ ∧
      t₁.session.state = .CONFIRM_SALE ∧ ("total", .decimal total) ∈ r.messageParams := by
  cases res with
  | ok r t₁ =>
      simp only [showsTotal, Bool.and_eq_true, decide_eq_true_eq, List.contains_iff_mem] at h
      exact ⟨r, t₁, rfl, h⟩
  | error e t₁ => cases h

theorem shown_total_stored_of_milk : ∃ r t₁ row q,
    ShowsSale (asking sampleMilk .sample) t₁ sampleMilk r row q ∧
      StoresTotal .sample t₁.session .sample (sampleMilk.price * q.val) := by
  have hprompt : showsTotal 180 (processMessage .sample "3" (asking sampleMilk .sample)) = true := by
    decide +kernel
  obtain ⟨r, t₁, h, hs, -⟩ := exists_of_showsTotal hprompt
  obtain ⟨row, q, hp, -, hstores⟩ := shown_total_stored_iff asksHowMany_sampleMilk h hs
  refine ⟨r, t₁, row, q, hp, hstores.mpr ?_⟩
  have hrow : row = ⟨⟨3⟩, ⟨2⟩, 10, 5⟩ := (Option.some.inj hp.stocked).symm
  have hq : (q.val : ℚ) ≤ 10 := by
    have henough := hp.enough
    rw [hrow] at henough
    exact_mod_cast henough
  rw [show sampleMilk.price = 60 from rfl, Rat.mkRat_eq_div]
  push_cast
  linarith

def gold : Product := ⟨⟨2⟩, ⟨1⟩, "Gold", "G-AAAAAA", mkRat 9999999999 100⟩

/-- Two pieces at the largest price. -/
def vault : Database where
  toRows := { Database.sample.toRows with
    products := [gold]
    inventory := [⟨⟨3⟩, ⟨2⟩, 2, 5⟩] }
  valid := by decide +kernel

/-- The total of both pieces is shown, and raises once it is confirmed. -/
theorem shown_and_out_of_range : AsksHowMany (asking gold vault) gold ∧ ∃ r t₁,
    processMessage .sample "2" (asking gold vault) = .ok r t₁ ∧
      t₁.session.state = .CONFIRM_SALE ∧ ("total", .decimal (gold.price * 2)) ∈ r.messageParams ∧
      ¬ FitsMoney (gold.price * 2) ∧ ¬ StoresTotal .sample t₁.session vault (gold.price * 2) ∧
      raisesOutOfRange
        (processMessage .sample "yes" (final (processMessage .sample "2" (asking gold vault)))) = true := by
  have hprompt : showsTotal (gold.price * 2)
      (processMessage .sample "2" (asking gold vault)) = true := by
    decide +kernel
  have hlarge : ¬ FitsMoney (gold.price * 2) := by decide +kernel
  refine ⟨⟨rfl, rfl, rfl, by decide, rfl, rfl, rfl⟩, ?_⟩
  obtain ⟨r, t₁, h, hs, hshown⟩ := exists_of_showsTotal hprompt
  refine ⟨r, t₁, h, hs, hshown, hlarge, ?_, by decide +kernel⟩
  intro hstores
  exact hlarge (fitsMoney_of_storesTotal hstores)

/-! ## The SKU of a product -/

/-- How many characters the initials of a name take in upper case. -/
def initialsWidth (u : Unicode) (name : String) : ℕ :=
  ((Text.splitChars name.toList).map fun word ↦ (u.upper (word.take 1)).length).sum

theorem length_skuInitials (u : Unicode) (name : String) :
    (skuInitials u name).length = initialsWidth u name := by
  rw [skuInitials, List.length_flatMap, initialsWidth]

/-- The initials of the name, a hyphen and six capital letters or digits. -/
def IsSkuOf (u : Unicode) (name sku : String) : Prop :=
  ∃ suffix, sku = String.ofList (skuInitials u name ++ '-' :: suffix) ∧ suffix.length = 6 ∧
    ∀ c ∈ suffix, c ∈ "ABCDEFGHIJKLMNOPQRSTUVWXYZ0123456789".toList

theorem isSkuOf_generated (u : Unicode) (name : String) (pick : ℕ → ℕ) :
    IsSkuOf u name (String.ofList (skuInitials u name ++ '-' :: skuSuffix pick)) := by
  refine ⟨_, rfl, by simp [skuSuffix], ?_⟩
  intro c hc
  simp only [skuSuffix, List.mem_map] at hc
  obtain ⟨i, -, rfl⟩ := hc
  have hlt : pick i % 36 < "ABCDEFGHIJKLMNOPQRSTUVWXYZ0123456789".toList.length :=
    Nat.mod_lt _ (by decide)
  rw [List.getD_eq_getElem _ _ hlt]
  exact List.getElem_mem hlt

/-- The SKUs of a name have their form and fit, and no product with this name
and a price that fits meets a value that does not. -/
structure SkusFit (dep : Deployment) (name : String) : Prop where
  generated : ∀ b, ∃ sku b', generateSku dep name b = .ok sku b' ∧ IsSkuOf dep.unicode name sku ∧
    sku ≠ "" ∧ FitsText 50 sku
  created : ∀ (data : ProductCreate) b b', data.name = name → FitsMoney (Decimal.round data.price) →
    b.env.Faultless → b.aborted = false → createProduct dep data b ≠ .error outOfRange b'

theorem createProduct_in_range {data : ProductCreate} {b' : Backend}
    (hname : (skuInitials dep.unicode data.name).length ≤ 43)
    (hprice : FitsMoney (Decimal.round data.price)) (hf : b.env.Faultless)
    (ha : b.aborted = false) : createProduct dep data b ≠ .error outOfRange b' := by
  intro h
  have hsku := (fitsText_sku_iff (b.env.random b.tick)).mpr hname
  rcases Prices.insertProduct_of_fits (b.env.uuid (b.tick + 1)) hsku hprice with
    ⟨p, db, hr⟩ | ⟨why, hr⟩
  · obtain ⟨b₁, h₁, -⟩ := createProduct_calm hf ha hr
    cases h.symm.trans h₁
  · obtain ⟨b₁, h₁, -⟩ := createProduct_calm_error hf ha hr
    cases h.symm.trans h₁

/-- The SKUs of an accepted name fit exactly when its initials take at most 43 characters. -/
theorem skusFit_iff (name : ProductName) :
    SkusFit dep name.val ↔ initialsWidth dep.unicode name.val ≤ 43 := by
  rw [← length_skuInitials]
  constructor
  · intro h
    obtain ⟨sku, b', hok, -, -, hfits⟩ := h.generated (.connect .calm .sample)
    rw [(generateSku_ok hok).1] at hfits
    exact (fitsText_sku_iff _).mp hfits
  · intro h
    constructor
    · intro b
      have hfits := (fitsText_sku_iff (b.env.random b.tick)).mpr h
      refine ⟨_, _, rfl, isSkuOf_generated _ _ _, ?_, hfits⟩
      intro hempty
      have hlist := congrArg String.toList hempty
      simp at hlist
    · intro data b b' hdata hprice hf ha
      exact createProduct_in_range (hdata ▸ h) hprice hf ha

/-- Forty-four words of one letter. -/
def manyWords : ProductName :=
  ⟨"a a a a a a a a a a a a a a a a a a a a a a a a a a a a a a a a a a a a a a a a a a a a", by
    decide⟩

theorem manyWords_out_of_range : parseProductName manyWords.val = .ok manyWords ∧
    ¬ SkusFit .sample manyWords.val ∧
    ∃ b, createProduct .sample ⟨manyWords.val, 35, ⟨1⟩, by decide +kernel⟩ (.connect .calm .sample) =
      .error outOfRange b := by
  have hlong : ¬ FitsText 50 (String.ofList
      (skuInitials .ascii manyWords.val ++ '-' :: skuSuffix (Env.calm.random 0))) := by
    decide +kernel
  refine ⟨by decide +kernel, ?_, ?_⟩
  · intro h
    obtain ⟨sku, b', hok, -, -, hfits⟩ := h.generated (.connect .calm .sample)
    rw [(generateSku_ok hok).1] at hfits
    exact hlong hfits
  · have hr : insertion .sample ⟨manyWords.val, 35, ⟨1⟩, by decide +kernel⟩ (.connect .calm .sample)
        .sample = .error outOfRange := by
      rw [insertion, Database.insertProduct, Database.write, if_neg]
      · rfl
      · intro hfits
        exact hlong hfits.1
    obtain ⟨b, h, -⟩ := createProduct_calm_error Env.calm_faultless rfl hr
    exact ⟨b, h⟩

end SokoFlow
