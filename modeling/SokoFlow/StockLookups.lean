import SokoFlow.Escapes
import SokoFlow.StockRuns

/-!
# The two lookups of stock

A product that was never given stock has no inventory row: the conversation
raises for it, the tool of the analytics shows zero units at a threshold of
zero, and the list of low stock leaves it out.
-/

namespace SokoFlow

open DbM Effect FlowM Analytics InventoryService

variable {dep : Deployment} {text : String} {t t' : Turn} {r : FSMResult} {b b' : Backend}

/-- Nothing fails in the session from here on. -/
structure Backend.Ready (b : Backend) : Prop where
  faultless : b.env.Faultless
  usable : b.aborted = false

/-! ## Asking in the conversation -/

namespace StockLookupFlow

/-- The message asks for the stock of a product, by its name or off a list. -/
inductive LooksUp (dep : Deployment) (text : String) (t : Turn) (p : UUID) : Prop
  | named {name : ProductName} {m : ScoredProductMatch}
      (hs : t.session.state = .CHECK_STOCK_PRODUCT) (hn : parseProductName text = .ok name)
      (hm : Names dep t.session t.backend.working name.val m) (hid : m.id = p)
  | chosen {m : ScoredProductMatch} (hs : t.session.state = .CHECK_STOCK_PRODUCT_SELECTION)
      (hm : resolveProductChoice dep.unicode t.session.context.productCandidates text = .ok m)
      (hid : m.id = p)

/-- The reply shows this many units. -/
def Shows (units : ℤ) (result : EStateM.Result Exc Turn FSMResult) : Prop :=
  ∃ r t name, result = .ok r t ∧ r.reply = (.STOCK_REMAINING, stockParams name units)

theorem not_shows_error {units : ℤ} {e : Exc} {t : Turn} : ¬ Shows units (.error e t) := by
  rintro ⟨_, _, _, h, -⟩
  cases h

theorem showStock_shows {s : UserSession} {m : ScoredProductMatch} {row : Inventory}
    (hf : t.backend.env.Faultless) (ha : t.backend.aborted = false)
    (hrow : t.backend.working.inventoryOf m.id = some row) :
    ∃ r t', showStock s m t = .ok r t' ∧
      r.reply = (.STOCK_REMAINING, stockParams m.name row.quantity) := by
  obtain ⟨b, hb, -⟩ := getStock_calm hf ha hrow
  have hz : onDb (getStock m.id) t = .ok row { t with backend := b } := zoom_eq_ok.mpr ⟨b, hb, rfl⟩
  unfold showStock
  rw [bind_of_ok hz]
  exact ⟨_, _, rfl, rfl⟩

/-- The handler of a lookup comes to the product, on the same rows. -/
theorem handler_finds {p : UUID} (h : LooksUp dep text t p) (hb : t.backend.Ready) :
    ∃ m t₁, FSMEngine.handler dep t.session.state text t = showStock t.session m t₁ ∧ m.id = p ∧
      t₁.backend.working = t.backend.working ∧ t₁.backend.Ready := by
  cases h with
  | @named name m hs hn hm hid =>
      obtain ⟨t₁, hshow, hw, hf, ha⟩ := handleStockName_finds hn hm hb.faultless hb.usable
      rw [hs]
      exact ⟨m, t₁, hshow, hid, hw, hf, ha⟩
  | @chosen m hs hm hid =>
      refine ⟨m, { t with session := t.session.edit (RecordSaleFlow.withProduct m) }, ?_, hid, rfl, hb⟩
      rw [hs]
      change handleStockProductSelection dep text t = _
      unfold handleStockProductSelection
      rw [session_bind, ofExcept_bind_of_ok hm, editContext_bind]
      rfl

/-- A lookup shows the units of the row, and raises if there is none. -/
theorem processMessage_lookup {p : UUID} (ho : FSMEngine.isOverride dep text = false)
    (h : LooksUp dep text t p) (hb : t.backend.Ready) (units : ℤ) :
    Shows units (FSMEngine.processMessage dep text t) ↔
      ∃ row, t.backend.working.inventoryOf p = some row ∧ row.quantity = units := by
  obtain ⟨m, t₁, hshow, rfl, hw, hb₁⟩ := handler_finds h hb
  cases hrow : t.backend.working.inventoryOf m.id with
  | none =>
      obtain ⟨e, t₂, he, hbusiness⟩ : ∃ e t₂, showStock t.session m t₁ = .error e t₂ ∧
          e.isBusiness = true := getStock_raises hb₁.faultless hb₁.usable (hw ▸ hrow)
      have hi : e.isInvalidInput = false := by
        cases e <;> first | rfl | cases hbusiness
      rw [FSMEngine.processMessage_of_error ho (hshow.trans he) hi]
      exact iff_of_false not_shows_error (by simp)
  | some row =>
      obtain ⟨r, t₂, hr, hreply⟩ := showStock_shows (s := t.session) hb₁.faultless hb₁.usable (hw ▸ hrow)
      rw [FSMEngine.processMessage_of_ok ho (hshow.trans hr)]
      constructor
      · rintro ⟨r', t₃, name, h, hr'⟩
        cases h
        refine ⟨row, rfl, ?_⟩
        have hunits := congrArg Prod.snd (hreply.symm.trans hr')
        simp only [stockParams, List.cons.injEq, Prod.mk.injEq, Param.int.injEq] at hunits
        exact hunits.2.1.2
      · rintro ⟨row', hrow', rfl⟩
        cases hrow'
        exact ⟨r, _, m.name, rfl, hreply⟩

end StockLookupFlow

/-! ## Asking the analytics -/

namespace Analytics

variable {shopId : UUID} {query : ProductQuery} {product : Product}

/-- A product of the shop, read from rows that can go on being read. -/
structure Found (shopId : UUID) (product : Product) (b : Backend) : Prop where
  usable : b.aborted = false
  there : product ∈ b.working.products
  own : product.shopId = shopId

theorem productOfShop_found {id : UUID} {term : String}
    (h : productOfShop shopId id term b = .ok product b') : Found shopId product b' := by
  obtain ⟨found, b₁, hs, h⟩ := bind_eq_ok.mp h
  cases found with
  | none => cases h
  | some product' =>
      dsimp only at h
      split at h
      · rename_i hown
        cases h
        obtain ⟨hq, hu⟩ := select_ok hs
        refine ⟨select_aborted hs, ?_, hown⟩
        rw [hu.working]
        exact Table.mem_of_lookup hq.symm
      · cases h

theorem productByName_found {name : Option String}
    (h : productByName dep shopId name b = .ok product b') : Found shopId product b' := by
  cases name with
  | none => cases h
  | some name =>
      unfold productByName at h
      dsimp only at h
      split at h
      · cases h
      · obtain ⟨found, b₁, -, h⟩ := bind_eq_ok.mp h
        cases found with
        | notFound => cases h
        | exactMatch m => exact productOfShop_found h
        | ambiguous candidates => cases h

theorem findProduct_found (h : findProduct dep shopId query b = .ok product b') :
    Found shopId product b' := by
  obtain ⟨id, name, hn⟩ := query
  cases id with
  | none => exact productByName_found h
  | some id =>
      unfold findProduct at h
      dsimp only at h
      split at h
      · exact productByName_found h
      · exact productOfShop_found h

theorem findProduct_working (h : findProduct dep shopId query b = .ok product b') :
    b'.working = b.working :=
  ((findProduct_queries (.inl rfl) dep shopId query).within.of_ok h).working

theorem findProduct_ready (h : findProduct dep shopId query b = .ok product b') (hb : b.Ready) :
    b'.Ready ∧ b'.working = b.working := by
  have hu := (findProduct_queries (.inl rfl) dep shopId query).within.of_ok h
  exact ⟨⟨hu.env ▸ hb.faultless, (findProduct_found h).usable⟩, hu.working⟩

theorem findProduct_of_id (hb : b.Ready) (hid : query.productId = some product.id)
    (hnil : product.id ≠ UUID.nil) (hp : b.working.product product.id = some product) :
    ∃ b', findProduct dep product.shopId query b = .ok product b' := by
  obtain ⟨b₁, hs, -⟩ := select_calm (fun db ↦ db.product product.id) hb.faultless hb.usable
  refine ⟨b₁, ?_⟩
  unfold findProduct
  rw [hid]
  dsimp only
  rw [if_neg hnil]
  unfold productOfShop
  rw [bind_of_ok hs, hp]
  dsimp only
  rw [if_pos rfl]
  rfl

/-- What the tool answers about a product with this row, or without one. -/
def levelOf (product : Product) (row : Option Inventory) : StockLevel :=
  let (quantity, threshold) := match row with
    | none => (0, 0)
    | some i => (i.quantity, i.lowStockThreshold)
  { productId := product.id
    productName := product.name
    quantity := quantity
    lowStockThreshold := threshold
    unitPrice := product.price
    isLowStock := decide (quantity ≤ threshold) }

theorem handleGetStockLevel_found {b₁ : Backend} (h : findProduct dep shopId query b = .ok product b₁)
    (hb : b.Ready) : ∃ b', handleGetStockLevel dep shopId query b =
      .ok (levelOf product (b.working.inventoryOf product.id)) b' := by
  obtain ⟨hb₁, hw⟩ := findProduct_ready h hb
  obtain ⟨b₂, hs, -⟩ := select_calm (fun db ↦ db.inventoryOf product.id) hb₁.faultless hb₁.usable
  unfold handleGetStockLevel
  rw [bind_of_ok h, bind_of_ok hs, hw]
  exact ⟨b₂, rfl⟩

/-- The tool answers with this many units. -/
def Answers (units : ℤ) (result : EStateM.Result Exc Backend StockLevel) : Prop :=
  ∃ out b, result = .ok out b ∧ out.quantity = units

/-- The tool counts a missing row as no units. -/
theorem answers_iff {b₁ : Backend} (h : findProduct dep shopId query b = .ok product b₁)
    (hb : b.Ready) (units : ℤ) :
    Answers units (handleGetStockLevel dep shopId query b) ↔ b.working.stock product.id = units := by
  obtain ⟨b', hr⟩ := handleGetStockLevel_found h hb
  have hq : (levelOf product (b.working.inventoryOf product.id)).quantity =
      b.working.stock product.id := by
    unfold levelOf Database.stock
    cases b.working.inventoryOf product.id <;> rfl
  rw [hr, ← hq]
  constructor
  · rintro ⟨out, b₂, h, hunits⟩
    cases h
    exact hunits
  · intro hunits
    exact ⟨_, _, rfl, hunits⟩

end Analytics

/-! ## Adding a product -/

namespace AddProductFlow

/-- The message makes this product. -/
structure Creates (dep : Deployment) (text : String) (t t' : Turn) (r : FSMResult)
    (product : Product) : Prop where
  answered : FSMEngine.processMessage dep text t = .ok r t'
  new : product.id ∉ t.backend.working.products.map (·.id)
  there : product ∈ t'.backend.working.products

/-- A product with this many units of opening stock, and no row for none. -/
structure OpenedWith (p : UUID) (units : ℤ) (db : Database) : Prop where
  stock : db.stock p = units
  row : (db.inventoryOf p).isSome ↔ 0 < units

/-- The product is there now, with this opening stock, and no other stock moved. -/
structure Opens (product : Product) (units : ℤ) (db db' : Database) : Prop where
  new : product.id ∉ db.products.map (·.id)
  products : db'.products = db.products ++ [product]
  opened : OpenedWith product.id units db'
  others : ∀ p, p ≠ product.id → db'.inventoryOf p = db.inventoryOf p

theorem createStocked_opens {shopId : UUID} {name : String} {price : ℚ} {quantity : ℤ}
    (hq : 0 ≤ quantity) (h : createStocked dep shopId name price quantity b = .ok () b') :
    ∃ product, Opens product quantity b.working b'.working := by
  unfold createStocked at h
  split at h
  · obtain ⟨p, b₁, h₁, h⟩ := bind_eq_ok.mp h
    obtain ⟨db, hl, -, -, -, -, hrows⟩ := ProductService.createProduct_ok h₁
    have hinventory : db.inventory = b.working.inventory := by rw [hrows]
    have hproducts : db.products = b.working.products ++ [p] := by rw [hrows]
    have hnew : p.id ∉ b.working.products.map (·.id) := by
      have hids := db.valid.products.ids
      rw [hproducts, List.map_append, List.nodup_append] at hids
      intro hold
      exact hids.2.2 p.id hold p.id (by simp) rfl
    have hsame (p' : UUID) : db.inventoryOf p' = b.working.inventoryOf p' := by
      rw [Database.inventoryOf, Database.inventoryOf, hinventory]
    have hnone : db.inventoryOf p.id = none := by
      refine Table.lookup_eq_none.mpr fun row hrow hid ↦ hnew ?_
      rw [hinventory] at hrow
      exact hid ▸ b.working.valid.inventory.product row hrow
    have hzero : db.stock p.id = 0 := by
      rw [Database.stock, hnone]
      rfl
    suffices hrest : b'.working.products = b.working.products ++ [p] ∧
        OpenedWith p.id quantity b'.working ∧
        ∀ p', p' ≠ p.id → b'.working.inventoryOf p' = b.working.inventoryOf p' from
      ⟨p, hnew, hrest.1, hrest.2.1, hrest.2.2⟩
    split at h
    · rename_i hpos
      obtain ⟨row, b₂, h₂, h⟩ := bind_eq_ok.mp h
      cases h
      obtain ⟨db', hl₂, hunits, hw⟩ := addStock_ok h₂
      rw [hl.working] at hunits hw
      rw [hl₂.working]
      refine ⟨hw.products.trans hproducts, ⟨?_, iff_of_true (by rw [hw.row]; rfl) hpos⟩, ?_⟩
      · rw [Database.stock_of_inventoryOf hw.row, hunits, hzero, zero_add]
      · intro p' hne
        rw [hw.others p' hne, hsame]
    · rename_i hpos
      cases h
      rw [hl.working]
      refine ⟨hproducts, ⟨?_, iff_of_false (by simp [hnone]) hpos⟩, fun p' _ ↦ hsame p'⟩
      rw [hzero]
      omega
  · cases h

theorem shopOfSession_goods {shopId : UUID} (h : shopOfSession t = .ok shopId t') :
    t.backend.working.SameGoods t'.backend.working := by
  unfold shopOfSession at h
  rw [session_bind] at h
  cases hs : t.session.context.shopId with
  | some id =>
      rw [hs] at h
      cases h
      exact .refl _
  | none =>
      rw [hs] at h
      obtain ⟨id, b, hb, h⟩ := onDb_bind_ok h
      cases h
      exact (getShopId_ok hb).2.1

theorem persistProductDb_silent {name : String} {price : ℚ} {quantity : ℤ} {e : Exc}
    (h : persistProductDb dep name price quantity t = .error e t') : e.isInvalidInput = false := by
  rcases bind_eq_error.mp h with h | ⟨shopId, t₂, -, h⟩
  · exact shopOfSession_silent t e t' h
  · obtain ⟨b₂, h, -⟩ := zoom_eq_error.mp h
    exact createStocked_silent h

/-- An answered confirmation makes one product, with the stock that was shown,
or leaves the goods as they were. -/
theorem answered_opens {name : ProductName} {price : Price} {quantity : { n : ℤ // 0 ≤ n }}
    (hs : Dialogue.Shows t.session (.confirmAdd name price quantity))
    (hr : FSMEngine.processMessage dep text t = .ok r t') :
    t.backend.working.SameGoods t'.backend.working ∨
      ∃ product, Opens product quantity.val t.backend.working t'.backend.working := by
  by_cases hc : Confirms dep text
  · have hname : t.session.context.productName = some name.val := congrArg (·.productName) hs.content
    have hprice : t.session.context.productPrice = some price.val :=
      congrArg (·.productPrice) hs.content
    have hqty : t.session.context.productQty = some quantity.val :=
      congrArg (·.productQty) hs.content
    have hhandle : FSMEngine.handler dep t.session.state text t = handleConfirm dep text t := by
      rw [hs.state]
      rfl
    rw [handleConfirm_of_confirms hc hname hprice hqty] at hhandle
    cases hp : persistProductDb dep name.val price.val quantity.val t with
    | error e t₁ =>
        have hsilent : e.isInvalidInput = false := persistProductDb_silent hp
        rw [processMessage_of_persist_error hs.state hc hname hprice hqty hp hsilent] at hr
        cases hr
    | ok u t₁ =>
        rw [bind_of_ok hp] at hhandle
        rw [FSMEngine.processMessage_of_ok hc.not_override hhandle] at hr
        cases hr
        obtain ⟨shopId, t₂, hshop, hdb⟩ := bind_eq_ok.mp hp
        obtain ⟨b₂, hcreate, rfl⟩ := zoom_eq_ok.mp hdb
        have hgoods := shopOfSession_goods hshop
        obtain ⟨product, ho⟩ := createStocked_opens quantity.property hcreate
        refine .inr ⟨product, hgoods.products ▸ ho.new, hgoods.products ▸ ho.products, ho.opened,
          fun p hne ↦ (ho.others p hne).trans ?_⟩
        rw [Database.inventoryOf, Database.inventoryOf, hgoods.inventory]
  · have hu := untouched_of_not_confirms hs.state hc
    rw [hr] at hu
    have hw : t'.backend.working = t.backend.working := hu.working
    rw [hw]
    exact .inl (.refl _)

/-- A product that a confirmation makes has the stock that was confirmed. -/
theorem creates_opens {product : Product} {name : ProductName} {price : Price}
    {quantity : { n : ℤ // 0 ≤ n }} (hs : Dialogue.Shows t.session (.confirmAdd name price quantity))
    (h : Creates dep text t t' r product) :
    Opens product quantity.val t.backend.working t'.backend.working := by
  have hthere := h.there
  rcases answered_opens hs h.answered with hsame | ⟨product', ho⟩
  · rw [hsame.products] at hthere
    exact absurd (List.mem_map_of_mem hthere) h.new
  · rw [ho.products, List.mem_append, List.mem_singleton] at hthere
    rcases hthere with hold | rfl
    · exact absurd (List.mem_map_of_mem hold) h.new
    · exact ho

end AddProductFlow

/-! ## Both lookups -/

open AddProductFlow StockLookupFlow Runs
open StockRuns (Stock Operation)

/-- Both lookups show the units that were opened with and posted since. -/
def BothShow (dep : Deployment) (text : String) (t : Turn) (shopId : UUID) (query : ProductQuery)
    (b : Backend) (units : ℤ) : Prop :=
  StockLookupFlow.Shows units (FSMEngine.processMessage dep text t) ∧
    Answers units (handleGetStockLevel dep shopId query b)

/-- A product is added, its stock moves, and then it is looked up both ways: the
lookups agree with what was posted exactly when stock was ever put in. -/
theorem both_lookups_show_iff {product found : Product} {name : ProductName} {price : Price}
    {quantity : { n : ℤ // 0 ≤ n }} {history : List Operation} {s : Stock} {text' : String}
    {asking : Turn} {shopId : UUID} {query : ProductQuery} {b b₁ : Backend}
    (hs : Dialogue.Shows t.session (.confirmAdd name price quantity))
    (hadded : Creates dep text t t' r product)
    (run : Run (fun s ↦ s.rows = t'.backend.working) StockRuns.Step history s)
    (hrows : asking.backend.working = s.rows) (hasking : asking.backend.Ready)
    (ho : FSMEngine.isOverride dep text' = false) (hlook : LooksUp dep text' asking product.id)
    (hrows' : b.working = s.rows) (hb : b.Ready)
    (hfound : findProduct dep shopId query b = .ok found b₁) (hid : found.id = product.id) :
    BothShow dep text' asking shopId query b
        (quantity + (history.map (Operation.posted product.id)).sum) ↔
      0 < quantity.val ∨ ∃ m ∈ history, Operation.Adds product.id m := by
  have hopened := (creates_opens hs hadded).opened
  obtain ⟨hstock, hrow⟩ := StockRuns.stock_of_run run product.id
  rw [hopened.stock] at hstock
  rw [hopened.row] at hrow
  unfold BothShow
  rw [processMessage_lookup ho hlook hasking, answers_iff hfound hb, hid, hrows', ← hstock, hrows,
    ← hrow]
  constructor
  · rintro ⟨⟨row, hsome, -⟩, -⟩
    rw [hsome]
    rfl
  · intro hsome
    obtain ⟨row, hi⟩ := Option.isSome_iff_exists.mp hsome
    exact ⟨⟨row, hi, (Database.stock_of_inventoryOf hi).symm⟩, rfl⟩

/-! Soap is added with ten units, or with none. -/

/-- Soap waits for its confirmation. -/
def soapShown (quantity : String) : Turn :=
  ⟨talk .sample (UserSession.fresh "254700000001") (soap quantity), .connect .calm .sample⟩

def confirmSoap (quantity : String) : EStateM.Result Exc Turn FSMResult :=
  FSMEngine.processMessage .sample "yes" (soapShown quantity)

/-- What a confirmation committed. -/
def soapRows (quantity : String) : Database := (final (confirmSoap quantity)).backend.working

def soapProduct : Product := ⟨⟨3⟩, ⟨1⟩, "Soap", "S-AAAAAA", 50⟩

/-- "check stock" after the confirmation, before the name. -/
def askingForSoap (quantity : String) : Turn :=
  ⟨talk .sample (final (confirmSoap quantity)).session
    [(.connect .calm (soapRows quantity), "check stock")], .connect .calm (soapRows quantity)⟩

def soapFound : ScoredProductMatch :=
  ⟨⟨3⟩, ⟨1⟩, "Soap", "S-AAAAAA", 50, ⟨1, by decide, by decide⟩⟩

def soapQuery : ProductQuery := ⟨some ⟨3⟩, none, fun h ↦ by cases h⟩

theorem connect_ready (db : Database) : (Backend.connect .calm db).Ready :=
  ⟨Env.calm_faultless, rfl⟩

theorem confirmSoap_creates {quantity : String} (h : AddProductFlow.raised (confirmSoap quantity) = none)
    (hthere : soapProduct ∈ (soapRows quantity).products) :
    ∃ r, Creates .sample "yes" (soapShown quantity) (final (confirmSoap quantity)) r soapProduct := by
  cases hr : confirmSoap quantity with
  | error e t =>
      rw [hr] at h
      cases h
  | ok r t =>
      have hnew : soapProduct.id ∉ Database.sample.products.map (·.id) := by decide
      refine ⟨r, hr, hnew, ?_⟩
      unfold soapRows at hthere
      rwa [hr] at hthere

theorem soapProduct_found {db : Database} (h : db.product soapProduct.id = some soapProduct) :
    ∃ b, findProduct .sample ⟨1⟩ soapQuery (.connect .calm db) = .ok soapProduct b := by
  have hnil : soapProduct.id ≠ UUID.nil := by decide
  have hid : soapQuery.productId = some soapProduct.id := rfl
  exact findProduct_of_id (connect_ready db) hid hnil h

theorem confirmAdd_of_shows {s : UserSession} {p : Dialogue.Phase} {n : ℤ}
    (hs : Dialogue.Shows s p) (hstate : s.state = .CONFIRM_ADD_PRODUCT)
    (hqty : s.context.productQty = some n) :
    ∃ name price units, Dialogue.Shows s (.confirmAdd name price units) ∧ units.val = n := by
  have hp : p.state = .CONFIRM_ADD_PRODUCT := hs.state.symm.trans hstate
  cases p with
  | confirmAdd name price units =>
      have hunits : s.context.productQty = some units.val := congrArg (·.productQty) hs.content
      exact ⟨name, price, units, hs, Option.some.inj (hunits.symm.trans hqty)⟩
  | _ => cases hp

theorem soapShown_shows (quantity : String) : ∃ p, Dialogue.Shows (soapShown quantity).session p := by
  unfold soapShown
  dsimp only
  exact talk_shows ⟨.idle, Dialogue.Shows.fresh _⟩ (soap quantity)

theorem both_lookups_show_soap :
    ∃ b, BothShow .sample "Soap" (askingForSoap "10") ⟨1⟩ soapQuery b 10 := by
  obtain ⟨p, hp⟩ := soapShown_shows "10"
  have hconfirm : (soapShown "10").session.state = .CONFIRM_ADD_PRODUCT := by decide +kernel
  have hqty : (soapShown "10").session.context.productQty = some 10 := by decide +kernel
  obtain ⟨name, price, quantity, hs, hten⟩ := confirmAdd_of_shows hp hconfirm hqty
  have hraised : AddProductFlow.raised (confirmSoap "10") = none := by decide +kernel
  obtain ⟨r, hadded⟩ := confirmSoap_creates hraised (by decide +kernel)
  obtain ⟨b₁, hfound⟩ : ∃ b₁, findProduct .sample ⟨1⟩ soapQuery (.connect .calm (soapRows "10")) =
      .ok soapProduct b₁ :=
    soapProduct_found (by decide +kernel)
  have hlook : LooksUp .sample "Soap" (askingForSoap "10") soapProduct.id := by
    have hnames : Names .sample (askingForSoap "10").session (soapRows "10") "Soap" soapFound := by
      refine ⟨⟨⟨1⟩, "254700000001", some "Dairy", .en⟩, [], ?_, ?_, ?_⟩ <;> decide +kernel
    have hname : parseProductName "Soap" = .ok ⟨"Soap", by decide⟩ := by rfl
    exact .named (by decide +kernel) hname hnames rfl
  obtain ⟨t', ht'⟩ : ∃ t', t' = final (confirmSoap "10") := ⟨_, rfl⟩
  rw [← ht'] at hadded
  have hrun : Run (fun s ↦ s.rows = t'.backend.working) StockRuns.Step [] ⟨soapRows "10", none⟩ :=
    .start (by rw [ht']; rfl)
  have hasking : (askingForSoap "10").backend.working = soapRows "10" := rfl
  have hready : (askingForSoap "10").backend.Ready := connect_ready _
  have ho : FSMEngine.isOverride .sample "Soap" = false := by decide +kernel
  have hrows : (Backend.connect .calm (soapRows "10")).working = soapRows "10" := rfl
  have hiff := both_lookups_show_iff (t := soapShown "10") hs hadded hrun hasking hready ho hlook hrows (connect_ready _)
    hfound rfl
  rw [hten] at hiff
  exact ⟨_, hiff.mpr (.inl (by decide))⟩

/-- Soap without stock is added and found, but only the analytics show that there is none. -/
theorem soap_without_row :
    AddProductFlow.raised (confirmSoap "0") = none ∧ soapProduct ∈ (soapRows "0").products ∧
    AddProductFlow.raised (FSMEngine.processMessage .sample "Soap" (askingForSoap "0")) =
      some (.resourceNotFound "Inventory Product" soapProduct.id.text) ∧
    ¬ StockLookupFlow.Shows 0 (FSMEngine.processMessage .sample "Soap" (askingForSoap "0")) ∧
    Answers 0 (handleGetStockLevel .sample ⟨1⟩ soapQuery (.connect .calm (soapRows "0"))) := by
  have hraised : AddProductFlow.raised (FSMEngine.processMessage .sample "Soap" (askingForSoap "0")) =
      some (.resourceNotFound "Inventory Product" soapProduct.id.text) := by decide +kernel
  obtain ⟨b₁, hfound⟩ : ∃ b₁, findProduct .sample ⟨1⟩ soapQuery (.connect .calm (soapRows "0")) =
      .ok soapProduct b₁ :=
    soapProduct_found (by decide +kernel)
  refine ⟨by decide +kernel, by decide +kernel, hraised, ?_, ?_⟩
  · rintro ⟨r, t, name, h, -⟩
    rw [h] at hraised
    cases hraised
  · apply (answers_iff hfound (connect_ready _) 0).mpr
    decide +kernel

end SokoFlow
