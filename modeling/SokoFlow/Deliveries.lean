import SokoFlow.Alerts
import SokoFlow.Analytics.Replay
import SokoFlow.Books
import SokoFlow.Localization
import SokoFlow.PdfReport

/-!
# What the report workers deliver

`report_tasks.py`: the low-stock alert that a message leaves with the broker is
sent at some later time, from the rows of that time.  An alert whose sale was
committed then still finds the shop of its sender and the product it is about.
-/

namespace SokoFlow

open DbM Effect FlowM Runs SalesService

/-- The database refused a statement or a commit. -/
def Exc.OfDriver (e : Exc) : Prop := e.className = "OperationalError" ∨ e.className = "DBAPIError"

theorem select_ofDriver {α : Type} {q : Database → α} {b b' : Backend} {e : Exc}
    (h : select q b = .error e b') : e.OfDriver := by
  unfold select at h
  rw [execute_apply] at h
  split at h
  · cases h
    exact .inr rfl
  · split at h <;> cases h
    exact .inl rfl

theorem commit_ofDriver {b b' : Backend} {e : Exc} (h : commit b = .error e b') : e.OfDriver := by
  rw [commit_apply] at h
  split at h
  · cases h
    exact .inl rfl
  · split at h <;> cases h

/-! ## The tasks -/

/-- `UUID(text)`, on the texts that `str` writes. -/
def UUID.read (text : String) : Except Exc UUID :=
  match Validators.readUUID text with
  | some id => .ok id
  | none => .error (.other "ValueError" "badly formed hexadecimal UUID string")

/-- What is handed to the message sender. -/
inductive Parcel
  | text (recipient messageText : String)
  | document (recipient : String) (pages : List Flowable) (filename caption : String)
  deriving DecidableEq

def Parcel.recipient : Parcel → String
  | text recipient _ => recipient
  | document recipient .. => recipient

/-- The value of the column. -/
def ShopLocale.code : ShopLocale → String
  | en => "en"
  | sw => "sw"

namespace ReportTasks

def alertParams (productName : String) (remainingStock : ℤ) : Params :=
  [("product_name", .text productName), ("remaining_stock", .int remainingStock)]

/-- The queries of `_process_low_stock_alert`. -/
def shopAndProduct (phone : String) (productId : UUID) : DbM (Option (ShopLocale × String)) := do
  let shop ← select fun db ↦ db.shopByPhone phone
  let product ← select fun db ↦ db.product productId
  match shop, product with
  | none, _ => throw (.other "Ignore" "")
  | some _, none => return none
  | some shop, some product => return some (shop.locale, product.name)

/-- `_process_low_stock_alert`, up to the delivery of its text. -/
def processLowStockAlert (phone : String) (productId : UUID) (remainingStock : ℤ) :
    DbM (Option Parcel) := do
  match ← getWorkerDb (shopAndProduct phone productId) with
  | none => return none
  | some (locale, productName) => do
      let body ← MonadExcept.ofExcept
        (renderMessage .LOW_STOCK_ALERT locale.code (alertParams productName remainingStock))
      return some (.text phone body)

def sendLowStockAlert (phone productId : String) (remainingStock : ℤ) : DbM (Option Parcel) := do
  let id ← MonadExcept.ofExcept (UUID.read productId)
  processLowStockAlert phone id remainingStock

/-- `date.strftime("%Y_%m_%d")` -/
def fileDate (d : Calendar.Date) : String :=
  let (year, month, day) := d.ymd
  String.ofList (Nat.toDigits 10 year) ++ "_" ++ String.ofList (Decimal.padded 2 month) ++ "_" ++
    String.ofList (Decimal.padded 2 day)

/-- `report_task`, up to the delivery of its document. -/
def reportTask (zone process : Calendar.Zone) (lab : ReportLab) (payload : ReportPayload) :
    DbM Parcel := do
  let date ← MonadExcept.ofExcept (targetDate process (← now) payload.dateStr)
  let pages ← processReport zone process lab payload.shopId date
  return .document payload.recipient pages ("daily_report_" ++ fileDate date ++ ".pdf")
    ("Daily Sales Report for " ++ longDate date)

/-! ## One alert -/

variable {phone : String} {shop : Shop} {product : Product} {b b' : Backend}

theorem alert_readable (productName : String) (remaining : ℤ) :
    Readable (.LOW_STOCK_ALERT, alertParams productName remaining) := by
  apply readable_of_renderable
  have hshape : (alertParams productName remaining).shape =
      [("product_name", .text), ("remaining_stock", .int)] := rfl
  rw [hshape]
  decide

/-- The alert's text, in the language of the shop. -/
def AlertText (shop : Shop) (product : Product) (remaining : ℤ) (parcel : Parcel) : Prop :=
  ∃ body, renderMessage .LOW_STOCK_ALERT shop.locale.code (alertParams product.name remaining) =
    .ok body ∧ parcel = .text shop.phone body

section Found

variable (hshop : b.working.shopByPhone phone = some shop)
  (hproduct : b.working.product product.id = some product)
include hshop hproduct

theorem shopAndProduct_ok {found : Option (ShopLocale × String)}
    (h : shopAndProduct phone product.id b = .ok found b') :
    found = some (shop.locale, product.name) := by
  obtain ⟨found₁, b₂, h₁, h⟩ := bind_eq_ok.mp h
  obtain ⟨rfl, hu₁⟩ := select_ok h₁
  obtain ⟨found₂, b₃, h₂, h⟩ := bind_eq_ok.mp h
  obtain ⟨rfl, -⟩ := select_ok h₂
  rw [hu₁.working, hshop, hproduct] at h
  cases h
  rfl

theorem shopAndProduct_error {e : Exc} (h : shopAndProduct phone product.id b = .error e b') :
    e.OfDriver := by
  rcases bind_eq_error.mp h with h | ⟨found₁, b₂, h₁, h⟩
  · exact select_ofDriver h
  · obtain ⟨rfl, hu₁⟩ := select_ok h₁
    rcases bind_eq_error.mp h with h | ⟨found₂, b₃, h₂, h⟩
    · exact select_ofDriver h
    · obtain ⟨rfl, -⟩ := select_ok h₂
      rw [hu₁.working, hshop, hproduct] at h
      cases h

theorem shopAndProduct_calm (hf : b.env.Faultless) (ha : b.aborted = false) :
    ∃ b', getWorkerDb (shopAndProduct phone product.id) b =
      .ok (some (shop.locale, product.name)) b' := by
  obtain ⟨b₁, h₁, hu₁, ha₁⟩ := select_calm (fun db ↦ db.shopByPhone phone) hf ha
  obtain ⟨b₂, h₂, hu₂, ha₂⟩ := select_calm (fun db ↦ db.product product.id) (hu₁.env ▸ hf) ha₁
  obtain ⟨b₃, h₃, -⟩ := commit_calm (hu₂.env ▸ hu₁.env ▸ hf) ha₂
  refine ⟨b₃, getWorkerDb_eq_ok.mpr ⟨b₂, ?_, h₃⟩⟩
  unfold shopAndProduct
  rw [bind_of_ok h₁, bind_of_ok h₂, hu₁.working, hshop, hproduct]
  rfl

/-- With a shop and a product the alert is sent, unless the database fails. -/
theorem sendLowStockAlert_delivers (remaining : ℤ) (hphone : shop.phone = phone)
    (hid : product.id.val < 16 ^ 32) :
    (∀ parcel b', sendLowStockAlert phone product.id.text remaining b = .ok parcel b' →
        ∃ sent, parcel = some sent ∧ AlertText shop product remaining sent) ∧
      (∀ e b', sendLowStockAlert phone product.id.text remaining b = .error e b' → e.OfDriver) ∧
      (b.env.Faultless → b.aborted = false →
        ∃ parcel b', sendLowStockAlert phone product.id.text remaining b = .ok parcel b') := by
  obtain ⟨body, hbody⟩ := alert_readable product.name remaining shop.locale.code
  have hread : (MonadExcept.ofExcept (UUID.read product.id.text) : DbM UUID) b = .ok product.id b := by
    unfold UUID.read
    rw [Validators.readUUID_text hid]
    rfl
  have htask : sendLowStockAlert phone product.id.text remaining b =
      processLowStockAlert phone product.id remaining b := bind_of_ok hread
  have hrender : ∀ b₁ : Backend, (do
      let body ← MonadExcept.ofExcept
        (renderMessage .LOW_STOCK_ALERT shop.locale.code (alertParams product.name remaining))
      return some (Parcel.text phone body) : DbM (Option Parcel)) b₁ =
        .ok (some (.text phone body)) b₁ := by
    intro b₁
    rw [hbody]
    rfl
  have hsent : AlertText shop product remaining (.text phone body) := ⟨body, hbody, by rw [hphone]⟩
  rw [htask]
  unfold processLowStockAlert
  refine ⟨?_, ?_, ?_⟩
  · intro parcel b' h
    obtain ⟨found, b₁, h₁, h⟩ := bind_eq_ok.mp h
    obtain ⟨b₀, h₀, -⟩ := getWorkerDb_eq_ok.mp h₁
    rw [shopAndProduct_ok hshop hproduct h₀] at h
    dsimp only at h
    rw [hrender] at h
    cases h
    exact ⟨_, rfl, hsent⟩
  · intro e b' h
    rcases bind_eq_error.mp h with h | ⟨found, b₁, h₁, h⟩
    · obtain ⟨b₀, h₀ | ⟨_, _, _, h₀⟩, -⟩ := getWorkerDb_error h
      · exact shopAndProduct_error hshop hproduct h₀
      · exact commit_ofDriver h₀
    · obtain ⟨b₀, h₀, -⟩ := getWorkerDb_eq_ok.mp h₁
      rw [shopAndProduct_ok hshop hproduct h₀] at h
      dsimp only at h
      rw [hrender] at h
      cases h
  · intro hf ha
    obtain ⟨b₁, h₁⟩ := shopAndProduct_calm hshop hproduct hf ha
    rw [bind_of_ok h₁]
    exact ⟨_, _, hrender b₁⟩

end Found

end ReportTasks

/-! ## Alerts and their sales -/

/-- The recipient, the product and the remaining stock of an alert. -/
def Event.alert : Event → Option (String × String × ℤ)
  | enqueued (.lowStockAlert phone productId remainingStock) _ =>
      some (phone, productId, remainingStock)
  | _ => none

/-- The alerts of a message that was handled. -/
def alertsOf : EStateM.Result Exc Desk Processed → List (String × String × ℤ)
  | .ok _ d => d.backend.journal.filterMap Event.alert
  | .error _ _ => []

theorem exists_of_alertsOf {res : EStateM.Result Exc Desk Processed} {alert : String × String × ℤ}
    (h : alert ∈ alertsOf res) : ∃ processed d rows, res = .ok processed d ∧
      .enqueued (.lowStockAlert alert.1 alert.2.1 alert.2.2) rows ∈ d.backend.journal := by
  cases res with
  | error e d => cases h
  | ok processed d =>
      obtain ⟨event, hmem, halert⟩ := List.mem_filterMap.mp h
      unfold Event.alert at halert
      split at halert <;> cases halert
      exact ⟨processed, d, _, rfl, hmem⟩

/-- No alert was handed to the broker. -/
def Backend.Unalerted (b : Backend) : Prop := ∀ e ∈ b.journal, e.alert = none

theorem unalerted_keeping {α : Type} {x : DbM α} (hx : Within SameJournal x) :
    Keeping Backend.Unalerted x := by
  have hsame : ∀ b b', Backend.Unalerted b → SameJournal b b' → Backend.Unalerted b' := by
    intro b b' h hj e he
    exact h e (hj ▸ he)
  exact ⟨fun b _ b' h hr ↦ hsame b b' h (hx.of_ok hr), fun b _ b' h hr ↦ hsame b b' h (hx.of_error hr)⟩

theorem report_unalerted (shopId : UUID) (recipient : String) :
    Keeping Backend.Unalerted (enqueue (.report shopId recipient)) := by
  have hposted : ∀ b : Backend, b.Unalerted → ∀ e ∈ b.journal ++
      [.enqueued (.report shopId recipient) b.committed], Event.alert e = none := by
    intro b h e he
    rcases List.mem_append.mp he with he | he
    · exact h e he
    · rw [List.mem_singleton.mp he]
      rfl
  constructor
  · intro b a b' h hx
    rw [enqueue_apply] at hx
    dsimp only at hx
    split at hx <;> cases hx
    exact hposted b h
  · intro b e b' h hx
    rw [enqueue_apply] at hx
    dsimp only at hx
    split at hx <;> cases hx
    · exact h
    · exact hposted b h

/-- Only a confirmed sale sends an alert. -/
theorem chores_unalerted : Chores Backend.Unalerted Backend.Unalerted where
  follows _ h := h
  ask q := unalerted_keeping (sameJournal_of_untouched (ask_within q))
  select q := unalerted_keeping (sameJournal_of_untouched (select_within q))
  report := report_unalerted
  getShopId sender := unalerted_keeping (getShopId_sameJournal sender)
  createStocked dep shopId name price quantity :=
    unalerted_keeping (createStocked_sameJournal shopId name price quantity)
  observed b b' h ho := by
    obtain ⟨more, hj, hmore⟩ := ho.journal
    intro e he
    rw [hj] at he
    rcases List.mem_append.mp he with he | he
    · exact h e he
    · have htask := hmore e he
      cases e with
      | enqueued task rows => cases htask
      | _ => rfl

section Sale

variable {dep : Deployment} {phone text recipient productId : String} {remaining : ℤ} {env : Env}
  {rows before : Database} {stored : Option UserSession} {processed : Processed} {d : Desk}

theorem shopId_of_order {c : SessionContext} {o : Order} (h : c.order = some o) :
    c.shopId = some o.shopId := by
  unfold SessionContext.order at h
  split at h
  · split at h <;> cases h
    assumption
  · cases h

/-- What is posted after a recorded sale. -/
theorem conclude_journal {s : UserSession} {o : Order} {sale : SaleResult} {t t' : Turn}
    {r : FSMResult} (h : RecordSaleFlow.conclude s o sale t = .ok r t') {e : Event}
    (he : e ∈ t'.backend.journal) :
    e ∈ t.backend.journal ∨ e = .enqueued (RecordSaleFlow.alertOf s o sale) t.backend.committed := by
  rw [RecordSaleFlow.conclude_apply] at h
  dsimp only at h
  split at h
  · rw [enqueue_apply] at h
    dsimp only at h
    split at h
    · rename_i heq
      split at heq <;> cases heq
      cases h
      rcases List.mem_append.mp he with he | he
      · exact .inl he
      · exact .inr (List.mem_singleton.mp he)
    · cases h
  · cases h
    exact .inl he

/-- An alert left by a message that was handled is about a sale the message has
committed, of a product in a shop of its sender. -/
theorem sale_of_alert (hk : UserSession.Kept phone rows stored)
    (h : conversation dep phone text ⟨stored, .connect env rows⟩ = .ok processed d)
    (he : .enqueued (.lowStockAlert recipient productId remaining) before ∈ d.backend.journal) :
    recipient = phone ∧ ∃ (o : Order) (product : Product) (row : Inventory) (sale : Sale),
      productId = o.productId.text ∧
      remaining = row.quantity - o.quantity ∧ rows.Owns phone o.shopId ∧
      SaleWrite o.shopId o.productId o.quantity "System" product row sale rows
        d.backend.committed := by
  obtain ⟨t, ht, -, hcommitted, -, hjournal⟩ := handleMessage_ok (conversation_ok h).1
  rw [hjournal] at he
  have hown : Turn.Own (fun _ ↦ True) rows phone (fun _ ↦ False)
      ⟨ConversationStore.current phone stored, .connect env rows⟩ := own_current hk
  by_cases hcs : (ConversationStore.current phone stored).state = .CONFIRM_SALE ∧ Confirms dep text
  · have hcon := FSMEngine.processMessage_confirmed
      (t := ⟨ConversationStore.current phone stored, .connect env rows⟩) hcs.1 hcs.2
    generalize hres : FSMEngine.processMessage dep text
      ⟨ConversationStore.current phone stored, .connect env rows⟩ = res at ht hcon
    cases hcon with
    | corrupted ho => cases ht
    | failed ho hr hx => cases ht
    | unalerted ho hr hc => cases ht
    | @refused o e b message ho hr hx =>
        have hu := FSMEngine.onInvalidInput_untouched dep .CONFIRM_SALE message none []
          ⟨ConversationStore.current phone stored, b⟩
        rw [ht] at hu
        have hj : t.backend.journal = [] := hu.journal.trans (recordSale_error hr).1.journal
        rw [hj] at he
        cases he
    | @recorded o sale b r t₁ ho hr hc =>
        cases ht
        obtain ⟨product, row, db, hw, hl, hleft, -⟩ := recordSale_ok hr
        have hworking := (RecordSaleFlow.conclude_ok hc).2.2.2.1
        have howns := hown.shop o.shopId (shopId_of_order ho)
        rcases conclude_journal hc he with he | he
        · rw [hl.journal] at he
          cases he
        · cases he
          refine ⟨hown.sender, o, product, row, sale.sale, rfl, hleft, howns, ?_⟩
          rw [hcommitted]
          change SaleWrite _ _ _ _ _ _ _ rows t₁.backend.working
          rw [hworking, hl.working]
          exact hw
  · have hquiet := chores_unalerted.processMessage.returns _ _ _
      (⟨fun e he ↦ (by cases he), hcs⟩ : Backend.Unalerted (.connect env rows) ∧ _) ht
    have hnone := hquiet _ he
    cases hnone

end Sale

/-! ## Later rows -/

/-- The sale is there, and its product is still in the shop that sold it. -/
def Lasting (sale : Sale) (db : Database) : Prop := sale ∈ db.sales ∧ StockLedger.Owned db sale

namespace Lasting

variable {sale : Sale} {db db' : Database}

theorem of_catalogue (h : Lasting sale db) (hc : StockLedger.CatalogueChange db db') :
    Lasting sale db' := by
  have hsale : sale ∈ db'.sales := hc.sales ▸ h.1
  exact ⟨hsale, StockLedger.owned_of_catalogue hc hsale h.2⟩

/-- Sales are never taken back, and a product is only deleted when none of it
was sold. -/
theorem stable (sale : Sale) : Stable (fun _ ↦ True) (Lasting sale) where
  quiet hP hproducts hsales := ⟨hsales ▸ hP.1, StockLedger.owned_of_products hproducts hP.2⟩
  created {_ _ _ _ _ new db db'} hP h := by
    obtain ⟨hrows, -, -, -, -, hfresh⟩ := Database.insertProduct_ok h
    refine hP.of_catalogue ⟨by rw [hrows], by rw [hrows], fun p hp p' hp' hid ↦ ?_⟩
    rw [hrows] at hp'
    rcases List.mem_append.mp hp' with hp' | hp'
    · rw [eq_of_id hp hp' hid]
    · rw [List.mem_singleton.mp hp'] at hid
      exact absurd (hid ▸ List.mem_map_of_mem hp) hfresh
  changed {old new _ price db db'} hP hold h := by
    unfold Database.setProduct at h
    cases price with
    | none => cases h
    | some price =>
        obtain ⟨-, rfl, hrows⟩ := Database.write_eq_ok.mp h
        refine hP.of_catalogue ⟨by rw [hrows], by rw [hrows], fun p hp p' hp' hid ↦ ?_⟩
        rw [hrows] at hp'
        obtain ⟨q, hq, rfl⟩ := List.mem_map.mp hp'
        by_cases hne : q.id = old.id
        · rw [if_pos hne] at hid ⊢
          rw [eq_of_id hp (Database.mem_of_product hold).1 hid]
        · rw [if_neg hne] at hid ⊢
          rw [eq_of_id hp hq hid]
  deleted {old db db'} hP h := by
    obtain ⟨-, -, hrows⟩ := Database.write_eq_ok.mp h
    refine hP.of_catalogue ⟨by rw [hrows], by rw [hrows], fun p hp p' hp' hid ↦ ?_⟩
    rw [hrows] at hp'
    rw [eq_of_id hp (List.mem_filter.mp hp').1 hid]
  sold {productId _ product _ _ _ new db db'} hP _ hfound h := by
    obtain ⟨-, rfl, hrows⟩ := Database.write_eq_ok.mp h
    refine ⟨?_, StockLedger.owned_of_products (by rw [hrows]) hP.2⟩
    rw [hrows]
    exact List.mem_append_left _ hP.1

end Lasting

theorem SalesService.SaleWrite.lasting {shopId p : UUID} {q : ℤ} {recordedBy : String}
    {product : Product} {row : Inventory} {sale : Sale} {db db' : Database}
    (h : SaleWrite shopId p q recordedBy product row sale db db') :
    Lasting sale db' ∧ sale ∉ db.sales := by
  have hids := db'.valid.sales.ids
  rw [h.sales, List.map_append, List.nodup_append] at hids
  refine ⟨⟨?_, product, ?_, ?_⟩, fun hold ↦ ?_⟩
  · rw [h.sales]
    exact List.mem_append_right _ (List.mem_singleton_self _)
  · rw [Database.product, h.products, h.productId]
    exact h.sellable.found
  · rw [h.shopId]
    exact h.sellable.owned
  · exact hids.2.2 _ (List.mem_map_of_mem hold) _ (List.mem_singleton_self _) rfl

/-- A step that may see any times. -/
theorem Arrival.within_any (x : Arrival) : x.Within fun _ ↦ True := by
  cases x with
  | message phone text env => exact fun _ ↦ trivial
  | expiry phone => trivial
  | request session => exact fun _ ↦ trivial

open ReportTasks in
/-- An alert whose message was committed reaches the phone that sold, whatever
happens until it is sent: the shop and the product are still there, and only a
failing database keeps its text back. -/
theorem committed_alerts_are_delivered {dep : Deployment} {start s : Town}
    (hstart : start.Reached dep) {phone text recipient productId : String} {remaining : ℤ}
    {env : Env} (h : (recipient, productId, remaining) ∈
      alertsOf (conversation dep phone text ⟨start.stored phone, .connect env start.rows⟩))
    (hids : ∀ product ∈ start.rows.products, product.id.val < 16 ^ 32)
    {history : List (Moment Town Arrival)}
    (run : Run (· = start.next dep (.message phone text env)) (Town.Step dep) history s) :
    ∃ shop ∈ s.rows.shops, ∃ product ∈ s.rows.products, ∃ sale ∈ s.rows.sales,
      shop.phone = phone ∧ product.shopId = shop.id ∧ product.id.text = productId ∧
      sale.productId = product.id ∧ sale ∉ start.rows.sales ∧
      ∀ later : Env,
        (∀ parcel b, sendLowStockAlert recipient productId remaining (.connect later s.rows) =
          .ok parcel b → ∃ sent, parcel = some sent ∧ AlertText shop product remaining sent) ∧
        (∀ e b, sendLowStockAlert recipient productId remaining (.connect later s.rows) =
          .error e b → e.OfDriver) ∧
        (later.Faultless → ∃ parcel b, sendLowStockAlert recipient productId remaining
          (.connect later s.rows) = .ok parcel b) := by
  obtain ⟨before, hbefore⟩ := hstart
  obtain ⟨processed, d, rows, h, halert⟩ := exists_of_alertsOf h
  have hsound : start.Sound := Town.sound_run (fun _ ↦ Town.sound_new) hbefore
  have hafter : (start.next dep (.message phone text env)).Sound := Town.sound_next dep hsound _
  have hrows : (start.next dep (.message phone text env)).rows = d.backend.committed := by
    change (hearing dep phone text env (start.stored phone) start.rows).backend.committed = _
    unfold hearing
    rw [h]
    rfl
  obtain ⟨rfl, o, product₀, row, sale, rfl, -, howns, hw⟩ := sale_of_alert (hsound phone) h halert
  obtain ⟨hlasting, hnew⟩ := hw.lasting
  have hmem₀ := (Database.mem_of_product hw.sellable.found).1
  have hid₀ := (Database.mem_of_product hw.sellable.found).2
  obtain ⟨hsale, product, hproduct, hshop⟩ :=
    (Lasting.stable sale).town run (fun m _ ↦ m.label.within_any) (hrows ▸ hlasting)
  have hmoved : (start.next dep (.message recipient text env)).rows.Owns recipient o.shopId :=
    hearing_owners (hsound recipient) recipient o.shopId howns
  obtain ⟨shop, hshopmem, hshopid, hphone⟩ := Town.owners_run hafter run hmoved
  obtain ⟨hmem, hid⟩ := Database.mem_of_product hproduct
  have hpid : product.id = o.productId := hid.trans hw.productId
  refine ⟨shop, hshopmem, product, hmem, sale, hsale, hphone, ?_, by rw [hpid], hid.symm, hnew, ?_⟩
  · rw [hshop, hw.shopId, hshopid]
  · intro later
    have hfound : s.rows.shopByPhone recipient = some shop :=
      hphone ▸ Table.lookup_of_mem s.rows.valid.shops.phones hshopmem
    have hbound : product.id.val < 16 ^ 32 := by
      rw [hpid, ← hid₀]
      exact hids product₀ hmem₀
    rw [← hpid]
    obtain ⟨hok, herror, hcalm⟩ := sendLowStockAlert_delivers (b := .connect later s.rows) hfound
      (Database.product_of_mem hmem) remaining hphone hbound
    exact ⟨hok, herror, fun hf ↦ hcalm hf rfl⟩

theorem Town.Reached.next {dep : Deployment} {s : Town} (h : s.Reached dep) (x : Arrival) :
    (s.next dep x).Reached dep := by
  obtain ⟨history, run⟩ := h
  exact ⟨_, run.next ⟨rfl, trivial⟩⟩

theorem Town.Reached.foldl {dep : Deployment} {s : Town} (h : s.Reached dep)
    (arrivals : List Arrival) : (arrivals.foldl (Town.next dep) s).Reached dep := by
  induction arrivals generalizing s with
  | nil => exact h
  | cons x arrivals ih => exact ih (h.next x)

/-- A phone that wants to sell six of ten bottles of milk. -/
def sixOfMilk : Town :=
  (["record sale", "Milk", "6"].map fun text ↦ .message "254700000001" text .calm).foldl
    (Town.next .sample) quietTown

/-- The phone confirms. -/
def milkSold : Town := sixOfMilk.next .sample (.message "254700000001" "yes" .calm)

/-- The counter tries to take milk off the list. -/
def unlisting : Arrival := .request ⟨.calm, false, [(.deleteProduct ⟨2⟩, false)]⟩

theorem committed_alerts_are_delivered_milk :
    ∃ shop ∈ (milkSold.next .sample unlisting).rows.shops,
      ∃ product ∈ (milkSold.next .sample unlisting).rows.products,
        shop.phone = "254700000001" ∧ product.id.text = UUID.text ⟨2⟩ ∧ ∃ sent b,
          ReportTasks.sendLowStockAlert "254700000001" (UUID.text ⟨2⟩) 4
            (.connect .calm (milkSold.next .sample unlisting).rows) = .ok (some sent) b ∧
          ReportTasks.AlertText shop product 4 sent := by
  have hquiet : Town.Reached .sample quietTown := ⟨[], .start quietTown_new⟩
  have hsix : Town.Reached .sample sixOfMilk := hquiet.foldl _
  have halert : ("254700000001", UUID.text ⟨2⟩, (4 : ℤ)) ∈ alertsOf (conversation .sample
      "254700000001" "yes" ⟨sixOfMilk.stored "254700000001", .connect .calm sixOfMilk.rows⟩) := by
    decide +kernel
  have hids : ∀ product ∈ sixOfMilk.rows.products, product.id.val < 16 ^ 32 := by
    decide +kernel
  have hstart : Run (· = milkSold) (Town.Step .sample) [] milkSold := .start rfl
  have hstep : Town.Step .sample milkSold unlisting (milkSold.next .sample unlisting) :=
    ⟨rfl, trivial⟩
  obtain ⟨shop, hshop, product, hproduct, sale, -, hphone, -, hid, -, -, hsend⟩ :=
    committed_alerts_are_delivered hsix halert hids (hstart.next hstep)
  obtain ⟨hok, -, hcalm⟩ := hsend .calm
  obtain ⟨parcel, b, hsent⟩ := hcalm Env.calm_faultless
  obtain ⟨sent, rfl, htext⟩ := hok parcel b hsent
  exact ⟨shop, hshop, product, hproduct, hphone, hid, sent, b, hsent, htext⟩

/-! ## Reports -/

/-- The shop and the recipient of a report. -/
def Event.report : Event → Option (UUID × String)
  | enqueued (.report shopId recipient) _ => some (shopId, recipient)
  | _ => none

/-- The reports that a message asked for. -/
def reportsOf (d : Desk) : List (UUID × String) := d.backend.journal.filterMap Event.report

theorem exists_of_reportsOf {d : Desk} {shopId : UUID} {recipient : String}
    (h : (shopId, recipient) ∈ reportsOf d) :
    ∃ rows, .enqueued (.report shopId recipient) rows ∈ d.backend.journal := by
  obtain ⟨event, hmem, hreport⟩ := List.mem_filterMap.mp h
  unfold Event.report at hreport
  split at hreport <;> cases hreport
  exact ⟨_, hmem⟩

section Twins

variable {V : Database → Database → Prop} {α : Type}

/-- Two sessions that are alike, also in what is committed. -/
structure Twins (V : Database → Database → Prop) (b b' : Backend) : Prop extends Alike V b b' where
  committed : V b.committed b'.committed

/-- What only reads leaves twins. -/
theorem twins_of_alike {x : DbM α} (hx : Agree (Alike V) x x) (hr : Within Backend.Untouched x) :
    Agree (Twins V) x x := by
  intro b b' h
  have hagree := hx b b' h.toAlike
  have hkept : ∀ b₁ b₂ : Backend, b.Untouched b₁ → b'.Untouched b₂ → V b₁.committed b₂.committed := by
    intro b₁ b₂ hu hu'
    rw [hu.committed, hu'.committed]
    exact h.committed
  cases hxb : x b <;> cases hxb' : x b' <;> rw [hxb, hxb'] at hagree
  · exact ⟨hagree.1, hagree.2, hkept _ _ (hr.of_ok hxb) (hr.of_ok hxb')⟩
  · exact hagree.elim
  · exact hagree.elim
  · exact ⟨hagree.1, hagree.2, hkept _ _ (hr.of_error hxb) (hr.of_error hxb')⟩

theorem rollback_twins : Agree (Twins V) rollback rollback :=
  .modify fun _ _ h ↦ ⟨⟨h.env, h.tick, rfl, rfl, h.committed⟩, h.committed⟩

theorem ask_twins (q : Env → ℕ → α) : Agree (Twins V) (ask q) (ask q) :=
  twins_of_alike (ask_alike q) (ask_within q)

theorem commit_twins : Agree (Twins V) commit commit := by
  refine .bind (ask_twins _) fun fault ↦ .bind (.reads fun _ _ h ↦ h.aborted) fun aborted ↦ ?_
  cases fault with
  | some text => exact .bind rollback_twins fun _ ↦ .throw _
  | none =>
      dsimp only
      split
      · exact rollback_twins
      · exact .modify fun _ _ h ↦ ⟨⟨h.env, h.tick, rfl, h.aborted, h.working⟩, h.working⟩

theorem getWorkerDb_twins {x : DbM α} (hx : Agree (Twins V) x x) :
    Agree (Twins V) (getWorkerDb x) (getWorkerDb x) :=
  .tryCatch (.bind hx fun _ ↦ .bind commit_twins fun _ ↦ .pure _) fun _ ↦
    .bind rollback_twins fun _ ↦ .throw _

end Twins

section Report

variable {shopId : UUID} (zone process : Calendar.Zone)

theorem getDailySummary_agree (input : DayInput) :
    Agree (Alike (View shopId)) (getDailySummary zone shopId input)
      (getDailySummary zone shopId input) := by
  refine .bind (.ofExcept _) fun interval ↦ .bind ?_ fun _ ↦
    .bind (Analytics.topMovingProducts_agree interval) fun _ ↦
    .bind (select_alike fun _ _ h ↦ h.productsWithLowStock) fun _ ↦ .pure _
  exact .bind (.ofExcept _) fun interval ↦ Analytics.totalRevenueAndCount_agree interval

theorem getDailySummary_within (input : DayInput) :
    Within Backend.Untouched (getDailySummary zone shopId input) := by
  have hinterval : Within Backend.Untouched
      (MonadExcept.ofExcept (localDayBoundsToUtc zone input) : DbM (Timestamp × Timestamp)) := by
    cases localDayBoundsToUtc zone input with
    | ok interval => exact .pure interval
    | error e => exact .throw e
  refine hinterval.bind fun interval ↦ .bind ?_ fun _ ↦ .bind ?_ fun _ ↦
    (select_within _).bind fun _ ↦ .pure _
  · exact hinterval.bind fun _ ↦ select_within _
  · exact .bind (select_within _) fun _ ↦ .bind (select_within _) fun _ ↦ .pure _

/-- A report is computed alike where its figures are. -/
theorem computed_twins {α β γ : Type} {V : Database → Database → Prop} {x : DbM α}
    (hx : Agree (Twins V) x x) (g : α → Timestamp → Except Exc β) (parcel : β → γ) :
    Agree (Twins V)
      ((do let a ← getWorkerDb x; MonadExcept.ofExcept (g a (← now))) >>= fun pages ↦
        (pure (parcel pages) : DbM γ))
      ((do let a ← getWorkerDb x; MonadExcept.ofExcept (g a (← now))) >>= fun pages ↦
        (pure (parcel pages) : DbM γ)) :=
  .bind (.bind (getWorkerDb_twins hx) fun _ ↦ .bind (ask_twins _) fun _ ↦ .ofExcept _)
    fun _ ↦ .pure _

/-- The program returns or raises the same from both. -/
def SameOutcome {α : Type} (x : DbM α) (b b' : Backend) : Prop :=
  (∀ a, (∃ b₁, x b = .ok a b₁) ↔ ∃ b₁, x b' = .ok a b₁) ∧
    ∀ e, (∃ b₁, x b = .error e b₁) ↔ ∃ b₁, x b' = .error e b₁

/-- The document of a report depends on the rows of its shop only. -/
theorem ReportTasks.reportTask_outcome (lab : ReportLab) (payload : ReportPayload) (env : Env)
    {db db' : Database} (h : View payload.shopId db db') :
    SameOutcome (reportTask zone process lab payload) (.connect env db) (.connect env db') := by
  have htwins : Twins (View payload.shopId) (.connect env db) (.connect env db') :=
    ⟨alike_connect env h, h⟩
  refine Agree.outcome_eq ?_ htwins
  refine .bind (ask_twins _) fun _ ↦ .bind (.ofExcept _) fun date ↦ ?_
  unfold processReport
  exact computed_twins
    (twins_of_alike (getDailySummary_agree zone _) (getDailySummary_within zone _))
    (fun summary time ↦ PDFReportService.generateDailySummaryPdf lab process time summary
      "SokoFlow Shop" (some date)) _

end Report

/-- A report that a message asks for goes to its sender, whenever it is made, and
tells nothing of the other shops: it is the same for all rows that agree with
those of that time on the shop of the sender. -/
theorem reports_tell_only_their_shop {dep : Deployment} {s : Town}
    {history : List (Moment Town Arrival)}
    (run : Run (fun s ↦ s.New ∧ s.rows.Owned) (Town.Step dep) history s)
    {m : Moment Town Arrival} (hm : m ∈ history) {phone text : String} {env : Env}
    (hlabel : m.label = .message phone text env) {shopId : UUID} {recipient : String}
    (hreport : (shopId, recipient) ∈
      reportsOf (hearing dep phone text env (m.before.stored phone) m.before.rows)) :
    recipient = phone ∧ s.rows.Owns phone shopId ∧
      ∀ (zone process : Calendar.Zone) (lab : ReportLab) (later : Env),
        (∀ parcel b, ReportTasks.reportTask zone process lab ⟨shopId, recipient, none⟩
          (.connect later s.rows) = .ok parcel b → parcel.recipient = phone) ∧
        ∀ db : Database, db.Owned → SameShop shopId s.rows db →
          SameOutcome (ReportTasks.reportTask zone process lab ⟨shopId, recipient, none⟩)
            (.connect later s.rows) (.connect later db) := by
  obtain ⟨rows, hposted⟩ := exists_of_reportsOf hreport
  have hnew : ∀ s : Town, s.New ∧ s.rows.Owned → s.Sound := fun s h ↦ Town.sound_new h.1
  obtain ⟨pre, hpre⟩ := At.of_mem hm
  obtain ⟨hrun, hnext, -⟩ := run.at_step hpre
  have hbefore : m.before.Sound := Town.sound_run hnew hrun
  rw [hlabel, Option.some.injEq] at hnext
  obtain ⟨rfl, howns⟩ :=
    (hearing_own (tends_all m.before.rows phone) (hbefore phone)).2.1 _ hposted
  have hafter : m.after.rows.Owns recipient shopId := by
    rw [← hnext]
    exact howns
  obtain ⟨start, ⟨-, hstart⟩, hfrom⟩ := run.exists_start
  have howned : s.rows.Owned := stable_owned.town hfrom (fun m _ ↦ m.label.within_any) hstart
  refine ⟨rfl, Town.owners_after hnew run hm hafter, fun zone process lab later ↦ ⟨?_, ?_⟩⟩
  · intro parcel b h
    obtain ⟨time, b₁, -, h⟩ := bind_eq_ok.mp h
    obtain ⟨date, b₂, -, h⟩ := bind_eq_ok.mp h
    obtain ⟨pages, b₃, -, h⟩ := bind_eq_ok.mp h
    cases h
    rfl
  · intro db hdb hsame
    exact ReportTasks.reportTask_outcome zone process lab ⟨shopId, recipient, none⟩ later
      ⟨hsame, howned, hdb⟩

/-- A phone asks for its report. -/
def asksReport : Arrival := .message "254700000001" "generate report" .calm

/-- The rows of the sample, and a shop next door that sold sugar. -/
def nextDoor : Database where
  shops := Database.sample.shops ++ [⟨⟨5⟩, "254700000005", some "Mill", .en⟩]
  products := ⟨⟨6⟩, ⟨5⟩, "Sugar", "S-AAAAAA", 150⟩ :: Database.sample.products
  inventory := Database.sample.inventory ++ [⟨⟨7⟩, ⟨6⟩, 4, 5⟩]
  sales := [⟨⟨8⟩, ⟨5⟩, ⟨6⟩, 2, 150, 300, "System", 63870000000000000⟩]
  valid := by decide +kernel

theorem reports_tell_only_their_shop_nextDoor :
    SameOutcome (ReportTasks.reportTask utc utc boldMarkup ⟨⟨1⟩, "254700000001", none⟩)
      (.connect .calm (quietTown.next .sample asksReport).rows) (.connect .calm nextDoor) := by
  have hstart : Run (fun s : Town ↦ s.New ∧ s.rows.Owned) (Town.Step .sample) [] quietTown :=
    .start ⟨quietTown_new, fun sale hsale ↦ by cases hsale⟩
  have hstep : Town.Step .sample quietTown asksReport (quietTown.next .sample asksReport) :=
    ⟨rfl, trivial⟩
  have hreport : ((⟨1⟩ : UUID), "254700000001") ∈ reportsOf (hearing .sample "254700000001"
      "generate report" .calm (quietTown.stored "254700000001") quietTown.rows) := by
    decide +kernel
  have howned : nextDoor.Owned := by
    intro sale hsale
    rw [List.mem_singleton.mp hsale]
    exact ⟨⟨⟨6⟩, ⟨5⟩, "Sugar", "S-AAAAAA", 150⟩, rfl, rfl⟩
  have hsame : SameShop ⟨1⟩ (quietTown.next .sample asksReport).rows nextDoor :=
    ⟨by decide +kernel, by decide +kernel, by decide +kernel⟩
  obtain ⟨-, -, htells⟩ := reports_tell_only_their_shop (hstart.next hstep)
    (List.mem_cons_self) rfl hreport
  exact (htells utc utc boldMarkup .calm).2 nextDoor howned hsame

end SokoFlow
