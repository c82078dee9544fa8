import Mathlib.Data.List.GetD
import SokoFlow.Conversation.Parsing
import SokoFlow.DailyReport
import SokoFlow.Foundation.Markup

/-!
# The report document (`pdf_service.py`)

Every text of the report is handed to ReportLab's `Paragraph`, which reads it as
markup.  The names of products stand in it as they are stored.
-/

namespace SokoFlow

open DbM Effect Calendar Analytics SalesService Markup

/-- A tag begins with the one, a reference with the other. -/
def IsMarkup (c : Char) : Prop := c = '<' ∨ c = '&'

instance : DecidablePred IsMarkup := fun _ ↦ inferInstanceAs (Decidable (_ ∨ _))

/-- The markup that `Paragraph` reads, and what it raises at other texts. -/
structure ReportLab extends Dialect IsMarkup String where
  item_bold : ∀ s, item ("<b>".toList ++ s) = some (.opening "b", s)
  item_boldEnd : ∀ s, item ("</b>".toList ++ s) = some (.closing "b", s)
  item_nbsp : ∀ s, item ("&nbsp;".toList ++ s) = some (.shown ['\u00a0'], s)
  malformed : String → Exc

/-- What a paragraph with this text displays. -/
def ReportLab.paragraph (lab : ReportLab) (text : String) : Except Exc String :=
  match lab.read text.toList with
  | some shown => .ok (String.ofList shown)
  | none => .error (lab.malformed text)

inductive Flowable
  | paragraph (text : String)
  | table (rows : List (List String))
  | spacer (height : ℕ)
  deriving DecidableEq

def Flowable.build (lab : ReportLab) : Flowable → Except Exc Flowable
  | paragraph text => paragraph <$> lab.paragraph text
  | table rows => table <$> rows.mapM (·.mapM lab.paragraph)
  | spacer height => .ok (spacer height)

def monthNames : List String :=
  ["January", "February", "March", "April", "May", "June", "July", "August", "September",
    "October", "November", "December"]

/-- `date.strftime("%B %d, %Y")` -/
def longDate (d : Date) : String :=
  let (year, month, day) := d.ymd
  monthNames.getD (month - 1) "" ++ " " ++ String.ofList (Decimal.padded 2 day) ++ ", " ++
    String.ofList (Nat.toDigits 10 year)

namespace PDFReportService

/-- The table of a list, or a text for the empty list. -/
def listing (header : List String) (rows : List (List String)) (empty : String) : Flowable :=
  if rows = [] then .paragraph empty else .table (header :: rows)

/-- The texts of the report, given how bold text and a fixed space are written. -/
def story (bold : String → String) (space : String) (summary : DailySummary) (shopName : String)
    (date : Date) : List Flowable :=
  [.paragraph "SokoFlow Daily Report",
    .paragraph (bold "Shop:" ++ " " ++ shopName ++ " " ++ space ++ "|" ++ space ++ " " ++
      bold "Date:" ++ " " ++ longDate date),
    .spacer 5,
    .table [[bold "Total Revenue", bold "Total Transactions"],
      [bold ("KES " ++ Decimal.comma2 summary.totalRevenue),
        bold (Text.ofInt summary.transactionCount)]],
    .spacer 12,
    .paragraph "Top Products by Units Sold",
    listing ["Product Name", "Units Sold"]
      (summary.topProductsByUnits.map fun item ↦ [item.2.1, Text.ofInt item.2.2])
      "No units sold recorded for this period.",
    .spacer 10,
    .paragraph "Top Products by Revenue",
    listing ["Product Name", "Revenue"]
      (summary.topProductsByRevenue.map fun item ↦ [item.2.1, "KES " ++ Decimal.comma2 item.2.2])
      "No revenue recorded for this period.",
    .spacer 10,
    .paragraph "Low Stock Alerts",
    listing ["Product Name", "Current Stock", "Threshold"]
      (summary.productsWithLowStock.map fun item ↦
        [item.name, Text.ofInt item.quantity, Text.ofInt item.lowStockThreshold])
      "No products currently low on stock."]

/-- `date.today()` is read off the clock of the process. -/
def generateDailySummaryPdf (lab : ReportLab) (process : Zone) (now : Timestamp)
    (summary : DailySummary) (shopName : String) (reportDate : Option Date) :
    Except Exc (List Flowable) := do
  let date ← targetDate process now reportDate
  (story (fun text ↦ "<b>" ++ text ++ "</b>") "&nbsp;" summary shopName date).mapM
    (Flowable.build lab)

/-- The report with every text displayed as it is. -/
def document (summary : DailySummary) (shopName : String) (date : Date) : List Flowable :=
  story id "\u00a0" summary shopName date

end PDFReportService

open PDFReportService

/-- `process_report`, up to the delivery of its document. -/
def processReport (zone process : Zone) (lab : ReportLab) (shopId : UUID) (date : Date) :
    DbM (List Flowable) := do
  let summary ← getWorkerDb (getDailySummary zone shopId (.date date))
  MonadExcept.ofExcept
    (generateDailySummaryPdf lab process (← now) summary "SokoFlow Shop" (some date))

/-! ## Unmarked texts -/

def Unmarked (s : String) : Prop := ∀ c ∈ s.toList, ¬ IsMarkup c

theorem unmarked_of_all {s : String} (h : s.toList.all (fun c ↦ decide (¬ IsMarkup c)) = true) : Unmarked s :=
  fun c hc ↦ of_decide_eq_true (List.all_eq_true.mp h c hc)

theorem unmarked_all {texts : List String}
    (h : texts.all (fun s ↦ s.toList.all fun c ↦ decide (¬ IsMarkup c)) = true) :
    ∀ s ∈ texts, Unmarked s :=
  fun s hs ↦ unmarked_of_all (List.all_eq_true.mp h s hs)

theorem unmarked_append {s t : String} (hs : Unmarked s) (ht : Unmarked t) : Unmarked (s ++ t) := by
  unfold Unmarked
  rw [String.toList_append]
  exact List.forall_mem_append.mpr ⟨hs, ht⟩

theorem unmarked_ofList {cs : List Char} (h : ∀ c ∈ cs, ¬ IsMarkup c) : Unmarked (String.ofList cs) := by
  unfold Unmarked
  rwa [String.toList_ofList]

theorem not_isMarkup_of_isDigit {c : Char} (h : c.isDigit = true) : ¬ IsMarkup c := by
  rintro (rfl | rfl) <;> cases h

theorem unmarked_digits (n : ℕ) : ∀ c ∈ Nat.toDigits 10 n, ¬ IsMarkup c :=
  fun _ hc ↦ not_isMarkup_of_isDigit (Nat.isDigit_of_mem_toDigits (by decide) (by decide) hc)

theorem unmarked_padded (width n : ℕ) : ∀ c ∈ Decimal.padded width n, ¬ IsMarkup c := by
  intro c hc
  rcases List.mem_append.mp hc with hzero | hdigit
  · rw [List.eq_of_mem_replicate hzero]
    decide
  · exact unmarked_digits n c hdigit

theorem unmarked_ofInt (n : ℤ) : Unmarked (Text.ofInt n) := by
  intro c hc
  cases n with
  | ofNat n =>
      rw [Text.ofInt, String.toList_ofList] at hc
      exact unmarked_digits n c hc
  | negSucc n =>
      rw [Text.ofInt, String.toList_ofList] at hc
      rcases List.mem_cons.mp hc with rfl | hdigit
      · decide
      · exact unmarked_digits (n + 1) c hdigit

theorem mem_groupThousands {c : Char} {ds : List Char} (h : c ∈ Decimal.groupThousands ds) :
    c = ',' ∨ c ∈ ds := by
  fun_induction Decimal.groupThousands ds with
  | case1 x y z w rest ih =>
      simp only [List.mem_cons] at h ih ⊢
      tauto
  | case2 => exact .inr h

theorem unmarked_comma2 (q : ℚ) : Unmarked (Decimal.comma2 q) := by
  intro c hc
  simp only [Decimal.comma2, Decimal.fixedWith, String.toList_ofList, List.mem_append,
    List.mem_cons] at hc
  rcases hc with (hsign | hwhole) | rfl | hcents
  · split at hsign
    · rw [List.mem_singleton.mp hsign]
      decide
    · cases hsign
  · rcases mem_groupThousands (List.mem_reverse.mp hwhole) with rfl | hdigit
    · decide
    · exact unmarked_digits _ c (List.mem_reverse.mp hdigit)
  · decide
  · exact unmarked_padded _ _ c hcents

theorem unmarked_monthNames (n : ℕ) : Unmarked (monthNames.getD n "") := by
  have hall : ∀ m ∈ monthNames, Unmarked m := unmarked_all (by decide)
  by_cases hn : n < monthNames.length
  · rw [List.getD_eq_getElem _ _ hn]
    exact hall _ (List.getElem_mem hn)
  · rw [List.getD_eq_default _ _ (Nat.le_of_not_lt hn)]
    exact unmarked_of_all (by decide)

theorem unmarked_longDate (d : Date) : Unmarked (longDate d) := by
  apply unmarked_append
  · apply unmarked_append
    · apply unmarked_append
      · exact unmarked_append (unmarked_monthNames _) (unmarked_of_all (by decide))
      · exact unmarked_ofList (unmarked_padded _ _)
    · exact unmarked_of_all (by decide)
  · exact unmarked_ofList (unmarked_digits _)

/-! ## What is displayed -/

variable {lab : ReportLab}

theorem paragraph_eq_ok {text shown : String} :
    lab.paragraph text = .ok shown ↔ lab.read text.toList = some shown.toList := by
  unfold ReportLab.paragraph
  cases lab.read text.toList with
  | none => simp
  | some s =>
      rw [Except.ok.injEq, Option.some.injEq]
      constructor
      · rintro rfl
        exact String.toList_ofList.symm
      · rintro rfl
        exact String.ofList_toList

/-- At every special character of the text, ReportLab shows what is written there. -/
def ReportLab.Literal (lab : ReportLab) (text : String) : Prop :=
  Dialect.Literal lab.toDialect text.toList

theorem literal_of_unmarked {text : String} (h : Unmarked text) : lab.Literal text :=
  Dialect.literal_of_plain h

theorem paragraph_literal {text : String} (h : lab.Literal text) :
    lab.paragraph text = .ok text := by
  rw [paragraph_eq_ok]
  exact Dialect.read_literal h

theorem paragraph_unmarked {text : String} (h : Unmarked text) : lab.paragraph text = .ok text :=
  paragraph_literal (literal_of_unmarked h)

theorem readIn_bold (lab : ReportLab) {t : List Char} (ht : ∀ c ∈ t, ¬ IsMarkup c) (rest : List Char) :
    lab.readIn [] ("<b>".toList ++ (t ++ ("</b>".toList ++ rest))) =
      (lab.readIn [] rest).map (t ++ ·) := by
  have hopen : lab.readIn [] ("<b>".toList ++ (t ++ ("</b>".toList ++ rest))) =
      lab.readIn ["b"] (t ++ ("</b>".toList ++ rest)) :=
    Dialect.readIn_opening (.inl rfl) (lab.item_bold _)
  have hclose : lab.readIn ["b"] ("</b>".toList ++ rest) = lab.readIn [] rest :=
    Dialect.readIn_closing (.inl rfl) (lab.item_boldEnd _)
  rw [hopen, Dialect.readIn_plain _ ht, hclose]

theorem readIn_nbsp (rest : List Char) :
    lab.readIn [] ("&nbsp;".toList ++ rest) = (lab.readIn [] rest).map (['\u00a0'] ++ ·) :=
  Dialect.readIn_shown (.inr rfl) (lab.item_nbsp _)

theorem paragraph_bold {t : String} (ht : Unmarked t) : lab.paragraph ("<b>" ++ t ++ "</b>") = .ok t := by
  have hread := readIn_bold lab ht []
  rw [List.append_nil, Dialect.readIn_nil] at hread
  rw [paragraph_eq_ok, Dialect.read, String.toList_append, String.toList_append, List.append_assoc,
    hread, Option.map_some, List.append_nil]

theorem paragraph_subtitle (lab : ReportLab) {shopName : String} {date : String} (hshop : Unmarked shopName)
    (hdate : Unmarked date) :
    lab.paragraph ("<b>" ++ "Shop:" ++ "</b>" ++ " " ++ shopName ++ " " ++ "&nbsp;" ++ "|" ++ "&nbsp;" ++
      " " ++ ("<b>" ++ "Date:" ++ "</b>") ++ " " ++ date) =
    .ok ("Shop:" ++ " " ++ shopName ++ " " ++ "\u00a0" ++ "|" ++ "\u00a0" ++ " " ++ "Date:" ++ " " ++
      date) := by
  have hlabel : Unmarked "Shop:" := unmarked_of_all (by decide)
  have hbefore : Unmarked (" " ++ shopName ++ " ") :=
    unmarked_append (unmarked_append (unmarked_of_all (by decide)) hshop) (unmarked_of_all (by decide))
  have hbar : Unmarked "|" := unmarked_of_all (by decide)
  have hgap : Unmarked " " := unmarked_of_all (by decide)
  have hlabel' : Unmarked "Date:" := unmarked_of_all (by decide)
  have hafter : Unmarked (" " ++ date) := unmarked_append hgap hdate
  have hread := readIn_bold lab hlabel ((" " ++ shopName ++ " ").toList ++ ("&nbsp;".toList ++
    ("|".toList ++ ("&nbsp;".toList ++ (" ".toList ++ ("<b>".toList ++ ("Date:".toList ++
      ("</b>".toList ++ ((" " ++ date).toList ++ [])))))))))
  rw [Dialect.readIn_plain _ hbefore, readIn_nbsp, Dialect.readIn_plain _ hbar, readIn_nbsp,
    Dialect.readIn_plain _ hgap, readIn_bold lab hlabel', Dialect.readIn_plain _ hafter, Dialect.readIn_nil] at hread
  rw [paragraph_eq_ok, Dialect.read]
  simp only [String.toList_append, List.append_assoc, List.append_nil, Option.map_some] at hread ⊢
  exact hread

/-! ## The document -/

theorem map_eq_ok {α β : Type} {g : α → β} {x : Except Exc α} {b : β} :
    g <$> x = .ok b ↔ ∃ a, x = .ok a ∧ g a = b := by
  cases x <;> simp [Functor.map, Except.map]

theorem mapM_eq_ok {α β : Type} {f : α → Except Exc β} {l : List α} {l' : List β} :
    l.mapM f = .ok l' ↔ List.Forall₂ (fun a b ↦ f a = .ok b) l l' := by
  induction l generalizing l' with
  | nil => simp [pure, Except.pure, eq_comm]
  | cons a l ih =>
      rw [List.mapM_cons, List.forall₂_cons_left_iff]
      cases f a with
      | error e => simp
      | ok b =>
          rw [except_ok_bind]
          cases hl : l.mapM f with
          | error e => simp [← ih, hl]
          | ok bs => simp [← ih, hl, pure, Except.pure, eq_comm]

theorem mapM_self_iff {α : Type} {f : α → Except Exc α} {l : List α} :
    l.mapM f = .ok l ↔ ∀ a ∈ l, f a = .ok a := by
  rw [mapM_eq_ok, List.forall₂_same]

theorem build_paragraph {text shown : String} :
    (Flowable.paragraph text).build lab = .ok (.paragraph shown) ↔ lab.paragraph text = .ok shown := by
  unfold Flowable.build
  rw [map_eq_ok]
  simp

theorem build_table {rows shown : List (List String)} :
    (Flowable.table rows).build lab = .ok (.table shown) ↔
      rows.mapM (·.mapM lab.paragraph) = .ok shown := by
  unfold Flowable.build
  rw [map_eq_ok]
  simp

theorem build_spacer (height : ℕ) : (Flowable.spacer height).build lab = .ok (.spacer height) := rfl

/-- A list whose names are literal is displayed as it is. -/
theorem build_listing (lab : ReportLab) {α : Type} (items : List α) (name : α → String)
    (figures : α → List String) (header : List String) (empty : String)
    (hheader : ∀ text ∈ header, Unmarked text) (hempty : Unmarked empty)
    (hfigures : ∀ item ∈ items, ∀ text ∈ figures item, Unmarked text)
    (hnames : ∀ n ∈ items.map name, lab.Literal n) :
    (listing header (items.map fun item ↦ name item :: figures item) empty).build lab =
      .ok (listing header (items.map fun item ↦ name item :: figures item) empty) := by
  unfold listing
  split
  · exact build_paragraph.mpr (paragraph_unmarked hempty)
  · rw [build_table, mapM_self_iff]
    intro row hrow
    rw [mapM_self_iff]
    intro text htext
    rcases List.mem_cons.mp hrow with rfl | hrow
    · exact paragraph_unmarked (hheader text htext)
    · obtain ⟨item, hitem, rfl⟩ := List.mem_map.mp hrow
      rcases List.mem_cons.mp htext with rfl | htext
      · exact paragraph_literal (hnames _ (List.mem_map_of_mem hitem))
      · exact paragraph_unmarked (hfigures item hitem text htext)

/-- The names in the lists of a summary. -/
def SalesService.DailySummary.productNames (summary : DailySummary) : List String :=
  summary.topProductsByUnits.map (·.2.1) ++ (summary.topProductsByRevenue.map (·.2.1) ++
    summary.productsWithLowStock.map (·.name))

theorem build_metrics (summary : DailySummary) :
    (Flowable.table [["<b>" ++ "Total Revenue" ++ "</b>", "<b>" ++ "Total Transactions" ++ "</b>"],
      ["<b>" ++ ("KES " ++ Decimal.comma2 summary.totalRevenue) ++ "</b>",
        "<b>" ++ Text.ofInt summary.transactionCount ++ "</b>"]]).build lab =
    .ok (.table [["Total Revenue", "Total Transactions"],
      ["KES " ++ Decimal.comma2 summary.totalRevenue, Text.ofInt summary.transactionCount]]) := by
  have hkes : Unmarked "KES " := unmarked_of_all (by decide)
  have hrevenue : Unmarked ("KES " ++ Decimal.comma2 summary.totalRevenue) :=
    unmarked_append hkes (unmarked_comma2 _)
  have hcount := unmarked_ofInt summary.transactionCount
  rw [build_table]
  simp only [mapM_eq_ok, List.forall₂_cons, List.Forall₂.nil, and_true]
  exact ⟨⟨paragraph_bold (unmarked_of_all (by decide)), paragraph_bold (unmarked_of_all (by decide))⟩,
    paragraph_bold hrevenue, paragraph_bold hcount⟩

/-- A report whose names are literal is made, with every text displayed as it is. -/
theorem generateDailySummaryPdf_literal (lab : ReportLab) (process : Zone) (now : Timestamp)
    {summary : DailySummary} {shopName : String} (hshop : Unmarked shopName) (date : Date)
    (hnames : ∀ name ∈ summary.productNames, lab.Literal name) :
    generateDailySummaryPdf lab process now summary shopName (some date) =
      .ok (document summary shopName date) := by
  have hdate : targetDate process now (some date) = .ok date := rfl
  have htitles : ∀ text ∈ ["SokoFlow Daily Report", "Top Products by Units Sold",
      "Top Products by Revenue", "Low Stock Alerts"], lab.paragraph text = .ok text :=
    fun text h ↦ paragraph_unmarked (unmarked_all (by decide) text h)
  simp only [List.forall_mem_cons] at htitles
  unfold DailySummary.productNames at hnames
  obtain ⟨hunitNames, hnames⟩ := List.forall_mem_append.mp hnames
  obtain ⟨hrevenueNames, hlowNames⟩ := List.forall_mem_append.mp hnames
  have hsubtitle := paragraph_subtitle lab hshop (unmarked_longDate date)
  have hunits := build_listing lab summary.topProductsByUnits (·.2.1)
    (fun item ↦ [Text.ofInt item.2.2]) ["Product Name", "Units Sold"]
    "No units sold recorded for this period." (unmarked_all (by decide))
    (unmarked_of_all (by decide)) (fun item _ ↦ List.forall_mem_singleton.mpr (unmarked_ofInt _))
    hunitNames
  have hrevenue := build_listing lab summary.topProductsByRevenue (·.2.1)
    (fun item ↦ ["KES " ++ Decimal.comma2 item.2.2]) ["Product Name", "Revenue"]
    "No revenue recorded for this period." (unmarked_all (by decide)) (unmarked_of_all (by decide))
    (fun item _ ↦ List.forall_mem_singleton.mpr
      (unmarked_append (unmarked_of_all (by decide)) (unmarked_comma2 _))) hrevenueNames
  have hlow := build_listing lab summary.productsWithLowStock (·.name)
    (fun item ↦ [Text.ofInt item.quantity, Text.ofInt item.lowStockThreshold])
    ["Product Name", "Current Stock", "Threshold"] "No products currently low on stock."
    (unmarked_all (by decide)) (unmarked_of_all (by decide)) (fun item _ ↦
      List.forall_mem_cons.mpr ⟨unmarked_ofInt _, List.forall_mem_singleton.mpr (unmarked_ofInt _)⟩)
    hlowNames
  unfold generateDailySummaryPdf document story
  rw [hdate, except_ok_bind, mapM_eq_ok]
  simp only [List.forall₂_cons, List.Forall₂.nil, and_true, id_eq, build_metrics,
    build_paragraph, build_spacer, htitles, hsubtitle, hunits, hrevenue, hlow]

theorem exists_of_mapM {α β : Type} {f : α → Except Exc β} {l : List α} {l' : List β}
    (h : l.mapM f = .ok l') : ∀ a ∈ l, ∃ b, f a = .ok b := by
  intro a ha
  have hall := mapM_eq_ok.mp h
  induction hall with
  | nil => cases ha
  | cons hab hrest ih =>
      rcases List.mem_cons.mp ha with rfl | ha
      · exact ⟨_, hab⟩
      · exact ih (mapM_eq_ok.mpr hrest) ha

theorem build_listing_ok {header : List String} {rows : List (List String)} {empty : String}
    {g : Flowable} (h : (listing header rows empty).build lab = .ok g) :
    ∀ row ∈ rows, ∀ text ∈ row, ∃ shown, lab.paragraph text = .ok shown := by
  intro row hrow text htext
  unfold listing at h
  rw [if_neg (List.ne_nil_of_mem hrow)] at h
  obtain ⟨shown, hrows, -⟩ := map_eq_ok.mp h
  obtain ⟨texts, htexts⟩ := exists_of_mapM hrows row (List.mem_cons_of_mem _ hrow)
  exact exists_of_mapM htexts text htext

/-- A report is made only of names that are well-formed markup. -/
theorem generateDailySummaryPdf_ok {process : Zone} {now : Timestamp} {summary : DailySummary}
    {shopName : String} {reportDate : Option Date} {doc : List Flowable}
    (h : generateDailySummaryPdf lab process now summary shopName reportDate = .ok doc) :
    ∀ name ∈ summary.productNames, ∃ shown, lab.paragraph name = .ok shown := by
  unfold generateDailySummaryPdf at h
  cases hdate : targetDate process now reportDate with
  | error e =>
      rw [hdate, except_error_bind] at h
      cases h
  | ok date =>
      rw [hdate, except_ok_bind] at h
      have hlisting (k : ℕ) {α : Type} {items : List α} {row : α → List String} {header : List String}
          {empty : String} (hk : (story (fun text ↦ "<b>" ++ text ++ "</b>") "&nbsp;" summary shopName
            date)[k]? = some (listing header (items.map row) empty)) :
          ∀ item ∈ items, ∀ text ∈ row item, ∃ shown, lab.paragraph text = .ok shown := by
        intro item hitem
        obtain ⟨g, hg⟩ := exists_of_mapM h _ (List.mem_of_getElem? hk)
        exact build_listing_ok hg _ (List.mem_map_of_mem hitem)
      unfold DailySummary.productNames
      simp only [List.forall_mem_append, List.forall_mem_map]
      refine ⟨?_, ?_, ?_⟩
      · exact fun item hitem ↦ hlisting 6 rfl item hitem _ List.mem_cons_self
      · exact fun item hitem ↦ hlisting 9 rfl item hitem _ List.mem_cons_self
      · exact fun item hitem ↦ hlisting 12 rfl item hitem _ List.mem_cons_self

theorem processReport_literal {zone process : Zone} {shopId : UUID} {date : Date} {b b' : Backend}
    {summary : DailySummary}
    (h : getWorkerDb (getDailySummary zone shopId (.date date)) b = .ok summary b')
    (hnames : ∀ name ∈ summary.productNames, lab.Literal name) :
    ∃ b'', processReport zone process lab shopId date b =
      .ok (document summary "SokoFlow Shop" date) b'' := by
  have hnow : (now : DbM Timestamp) b' = .ok (b'.env.clock b'.tick) { b' with tick := b'.tick + 1 } :=
    ask_apply _ _
  have hpdf := generateDailySummaryPdf_literal lab process (b'.env.clock b'.tick)
    (unmarked_of_all (by decide) : Unmarked "SokoFlow Shop") date hnames
  unfold processReport
  rw [bind_of_ok h, bind_of_ok hnow]
  exact ⟨_, ofExcept_eq_ok.mpr ⟨hpdf, rfl⟩⟩

theorem mem_productNames {shopId : UUID} {i : Timestamp × Timestamp} {db : Database} {name : String}
    (h : name ∈ (summaryOf shopId i db).productNames) : ∃ p ∈ db.products, p.name = name := by
  have hproduct {α : Type} {amount : List Sale → α} {sales : List Sale} {row : UUID × String × α}
      (hrow : row ∈ SalesRepository.perProduct amount sales db.products) :
      ∃ p ∈ db.products, p.name = row.2.1 := by
    obtain ⟨p, hp, hsold⟩ := List.mem_filterMap.mp hrow
    refine ⟨p, hp, ?_⟩
    split at hsold
    · cases hsold
    · cases hsold
      rfl
  rcases List.mem_append.mp h with hunits | h
  · obtain ⟨row, hrow, rfl⟩ := List.mem_map.mp hunits
    exact hproduct (List.mem_of_mem_filter hrow)
  · rcases List.mem_append.mp h with hrevenue | hlow
    · obtain ⟨row, hrow, rfl⟩ := List.mem_map.mp hrevenue
      exact hproduct (List.mem_of_mem_filter hrow)
    · obtain ⟨row, hrow, rfl⟩ := List.mem_map.mp hlow
      obtain ⟨p, hp, hstock⟩ := List.mem_filterMap.mp hrow
      refine ⟨p, List.mem_of_mem_filter hp, ?_⟩
      split at hstock
      · cases hstock
      · split at hstock
        · cases hstock
          rfl
        · cases hstock

/-- A report on products whose names are literal is displayed as it is. -/
theorem processReport_of_literal {zone process : Zone} {shopId : UUID} {date : Date}
    {b b' : Backend} {summary : DailySummary}
    (h : getWorkerDb (getDailySummary zone shopId (.date date)) b = .ok summary b')
    (hnames : ∀ p ∈ b.working.products, lab.Literal p.name) :
    ∃ b'', processReport zone process lab shopId date b =
      .ok (document summary "SokoFlow Shop" date) b'' := by
  apply processReport_literal h
  intro name hname
  obtain ⟨b₁, hsummary, -⟩ := getWorkerDb_eq_ok.mp h
  obtain ⟨i, -, rfl⟩ := getDailySummary_shows hsummary
  obtain ⟨p, hp, rfl⟩ := mem_productNames hname
  exact hnames p hp

/-- A literal name is displayed as it is, and a report of literal names is made
with every name and its layout as they are. -/
theorem reportShowsNames (lab : ReportLab) (process : Zone) (now : Timestamp)
    (summary : DailySummary) (date : Date) :
    (∀ name : ProductName, lab.Literal name.val → lab.paragraph name.val = .ok name.val) ∧
    ((∀ name ∈ summary.productNames, lab.Literal name) →
      generateDailySummaryPdf lab process now summary "SokoFlow Shop" (some date) =
        .ok (document summary "SokoFlow Shop" date)) :=
  ⟨fun _ ↦ paragraph_literal,
    generateDailySummaryPdf_literal lab process now (unmarked_of_all (by decide)) date⟩

def boldItem : List Char → Option (Item Char String × List Char)
  | '<' :: 'b' :: '>' :: s => some (.opening "b", s)
  | '<' :: '/' :: 'b' :: '>' :: s => some (.closing "b", s)
  | '&' :: 'n' :: 'b' :: 's' :: 'p' :: ';' :: s => some (.shown ['\u00a0'], s)
  | c :: s => some (.shown [c], s)
  | [] => none

/-- The markup that the report itself is written in; any other character is shown. -/
def boldMarkup : ReportLab where
  item := boldItem
  progress := by
    intro s i rest h
    unfold boldItem at h
    split at h <;> cases h <;> simp <;> omega
  item_bold _ := rfl
  item_boldEnd _ := rfl
  item_nbsp _ := rfl
  malformed _ := .other "ValueError" "paraparser: syntax error"

/-- The sugar of this shop is out of stock. -/
def sugarShop : Database where
  shops := [⟨⟨1⟩, "254700000001", some "Dairy", .en⟩]
  products := [⟨⟨2⟩, ⟨1⟩, "Sugar <b>", "SB-AAAAAA", 60⟩]
  inventory := [⟨⟨3⟩, ⟨2⟩, 0, 5⟩]
  valid := by decide +kernel

/-- A shop whose report names salt and pepper. -/
def spiceShop : Database where
  shops := [⟨⟨1⟩, "254700000001", some "Dairy", .en⟩]
  products := [⟨⟨2⟩, ⟨1⟩, "Salt & Pepper", "S&P-AAAAAA", 60⟩]
  inventory := [⟨⟨3⟩, ⟨2⟩, 0, 5⟩]
  valid := by decide +kernel

theorem literal_saltAndPepper : boldMarkup.Literal "Salt & Pepper" := by
  have hpepper : ∀ c ∈ " Pepper".toList, ¬ IsMarkup c := unmarked_of_all (by decide)
  have hamp : Dialect.Literal boldMarkup.toDialect ('&' :: " Pepper".toList) :=
    .shown (.inr rfl) rfl rfl (Dialect.literal_of_plain hpepper)
  have hsalt : ∀ c ∈ "Salt ".toList, ¬ IsMarkup c := unmarked_of_all (by decide)
  exact Dialect.literal_append hsalt hamp

theorem reportShowsNames_saltAndPepper :
    (summaryOf ⟨1⟩ (midnightUtc 739010, midnightUtc 739011) spiceShop).productNames =
        ["Salt & Pepper"] ∧
      generateDailySummaryPdf boldMarkup utc 0
          (summaryOf ⟨1⟩ (midnightUtc 739010, midnightUtc 739011) spiceShop) "SokoFlow Shop"
          (some weekend.startDate) =
        .ok (document (summaryOf ⟨1⟩ (midnightUtc 739010, midnightUtc 739011) spiceShop)
          "SokoFlow Shop" weekend.startDate) := by
  have hnames : (summaryOf ⟨1⟩ (midnightUtc 739010, midnightUtc 739011) spiceShop).productNames =
      ["Salt & Pepper"] := by
    decide +kernel
  refine ⟨hnames, (reportShowsNames boldMarkup utc 0 _ _).2 ?_⟩
  intro name hname
  rw [hnames] at hname
  rw [List.mem_singleton.mp hname]
  exact literal_saltAndPepper

/-- No report can be made of a name that opens an element, and tags are not displayed. -/
theorem sugarReport_fails :
    (∃ name, parseProductName "Sugar <b>" = .ok name ∧
      name.val ∈ (summaryOf ⟨1⟩ (midnightUtc 739010, midnightUtc 739011) sugarShop).productNames) ∧
    (∀ doc, generateDailySummaryPdf boldMarkup utc 0
      (summaryOf ⟨1⟩ (midnightUtc 739010, midnightUtc 739011) sugarShop) "SokoFlow Shop"
      (some weekend.startDate) ≠ .ok doc) ∧
    (∃ name, parseProductName "<b>Sugar</b>" = .ok name ∧ boldMarkup.paragraph name.val = .ok "Sugar") := by
  have hmem : "Sugar <b>" ∈
      (summaryOf ⟨1⟩ (midnightUtc 739010, midnightUtc 739011) sugarShop).productNames := by
    decide +kernel
  have hsugar : ∀ c ∈ "Sugar ".toList, ¬ IsMarkup c := unmarked_of_all (by decide)
  refine ⟨⟨⟨"Sugar <b>", by decide⟩, by rfl, hmem⟩, ?_, ⟨⟨"<b>Sugar</b>", by decide⟩, by rfl, ?_⟩⟩
  · intro doc hdoc
    obtain ⟨shown, hshown⟩ := generateDailySummaryPdf_ok hdoc _ hmem
    have hopen : boldMarkup.readIn [] "<b>".toList = boldMarkup.readIn ["b"] [] :=
      Dialect.readIn_opening (.inl rfl) (boldMarkup.item_bold [])
    have hnone : boldMarkup.readIn ["b"] [] = none := by
      rw [Dialect.readIn]
      rfl
    have hread := Dialect.readIn_plain (d := boldMarkup.toDialect) [] hsugar "<b>".toList
    rw [hopen, hnone] at hread
    cases (paragraph_eq_ok.mp hshown).symm.trans hread
  · exact paragraph_bold (t := "Sugar") (unmarked_of_all (by decide))

end SokoFlow
