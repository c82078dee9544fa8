import Mathlib.Data.List.Dedup
import SokoFlow.DailySummary
import SokoFlow.Foundation.Ranking

/-!
# Rankings of products

The queries keep the products of rank one before the limit comes, so a ranking
is complete only if the best products are tied.
-/

namespace SokoFlow

open DbM Effect Analytics Ranking
open SalesRepository (salesOf perProduct topRanked topMovingProductsByUnits topMovingProductsByRevenue)

variable {dep : Deployment} {shopId : UUID} {i : Timestamp × Timestamp} {db : Database}

/-- The products with a sale of the shop in the interval, each once. -/
def soldIn (shopId : UUID) (i : Timestamp × Timestamp) (db : Database) : List UUID :=
  ((salesOf db.sales shopId i.1 i.2).map (·.productId)).dedup

def salesOfProduct (shopId : UUID) (i : Timestamp × Timestamp) (db : Database) (p : UUID) : List Sale :=
  (salesOf db.sales shopId i.1 i.2).filter (·.productId = p)

def unitsIn (shopId : UUID) (i : Timestamp × Timestamp) (db : Database) (p : UUID) : ℤ :=
  ((salesOfProduct shopId i db p).map (·.quantity)).sum

def revenueIn (shopId : UUID) (i : Timestamp × Timestamp) (db : Database) (p : UUID) : ℚ :=
  ((salesOfProduct shopId i db p).map (·.total)).sum

section Rows

variable {α : Type} {amount : List Sale → α}

theorem mem_perProduct {r : UUID × String × α} {sales : List Sale} :
    r ∈ perProduct amount sales db.products ↔ ∃ p ∈ db.products,
      (∃ s ∈ sales, s.productId = p.id) ∧
        r = (p.id, p.name, amount (sales.filter (·.productId = p.id))) := by
  unfold perProduct
  rw [List.mem_filterMap]
  refine exists_congr fun p ↦ and_congr_right fun _ ↦ ?_
  cases hown : sales.filter (·.productId = p.id) with
  | nil =>
      have hnone : ¬ ∃ s ∈ sales, s.productId = p.id := by
        rintro ⟨s, hs, hid⟩
        have hmem : s ∈ sales.filter (·.productId = p.id) := by simp [hs, hid]
        rw [hown] at hmem
        cases hmem
      simp [hnone]
  | cons s own =>
      have hsome : ∃ s ∈ sales, s.productId = p.id := by
        have hmem : s ∈ sales.filter (·.productId = p.id) := by simp [hown]
        rw [List.mem_filter, decide_eq_true_eq] at hmem
        exact ⟨s, hmem⟩
      simp only [hsome, true_and, Option.some.injEq]
      exact eq_comm

theorem perProduct_ids_sublist (sales : List Sale) (products : List Product) :
    ((perProduct amount sales products).map (·.1)).Sublist (products.map (·.id)) := by
  induction products with
  | nil => exact List.nil_sublist _
  | cons p products ih =>
      unfold perProduct at ih ⊢
      rw [List.filterMap_cons]
      cases sales.filter (·.productId = p.id) with
      | nil => exact ih.cons _
      | cons s own => exact ih.cons_cons _

/-- The rows of a shop's sales: each product with a sale once, with its total. -/
structure Totals (total : UUID → α) (sold : List UUID) (rows : List (UUID × String × α)) : Prop where
  ids : (rows.map (·.1)).Perm sold
  exact : ∀ r ∈ rows, r.2.2 = total r.1

theorem perProduct_totals (amount : List Sale → α) (shopId : UUID) (i : Timestamp × Timestamp) (db : Database) :
    Totals (fun p ↦ amount (salesOfProduct shopId i db p)) (soldIn shopId i db)
      (perProduct amount (salesOf db.sales shopId i.1 i.2) db.products) := by
  constructor
  · have hnodup : ((perProduct amount (salesOf db.sales shopId i.1 i.2) db.products).map (·.1)).Nodup :=
      db.valid.products.ids.sublist (perProduct_ids_sublist _ _)
    apply (List.perm_ext_iff_of_nodup hnodup (List.nodup_dedup _)).mpr
    intro p
    rw [List.mem_dedup, List.mem_map, List.mem_map]
    constructor
    · rintro ⟨r, hr, rfl⟩
      obtain ⟨product, -, ⟨s, hs, hid⟩, rfl⟩ := mem_perProduct.mp hr
      exact ⟨s, hs, hid⟩
    · rintro ⟨s, hs, rfl⟩
      -- the foreign key of the sale
      have hsale : s ∈ db.sales := List.mem_of_mem_filter hs
      obtain ⟨product, hp, hid⟩ := List.mem_map.mp (db.valid.sales.product s hsale)
      exact ⟨_, mem_perProduct.mpr ⟨product, hp, ⟨s, hs, hid.symm⟩, rfl⟩, hid⟩
  · intro r hr
    obtain ⟨product, -, -, rfl⟩ := mem_perProduct.mp hr
    rfl

variable {total : UUID → α} {sold : List UUID} {rows : List (UUID × String × α)}

theorem Totals.mem_sold (h : Totals total sold rows) {r : UUID × String × α} (hr : r ∈ rows) :
    r.1 ∈ sold :=
  h.ids.mem_iff.mp (List.mem_map_of_mem hr)

theorem Totals.exists_row (h : Totals total sold rows) {p : UUID} (hp : p ∈ sold) :
    ∃ r ∈ rows, r.1 = p ∧ r.2.2 = total p := by
  obtain ⟨r, hr, rfl⟩ := List.mem_map.mp (h.ids.mem_iff.mpr hp)
  exact ⟨r, hr, rfl, h.exact r hr⟩

theorem Totals.equal_iff (h : Totals total sold rows) :
    (∀ r ∈ rows, ∀ r' ∈ rows, r.2.2 = r'.2.2) ↔ ∀ p ∈ sold, ∀ p' ∈ sold, total p = total p' := by
  constructor
  · intro heq p hp p' hp'
    obtain ⟨r, hr, -, htotal⟩ := h.exists_row hp
    obtain ⟨r', hr', -, htotal'⟩ := h.exists_row hp'
    rw [← htotal, ← htotal', heq r hr r' hr']
  · intro heq r hr r' hr'
    rw [h.exact r hr, h.exact r' hr']
    exact heq _ (h.mem_sold hr) _ (h.mem_sold hr')

variable [LinearOrder α] {n : ℕ}

/-- The ranking shows `n` of the products by this total, or all there are, the
best ones first and with their totals. -/
structure Complete (total : UUID → α) (sold : List UUID) (n : ℕ) (out : List (UUID × String × α)) :
    Prop where
  length : out.length = min n sold.length
  distinct : (out.map (·.1)).Nodup
  exact : ∀ r ∈ out, r.1 ∈ sold ∧ r.2.2 = total r.1
  descending : out.Pairwise fun r r' ↦ r'.2.2 ≤ r.2.2
  rest : ∀ p ∈ sold, p ∉ out.map (·.1) → ∀ r ∈ out, total p ≤ r.2.2

/-- The best products, or all of them, are enough. -/
def BestSuffice (total : UUID → α) (sold : List UUID) (n : ℕ) : Prop :=
  n ≤ (maxima total sold).length ∨ ∀ p ∈ sold, ∀ p' ∈ sold, total p = total p'

theorem Totals.maxima_length (h : Totals total sold rows) :
    (maxima (fun r : UUID × String × α ↦ r.2.2) rows).length = (maxima total sold).length := by
  have hrows : maxima (fun r : UUID × String × α ↦ r.2.2) rows =
      rows.filter fun r ↦ sold.all fun p ↦ total p ≤ total r.1 := by
    unfold maxima
    apply List.filter_congr
    intro r hr
    rw [Bool.eq_iff_iff, List.all_eq_true, List.all_eq_true]
    simp only [decide_eq_true_eq, h.exact r hr]
    constructor
    · intro hall p hp
      obtain ⟨r', hr', -, htotal⟩ := h.exists_row hp
      exact htotal ▸ hall r' hr'
    · intro hall r' hr'
      rw [h.exact r' hr']
      exact hall r'.1 (h.mem_sold hr')
  have hsold := (h.ids.filter fun p ↦ sold.all fun q ↦ total q ≤ total p).length_eq
  rw [List.filter_map, List.length_map] at hsold
  rw [hrows]
  exact hsold

theorem Totals.complete (h : Totals total sold rows) (hsold : sold.Nodup)
    {out : List (UUID × String × α)} (hfirst : FirstOf (fun r r' ↦ r'.2.2 ≤ r.2.2) n rows out) :
    Complete total sold n out := by
  have hrows : (rows.map (·.1)).Nodup := h.ids.nodup_iff.mpr hsold
  refine ⟨?_, ?_, ?_, hfirst.ordered, ?_⟩
  · rw [hfirst.length, ← h.ids.length_eq, List.length_map]
  · obtain ⟨part, hperm, hsub⟩ := hfirst.subperm
    have hpart : (part.map (·.1)).Nodup := hrows.sublist (hsub.map (·.1))
    exact (hperm.map (·.1)).nodup_iff.mp hpart
  · intro r hr
    have hmem : r ∈ rows := hfirst.subperm.subset hr
    exact ⟨h.mem_sold hmem, h.exact r hmem⟩
  · intro p hp hout r hr
    obtain ⟨r', hr', hid, htotal⟩ := h.exists_row hp
    rw [← htotal]
    refine hfirst.rest r' hr' (fun hmem ↦ hout ?_) r hr
    rw [← hid]
    exact List.mem_map_of_mem hmem

/-- Taking from the rows of rank one is complete if the best products suffice. -/
theorem Totals.complete_top_iff (h : Totals total sold rows) (hsold : sold.Nodup) :
    Complete total sold n ((topRanked rows).take n) ↔ BestSuffice total sold n := by
  have htop : topRanked rows = maxima (fun r : UUID × String × α ↦ r.2.2) rows := rfl
  have hlength : rows.length = sold.length := by
    rw [← h.ids.length_eq, List.length_map]
  have hsuffice : BestSuffice total sold n ↔
      FirstOf (fun r r' : UUID × String × α ↦ r'.2.2 ≤ r.2.2) n rows ((topRanked rows).take n) := by
    unfold BestSuffice
    rw [htop, ← h.maxima_length, ← h.equal_iff]
    exact firstOf_maxima_iff.symm
  constructor
  · intro hcomplete
    have hmin := hcomplete.length
    rw [List.length_take, htop, h.maxima_length] at hmin
    exact min_maxima_iff.mp hmin
  · intro hbest
    exact h.complete hsold (hsuffice.mp hbest)

end Rows

theorem units_totals (shopId : UUID) (i : Timestamp × Timestamp) (db : Database) :
    Totals (unitsIn shopId i db) (soldIn shopId i db)
      (perProduct (fun own ↦ (own.map (·.quantity)).sum) (salesOf db.sales shopId i.1 i.2) db.products) :=
  perProduct_totals (fun own ↦ (own.map Sale.quantity).sum) shopId i db

theorem revenue_totals (shopId : UUID) (i : Timestamp × Timestamp) (db : Database) :
    Totals (revenueIn shopId i db) (soldIn shopId i db)
      (perProduct (fun own ↦ (own.map (·.total)).sum) (salesOf db.sales shopId i.1 i.2) db.products) :=
  perProduct_totals (fun own ↦ (own.map Sale.total).sum) shopId i db

/-! ## The handler -/

/-- `input_data.limit or 5` -/
def topLimit (limit : Option { n : ℤ // 0 < n }) : ℕ :=
  match limit with
  | none => 5
  | some n => n.val.toNat

theorem handleGetTopProducts_ok {period : ReportingPeriod} {ranking : Option RankingDimension}
    {limit : Option { n : ℤ // 0 < n }} {out : TopProducts} {b b' : Backend}
    (h : handleGetTopProducts dep shopId period ranking limit b = .ok out b') :
    ∃ i, resolvePeriodBoundaries dep.nairobi (b.env.clock b.tick) period = .ok i ∧
      (out.units = if ranking = some .revenue then none else
        some ((topMovingProductsByUnits shopId i.1 i.2 b.working).take (topLimit limit))) ∧
      out.revenue = if ranking = some .units then none else
        some ((topMovingProductsByRevenue shopId i.1 i.2 b.working).take (topLimit limit)) := by
  obtain ⟨i, b₁, hbounds, hrest⟩ := bind_eq_ok.mp h
  obtain ⟨hperiod, rfl⟩ := boundaries_eq_ok.mp hbounds
  obtain ⟨⟨units, revenue⟩, b₃, htop, hout⟩ := bind_eq_ok.mp hrest
  obtain ⟨u, b₄, hu, hranked⟩ := bind_eq_ok.mp htop
  obtain ⟨v, b₅, hv, hpair⟩ := bind_eq_ok.mp hranked
  cases hpair
  cases hout
  obtain ⟨rfl, hw⟩ := select_ok hu
  obtain ⟨rfl, -⟩ := select_ok hv
  refine ⟨i, hperiod, rfl, ?_⟩
  rw [hw.working]
  rfl

theorem handleGetTopProducts_returns {period : ReportingPeriod} (ranking : Option RankingDimension)
    (limit : Option { n : ℤ // 0 < n }) {b : Backend} (hf : b.env.Faultless) (ha : b.aborted = false)
    (hi : resolvePeriodBoundaries dep.nairobi (b.env.clock b.tick) period = .ok i) :
    ∃ out b', handleGetTopProducts dep shopId period ranking limit b = .ok out b' := by
  have hbounds : boundaries dep period b = .ok i { b with tick := b.tick + 1 } :=
    boundaries_eq_ok.mpr ⟨hi, rfl⟩
  obtain ⟨b₁, h₁, hf₁, ha₁⟩ := select_returns (b := { b with tick := b.tick + 1 })
    (topMovingProductsByUnits shopId i.1 i.2) hf ha
  obtain ⟨b₂, h₂, -, -⟩ := select_returns (topMovingProductsByRevenue shopId i.1 i.2) hf₁ ha₁
  obtain ⟨units, revenue, htop⟩ : ∃ units revenue, SalesRepository.getTopMovingProducts shopId i
      { b with tick := b.tick + 1 } = .ok (units, revenue) b₂ := by
    unfold SalesRepository.getTopMovingProducts
    dsimp only
    rw [bind_of_ok h₁, bind_of_ok h₂]
    exact ⟨_, _, rfl⟩
  unfold handleGetTopProducts
  rw [bind_of_ok hbounds, bind_of_ok htop]
  exact ⟨_, b₂, rfl⟩

/-- Each requested ranking is complete. -/
structure AllComplete (shopId : UUID) (i : Timestamp × Timestamp) (db : Database)
    (ranking : Option RankingDimension) (n : ℕ) (out : TopProducts) : Prop where
  units : ranking ≠ some .revenue → ∃ list, out.units = some list ∧
    Complete (unitsIn shopId i db) (soldIn shopId i db) n list
  revenue : ranking ≠ some .units → ∃ list, out.revenue = some list ∧
    Complete (revenueIn shopId i db) (soldIn shopId i db) n list

/-- What `handle_get_top_products` returns is complete exactly when, in each
requested ranking, the best products are enough for the limit, or all there are. -/
theorem top_products_complete_iff {period : ReportingPeriod} {ranking : Option RankingDimension}
    {limit : Option { n : ℤ // 0 < n }} {out : TopProducts} {b b' : Backend}
    (h : handleGetTopProducts dep shopId period ranking limit b = .ok out b')
    (hi : resolvePeriodBoundaries dep.nairobi (b.env.clock b.tick) period = .ok i) :
    AllComplete shopId i b.working ranking (topLimit limit) out ↔
      (ranking ≠ some .revenue →
        BestSuffice (unitsIn shopId i b.working) (soldIn shopId i b.working) (topLimit limit)) ∧
      (ranking ≠ some .units →
        BestSuffice (revenueIn shopId i b.working) (soldIn shopId i b.working) (topLimit limit)) := by
  obtain ⟨i', hi', hunits, hrevenue⟩ := handleGetTopProducts_ok h
  cases hi.symm.trans hi'
  have hsold : (soldIn shopId i b.working).Nodup := List.nodup_dedup _
  have hbyUnits : Complete (unitsIn shopId i b.working) (soldIn shopId i b.working) (topLimit limit)
      ((topMovingProductsByUnits shopId i.1 i.2 b.working).take (topLimit limit)) ↔
      BestSuffice (unitsIn shopId i b.working) (soldIn shopId i b.working) (topLimit limit) :=
    (units_totals shopId i b.working).complete_top_iff hsold
  have hbyRevenue : Complete (revenueIn shopId i b.working) (soldIn shopId i b.working) (topLimit limit)
      ((topMovingProductsByRevenue shopId i.1 i.2 b.working).take (topLimit limit)) ↔
      BestSuffice (revenueIn shopId i b.working) (soldIn shopId i b.working) (topLimit limit) :=
    (revenue_totals shopId i b.working).complete_top_iff hsold
  rw [← hbyUnits, ← hbyRevenue]
  constructor
  · rintro ⟨hu, hr⟩
    refine ⟨fun hne ↦ ?_, fun hne ↦ ?_⟩
    · obtain ⟨list, hlist, hcomplete⟩ := hu hne
      rw [hunits, if_neg hne] at hlist
      cases hlist
      exact hcomplete
    · obtain ⟨list, hlist, hcomplete⟩ := hr hne
      rw [hrevenue, if_neg hne] at hlist
      cases hlist
      exact hcomplete
  · rintro ⟨hu, hr⟩
    refine ⟨fun hne ↦ ?_, fun hne ↦ ?_⟩
    · rw [hunits, if_neg hne]
      exact ⟨_, rfl, hu hne⟩
    · rw [hrevenue, if_neg hne]
      exact ⟨_, rfl, hr hne⟩

/-! Milk sold twice and bread sold once, on the same weekend. -/

def bakery : Database where
  toRows := { market.toRows with
    products := [⟨⟨2⟩, ⟨1⟩, "Milk", "M-AAAAAA", 60⟩, ⟨⟨7⟩, ⟨1⟩, "Bread", "B-AAAAAA", 60⟩]
    sales := market.sales ++ [⟨⟨8⟩, ⟨1⟩, ⟨7⟩, 1, 60, 60, "System", midnightUtc 739010⟩] }
  valid := by decide +kernel

def weekendInterval : Timestamp × Timestamp := (midnightUtc 739010, midnightUtc 739012)

theorem weekend_interval : resolvePeriodBoundaries Deployment.sample.nairobi (Env.calm.clock 0)
    (.dateRange weekend) = .ok weekendInterval := by
  decide +kernel

/-- Bread sold as often as milk, for the same money, and rice less. -/
def tiedBakery : Database where
  toRows := { bakery.toRows with
    products := bakery.products ++ [⟨⟨9⟩, ⟨1⟩, "Rice", "R-AAAAAA", 60⟩]
    sales := bakery.sales ++ [⟨⟨10⟩, ⟨1⟩, ⟨7⟩, 2, 60, 120, "System", midnightUtc 739011⟩,
      ⟨⟨11⟩, ⟨1⟩, ⟨9⟩, 1, 60, 60, "System", midnightUtc 739011⟩] }
  valid := by decide +kernel

theorem top_products_complete_tied : ∃ out b',
    handleGetTopProducts .sample ⟨1⟩ (.dateRange weekend) none (some ⟨2, by decide⟩)
        (.connect .calm tiedBakery) = .ok out b' ∧
      (soldIn ⟨1⟩ weekendInterval tiedBakery).length = 3 ∧
      AllComplete ⟨1⟩ weekendInterval tiedBakery none 2 out := by
  obtain ⟨out, b', h⟩ := handleGetTopProducts_returns (b := .connect .calm tiedBakery)
    (i := weekendInterval) none (some ⟨2, by decide⟩) Env.calm_faultless rfl weekend_interval
  refine ⟨out, b', h, by decide +kernel,
    (top_products_complete_iff h weekend_interval).mpr ⟨fun _ ↦ .inl ?_, fun _ ↦ .inl ?_⟩⟩
  · decide +kernel
  · decide +kernel

/-- The default limit asks for five products, two were sold and one is shown. -/
theorem bread_left_out : ∃ out b' list,
    handleGetTopProducts .sample ⟨1⟩ (.dateRange weekend) none none (.connect .calm bakery) = .ok out b' ∧
      out.units = some list ∧ list.length = 1 ∧ (soldIn ⟨1⟩ weekendInterval bakery).length = 2 ∧
      ¬ AllComplete ⟨1⟩ weekendInterval bakery none 5 out := by
  obtain ⟨out, b', h⟩ := handleGetTopProducts_returns (b := .connect .calm bakery) (i := weekendInterval)
    none none Env.calm_faultless rfl weekend_interval
  obtain ⟨i, hi, hunits, -⟩ := handleGetTopProducts_ok h
  cases weekend_interval.symm.trans hi
  have hsold : (soldIn ⟨1⟩ weekendInterval bakery).length = 2 := by decide +kernel
  have hone : ((topMovingProductsByUnits ⟨1⟩ weekendInterval.1 weekendInterval.2 bakery).take 5).length =
      1 := by decide +kernel
  refine ⟨out, b', _, h, hunits, hone, hsold, fun hcomplete ↦ ?_⟩
  obtain ⟨list, hlist, hlength⟩ := hcomplete.units (by decide)
  cases hunits.symm.trans hlist
  have hmin := hlength.length
  rw [hsold] at hmin
  exact absurd (hone.symm.trans hmin) (by decide)

end SokoFlow
