import SokoFlow.TopProducts

/-!
# Slow-moving items

The products of a shop that sold at most so many units, with the exact units and
stock of each.
-/

namespace SokoFlow

open DbM Effect Analytics Ranking
open SalesRepository (FitsBigint salesOf slowMovingProducts slowMovingProducts_congr
  getSlowMovingProducts)

variable {dep : Deployment} {shopId : UUID} {i : Timestamp × Timestamp} {db : Database}

/-- The names of a collation are in a total order. -/
structure Collates (nameLe : String → String → Bool) : Prop where
  total : ∀ a b, nameLe a b = true ∨ nameLe b a = true
  trans : ∀ a b c, nameLe a b = true → nameLe b c = true → nameLe a c = true

/-- The products of the shop that sold at most `k` units in the interval. -/
def slowIn (shopId : UUID) (i : Timestamp × Timestamp) (k : ℤ) (db : Database) : List Product :=
  db.products.filter fun p ↦ p.shopId = shopId ∧ unitsIn shopId i db p.id ≤ k

def slowRow (shopId : UUID) (i : Timestamp × Timestamp) (db : Database) (p : Product) :
    SlowMovingProduct :=
  ⟨p.id, p.name, p.price, unitsIn shopId i db p.id, db.stock p.id⟩

def NameBefore (nameLe : String → String → Bool) (r r' : SlowMovingProduct) : Prop :=
  nameLe r.productName r'.productName = true

/-- By units sold and then by name. -/
abbrev SlowBefore (nameLe : String → String → Bool) : SlowMovingProduct → SlowMovingProduct → Prop :=
  ThenBy (·.unitsSold) (NameBefore nameLe)

/-- The items are the first `n` of the shop's slow-moving products, each once and
with its own units and stock. -/
structure SlowMoving (nameLe : String → String → Bool) (shopId : UUID) (i : Timestamp × Timestamp)
    (k : ℤ) (n : ℕ) (db : Database) (out : List SlowMovingProduct) : Prop where
  length : out.length = min n (slowIn shopId i k db).length
  distinct : (out.map (·.productId)).Nodup
  exact : ∀ r ∈ out, ∃ p ∈ slowIn shopId i k db, r = slowRow shopId i db p
  ascending : out.Pairwise (SlowBefore nameLe)
  rest : ∀ p ∈ slowIn shopId i k db, p.id ∉ out.map (·.productId) →
    ∀ r ∈ out, SlowBefore nameLe r (slowRow shopId i db p)

section Query

variable {nameLe : String → String → Bool} {k : ℤ} {n : ℕ}

theorem slowMovingProducts_firstOf (hle : Collates nameLe) :
    FirstOf (SlowBefore nameLe) n ((slowIn shopId i k db).map (slowRow shopId i db))
      (slowMovingProducts nameLe shopId i.1 i.2 k n db) := by
  have htotal : Std.Total (NameBefore nameLe) := ⟨fun r r' ↦ hle.total r.productName r'.productName⟩
  have htrans : IsTrans SlowMovingProduct (NameBefore nameLe) :=
    ⟨fun r r' r'' ↦ hle.trans r.productName r'.productName r''.productName⟩
  have hrows : (slowIn shopId i k db).map (slowRow shopId i db) =
      ((db.products.filter (·.shopId = shopId)).map (slowRow shopId i db)).filter (·.unitsSold ≤ k) := by
    unfold slowIn
    rw [List.filter_map, List.filter_filter]
    congr 1
    apply List.filter_congr
    intro p _
    rw [Bool.decide_and]
    exact Bool.and_comm _ _
  have hout : ∃ _ : DecidableRel (SlowBefore nameLe),
      slowMovingProducts nameLe shopId i.1 i.2 k n db =
        ((((db.products.filter (·.shopId = shopId)).map (slowRow shopId i db)).filter
          fun r ↦ r.unitsSold ≤ k).insertionSort (SlowBefore nameLe)).take n := by
    refine ⟨fun r r' ↦ inferInstanceAs (Decidable (r.unitsSold < r'.unitsSold ∨
      (r.unitsSold = r'.unitsSold ∧ nameLe r.productName r'.productName = true))), ?_⟩
    unfold slowMovingProducts
    dsimp only
    congr 3
    apply List.map_congr_left
    intro p _
    unfold slowRow unitsIn salesOfProduct Database.stock
    cases db.inventoryOf p.id with
    | none => rfl
    | some row => rfl
  obtain ⟨_, hout⟩ := hout
  rw [hrows, hout]
  apply FirstOf.of_insertionSort

/-- The first of the slow-moving rows are exact. -/
theorem slowMovingProducts_exact (hle : Collates nameLe) :
    SlowMoving nameLe shopId i k n db (slowMovingProducts nameLe shopId i.1 i.2 k n db) := by
  have hfirst : FirstOf _ n ((slowIn shopId i k db).map (slowRow shopId i db)) _ :=
    slowMovingProducts_firstOf hle
  generalize slowMovingProducts nameLe shopId i.1 i.2 k n db = out at hfirst
  have hids : (((slowIn shopId i k db).map (slowRow shopId i db)).map (·.productId)).Nodup := by
    rw [List.map_map]
    exact db.valid.products.ids.sublist (List.filter_sublist.map _)
  refine ⟨?_, ?_, ?_, hfirst.ordered, ?_⟩
  · rw [hfirst.length, List.length_map]
  · obtain ⟨part, hperm, hsub⟩ := hfirst.subperm
    have hpart : (part.map (·.productId)).Nodup := hids.sublist (hsub.map _)
    exact (hperm.map (·.productId)).nodup_iff.mp hpart
  · intro r hr
    obtain ⟨p, hp, heq⟩ := List.mem_map.mp (hfirst.subperm.subset hr)
    exact ⟨p, hp, heq.symm⟩
  · intro p hp hout r hr
    refine hfirst.rest _ (List.mem_map_of_mem hp) (fun hmem ↦ hout ?_) r hr
    exact List.mem_map_of_mem (f := SlowMovingProduct.productId) hmem

end Query

/-! ## The handler -/

/-- `input_data.limit or 10` -/
def slowLimit (limit : Option { n : ℤ // 0 < n }) : ℤ :=
  match limit with
  | none => 10
  | some n => n.val

section Handler

variable {period : ReportingPeriod} {k : { n : ℤ // 0 ≤ n }} {limit : Option { n : ℤ // 0 < n }}
  {b : Backend}

theorem slowLimit_pos (limit : Option { n : ℤ // 0 < n }) : 0 < slowLimit limit := by
  cases limit with
  | none => decide
  | some n => exact n.property

theorem handleGetSlowMovingItems_eq (hi : resolvePeriodBoundaries dep.nairobi (b.env.clock b.tick) period =
    .ok i) :
    handleGetSlowMovingItems dep shopId period k limit b =
      getSlowMovingProducts dep shopId k.val (slowLimit limit) i { b with tick := b.tick + 1 } := by
  unfold handleGetSlowMovingItems
  rw [bind_of_ok (boundaries_eq_ok.mpr ⟨hi, rfl⟩)]
  rfl

/-- Numbers that are no `bigint` are refused by the driver. -/
theorem getSlowMovingProducts_refuses {n : ℤ} (h : ¬ (FitsBigint k.val ∧ FitsBigint n)) {out : List SlowMovingProduct}
    {b' : Backend} : getSlowMovingProducts dep shopId k.val n i b ≠ .ok out b' := by
  unfold getSlowMovingProducts
  dsimp only
  rw [if_neg h]
  intro hok
  obtain ⟨_, _, -, hthrow⟩ := bind_eq_ok.mp hok
  cases hthrow

theorem getSlowMovingProducts_ok {n : ℤ} {out : List SlowMovingProduct} {b' : Backend}
    (h : getSlowMovingProducts dep shopId k.val n i b = .ok out b') :
    out = slowMovingProducts dep.nameLe shopId i.1 i.2 k.val n.toNat b.working := by
  by_cases hfits : FitsBigint k.val ∧ FitsBigint n
  · unfold getSlowMovingProducts at h
    dsimp only at h
    rw [if_pos hfits] at h
    exact (select_ok h).1
  · exact absurd h (getSlowMovingProducts_refuses hfits)

/-- For numbers a `bigint` holds, `handle_get_slow_moving_items` returns the first
of the shop's slow-moving products, and looks at no other sales. -/
theorem slow_moving_exact (hle : Collates dep.nameLe) (hk : k.val ≤ 9223372036854775807)
    (hlimit : slowLimit limit ≤ 9223372036854775807)
    (hi : resolvePeriodBoundaries dep.nairobi (b.env.clock b.tick) period = .ok i) :
    (b.env.Faultless → b.aborted = false →
      ∃ out b', handleGetSlowMovingItems dep shopId period k limit b = .ok out b') ∧
    ∀ out b', handleGetSlowMovingItems dep shopId period k limit b = .ok out b' →
      SlowMoving dep.nameLe shopId i k.val (slowLimit limit).toNat b.working out ∧
      ∀ c other c', resolvePeriodBoundaries dep.nairobi (c.env.clock c.tick) period = .ok i →
        b.working.products = c.working.products → b.working.inventory = c.working.inventory →
        salesOf b.working.sales shopId i.1 i.2 = salesOf c.working.sales shopId i.1 i.2 →
        handleGetSlowMovingItems dep shopId period k limit c = .ok other c' → other = out := by
  constructor
  · intro hf ha
    have hfits : FitsBigint k.val ∧ FitsBigint (slowLimit limit) := by
      have hpos := slowLimit_pos limit
      have hnonneg := k.property
      unfold FitsBigint
      omega
    obtain ⟨b', hselect, -, -⟩ := select_returns (b := { b with tick := b.tick + 1 })
      (slowMovingProducts dep.nameLe shopId i.1 i.2 k.val (slowLimit limit).toNat) hf ha
    rw [handleGetSlowMovingItems_eq hi]
    unfold getSlowMovingProducts
    dsimp only
    rw [if_pos hfits]
    exact ⟨_, b', hselect⟩
  · intro out b' h
    rw [handleGetSlowMovingItems_eq hi] at h
    obtain rfl := getSlowMovingProducts_ok h
    refine ⟨slowMovingProducts_exact hle, ?_⟩
    intro c other c' hc hproducts hinventory hsales hother
    rw [handleGetSlowMovingItems_eq hc] at hother
    obtain rfl := getSlowMovingProducts_ok hother
    have hstock (p : UUID) : b.working.inventoryOf p = c.working.inventoryOf p := by
      unfold Database.inventoryOf
      rw [hinventory]
    refine (slowMovingProducts_congr ?_ (fun p _ ↦ hstock p.id) hsales).symm
    rw [hproducts]

end Handler

theorem collates_sample : Collates Deployment.sample.nameLe where
  total a b := by
    simpa [Deployment.sample] using le_total a.toList b.toList
  trans a b c := by
    simpa [Deployment.sample] using fun h h' ↦ le_trans h h'

/-- Bread sold once and has no stock, milk sold too often. -/
theorem slow_moving_exact_bakery : ∃ out b',
    handleGetSlowMovingItems .sample ⟨1⟩ (.dateRange weekend) ⟨1, by decide⟩ none
        (.connect .calm bakery) = .ok out b' ∧
      SlowMoving Deployment.sample.nameLe ⟨1⟩ weekendInterval 1 10 bakery out ∧
      out = [⟨⟨7⟩, "Bread", 60, 1, 0⟩] := by
  obtain ⟨hreturns, hexact⟩ := @slow_moving_exact .sample ⟨1⟩ weekendInterval (.dateRange weekend)
    ⟨1, by decide⟩ none (.connect .calm bakery) collates_sample (by decide) (by decide) weekend_interval
  obtain ⟨out, b', h⟩ := hreturns Env.calm_faultless rfl
  refine ⟨out, b', h, (hexact out b' h).1, ?_⟩
  rw [handleGetSlowMovingItems_eq weekend_interval] at h
  obtain rfl := getSlowMovingProducts_ok h
  decide +kernel

/-- The driver does not encode a bound of `2 ^ 63`. -/
theorem huge_bound_refused : ¬ ∃ out b',
    handleGetSlowMovingItems .sample ⟨1⟩ (.dateRange weekend) ⟨9223372036854775808, by decide⟩ none
      (.connect .calm bakery) = .ok out b' := by
  rintro ⟨out, b', h⟩
  rw [handleGetSlowMovingItems_eq weekend_interval] at h
  exact getSlowMovingProducts_refuses (by decide) h

end SokoFlow
