import SokoFlow.DailySummary
import SokoFlow.Foundation.Ranking

/-!
# Which product is selected

Both resolvers see the first few rows of a query sorted by similarity.  The one of
the analytics tools decides as if it saw the whole catalogue; the one of the
conversation takes the first row and guesses where two products are tied.
-/

namespace SokoFlow

open DbM Effect Analytics Ranking
open ProductRepository (scored findProductsByFuzzySearch getProductsByFuzzyName)
open ProductService (findProductsByFuzzyName findProductsByFuzzyName_eq findProductsByFuzzyName_picks
  picked picked_exactMatch)
open ProductResolver (confidenceDeltaMargin resolveProduct)

variable {dep : Deployment} {shopId : UUID} {query : String} {products : List Product}

/-- The similarity of the product's name to what was asked for. -/
def likeness (dep : Deployment) (query : String) (p : Product) : ℚ :=
  (dep.trigram.similarity (dep.trigram.lower p.name) (Text.lower dep.unicode (Text.strip query))).val

def scoredFor (dep : Deployment) (query : String) (p : Product) : ScoredProductMatch :=
  scored dep (Text.lower dep.unicode (Text.strip query)) p

/-- The products of the shop similar enough to be listed. -/
def eligible (dep : Deployment) (shopId : UUID) (query : String) (products : List Product) :
    List Product :=
  products.filter fun p ↦ p.shopId = shopId ∧ productMatchThreshold ≤ likeness dep query p

def MoreAlike (m m' : ScoredProductMatch) : Prop := m'.similarityScore.val ≤ m.similarityScore.val

instance : Std.Refl MoreAlike := ⟨fun m ↦ le_refl m.similarityScore.val⟩

instance : Std.Total MoreAlike := ⟨fun m m' ↦ le_total m'.similarityScore.val m.similarityScore.val⟩

instance : IsTrans ScoredProductMatch MoreAlike := ⟨fun _ _ _ h h' ↦ le_trans h' h⟩

/-- The rows of the search are the first of the eligible products. -/
abbrev FirstFound (dep : Deployment) (shopId : UUID) (query : String) (limit : ℕ) (products : List Product) :
    List ScoredProductMatch → Prop :=
  FirstOf MoreAlike limit ((eligible dep shopId query products).map (scoredFor dep query))

section Search

variable {limit : ℕ} {found : List ScoredProductMatch}

theorem search_found : FirstFound dep shopId query limit products
    (findProductsByFuzzySearch dep shopId (Text.lower dep.unicode (Text.strip query)) limit products) := by
  have hrows : (eligible dep shopId query products).map (scoredFor dep query) =
      ((products.filter (·.shopId = shopId)).map (scoredFor dep query)).filter
        fun m ↦ productMatchThreshold ≤ m.similarityScore.val := by
    unfold eligible
    rw [List.filter_map, List.filter_filter]
    congr 1
    apply List.filter_congr
    intro p _
    rw [Bool.decide_and]
    exact Bool.and_comm _ _
  unfold FirstFound
  rw [hrows]
  exact .of_insertionSort

theorem mem_eligible {p : Product} : p ∈ eligible dep shopId query products ↔
    p ∈ products ∧ p.shopId = shopId ∧ productMatchThreshold ≤ likeness dep query p := by
  unfold eligible
  rw [List.mem_filter, decide_eq_true_eq]

theorem FirstFound.product {m : ScoredProductMatch} (h : FirstFound dep shopId query limit products found)
    (hm : m ∈ found) : ∃ p ∈ products, p.shopId = shopId ∧ m = scoredFor dep query p ∧
      productMatchThreshold ≤ likeness dep query p := by
  obtain ⟨p, hp, rfl⟩ := List.mem_map.mp (FirstOf.mem h hm)
  obtain ⟨hmem, hshop, hlisted⟩ := mem_eligible.mp hp
  exact ⟨p, hmem, hshop, rfl, hlisted⟩

theorem FirstFound.eq_nil_iff (h : FirstFound dep shopId query limit products found) (hlimit : 0 < limit) :
    found = [] ↔ ∀ p ∈ products, p.shopId = shopId → likeness dep query p < productMatchThreshold := by
  constructor
  · rintro rfl p hp hshop
    by_contra hlisted
    have hmem : p ∈ eligible dep shopId query products := mem_eligible.mpr ⟨hp, hshop, not_lt.mp hlisted⟩
    have hnone := List.map_eq_nil_iff.mp (FirstOf.eq_nil h hlimit)
    rw [hnone] at hmem
    cases hmem
  · intro hnone
    apply List.eq_nil_iff_forall_not_mem.mpr
    intro m hm
    obtain ⟨p, hp, hshop, -, hlisted⟩ := FirstFound.product h hm
    exact absurd hlisted (not_le.mpr (hnone p hp hshop))

/-- No product of the shop is more similar than the first row. -/
theorem FirstFound.head {top : ScoredProductMatch} {others : List ScoredProductMatch}
    (h : FirstFound dep shopId query limit products (top :: others)) {q : Product} (hq : q ∈ products)
    (hshop : q.shopId = shopId) : likeness dep query q ≤ top.similarityScore.val := by
  by_cases hlisted : productMatchThreshold ≤ likeness dep query q
  · have hmem := List.mem_map_of_mem (f := scoredFor dep query) (mem_eligible.mpr ⟨hq, hshop, hlisted⟩)
    have hfirst : MoreAlike top (scoredFor dep query q) := FirstOf.head h hmem
    exact hfirst
  · obtain ⟨p, -, -, rfl, hp⟩ := FirstFound.product h List.mem_cons_self
    exact (not_le.mp hlisted).le.trans hp

/-- No other product of the shop is more similar than the second row, if there is
one, and otherwise no other is listed. -/
theorem FirstFound.second {p q : Product} {others : List ScoredProductMatch}
    (h : FirstFound dep shopId query limit products (scoredFor dep query p :: others)) (hlimit : 1 < limit)
    (hq : q ∈ products) (hshop : q.shopId = shopId) (hne : q.id ≠ p.id) :
    likeness dep query q < productMatchThreshold ∨
      ∃ second rest, others = second :: rest ∧ likeness dep query q ≤ second.similarityScore.val := by
  by_cases hlisted : productMatchThreshold ≤ likeness dep query q
  · have hmem := List.mem_map_of_mem (f := scoredFor dep query) (mem_eligible.mpr ⟨hq, hshop, hlisted⟩)
    have hrow : scoredFor dep query q ≠ scoredFor dep query p := fun heq ↦
      hne (congrArg ScoredProductMatch.id heq)
    cases others with
    | nil =>
        rw [FirstOf.eq_singleton h hlimit, List.mem_singleton] at hmem
        exact absurd hmem hrow
    | cons second rest =>
        have hnext : MoreAlike second (scoredFor dep query q) := FirstOf.second h hmem hrow
        exact .inr ⟨second, rest, rfl, hnext⟩
  · exact .inl (not_le.mp hlisted)

end Search

theorem margin_pos : 0 < confidenceDeltaMargin := by decide +kernel

theorem listed_lt_confident : productMatchThreshold + confidenceDeltaMargin ≤ confidentMatchThreshold := by
  decide +kernel

/-! ## The resolver of the analytics tools -/

/-- `p` is confidently similar, and by the margin more than every other product. -/
def Clear (dep : Deployment) (shopId : UUID) (query : String) (products : List Product) (p : Product) :
    Prop :=
  p ∈ products ∧ p.shopId = shopId ∧ confidentMatchThreshold ≤ likeness dep query p ∧
    ∀ q ∈ products, q.shopId = shopId → q.id ≠ p.id →
      confidenceDeltaMargin ≤ likeness dep query p - likeness dep query q

/-- The resolution is the one for the whole catalogue. -/
structure DecidesWhole (dep : Deployment) (shopId : UUID) (query : String) (products : List Product)
    (r : ProductResolution) : Prop where
  notFound : r = .notFound ↔
    ∀ p ∈ products, p.shopId = shopId → likeness dep query p < productMatchThreshold
  exactMatch : ∀ m, r = .exactMatch m ↔
    ∃ p, Clear dep shopId query products p ∧ m = scoredFor dep query p
  ambiguous : (∃ candidates, r = .ambiguous candidates) ↔
    (∃ p ∈ products, p.shopId = shopId ∧ productMatchThreshold ≤ likeness dep query p) ∧
      ¬ ∃ p, Clear dep shopId query products p
  candidates : ∀ candidates, r = .ambiguous candidates → candidates ≠ [] ∧
    FirstFound dep shopId query 5 products candidates

/-- How `resolve_product` decides from the rows it finds. -/
def decision : List ScoredProductMatch → ProductResolution
  | [] => .notFound
  | [top] =>
      if confidentMatchThreshold ≤ top.similarityScore.val then .exactMatch top else .ambiguous [top]
  | top :: second :: others =>
      if confidentMatchThreshold ≤ top.similarityScore.val ∧
          confidenceDeltaMargin ≤ top.similarityScore.val - second.similarityScore.val then
        .exactMatch top
      else .ambiguous (top :: second :: others)

/-- The first row is confident, and the second, if there is one, is not near it. -/
def Sure (top : ScoredProductMatch) (others : List ScoredProductMatch) : Prop :=
  confidentMatchThreshold ≤ top.similarityScore.val ∧ ∀ second ∈ others.head?,
    confidenceDeltaMargin ≤ top.similarityScore.val - second.similarityScore.val

theorem decision_cons (top : ScoredProductMatch) (others : List ScoredProductMatch) :
    (Sure top others ∧ decision (top :: others) = .exactMatch top) ∨
      (¬ Sure top others ∧ decision (top :: others) = .ambiguous (top :: others)) := by
  unfold Sure
  cases others with
  | nil =>
      by_cases hsure : confidentMatchThreshold ≤ top.similarityScore.val
      · left
        simp [decision, hsure]
      · right
        simp [decision, hsure]
  | cons second rest =>
      by_cases hsure : confidentMatchThreshold ≤ top.similarityScore.val ∧
          confidenceDeltaMargin ≤ top.similarityScore.val - second.similarityScore.val
      · left
        simp [decision, hsure.1, hsure.2]
      · right
        simp [decision, hsure]

theorem FirstFound.nodup {limit : ℕ} {found : List ScoredProductMatch}
    (h : FirstFound dep shopId query limit products found) (hids : (products.map (·.id)).Nodup) :
    found.Nodup := by
  have hrows : ((eligible dep shopId query products).map (scoredFor dep query)).Nodup := by
    apply List.Nodup.of_map ScoredProductMatch.id
    rw [List.map_map]
    exact hids.sublist (List.filter_sublist.map _)
  obtain ⟨part, hperm, hsub⟩ := h.subperm
  exact hperm.nodup_iff.mp (hrows.sublist hsub)

/-- With at least two rows to look at, the first is sure exactly if its product is
clear of all others of the shop. -/
theorem sure_iff_clear {limit : ℕ} {p : Product} {others : List ScoredProductMatch}
    (h : FirstFound dep shopId query limit products (scoredFor dep query p :: others)) (hlimit : 1 < limit)
    (hids : (products.map (·.id)).Nodup) (hp : p ∈ products) (hshop : p.shopId = shopId) :
    Sure (scoredFor dep query p) others ↔ Clear dep shopId query products p := by
  constructor
  · rintro ⟨hconf, hmargin⟩
    have hconf : confidentMatchThreshold ≤ likeness dep query p := hconf
    refine ⟨hp, hshop, hconf, fun q hq hqshop hne ↦ ?_⟩
    rcases FirstFound.second h hlimit hq hqshop hne with hlow | ⟨second, rest, rfl, hle⟩
    · linarith [listed_lt_confident]
    · have hnext : confidenceDeltaMargin ≤ likeness dep query p - second.similarityScore.val :=
        hmargin second rfl
      linarith
  · rintro ⟨-, -, hconf, hmargin⟩
    refine ⟨hconf, fun second hsecond ↦ ?_⟩
    have hmem : second ∈ others := List.mem_of_mem_head? hsecond
    obtain ⟨q, hq, hqshop, rfl, -⟩ := FirstFound.product h (List.mem_cons_of_mem _ hmem)
    apply hmargin q hq hqshop
    intro hid
    obtain rfl := List.inj_on_of_nodup_map hids hq hp hid
    exact (List.nodup_cons.mp (FirstFound.nodup h hids)).1 hmem

theorem Clear.top {limit : ℕ} {p q : Product} {others : List ScoredProductMatch}
    (hq : Clear dep shopId query products q)
    (h : FirstFound dep shopId query limit products (scoredFor dep query p :: others))
    (hids : (products.map (·.id)).Nodup) (hp : p ∈ products) (hshop : p.shopId = shopId) : q = p := by
  obtain ⟨hmem, hqshop, -, hmargin⟩ := hq
  have hle : likeness dep query q ≤ likeness dep query p := FirstFound.head h hmem hqshop
  by_contra hne
  have hid : p.id ≠ q.id := fun heq ↦ hne (List.inj_on_of_nodup_map hids hmem hp heq.symm)
  linarith [hmargin p hp hshop hid, margin_pos]

theorem decision_whole {found : List ScoredProductMatch} (h : FirstFound dep shopId query 5 products found)
    (hids : (products.map (·.id)).Nodup) : DecidesWhole dep shopId query products (decision found) := by
  have hnil := FirstFound.eq_nil_iff h (by decide)
  cases found with
  | nil =>
      have hnone := hnil.mp rfl
      have hclear (p : Product) : ¬ Clear dep shopId query products p := by
        rintro ⟨hp, hshop, hconf, -⟩
        linarith [hnone p hp hshop, listed_lt_confident, margin_pos]
      constructor
      · simpa [decision] using hnone
      · simp [decision, hclear]
      · simpa [decision, hclear] using hnone
      · simp [decision]
  | cons top others =>
      obtain ⟨p, hp, hshop, rfl, hlisted⟩ := FirstFound.product h List.mem_cons_self
      have hsome : ¬ ∀ p ∈ products, p.shopId = shopId → likeness dep query p < productMatchThreshold :=
        fun hnone ↦ absurd (hnone p hp hshop) (not_lt.mpr hlisted)
      have hlists : ∃ p ∈ products, p.shopId = shopId ∧ productMatchThreshold ≤ likeness dep query p :=
        ⟨p, hp, hshop, hlisted⟩
      have hiff := sure_iff_clear h (by decide) hids hp hshop
      rcases decision_cons (scoredFor dep query p) others with ⟨hsure, hd⟩ | ⟨hsure, hd⟩
      · rw [hd]
        have hclear : Clear dep shopId query products p := hiff.mp hsure
        refine ⟨by simpa using hsome, fun m ↦ ?_, ?_, ?_⟩
        · constructor
          · rintro heq
            cases heq
            exact ⟨p, hclear, rfl⟩
          · rintro ⟨q, hq, rfl⟩
            rw [hq.top h hids hp hshop]
        · constructor
          · rintro ⟨candidates, heq⟩
            cases heq
          · rintro ⟨-, hnot⟩
            exact absurd ⟨p, hclear⟩ hnot
        · intro candidates heq
          cases heq
      · rw [hd]
        have hclear : ¬ ∃ q, Clear dep shopId query products q := by
          rintro ⟨q, hq⟩
          obtain rfl := hq.top h hids hp hshop
          exact hsure (hiff.mpr hq)
        refine ⟨by simpa using hsome, fun m ↦ ?_, ?_, ?_⟩
        · constructor
          · rintro heq
            cases heq
          · rintro ⟨q, hq, -⟩
            exact absurd ⟨q, hq⟩ hclear
        · exact ⟨fun _ ↦ ⟨hlists, hclear⟩, fun _ ↦ ⟨_, rfl⟩⟩
        · rintro candidates heq
          cases heq
          exact ⟨List.cons_ne_nil _ _, h⟩

section Runs

variable {b b' : Backend} {limit : ℕ} {r : ProductResolution}

theorem getProductsByFuzzyName_ok {found : List ScoredProductMatch}
    (h : getProductsByFuzzyName dep shopId query limit b = .ok found b') :
    FirstFound dep shopId query limit b.working.products found := by
  obtain ⟨rfl, -⟩ := select_ok h
  exact search_found

theorem getProductsByFuzzyName_strip :
    getProductsByFuzzyName dep shopId (Text.strip query) limit =
      getProductsByFuzzyName dep shopId query limit := by
  unfold getProductsByFuzzyName
  rw [Text.strip_strip]

theorem resolveProduct_eq (hterm : Text.strip query ≠ "") :
    resolveProduct dep shopId query limit =
      (getProductsByFuzzyName dep shopId query limit >>= fun found ↦ pure (decision found)) := by
  unfold resolveProduct
  rw [if_neg hterm, getProductsByFuzzyName_strip]
  apply bind_congr
  intro found
  rcases found with _ | ⟨top, _ | ⟨second, others⟩⟩
  · rfl
  · exact (apply_ite pure _ _ _).symm
  · exact (apply_ite pure _ _ _).symm

theorem resolveProduct_ok (hterm : Text.strip query ≠ "")
    (h : resolveProduct dep shopId query limit b = .ok r b') :
    ∃ found, FirstFound dep shopId query limit b.working.products found ∧ r = decision found := by
  rw [resolveProduct_eq hterm] at h
  obtain ⟨found, b₁, hfound, h⟩ := bind_eq_ok.mp h
  cases h
  exact ⟨found, getProductsByFuzzyName_ok hfound, rfl⟩

theorem resolveProduct_blank (hterm : Text.strip query = "")
    (h : resolveProduct dep shopId query limit b = .ok r b') : r = .notFound := by
  unfold resolveProduct at h
  rw [if_pos hterm] at h
  cases h
  rfl

theorem getProductsByFuzzyName_returns (hf : b.env.Faultless) (ha : b.aborted = false) :
    ∃ found b', getProductsByFuzzyName dep shopId query limit b = .ok found b' := by
  obtain ⟨b', hselect, -, -⟩ := select_returns (fun db ↦ findProductsByFuzzySearch dep shopId
    (Text.lower dep.unicode (Text.strip query)) limit db.products) hf ha
  exact ⟨_, b', hselect⟩

theorem resolveProduct_returns (hf : b.env.Faultless) (ha : b.aborted = false) :
    ∃ r b', resolveProduct dep shopId query limit b = .ok r b' := by
  by_cases hterm : Text.strip query = ""
  · unfold resolveProduct
    rw [if_pos hterm]
    exact ⟨_, _, rfl⟩
  · obtain ⟨found, b₁, hfound⟩ := getProductsByFuzzyName_returns hf ha
    rw [resolveProduct_eq hterm, bind_of_ok hfound]
    exact ⟨_, _, rfl⟩

/-- `resolve_product` decides as if it saw the whole catalogue of the shop. -/
theorem resolver_decides_whole (hterm : Text.strip query ≠ "") :
    (b.env.Faultless → b.aborted = false → ∃ r b', (resolveProduct dep shopId query) b = .ok r b') ∧
      ∀ r b', (resolveProduct dep shopId query) b = .ok r b' →
        DecidesWhole dep shopId query b.working.products r := by
  constructor
  · intro hf ha
    exact resolveProduct_returns hf ha
  · intro r b' h
    obtain ⟨found, hfound, rfl⟩ := resolveProduct_ok hterm h
    exact decision_whole hfound b.working.valid.products.ids

end Runs

/-! ## The search of the conversation -/

section Guess

variable {b b' : Backend} {r : ProductResolution} {m : ScoredProductMatch} {db : Database}

theorem findProductsByFuzzyName_found
    (h : (findProductsByFuzzyName dep shopId query) b = .ok r b') :
    ∃ found, FirstFound dep shopId query 3 b.working.products found ∧ r = picked found :=
  ⟨_, search_found, (findProductsByFuzzyName_picks h).1⟩

theorem findProductsByFuzzyName_returns (hf : b.env.Faultless) (ha : b.aborted = false) :
    ∃ r b', (findProductsByFuzzyName dep shopId query) b = .ok r b' := by
  obtain ⟨found, b₁, hfound⟩ := getProductsByFuzzyName_returns hf ha
  rw [findProductsByFuzzyName_eq, bind_of_ok hfound]
  exact ⟨_, _, rfl⟩

/-- No product of the shop is more similar than `p`. -/
def Best (dep : Deployment) (shopId : UUID) (query : String) (products : List Product) (p : Product) :
    Prop :=
  p ∈ products ∧ p.shopId = shopId ∧
    ∀ q ∈ products, q.shopId = shopId → likeness dep query q ≤ likeness dep query p

theorem Best.perm {products' : List Product} {p : Product} (h : Best dep shopId query products p)
    (hp : products.Perm products') : Best dep shopId query products' p :=
  ⟨hp.mem_iff.mp h.1, h.2.1, fun q hq ↦ h.2.2 q (hp.mem_iff.mpr hq)⟩

theorem exactMatch_best (h : (findProductsByFuzzyName dep shopId query) b = .ok (.exactMatch m) b') :
    ∃ p, Best dep shopId query b.working.products p ∧ m = scoredFor dep query p ∧
      confidentMatchThreshold ≤ likeness dep query p := by
  obtain ⟨found, hfound, hr⟩ := findProductsByFuzzyName_found h
  obtain ⟨others, rfl, hsure⟩ := picked_exactMatch hr.symm
  obtain ⟨p, hp, hshop, rfl, -⟩ := FirstFound.product hfound List.mem_cons_self
  exact ⟨p, ⟨hp, hshop, fun q hq hqshop ↦ FirstFound.head hfound hq hqshop⟩, rfl, hsure⟩

theorem exactMatch_of_confident {p : Product} (hp : p ∈ b.working.products) (hshop : p.shopId = shopId)
    (hconf : confidentMatchThreshold ≤ likeness dep query p)
    (h : (findProductsByFuzzyName dep shopId query) b = .ok r b') : ∃ m, r = .exactMatch m := by
  obtain ⟨found, hfound, rfl⟩ := findProductsByFuzzyName_found h
  cases found with
  | nil =>
      have hlow := (FirstFound.eq_nil_iff hfound (by decide)).mp rfl p hp hshop
      linarith [listed_lt_confident, margin_pos]
  | cons best others =>
      have hsure : confidentMatchThreshold ≤ best.similarityScore.val :=
        hconf.trans (FirstFound.head hfound hp hshop)
      exact ⟨best, if_pos hsure⟩

/-- Whatever order the rows are stored in, what is selected is more similar than
every other product of the shop, and is what every other order selects. -/
structure NeverGuesses (find : DbM ProductResolution) (dep : Deployment) (shopId : UUID) (query : String)
    (products : List Product) : Prop where
  best : ∀ b m b', b.working.products.Perm products → find b = .ok (.exactMatch m) b' →
    ∃ p ∈ products, p.shopId = shopId ∧ m = scoredFor dep query p ∧
      ∀ q ∈ products, q.shopId = shopId → q.id ≠ p.id → likeness dep query q < likeness dep query p
  unordered : ∀ b m b' c r c', b.working.products.Perm products → c.working.products.Perm products →
    find b = .ok (.exactMatch m) b' → find c = .ok r c' → r = .exactMatch m

/-- Two products of the shop share the highest similarity, and it is confident. -/
def TiedAtTop (dep : Deployment) (shopId : UUID) (query : String) (products : List Product) : Prop :=
  ∃ p q, Best dep shopId query products p ∧ Best dep shopId query products q ∧ p.id ≠ q.id ∧
    confidentMatchThreshold ≤ likeness dep query p

theorem tied_guesses (htied : TiedAtTop dep shopId query db.products) :
    ¬ NeverGuesses (findProductsByFuzzyName dep shopId query) dep shopId query db.products := by
  rintro ⟨hbest, -⟩
  obtain ⟨p, q, hp, hq, hne, hconf⟩ := htied
  obtain ⟨r, b', h⟩ : ∃ r b',
      (findProductsByFuzzyName dep shopId query) (.connect .calm db) = .ok r b' :=
    findProductsByFuzzyName_returns Env.calm_faultless rfl
  obtain ⟨m, rfl⟩ := exactMatch_of_confident hp.1 hp.2.1 hconf h
  obtain ⟨t, ht, htshop, -, hstrict⟩ := hbest _ m b' (.refl _) h
  by_cases hid : p.id = t.id
  · exact absurd (hstrict q hq.1 hq.2.1 fun heq ↦ hne (hid.trans heq.symm))
      (not_lt.mpr (hq.2.2 t ht htshop))
  · exact absurd (hstrict p hp.1 hp.2.1 hid) (not_lt.mpr (hp.2.2 t ht htshop))

theorem untied_never_guesses (hids : (products.map (·.id)).Nodup)
    (huntied : ¬ TiedAtTop dep shopId query products) :
    NeverGuesses (findProductsByFuzzyName dep shopId query) dep shopId query products := by
  constructor
  · intro b m b' hperm h
    obtain ⟨p, hp, rfl, hconf⟩ := exactMatch_best h
    have hp := hp.perm hperm
    refine ⟨p, hp.1, hp.2.1, rfl, fun q hq hqshop hne ↦ ?_⟩
    refine lt_of_le_of_ne (hp.2.2 q hq hqshop) fun heq ↦ huntied ?_
    exact ⟨p, q, hp, ⟨hq, hqshop, fun s hs hshop ↦ heq ▸ hp.2.2 s hs hshop⟩, hne.symm, hconf⟩
  · intro b m b' c r c' hb hc h hother
    obtain ⟨p, hp, rfl, hconf⟩ := exactMatch_best h
    have hp := hp.perm hb
    obtain ⟨m', rfl⟩ := exactMatch_of_confident (hc.mem_iff.mpr hp.1) hp.2.1 hconf hother
    obtain ⟨q, hq, rfl, -⟩ := exactMatch_best hother
    have hq := hq.perm hc
    have hid : p.id = q.id := by
      by_contra hne
      exact huntied ⟨p, q, hp, hq, hne, hconf⟩
    rw [List.inj_on_of_nodup_map hids hp.1 hq.1 hid]

theorem Clear.perm {products' : List Product} {p : Product} (h : Clear dep shopId query products p)
    (hp : products.Perm products') : Clear dep shopId query products' p :=
  ⟨hp.mem_iff.mp h.1, h.2.1, h.2.2.1, fun q hq ↦ h.2.2.2 q (hp.mem_iff.mpr hq)⟩

theorem resolver_never_guesses :
    NeverGuesses (resolveProduct dep shopId query) dep shopId query products := by
  by_cases hterm : Text.strip query = ""
  · constructor
    · intro b m b' _ h
      cases resolveProduct_blank hterm h
    · intro b m b' c r c' _ _ h _
      cases resolveProduct_blank hterm h
  · have hwhole (b : Backend) {r : ProductResolution} {b' : Backend}
        (h : (resolveProduct dep shopId query) b = .ok r b') :
        DecidesWhole dep shopId query b.working.products r := by
      obtain ⟨found, hfound, rfl⟩ := resolveProduct_ok hterm h
      exact decision_whole hfound b.working.valid.products.ids
    constructor
    · intro b m b' hperm h
      obtain ⟨p, hp, rfl⟩ := ((hwhole b h).exactMatch m).mp rfl
      obtain ⟨hmem, hshop, -, hmargin⟩ := hp.perm hperm
      refine ⟨p, hmem, hshop, rfl, fun q hq hqshop hne ↦ ?_⟩
      linarith [hmargin q hq hqshop hne, margin_pos]
    · intro b m b' c r c' hb hc h hother
      obtain ⟨p, hp, rfl⟩ := ((hwhole b h).exactMatch m).mp rfl
      exact ((hwhole c hother).exactMatch _).mpr ⟨p, (hp.perm hb).perm hc.symm, rfl⟩

/-- The two resolvers never guess exactly where no two products of the shop share
a confident highest similarity. -/
theorem never_guesses_iff (dep : Deployment) (shopId : UUID) (query : String) (db : Database) :
    NeverGuesses (findProductsByFuzzyName dep shopId query) dep shopId query db.products ∧
        NeverGuesses (resolveProduct dep shopId query) dep shopId query db.products ↔
      ¬ TiedAtTop dep shopId query db.products := by
  constructor
  · rintro ⟨hfind, -⟩ htied
    exact tied_guesses htied hfind
  · intro huntied
    exact ⟨untied_never_guesses db.valid.products.ids huntied, resolver_never_guesses⟩

end Guess

/-! Two products of one name. -/

def twins : Database where
  toRows := { market.toRows with
    products := [⟨⟨2⟩, ⟨1⟩, "Sugar", "S-AAAAAA", 60⟩, ⟨⟨7⟩, ⟨1⟩, "Sugar", "S-BBBBBB", 90⟩] }
  valid := by decide +kernel

instance (dep : Deployment) (shopId : UUID) (query : String) (products : List Product) (p : Product) :
    Decidable (Best dep shopId query products p) :=
  inferInstanceAs (Decidable (_ ∧ _ ∧ _))

/-- One of the two is sold though the other is as similar. -/
theorem twin_guessed : ¬ NeverGuesses (findProductsByFuzzyName .sample ⟨1⟩ "sugar") .sample ⟨1⟩ "sugar"
    twins.products := by
  have htied : TiedAtTop .sample ⟨1⟩ "sugar" twins.products := by
    refine ⟨⟨⟨2⟩, ⟨1⟩, "Sugar", "S-AAAAAA", 60⟩, ⟨⟨7⟩, ⟨1⟩, "Sugar", "S-BBBBBB", 90⟩, ?_, ?_, ?_, ?_⟩
    · decide +kernel
    · decide +kernel
    · decide
    · decide +kernel
  exact tied_guesses htied

theorem resolver_decides_whole_sugar : ∃ r b',
    (resolveProduct .sample ⟨1⟩ " sugar") (.connect .calm twins) = .ok r b' ∧
      DecidesWhole .sample ⟨1⟩ " sugar" twins.products r := by
  have hterm : Text.strip " sugar" ≠ "" := by decide
  obtain ⟨hreturns, hwhole⟩ :=
    @resolver_decides_whole .sample ⟨1⟩ " sugar" (.connect .calm twins) hterm
  obtain ⟨r, b', h⟩ := hreturns Env.calm_faultless rfl
  exact ⟨r, b', h, hwhole r b' h⟩

end SokoFlow
