import SokoFlow.Conversation.Flows

/-!
# What the flows learn from the database

The shop of a sender and the products of a name: what is found, and what is
left as it was.
-/

namespace SokoFlow

open DbM Effect

variable {b b' : Backend} {e : Exc}

/-- Products, stock and sales are the same; the shops may be others. -/
structure Database.SameGoods (db db' : Database) : Prop where
  products : db'.products = db.products
  inventory : db'.inventory = db.inventory
  sales : db'.sales = db.sales

theorem Database.SameGoods.refl (db : Database) : SameGoods db db := ⟨rfl, rfl, rfl⟩

theorem Database.SameGoods.trans {db db' db'' : Database} (h : SameGoods db db')
    (h' : SameGoods db' db'') : SameGoods db db'' :=
  ⟨h'.products.trans h.products, h'.inventory.trans h.inventory, h'.sales.trans h.sales⟩

theorem getShopId_ok {sender : String} {id : UUID} (h : getShopId sender b = .ok id b') :
    (∃ shop, b'.working.shopByPhone sender = some shop ∧ shop.id = id) ∧
      b.working.SameGoods b'.working ∧ b'.env = b.env ∧ b'.journal = b.journal ∧
      b'.aborted = false ∧ (b'.committed = b.committed ∨ b'.committed = b'.working) := by
  obtain ⟨found, b₁, h₁, h⟩ := bind_eq_ok.mp h
  obtain ⟨hq, hu⟩ := select_ok h₁
  cases hf : found with
  | some shop =>
      rw [hf] at h
      cases h
      refine ⟨⟨shop, ?_, rfl⟩, ?_, hu.env, hu.journal, select_aborted h₁, .inl hu.committed⟩
      · rw [hu.working, ← hq, hf]
      · rw [hu.working]
        exact .refl _
  | none =>
      rw [hf] at h
      dsimp only at h
      rw [bind_of_ok (ask_apply _ _)] at h
      obtain ⟨shop, b₂, h₂, h⟩ := bind_eq_ok.mp h
      obtain ⟨_, b₃, h₃, h⟩ := bind_eq_ok.mp h
      obtain ⟨again, b₄, h₄, h⟩ := bind_eq_ok.mp h
      obtain ⟨db, hr, hl₂⟩ := update_ok h₂
      obtain ⟨hrows, hphone, -, -⟩ := Database.insertShop_ok hr
      have hl₃ := commit_ok h₃ hl₂.aborted
      rw [hl₂.working] at hl₃
      obtain ⟨hq₄, hu₄⟩ := select_ok h₄
      have hl : Backend.Landed true db b b₄ := .of_untouched hu
        (.of_untouched (ask_within Env.uuid b₁) ((hl₂.trans hl₃).untouched hu₄ (select_aborted h₄)))
      have hmem : shop ∈ db.shops := by
        rw [hrows]
        exact List.mem_append_right _ (List.mem_singleton_self _)
      rw [hl₃.working, Table.lookup_of_mem db.valid.shops.ids hmem] at hq₄
      rw [hq₄] at h
      cases h
      refine ⟨⟨shop, ?_, rfl⟩, ?_, hl.env, hl.journal, hl.aborted, .inr ?_⟩
      · rw [hl.working, Database.shopByPhone, ← hphone]
        exact Table.lookup_of_mem db.valid.shops.phones hmem
      · rw [hl.working]
        have hu₁ : b₁.working = b.working := hu.working
        constructor <;> rw [hrows] <;> simp only [hu₁]
      · rw [hl.committed, hl.working]
        rfl

theorem getShopId_error {sender : String} (h : getShopId sender b = .error e b') :
    e.isTechnical = true := by
  rcases bind_eq_error.mp h with h | ⟨found, b₁, h₁, h⟩
  · exact (select_error h).2
  · cases found with
    | some shop => cases h
    | none =>
        dsimp only at h
        rw [bind_of_ok (ask_apply _ _)] at h
        rcases bind_eq_error.mp h with h | ⟨shop, b₂, _, h⟩
        · rcases (update_error h).2 with he | he
          · exact he
          · exact Database.write_error he
        · rcases bind_eq_error.mp h with h | ⟨_, b₃, _, h⟩
          · exact (commit_error h).1
          · rcases bind_eq_error.mp h with h | ⟨again, b₄, _, h⟩
            · exact (select_error h).2
            · cases again <;> cases h
              rfl

theorem getShopId_calm {sender : String} (hf : b.env.Faultless) (ha : b.aborted = false)
    (hfits : FitsText 20 sender) :
    ∃ id b', getShopId sender b = .ok id b' := by
  obtain ⟨b₁, h₁, hu₁, ha₁⟩ := select_calm (fun db ↦ db.shopByPhone sender) hf ha
  unfold getShopId
  rw [bind_of_ok h₁]
  cases hshop : b.working.shopByPhone sender with
  | some shop => exact ⟨_, _, rfl⟩
  | none =>
      dsimp only
      rw [bind_of_ok (ask_apply _ _)]
      generalize hb₂ : ({ b₁ with tick := b₁.tick + 1 } : Backend) = b₂
      have hw : b₂.working = b.working := by
        rw [← hb₂]
        exact hu₁.working
      have hf₂ : b₂.env.Faultless := by
        rw [← hb₂]
        exact hu₁.env ▸ hf
      have ha₂ : b₂.aborted = false := by
        rw [← hb₂]
        exact ha₁
      obtain ⟨shop, db, hr⟩ := Database.insertShop_of_fits (some "SokoFlow Demo Shop") .en
        (b₁.env.uuid b₁.tick) hfits hshop
      rw [← hw] at hr
      obtain ⟨b₃, h₃, hl₃⟩ := update_calm hr hf₂ ha₂
      obtain ⟨b₄, h₄, hl₄⟩ := commit_calm (hl₃.env ▸ hf₂) hl₃.aborted
      have hf₄ : b₄.env.Faultless := hl₄.env ▸ hl₃.env ▸ hf₂
      obtain ⟨b₅, h₅, -, -⟩ :=
        select_calm (fun db ↦ Table.lookup Shop.id shop.id db.shops) hf₄ hl₄.aborted
      have hmem : shop ∈ db.shops := by
        rw [(Database.insertShop_ok hr).1]
        exact List.mem_append_right _ (List.mem_singleton_self _)
      rw [hl₄.working, hl₃.working, Table.lookup_of_mem db.valid.shops.ids hmem] at h₅
      rw [bind_of_ok h₃, bind_of_ok h₄, bind_of_ok h₅]
      exact ⟨_, _, rfl⟩

/-- What a fuzzy search finds are products of the shop. -/
def ResolutionOk (shopId : UUID) (products : List Product) : ProductResolution → Prop
  | .notFound => True
  | .exactMatch m => ProductRepository.IsMatch shopId products m
  | .ambiguous candidates => candidates ≠ [] ∧
      ∀ m ∈ candidates, ProductRepository.IsMatch shopId products m

theorem findProductsByFuzzyName_ok {dep : Deployment} {shopId : UUID} {query : String}
    {limit : ℕ} {r : ProductResolution}
    (h : ProductService.findProductsByFuzzyName dep shopId query limit b = .ok r b') :
    ResolutionOk shopId b.working.products r ∧ Backend.Untouched b b' ∧ b'.aborted = false := by
  obtain ⟨hr, hu, ha⟩ := ProductService.findProductsByFuzzyName_picks h
  refine ⟨?_, hu, ha⟩
  cases r with
  | notFound => trivial
  | exactMatch m =>
      obtain ⟨others, hfound, -⟩ := ProductService.picked_exactMatch hr.symm
      exact ProductRepository.isMatch_of_mem (hfound ▸ List.mem_cons_self)
  | ambiguous candidates =>
      obtain ⟨rfl, hne⟩ := ProductService.picked_ambiguous hr.symm
      exact ⟨hne, fun m hm ↦ ProductRepository.isMatch_of_mem hm⟩

theorem findProductsByFuzzyName_error {dep : Deployment} {shopId : UUID} {query : String}
    {limit : ℕ} (h : ProductService.findProductsByFuzzyName dep shopId query limit b =
      .error e b') : e.isTechnical = true := by
  rw [ProductService.findProductsByFuzzyName_eq] at h
  rcases bind_eq_error.mp h with h | ⟨found, b₁, _, h⟩
  · exact (select_error h).2
  · cases h

theorem findProductsByFuzzyName_calm {dep : Deployment} {shopId : UUID} {query : String}
    {limit : ℕ} {best : ScoredProductMatch} {others : List ScoredProductMatch}
    (hf : b.env.Faultless) (ha : b.aborted = false)
    (hfound : ProductRepository.findProductsByFuzzySearch dep shopId
      (Text.lower dep.unicode (Text.strip query)) limit b.working.products = best :: others)
    (hsure : confidentMatchThreshold ≤ best.similarityScore.val) :
    ∃ b', ProductService.findProductsByFuzzyName dep shopId query limit b = .ok (.exactMatch best) b' ∧
      Backend.Untouched b b' ∧ b'.aborted = false := by
  obtain ⟨b', h, hu, ha'⟩ := select_calm (fun db ↦ ProductRepository.findProductsByFuzzySearch dep
    shopId (Text.lower dep.unicode (Text.strip query)) limit db.products) hf ha
  refine ⟨b', ?_, hu, ha'⟩
  rw [ProductService.findProductsByFuzzyName_eq]
  unfold ProductRepository.getProductsByFuzzyName ProductService.picked
  rw [bind_of_ok h, hfound]
  dsimp only
  rw [if_pos hsure]
  rfl

theorem findProductsByFuzzyName_exact {dep : Deployment} {shopId : UUID} {query : String}
    {limit : ℕ} {m : ScoredProductMatch}
    (h : ProductService.findProductsByFuzzyName dep shopId query limit b =
      .ok (.exactMatch m) b') :
    ∃ others, ProductRepository.findProductsByFuzzySearch dep shopId
        (Text.lower dep.unicode (Text.strip query)) limit b.working.products = m :: others ∧
      confidentMatchThreshold ≤ m.similarityScore.val :=
  ProductService.picked_exactMatch (ProductService.findProductsByFuzzyName_picks h).1.symm

theorem findProductsByFuzzyName_ambiguous {dep : Deployment} {shopId : UUID} {query : String}
    {limit : ℕ} {candidates : List ScoredProductMatch}
    (h : ProductService.findProductsByFuzzyName dep shopId query limit b =
      .ok (.ambiguous candidates) b') :
    ProductRepository.findProductsByFuzzySearch dep shopId
      (Text.lower dep.unicode (Text.strip query)) limit b.working.products = candidates :=
  (ProductService.picked_ambiguous (ProductService.findProductsByFuzzyName_picks h).1.symm).1

end SokoFlow
