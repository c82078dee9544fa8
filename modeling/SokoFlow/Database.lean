import SokoFlow.Types
import SokoFlow.Foundation.Table

/-!
# The PostgreSQL tables

The four tables with the constraints of the migrations.  A `Database` is a set
of rows that satisfies all of them, so a statement that would break one has no
result and raises instead: a value its column cannot hold raises `DBAPIError`,
a violated constraint `IntegrityError`.
-/

namespace SokoFlow

inductive ShopLocale
  | en
  | sw
  deriving DecidableEq, Repr

structure Shop where
  id : UUID
  phone : String
  name : Option String
  locale : ShopLocale
  deriving DecidableEq

structure Product where
  id : UUID
  shopId : UUID
  name : String
  sku : String
  price : ℚ
  deriving DecidableEq

structure Inventory where
  id : UUID
  productId : UUID
  quantity : ℤ
  lowStockThreshold : ℤ
  deriving DecidableEq

structure Sale where
  id : UUID
  shopId : UUID
  productId : UUID
  quantity : ℤ
  unitPrice : ℚ
  total : ℚ
  recordedBy : String
  createdAt : Timestamp
  deriving DecidableEq

/-! ## Column types -/

/-- `integer` -/
def FitsInt (n : ℤ) : Prop := -2147483648 ≤ n ∧ n ≤ 2147483647

/-- `numeric(10, 2)` -/
def FitsMoney (q : ℚ) : Prop := Decimal.round q = q ∧ -100000000 < q ∧ q < 100000000

/-- The length of `varchar(n)`, for a phone or an SKU, whose excess is not blank. -/
def FitsText (n : ℕ) (s : String) : Prop := Text.len s ≤ n

/-- What a `varchar(n)` column keeps of a text: an excess of blanks is cut. -/
def kept (n : ℕ) (s : String) : String :=
  if (s.toList.drop n).all (· == ' ') then String.ofList (s.toList.take n) else s

/-- A free text that `varchar(n)` holds; PostgreSQL stores no NUL character. -/
def FitsFreeText (n : ℕ) (s : String) : Prop := FitsText n s ∧ Char.ofNat 0 ∉ s.toList

instance (n : ℤ) : Decidable (FitsInt n) := inferInstanceAs (Decidable (_ ∧ _))
instance (q : ℚ) : Decidable (FitsMoney q) := inferInstanceAs (Decidable (_ ∧ _))
instance (n : ℕ) (s : String) : Decidable (FitsText n s) := inferInstanceAs (Decidable (_ ≤ _))
instance (n : ℕ) (s : String) : Decidable (FitsFreeText n s) := inferInstanceAs (Decidable (_ ∧ _))

/-- A text can be stored exactly when there are only blanks past the length. -/
theorem fitsText_kept_iff {n : ℕ} {s : String} :
    FitsText n (kept n s) ↔ ∀ c ∈ s.toList.drop n, c = ' ' := by
  have hall : (s.toList.drop n).all (· == ' ') = true ↔ ∀ c ∈ s.toList.drop n, c = ' ' := by
    simp only [List.all_eq_true, beq_iff_eq]
  rw [← hall]
  unfold kept
  split
  · rename_i hblank
    refine ⟨fun _ ↦ hblank, fun _ ↦ ?_⟩
    simp [FitsText, Text.len]
  · rename_i hmore
    refine ⟨fun h ↦ ?_, fun h ↦ absurd h hmore⟩
    have hlen : s.toList.length ≤ n := h
    rw [List.drop_eq_nil_of_le hlen]
    rfl

example : kept 20 "System                    " = "System              " := by decide

def Shop.Fits (s : Shop) : Prop := FitsText 20 s.phone
def Product.Fits (p : Product) : Prop := FitsText 50 p.sku ∧ FitsMoney p.price
def Inventory.Fits (i : Inventory) : Prop := FitsInt i.quantity ∧ FitsInt i.lowStockThreshold

def Sale.Fits (s : Sale) : Prop :=
  FitsInt s.quantity ∧ FitsMoney s.unitPrice ∧ FitsMoney s.total ∧ FitsFreeText 20 s.recordedBy

instance (s : Shop) : Decidable s.Fits := inferInstanceAs (Decidable (FitsText _ _))
instance (p : Product) : Decidable p.Fits := inferInstanceAs (Decidable (_ ∧ _))
instance (i : Inventory) : Decidable i.Fits := inferInstanceAs (Decidable (_ ∧ _))
instance (s : Sale) : Decidable s.Fits := inferInstanceAs (Decidable (_ ∧ _))

/-! ## Constraints -/

structure Rows where
  shops : List Shop := []
  products : List Product := []
  inventory : List Inventory := []
  sales : List Sale := []

/-- The constraints on `shops`: types, primary key, unique phone. -/
structure ShopsValid (shops : List Shop) : Prop where
  fits : ∀ s ∈ shops, s.Fits
  ids : (shops.map (·.id)).Nodup
  phones : (shops.map (·.phone)).Nodup

/-- The constraints on `products`: types, primary key, unique SKU, shop, `price >= 0`. -/
structure ProductsValid (shops : List Shop) (products : List Product) : Prop where
  fits : ∀ p ∈ products, p.Fits
  ids : (products.map (·.id)).Nodup
  skus : (products.map (·.sku)).Nodup
  shop : ∀ p ∈ products, p.shopId ∈ shops.map (·.id)
  price : ∀ p ∈ products, 0 ≤ p.price

/-- The constraints on `inventory`: one row a product, stock and threshold in bounds. -/
structure InventoryValid (products : List Product) (inventory : List Inventory) : Prop where
  fits : ∀ i ∈ inventory, i.Fits
  ids : (inventory.map (·.id)).Nodup
  unique : (inventory.map (·.productId)).Nodup
  product : ∀ i ∈ inventory, i.productId ∈ products.map (·.id)
  quantity : ∀ i ∈ inventory, 0 ≤ i.quantity
  threshold : ∀ i ∈ inventory, 0 ≤ i.lowStockThreshold ∧ i.lowStockThreshold ≤ 1000

/-- The constraints on `sales`: shop and product, `quantity > 0`, the computed total. -/
structure SalesValid (shops : List Shop) (products : List Product) (sales : List Sale) : Prop where
  fits : ∀ s ∈ sales, s.Fits
  ids : (sales.map (·.id)).Nodup
  shop : ∀ s ∈ sales, s.shopId ∈ shops.map (·.id)
  product : ∀ s ∈ sales, s.productId ∈ products.map (·.id)
  quantity : ∀ s ∈ sales, 0 < s.quantity
  total : ∀ s ∈ sales, s.total = s.unitPrice * s.quantity

instance (shops : List Shop) : Decidable (ShopsValid shops) :=
  decidable_of_iff ((∀ s ∈ shops, s.Fits) ∧ (shops.map (·.id)).Nodup ∧
      (shops.map (·.phone)).Nodup)
    ⟨fun ⟨a, b, c⟩ ↦ ⟨a, b, c⟩, fun ⟨a, b, c⟩ ↦ ⟨a, b, c⟩⟩

instance (shops : List Shop) (products : List Product) :
    Decidable (ProductsValid shops products) :=
  decidable_of_iff ((∀ p ∈ products, p.Fits) ∧ (products.map (·.id)).Nodup ∧
      (products.map (·.sku)).Nodup ∧ (∀ p ∈ products, p.shopId ∈ shops.map (·.id)) ∧
      ∀ p ∈ products, 0 ≤ p.price)
    ⟨fun ⟨a, b, c, d, e⟩ ↦ ⟨a, b, c, d, e⟩, fun ⟨a, b, c, d, e⟩ ↦ ⟨a, b, c, d, e⟩⟩

instance (products : List Product) (inventory : List Inventory) :
    Decidable (InventoryValid products inventory) :=
  decidable_of_iff ((∀ i ∈ inventory, i.Fits) ∧ (inventory.map (·.id)).Nodup ∧
      (inventory.map (·.productId)).Nodup ∧
      (∀ i ∈ inventory, i.productId ∈ products.map (·.id)) ∧ (∀ i ∈ inventory, 0 ≤ i.quantity) ∧
      ∀ i ∈ inventory, 0 ≤ i.lowStockThreshold ∧ i.lowStockThreshold ≤ 1000)
    ⟨fun ⟨a, b, c, d, e, f⟩ ↦ ⟨a, b, c, d, e, f⟩, fun ⟨a, b, c, d, e, f⟩ ↦ ⟨a, b, c, d, e, f⟩⟩

instance (shops : List Shop) (products : List Product) (sales : List Sale) :
    Decidable (SalesValid shops products sales) :=
  decidable_of_iff ((∀ s ∈ sales, s.Fits) ∧ (sales.map (·.id)).Nodup ∧
      (∀ s ∈ sales, s.shopId ∈ shops.map (·.id)) ∧
      (∀ s ∈ sales, s.productId ∈ products.map (·.id)) ∧ (∀ s ∈ sales, 0 < s.quantity) ∧
      ∀ s ∈ sales, s.total = s.unitPrice * s.quantity)
    ⟨fun ⟨a, b, c, d, e, f⟩ ↦ ⟨a, b, c, d, e, f⟩, fun ⟨a, b, c, d, e, f⟩ ↦ ⟨a, b, c, d, e, f⟩⟩

structure Rows.Valid (r : Rows) : Prop where
  shops : ShopsValid r.shops
  products : ProductsValid r.shops r.products
  inventory : InventoryValid r.products r.inventory
  sales : SalesValid r.shops r.products r.sales

instance (r : Rows) : Decidable r.Valid :=
  decidable_of_iff (ShopsValid r.shops ∧ ProductsValid r.shops r.products ∧
      InventoryValid r.products r.inventory ∧ SalesValid r.shops r.products r.sales)
    ⟨fun ⟨a, b, c, d⟩ ↦ ⟨a, b, c, d⟩, fun ⟨a, b, c, d⟩ ↦ ⟨a, b, c, d⟩⟩

structure Database extends Rows where
  valid : toRows.Valid

namespace Database

@[ext] theorem ext {db db' : Database} (h : db.toRows = db'.toRows) : db = db' := by
  cases db
  cases db'
  cases h
  rfl

def empty : Database where
  toRows := {}
  valid := by decide

/-- A shop with ten units of milk. -/
def sample : Database where
  shops := [⟨⟨1⟩, "254700000001", some "Dairy", .en⟩]
  products := [⟨⟨2⟩, ⟨1⟩, "Milk", "M-AAAAAA", 60⟩]
  inventory := [⟨⟨3⟩, ⟨2⟩, 10, 5⟩]
  valid := by decide +kernel

end Database

end SokoFlow
