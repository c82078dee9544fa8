import Mathlib.Data.List.Sort
import SokoFlow.Config
import SokoFlow.Transactions

/-!
# `sales_repo.py` and its queries

Rows without an `ORDER BY` come in storage order.
-/

namespace SokoFlow.Analytics

open DbM Effect

structure RevenueSummary where
  revenue : ℚ
  transactionCount : ℤ
  deriving DecidableEq

structure LowStockProduct where
  id : UUID
  name : String
  quantity : ℤ
  lowStockThreshold : ℤ
  deriving DecidableEq

structure SlowMovingProduct where
  productId : UUID
  productName : String
  unitPrice : ℚ
  unitsSold : ℤ
  currentStock : ℤ
  deriving DecidableEq

namespace SalesRepository

/-- The sales of a shop from `start` until before `stop`. -/
def salesOf (sales : List Sale) (shopId : UUID) (start stop : Timestamp) : List Sale :=
  sales.filter fun s ↦ s.shopId = shopId ∧ start ≤ s.createdAt ∧ s.createdAt < stop

/-- The period is read off the sales of the shop. -/
theorem salesOf_eq (sales : List Sale) (shopId : UUID) (start stop : Timestamp) :
    salesOf sales shopId start stop = (sales.filter (·.shopId = shopId)).filter
      fun s ↦ start ≤ s.createdAt ∧ s.createdAt < stop := by
  unfold salesOf
  rw [List.filter_filter]
  apply List.filter_congr
  intro s _
  rw [Bool.and_comm]
  simp

/-- `get_total_revenue_and_count.sql` -/
def totalRevenueAndCount (shopId : UUID) (start stop : Timestamp) (db : Database) :
    RevenueSummary :=
  let sales := salesOf db.sales shopId start stop
  ⟨(sales.map (·.total)).sum, sales.length⟩

/-- `get_products_with_low_stock.sql` -/
def productsWithLowStock (shopId : UUID) (db : Database) : List LowStockProduct :=
  (db.products.filter (·.shopId = shopId)).filterMap fun p ↦
    match db.inventoryOf p.id with
    | none => none
    | some i =>
        if i.quantity ≤ i.lowStockThreshold then
          some ⟨p.id, p.name, i.quantity, i.lowStockThreshold⟩
        else none

/-- What each product sold, for products with a sale among the given ones. -/
def perProduct {α : Type} (amount : List Sale → α) (sales : List Sale) (products : List Product) :
    List (UUID × String × α) :=
  products.filterMap fun p ↦
    match sales.filter (·.productId = p.id) with
    | [] => none
    | own => some (p.id, p.name, amount own)

/-- `WHERE rank = 1` of a descending `DENSE_RANK`. -/
def topRanked {α : Type} [LE α] [DecidableLE α] (rows : List (UUID × String × α)) :
    List (UUID × String × α) :=
  rows.filter fun r ↦ rows.all fun other ↦ other.2.2 ≤ r.2.2

/-- `get_top_moving_products_by_units.sql` -/
def topMovingProductsByUnits (shopId : UUID) (start stop : Timestamp) (db : Database) :
    List (UUID × String × ℤ) :=
  topRanked (perProduct (fun own ↦ (own.map (·.quantity)).sum)
    (salesOf db.sales shopId start stop) db.products)

/-- `get_top_moving_products_by_revenue.sql` -/
def topMovingProductsByRevenue (shopId : UUID) (start stop : Timestamp) (db : Database) :
    List (UUID × String × ℚ) :=
  topRanked (perProduct (fun own ↦ (own.map (·.total)).sum)
    (salesOf db.sales shopId start stop) db.products)

/-- `get_slow_moving_products.sql` -/
def slowMovingProducts (nameLe : String → String → Bool) (shopId : UUID) (start stop : Timestamp)
    (maxSalesCount : ℤ) (limit : ℕ) (db : Database) : List SlowMovingProduct :=
  let rows := (db.products.filter (·.shopId = shopId)).map fun p ↦
    let own := (salesOf db.sales shopId start stop).filter (·.productId = p.id)
    let stock := match db.inventoryOf p.id with
      | none => 0
      | some i => i.quantity
    (⟨p.id, p.name, p.price, (own.map (·.quantity)).sum, stock⟩ : SlowMovingProduct)
  let rows := rows.filter (·.unitsSold ≤ maxSalesCount)
  (rows.insertionSort fun a b ↦ a.unitsSold < b.unitsSold ∨
    (a.unitsSold = b.unitsSold ∧ nameLe a.productName b.productName = true)).take limit

/-- The query reads the products of the shop, their stock and the sales of the period. -/
theorem slowMovingProducts_congr {nameLe : String → String → Bool} {shopId : UUID}
    {start stop : Timestamp} {maxSalesCount : ℤ} {limit : ℕ} {db db' : Database}
    (hproducts : db.products.filter (·.shopId = shopId) = db'.products.filter (·.shopId = shopId))
    (hinventory : ∀ p ∈ db.products.filter (·.shopId = shopId),
      db.inventoryOf p.id = db'.inventoryOf p.id)
    (hsales : salesOf db.sales shopId start stop = salesOf db'.sales shopId start stop) :
    slowMovingProducts nameLe shopId start stop maxSalesCount limit db =
      slowMovingProducts nameLe shopId start stop maxSalesCount limit db' := by
  unfold slowMovingProducts
  dsimp only
  rw [← hproducts, ← hsales]
  congr 3
  apply List.map_congr_left
  intro p hp
  rw [hinventory p hp]

def getTotalRevenueAndCount (shopId : UUID) : Timestamp × Timestamp → DbM RevenueSummary
  | (start, stop) => select (totalRevenueAndCount shopId start stop)

def getProductsWithLowStock (shopId : UUID) : DbM (List LowStockProduct) :=
  select (productsWithLowStock shopId)

def getTopMovingProducts (shopId : UUID) :
    Timestamp × Timestamp → DbM (List (UUID × String × ℤ) × List (UUID × String × ℚ))
  | (start, stop) => do
      let units ← select (topMovingProductsByUnits shopId start stop)
      let revenue ← select (topMovingProductsByRevenue shopId start stop)
      return (units, revenue)

/-- `bigint` -/
def FitsBigint (n : ℤ) : Prop := -9223372036854775808 ≤ n ∧ n ≤ 9223372036854775807

instance (n : ℤ) : Decidable (FitsBigint n) := inferInstanceAs (Decidable (_ ∧ _))

/-- The driver encodes both numbers as `bigint` and refuses others itself, so
the transaction stays usable. -/
def getSlowMovingProducts (dep : Deployment) (shopId : UUID) (maxSalesCount limit : ℤ) :
    Timestamp × Timestamp → DbM (List SlowMovingProduct)
  | (start, stop) => do
      if FitsBigint maxSalesCount ∧ FitsBigint limit then
        select (slowMovingProducts dep.nameLe shopId start stop maxSalesCount limit.toNat)
      else do
        select fun _ ↦ ()
        throw (.other "DBAPIError" "value out of int64 range")

end SalesRepository

end SokoFlow.Analytics
