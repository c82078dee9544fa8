import SokoFlow.Analytics.Period
import SokoFlow.Analytics.Reports
import SokoFlow.Foundation.Double
import SokoFlow.Services.Catalogue

/-!
# The tool handlers (`sales_handlers.py`, `stock_handlers.py`, `product_resolver.py`)

Each handler gets the trusted shop and the validated input of its tool.
-/

namespace SokoFlow.Analytics

open DbM Effect SalesRepository

structure TopProducts where
  units : Option (List (UUID × String × ℤ))
  revenue : Option (List (UUID × String × ℚ))
  deriving DecidableEq

structure StockLevel where
  productId : UUID
  productName : String
  quantity : ℤ
  lowStockThreshold : ℤ
  unitPrice : ℚ
  isLowStock : Bool
  deriving DecidableEq

/-- `GetSalesTrendOutput` -/
structure SalesTrend where
  currentPeriodRevenue : ℚ
  previousPeriodRevenue : ℚ
  revenueChangePercentage : Double
  currentPeriodTransactions : ℤ
  previousPeriodTransactions : ℤ
  transactionChangePercentage : Double
  deriving DecidableEq

structure ProductPrice where
  productId : UUID
  productName : String
  unitPrice : ℚ
  sku : String
  deriving DecidableEq

inductive ToolOutput
  | salesSummary (out : RevenueSummary)
  | topProducts (out : TopProducts)
  | stockLevel (out : StockLevel)
  | lowStockItems (items : List LowStockProduct)
  | salesTrend (out : SalesTrend)
  | slowMovingItems (items : List SlowMovingProduct)
  | productPrice (out : ProductPrice)
  deriving DecidableEq

/-! ## Finding the product -/

namespace ProductResolver

def confidenceDeltaMargin : ℚ := mkRat 15 100

def resolveProduct (dep : Deployment) (shopId : UUID) (searchTerm : String) (limit : ℕ := 5) :
    DbM ProductResolution := do
  if Text.strip searchTerm = "" then return .notFound
  else
    match ← ProductRepository.getProductsByFuzzyName dep shopId (Text.strip searchTerm) limit with
    | [] => return .notFound
    | [top] =>
        if confidentMatchThreshold ≤ top.similarityScore.val then return .exactMatch top
        else return .ambiguous [top]
    | top :: second :: others =>
        if confidentMatchThreshold ≤ top.similarityScore.val ∧
            confidenceDeltaMargin ≤ top.similarityScore.val - second.similarityScore.val then
          return .exactMatch top
        else return .ambiguous (top :: second :: others)

end ProductResolver

/-- `db.get(Product, id)`, checked to be of the shop; `term` is how an error names it. -/
def productOfShop (shopId id : UUID) (term : String) : DbM Product := do
  match ← select fun db ↦ db.product id with
  | none => throw (.productNotFound term)
  | some product =>
      if product.shopId = shopId then return product else throw (.productNotFound term)

def productNamed (dep : Deployment) (shopId : UUID) (name : String) : DbM Product := do
  match ← ProductResolver.resolveProduct dep shopId name with
  | .exactMatch found => productOfShop shopId found.id name
  | .ambiguous candidates => throw (.productAmbiguous name candidates)
  | .notFound => throw (.productNotFound name)

/-- `elif input_data.product_name`, which is false for an empty text. -/
def productByName (dep : Deployment) (shopId : UUID) : Option String → DbM Product
  | none => throw (.productNotFound "Product identifier not provided")
  | some name =>
      if name = "" then throw (.productNotFound "Product identifier not provided")
      else productNamed dep shopId name

/-- The first part of `handle_get_stock_level` and of `handle_get_product_price`:
the nil UUID counts as no id. -/
def findProduct (dep : Deployment) (shopId : UUID) (query : ProductQuery) : DbM Product :=
  match query.productId with
  | none => productByName dep shopId query.productName
  | some id =>
      if id = UUID.nil then productByName dep shopId query.productName
      else productOfShop shopId id id.text

/-! ## The handlers -/

/-- `resolve_period_boundaries(period)` at the current time. -/
def boundaries (dep : Deployment) (period : ReportingPeriod) : DbM (Timestamp × Timestamp) := do
  MonadExcept.ofExcept (resolvePeriodBoundaries dep.nairobi (← now) period)

def previousBoundaries (dep : Deployment) (period : ReportingPeriod) :
    DbM (Timestamp × Timestamp) := do
  MonadExcept.ofExcept (resolvePreviousPeriodBoundaries dep.nairobi (← now) period)

def comparisonBoundaries (dep : Deployment) (period : ReportingPeriod) :
    Option ReportingPeriod → DbM (Timestamp × Timestamp)
  | some comparison => boundaries dep comparison
  | none => previousBoundaries dep period

def handleGetSalesSummary (dep : Deployment) (shopId : UUID) (period : ReportingPeriod) :
    DbM RevenueSummary := do
  let interval ← boundaries dep period
  getTotalRevenueAndCount shopId interval

def handleGetTopProducts (dep : Deployment) (shopId : UUID) (period : ReportingPeriod)
    (ranking : Option RankingDimension) (limit : Option { n : ℤ // 0 < n }) :
    DbM TopProducts := do
  let limit := match limit with
    | none => 5
    | some n => n.val.toNat
  let interval ← boundaries dep period
  let (units, revenue) ← getTopMovingProducts shopId interval
  return {
    units := if ranking = some .revenue then none else some (units.take limit)
    revenue := if ranking = some .units then none else some (revenue.take limit) }

/-- `rev_change`, from decimals -/
def revenueChange (current previous : ℚ) : Double :=
  if 0 < previous then
    let difference := Decimal.inContext (current - previous)
    .ofRat (Decimal.inContext (Decimal.inContext (difference / previous) * 100))
  else .ofRat (if 0 < current then 100 else 0)

/-- `tx_change`, from integers -/
def transactionChange (current previous : ℤ) : Double :=
  if 0 < previous then (Double.ofRat (mkRat (current - previous) previous.toNat)).mul (.ofRat 100)
  else .ofRat (if 0 < current then 100 else 0)

def handleGetSalesTrend (dep : Deployment) (shopId : UUID) (period : ReportingPeriod)
    (comparison : Option ReportingPeriod) : DbM SalesTrend := do
  let current ← boundaries dep period
  let previous ← comparisonBoundaries dep period comparison
  let curr ← getTotalRevenueAndCount shopId current
  let prev ← getTotalRevenueAndCount shopId previous
  return {
    currentPeriodRevenue := curr.revenue
    previousPeriodRevenue := prev.revenue
    revenueChangePercentage := (revenueChange curr.revenue prev.revenue).round
    currentPeriodTransactions := curr.transactionCount
    previousPeriodTransactions := prev.transactionCount
    transactionChangePercentage :=
      (transactionChange curr.transactionCount prev.transactionCount).round }

def handleGetStockLevel (dep : Deployment) (shopId : UUID) (query : ProductQuery) :
    DbM StockLevel := do
  let product ← findProduct dep shopId query
  let inventory ← select fun db ↦ db.inventoryOf product.id
  let (quantity, threshold) := match inventory with
    | none => (0, 0)
    | some i => (i.quantity, i.lowStockThreshold)
  return {
    productId := product.id
    productName := product.name
    quantity := quantity
    lowStockThreshold := threshold
    unitPrice := product.price
    isLowStock := decide (quantity ≤ threshold) }

def handleGetLowStockItems (shopId : UUID) : DbM (List LowStockProduct) :=
  getProductsWithLowStock shopId

def handleGetSlowMovingItems (dep : Deployment) (shopId : UUID) (period : ReportingPeriod)
    (maxSalesCount : { n : ℤ // 0 ≤ n }) (limit : Option { n : ℤ // 0 < n }) :
    DbM (List SlowMovingProduct) := do
  let interval ← boundaries dep period
  let limit := match limit with
    | none => 10
    | some n => n.val
  getSlowMovingProducts dep shopId maxSalesCount.val limit interval

def handleGetProductPrice (dep : Deployment) (shopId : UUID) (query : ProductQuery) :
    DbM ProductPrice := do
  let product ← findProduct dep shopId query
  return ⟨product.id, product.name, product.price, product.sku⟩

/-- `tool.handler` -/
def handler (dep : Deployment) (shopId : UUID) : ToolInput → DbM ToolOutput
  | .getSalesSummary period => do return .salesSummary (← handleGetSalesSummary dep shopId period)
  | .getTopProducts period ranking limit => do
      return .topProducts (← handleGetTopProducts dep shopId period ranking limit)
  | .getStockLevel query => do return .stockLevel (← handleGetStockLevel dep shopId query)
  | .getLowStockItems => do return .lowStockItems (← handleGetLowStockItems shopId)
  | .getSalesTrend period comparison => do
      return .salesTrend (← handleGetSalesTrend dep shopId period comparison)
  | .getSlowMovingItems period maxSalesCount limit => do
      return .slowMovingItems (← handleGetSlowMovingItems dep shopId period maxSalesCount limit)
  | .getProductPrice query => do return .productPrice (← handleGetProductPrice dep shopId query)

end SokoFlow.Analytics
