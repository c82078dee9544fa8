import SokoFlow.Foundation.Effect
import SokoFlow.Foundation.Text
import SokoFlow.Foundation.Pattern
import SokoFlow.Foundation.Decimal
import SokoFlow.Foundation.Double
import SokoFlow.Foundation.Calendar
import SokoFlow.Database
import SokoFlow.Statements
import SokoFlow.Backend
import SokoFlow.Config
import SokoFlow.Services.Inventory
import SokoFlow.Services.Sales
import SokoFlow.Services.Catalogue
import SokoFlow.StockLedger
import SokoFlow.Routes
import SokoFlow.Analytics.Contracts
import SokoFlow.Analytics.Period
import SokoFlow.Analytics.Reports
import SokoFlow.Analytics.Handlers
import SokoFlow.Analytics.Executor
import SokoFlow.Analytics.Orchestrator
import SokoFlow.Foundation.Format
import SokoFlow.Localization
import SokoFlow.Analytics.Bounded
import SokoFlow.Analytics.Formatter
import SokoFlow.Conversation.Session
import SokoFlow.Conversation.Countable
import SokoFlow.Conversation.Parsing
import SokoFlow.Conversation.Flows
import SokoFlow.Conversation.Engine
import SokoFlow.Conversation.Lookups
import SokoFlow.Conversation.Dialogue
import SokoFlow.Conversation.Refinement
import SokoFlow.Conversation.Refusal
import SokoFlow.Reachable
import SokoFlow.Conversation.Effects
import SokoFlow.Conversation.Confirmation
import SokoFlow.Worker
import SokoFlow.Foundation.Runs
import SokoFlow.Interleaving
import SokoFlow.DoubleSale
import SokoFlow.SerialSessions
import SokoFlow.Alerts
import SokoFlow.Walk
import SokoFlow.Strikes
import SokoFlow.Analytics.Hiding
import SokoFlow.Foundation.Tally
import SokoFlow.DailySummary
import SokoFlow.Foundation.Contract
import SokoFlow.Services.Invariants
import SokoFlow.Revenue
import SokoFlow.Isolation
import SokoFlow.Conversation.Replies
import SokoFlow.Conversation.FollowUp
import SokoFlow.Webhook
import SokoFlow.Redelivery
import SokoFlow.NewProduct
import SokoFlow.Escapes
import SokoFlow.Provenance
import SokoFlow.StockRuns
import SokoFlow.StockLookups
import SokoFlow.LowStock
import SokoFlow.Foundation.Months
import SokoFlow.Periods
import SokoFlow.DailyReport
import SokoFlow.Foundation.Ranking
import SokoFlow.TopProducts
import SokoFlow.SlowMoving
import SokoFlow.ProductSelection
import SokoFlow.Resumption
import SokoFlow.Analytics.Proposals
import SokoFlow.Analytics.Replay
import SokoFlow.Analytics.Provider
import SokoFlow.Analytics.Translation
import SokoFlow.Analytics.Transport
import SokoFlow.SessionStore
import SokoFlow.FirstContact
import SokoFlow.Prices
import SokoFlow.Conversation.PriceReply
import SokoFlow.Ranges
import SokoFlow.Conversation.PriceSpelling
import SokoFlow.DateRanges
import SokoFlow.Conversation.Commands
import SokoFlow.Foundation.Markup
import SokoFlow.PdfReport
import SokoFlow.Foundation.RowLocks
import SokoFlow.StockLocks
import SokoFlow.Services.Tenancy
import SokoFlow.Conversation.Tenancy
import SokoFlow.Tenants
import SokoFlow.Books
import SokoFlow.Foundation.Outcome
import SokoFlow.Requests
import SokoFlow.Deliveries
import SokoFlow.SaleDialogue
