import SportsBetting.Async.RelyGuarantee
import SportsBetting.Data.Table
import SportsBetting.Numeral.Decimal
import SportsBetting.Data.Text
import SportsBetting.Numeral.Column
import SportsBetting.Feed.Mapper
import SportsBetting.Feed.WellFormed
import SportsBetting.Settlement.LegOutcome
import SportsBetting.Bets.LegSnapshot
import SportsBetting.Settlement.Spreads
import SportsBetting.Async.Query
import SportsBetting.Ledger
import SportsBetting.Database
import SportsBetting.Ingestion.Queries
import SportsBetting.Ingestion.Service
import SportsBetting.Backoffice.Trading
import SportsBetting.Bets.Validation
import SportsBetting.Ingestion.Phases
import SportsBetting.Ingestion.Runs
import SportsBetting.Ingestion.Trace
import SportsBetting.Backoffice.Holds
import SportsBetting.Ingestion.Finished
import SportsBetting.Ingestion.Totals
import SportsBetting.Wallet.Transaction
import SportsBetting.Wallet.Client
import SportsBetting.Wallet.Merchant
import SportsBetting.Bets.Queries
import SportsBetting.Bets.Writes
import SportsBetting.Bets.World
import SportsBetting.Wallet.Outbox
import SportsBetting.Wallet.Calls
import SportsBetting.Backoffice.StaffBets
import SportsBetting.Bets.Actors
import SportsBetting.Settlement.Credits
import SportsBetting.Bets.Numbering
import SportsBetting.Bets.Lifecycle
import SportsBetting.Bets.Records
import SportsBetting.Bets.Discipline
import SportsBetting.Wallet.Compliance
import SportsBetting.Bets.Compliance
import SportsBetting.Bets.Idempotency
import SportsBetting.Bets.Consistency
import SportsBetting.Settlement.Batches
import SportsBetting.Wallet.Refusals
import SportsBetting.Settlement.Frozen
import SportsBetting.Settlement.Races
import SportsBetting.Backoffice.Tenants
import SportsBetting.Async.History
import SportsBetting.Bets.Gap
import SportsBetting.Feed.Listing
import SportsBetting.Ingestion.Steps
import SportsBetting.Ingestion.Filed
import SportsBetting.Ingestion.Ended
import SportsBetting.Backoffice.Ended
import SportsBetting.Ingestion.Stored
import SportsBetting.Ingestion.Offer
import SportsBetting.Settlement.Agreement
import SportsBetting.Backoffice.Product
import SportsBetting.Async.Joint
import SportsBetting.Ingestion.Purge
import SportsBetting.Catalog.Offered
import SportsBetting.Async.Eval
import SportsBetting.Staff.Scope
import SportsBetting.Shared.Crypto
import SportsBetting.Staff.Auth
import SportsBetting.Staff.Redeemed
import SportsBetting.Staff.Passwords
import SportsBetting.Backoffice.Merchants
import SportsBetting.Backoffice.Listed
import SportsBetting.Backoffice.Offering
import SportsBetting.CasinoGroups.Service
import SportsBetting.CasinoGroups.Lockout
import SportsBetting.Wallet.Isolation
import SportsBetting.Realtime.Gateway
import SportsBetting.Data.Operations
import SportsBetting.Realtime.Isolation
import SportsBetting.Realtime.Fanout
import SportsBetting.Async.Solo
import SportsBetting.Async.Window
import SportsBetting.Realtime.Announced
import SportsBetting.Realtime.Replica
import SportsBetting.Realtime.InStep
import SportsBetting.Ingestion.LiveLock
import SportsBetting.Ingestion.Lifecycle
import SportsBetting.Ingestion.OddsHistory
import SportsBetting.Settlement.Backlog
import SportsBetting.Settlement.Returned
import SportsBetting.Settlement.Payouts
import SportsBetting.Shared.JsonWebToken
import SportsBetting.Staff.Tokens
import SportsBetting.Wallet.Outcomes
import SportsBetting.Feed.Entries
import SportsBetting.Feed.Provider
import SportsBetting.Ingestion.CatalogRows
import SportsBetting.Async.Journal
import SportsBetting.Backoffice.Mutations
import SportsBetting.Backoffice.AuditLog
import SportsBetting.Backoffice.Accounted
import SportsBetting.Backoffice.Readiness
import SportsBetting.Settlement.Verdicts
import SportsBetting.Settlement.Sides
import SportsBetting.Bets.Quotes
import SportsBetting.Bets.Correlation
import SportsBetting.Backoffice.RiskLimits
import SportsBetting.Bets.OddsFormat
import SportsBetting.Backoffice.Analytics
import SportsBetting.Backoffice.Revenue
import SportsBetting.Backoffice.Rollup
import SportsBetting.Async.Replay
import SportsBetting.Ingestion.Commands
import SportsBetting.Ingestion.Again
import SportsBetting.Backoffice.Repeated
import SportsBetting.Shared.CircuitHistory
import SportsBetting.Shared.CircuitTraffic
import SportsBetting.Wallet.Circuit
import SportsBetting.Data.Csv
import SportsBetting.Wallet.Rounds
import SportsBetting.Backoffice.AuditExport
import SportsBetting.Catalog.Pages
import SportsBetting.Backoffice.Exposure
import SportsBetting.Backoffice.Managed
import SportsBetting.Data.Draining
import SportsBetting.Data.Ranking
import SportsBetting.Wallet.Flush
import SportsBetting.Backoffice.Transmission
import SportsBetting.Feed.Lossless
import SportsBetting.Realtime.Subscribing
import SportsBetting.Backoffice.Applied
import SportsBetting.Backoffice.Statuses
import SportsBetting.Data.FixedWindow
import SportsBetting.Realtime.RateLimiter
import SportsBetting.Backoffice.Queue
import SportsBetting.Backoffice.Voided
import SportsBetting.Ingestion.Quota
import SportsBetting.Wallet.Stub
import SportsBetting.Data.Words
import SportsBetting.Feed.Slugs
import SportsBetting.Data.Slices
import SportsBetting.Ingestion.Poll
import SportsBetting.Ingestion.Results
import SportsBetting.Ingestion.Stale
import SportsBetting.Bets.Accounts
import SportsBetting.Bets.Books
import SportsBetting.Bets.Totals
import SportsBetting.Bets.Stocked
import SportsBetting.Wallet.Recovery
import SportsBetting.Data.Base64
import SportsBetting.Shared.Envelope
import SportsBetting.Auth.Launch
import SportsBetting.Auth.Sessions
import SportsBetting.Auth.Onboarding
import SportsBetting.Async.Embedding
import SportsBetting.Backoffice.Confined
import SportsBetting.Backoffice.Sparing
import SportsBetting.Backoffice.Tenancy
