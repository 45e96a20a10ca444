import SnakeArena.Library.Table
import SnakeArena.Library.Transfers
import SnakeArena.Library.Runs
import SnakeArena.Library.Processes
import SnakeArena.Library.Permits
import SnakeArena.Library.Transactions
import SnakeArena.Library.Rows
import SnakeArena.Library.Async
import SnakeArena.Library.Borsh
import SnakeArena.Program.State
import SnakeArena.Program.Utils
import SnakeArena.Program.Admin
import SnakeArena.Program.Custody
import SnakeArena.Program.Room
import SnakeArena.Program.Settle
import SnakeArena.Program.Cleanup
import SnakeArena.Program.Machine
import SnakeArena.Program.WellFormed
import SnakeArena.Program.Calls
import SnakeArena.Program.AccountRules
import SnakeArena.Program.Errors
import SnakeArena.Program.Solvency
import SnakeArena.Program.Escrow
import SnakeArena.Program.Authority
import SnakeArena.Program.Rooms
import SnakeArena.Program.Lifecycle
import SnakeArena.Program.Funding
import SnakeArena.Program.Refunds
import SnakeArena.Program.Transaction
import SnakeArena.Program.Payouts
import SnakeArena.Sdk.VerifyCustody
import SnakeArena.Sdk.Encode
import SnakeArena.Sdk.Instructions
import SnakeArena.Sdk.Accounts
import SnakeArena.Db.Ledger
import SnakeArena.Gateway.Ledger
import SnakeArena.Gateway.Deposit
import SnakeArena.Gateway.Credits
import SnakeArena.Gateway.Signatures
import SnakeArena.Db.Game
import SnakeArena.Worker.Verify
import SnakeArena.Worker.Entrants
import SnakeArena.Realtime.Room
import SnakeArena.Realtime.LiveRoom
import SnakeArena.Realtime.Survival
import SnakeArena.Realtime.Manager
import SnakeArena.Realtime.Sockets
import SnakeArena.Worker.Ranking
import SnakeArena.Lobby.State
import SnakeArena.Lobby.Service
import SnakeArena.Lobby.Launches
import SnakeArena.Lobby.Payments
import SnakeArena.Lobby.Versions
import SnakeArena.Lobby.Seats
import SnakeArena.Lobby.Requests
import SnakeArena.Lobby.Membership
import SnakeArena.Lobby.Index
import SnakeArena.Lobby.Rules
import SnakeArena.Library.Dynamic
import SnakeArena.Lobby.Stored
import SnakeArena.Books.Database
import SnakeArena.Books.Commit
import SnakeArena.Books.Calls
import SnakeArena.Books.Walks
import SnakeArena.Books.DoubleEntry
import SnakeArena.Books.Sound
import SnakeArena.Books.Reservations
import SnakeArena.Worker.Cancelled
import SnakeArena.Worker.Payout
import SnakeArena.Worker.Settle
import SnakeArena.Worker.Rules
import SnakeArena.Worker.Recorded
import SnakeArena.Worker.Cycle
import SnakeArena.Worker.Collected
import SnakeArena.Worker.Walks
import SnakeArena.Worker.Finished
import SnakeArena.Sdk.Agreement
import SnakeArena.Auth.Message
import SnakeArena.Auth.Parsed
import SnakeArena.Auth.Service
import SnakeArena.Auth.Steps
import SnakeArena.Auth.Wallets
import SnakeArena.Auth.Challenges
import SnakeArena.Auth.Families
import SnakeArena.Auth.Rotations
import SnakeArena.Auth.Access
import SnakeArena.Matchmaker.Ticket
import SnakeArena.Matchmaker.Placement
import SnakeArena.Matchmaker.Match
import SnakeArena.Realtime.Handshake
import SnakeArena.Realtime.Admission
import SnakeArena.Realtime.OneNode
import SnakeArena.Realtime.Reconnect
import SnakeArena.Sdk.VerifyWithdrawal
import SnakeArena.Sdk.Send
import SnakeArena.Gateway.Reconcile
import SnakeArena.Gateway.Funds
import SnakeArena.Db.Stake
import SnakeArena.Db.Reserved
import SnakeArena.Db.Refund
import SnakeArena.Db.Refunded
import SnakeArena.Gateway.Treasury
import SnakeArena.Gateway.Leaderboard
import SnakeArena.Books.Withdrawals
import SnakeArena.Custody.Holdings
import SnakeArena.Custody.Spendable
import SnakeArena.Library.Calendar
import SnakeArena.Worker.Leaderboard
import SnakeArena.Game.Collisions
import SnakeArena.Realtime.Steering
import SnakeArena.Worker.Reports
import SnakeArena.Worker.Splits
import SnakeArena.Program.Terms
import SnakeArena.Program.Counters
import SnakeArena.Program.Placeholders
import SnakeArena.Program.Rent
import SnakeArena.Library.TokenBucket
import SnakeArena.Realtime.ConnectionGuard
import SnakeArena.Game.Entries
import SnakeArena.Realtime.Batches
import SnakeArena.Game.Inputs
import SnakeArena.Game.Pellets
import SnakeArena.Game.Eating
import SnakeArena.Game.Drops
import SnakeArena.Realtime.Remains
import SnakeArena.Game.Spacing
import SnakeArena.Sdk.Breaker
import SnakeArena.Sdk.Opening
import SnakeArena.Sdk.Failover
import SnakeArena.Gateway.Weeks
import SnakeArena.Realtime.TickLoop
import SnakeArena.Gateway.Ranks
import SnakeArena.Library.Largest
import SnakeArena.Protocol.Snapshot
import SnakeArena.Web.Interpolation
import SnakeArena.Gateway.AdminGames
import SnakeArena.Library.Buffers
import SnakeArena.Library.Utf8
import SnakeArena.Protocol.Binary
import SnakeArena.Web.Prediction
import SnakeArena.Worker.CreateGame
import SnakeArena.Protocol.InputBatch
import SnakeArena.Protocol.Layout
import SnakeArena.Protocol.RoundTrip
import SnakeArena.Protocol.Truncation
import SnakeArena.Realtime.Together
import SnakeArena.Protocol.Vantage
import SnakeArena.Realtime.Broadcast
import SnakeArena.Web.SnapshotHandler
import SnakeArena.Library.Decimals
import SnakeArena.Game.Spine
import SnakeArena.Web.Lamports
import SnakeArena.Library.Blanks
import SnakeArena.Realtime.Chat
import SnakeArena.Realtime.EventGuard
import SnakeArena.Custody.Coverage
import SnakeArena.Library.Utf16
import SnakeArena.Library.Base64
import SnakeArena.Library.Double
import SnakeArena.Library.Json
import SnakeArena.Matchmaker.Wire
import SnakeArena.Realtime.Wire
import SnakeArena.Realtime.Handout
import SnakeArena.Db.Prizes
import SnakeArena.Worker.PayOrRefund
import SnakeArena.Program.Settling
import SnakeArena.Worker.Carries
import SnakeArena.Worker.Resettled
