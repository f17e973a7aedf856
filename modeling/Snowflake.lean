import Snowflake.Main
import Snowflake.Text.Align
import Snowflake.Account.User
import Snowflake.Json.Account
import Snowflake.Proofs.Generator.Order
import Snowflake.Proofs.Generator.Restart
import Snowflake.Proofs.Generator.Fleet
import Snowflake.Proofs.Generator.History
import Snowflake.Proofs.Generator.Snapshot
import Snowflake.Proofs.Generator.Advance
import Snowflake.Proofs.Generator.Budget
import Snowflake.Proofs.Generator.Timeline
import Snowflake.Proofs.Generator.Agreement
import Snowflake.Proofs.Generator.Exact
import Snowflake.Proofs.Time.Instant
import Snowflake.Proofs.Token.Expiry
import Snowflake.Proofs.Token.Log
import Snowflake.Proofs.Token.Purge
import Snowflake.Proofs.Flake.Order
import Snowflake.Proofs.Token.Lifecycle
import Snowflake.Proofs.Text.Decimal
import Snowflake.Proofs.Time.Calendar
import Snowflake.Proofs.Time.Clock
import Snowflake.Proofs.Time.Timestamp
import Snowflake.Proofs.Json.Head
import Snowflake.Proofs.Json.Document
import Snowflake.Proofs.Flake.Text
import Snowflake.Proofs.Id.Text
import Snowflake.Proofs.Json.Identity
import Snowflake.Proofs.Json.Record
import Snowflake.Proofs.Json.Account
import Snowflake.Proofs.Json.Token
import Snowflake.Proofs.Json.Numeral
import Snowflake.Proofs.Json.Value
import Snowflake.Proofs.Json.Object
import Snowflake.Proofs.Generator.Setting
import Snowflake.Proofs.Json.Config
import Snowflake.Proofs.CommandLine.Settings
import Snowflake.Proofs.Token.Redaction
import Snowflake.Proofs.Account.Handle
import Snowflake.Proofs.Account.Rename
import Snowflake.Proofs.Generator.Iteration
import Snowflake.Proofs.Generator.Pace
import Snowflake.Proofs.CommandLine.Decode
import Snowflake.Proofs.Generator.Series
import Snowflake.Proofs.CommandLine.Mint
import Snowflake.Proofs.Generator.Hint
import Snowflake.Proofs.Token.Issue
import Snowflake.Proofs.Flake.Creation
import Snowflake.Proofs.Flake.Numeral
import Snowflake.Proofs.Flake.Padded
import Snowflake.Proofs.CommandLine.Owner
import Snowflake.Proofs.Generator.Skew
import Snowflake.Proofs.Id.Column
