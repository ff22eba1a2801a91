import RMariaDB.Lib.Program
import RMariaDB.Lib.CArith
import RMariaDB.Lib.Calendar
import RMariaDB.RTypes
import RMariaDB.MariaTypes
import RMariaDB.Lib.Ledger
import RMariaDB.Lib.Session
import RMariaDB.Libmysql
import RMariaDB.DbConnection
import RMariaDB.DbConnection.Exec
import RMariaDB.MariaBinding
import RMariaDB.MariaRow
import RMariaDB.MariaResultPrep
import RMariaDB.DbResult
import RMariaDB.World
import RMariaDB.MariaBinding.Civil
import RMariaDB.MariaBinding.Clock
import RMariaDB.MariaBinding.RoundTrip
import RMariaDB.Lib.Calendar.Order
import RMariaDB.MariaBinding.Days
import RMariaDB.MariaBinding.Durations
import RMariaDB.MariaBinding.Instants
import RMariaDB.MariaBinding.Years
import RMariaDB.MariaRow.Decode
import RMariaDB.MariaResultPrep.Rows
import RMariaDB.MariaResultPrep.Integers
import RMariaDB.MariaBinding.Columns
import RMariaDB.MariaBinding.Rows
import RMariaDB.Lib.Cursor
import RMariaDB.MariaResultPrep.Fetch
import RMariaDB.MariaResultPrep.Runs
import RMariaDB.Libmysql.Effects
import RMariaDB.Methods
import RMariaDB.MariaBinding.Methods
import RMariaDB.MariaResultPrep.Methods
import RMariaDB.World.Methods
import RMariaDB.DbResult.Calls
import RMariaDB.DbResult.Bindings
import RMariaDB.MariaResultPrep.Complete
import RMariaDB.DbResult.Complete
import RMariaDB.World.Sound
import RMariaDB.World.Calls
import RMariaDB.World.Handles
import RMariaDB.World.Transactions
import RMariaDB.MariaResultPrep.Columns
import RMariaDB.MariaResultPrep.Frames
import RMariaDB.MariaResultPrep.Counters
import RMariaDB.MariaResultPrep.Stable
import RMariaDB.DbResult.Metadata
import RMariaDB.Lib.Regex
import RMariaDB.Lib.Substitute
import RMariaDB.Quote
import RMariaDB.Quote.RoundTrip
import RMariaDB.Coerce
import RMariaDB.Lib.Decimal
import RMariaDB.Lib.Delimited
import RMariaDB.Table
import RMariaDB.Table.LoadData
import RMariaDB.Table.Fields
import RMariaDB.Table.Lossless
import RMariaDB.Table.Integers
import RMariaDB.Table.Moments
import RMariaDB.Table.Temporal
import RMariaDB.Table.Agreement
import RMariaDB.Coerce.Numbers
import RMariaDB.Coerce.Storage
import RMariaDB.Coerce.Missing
import RMariaDB.Timezone
import RMariaDB.Timezone.Usable
import RMariaDB.Timezone.Instants
import RMariaDB.WriteTable
import RMariaDB.WriteTable.Brackets
import RMariaDB.WriteTable.Database
import RMariaDB.WriteTable.FastPath
import RMariaDB.WriteTable.Shadowing
import RMariaDB.Libmysql.Raises
import RMariaDB.MariaResultPrep.Ends
import RMariaDB.World.Results
import RMariaDB.WriteTable.Steps
import RMariaDB.WriteTable.Connected
import RMariaDB.WriteTable.Served
import RMariaDB.WriteTable.Tracked
import RMariaDB.WriteTable.Atomic
import RMariaDB.Lib.Quoted
import RMariaDB.Quote.Tokens
import RMariaDB.Quote.Strings
import RMariaDB.Quote.Literals
import RMariaDB.WriteTable.Types
import RMariaDB.MariaRow.Methods
import RMariaDB.MariaRow.Runs
import RMariaDB.Lib.Trace
import RMariaDB.MariaRow.Accesses
import RMariaDB.MariaResultPrep.Room
import RMariaDB.Functions
import RMariaDB.Functions.Sends
import RMariaDB.Functions.Runs
import RMariaDB.Lib.Floating
import RMariaDB.Lib.Scientific
import RMariaDB.Table.Doubles
import RMariaDB.ReadBack
import RMariaDB.ReadBack.Frames
import RMariaDB.MariaResultPrep.Losses
import RMariaDB.Connect
import RMariaDB.Connect.Handles
import RMariaDB.Connect.Sessions
import RMariaDB.Lib.Lexer
import RMariaDB.Statements
import RMariaDB.Statements.Reading
import RMariaDB.Lib.Budget
import RMariaDB.MariaResultPrep.Executions
import RMariaDB.World.Executions
import RMariaDB.World.Cancelled
