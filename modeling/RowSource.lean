import RowSource.Engine
import RowSource.Engine.Fault
import RowSource.Engine.Program
import RowSource.Failure
import RowSource.Number.Binary64
import RowSource.Number.Paired
import RowSource.Number.Power
import RowSource.Number.Rational
import RowSource.Number.Shortest
import RowSource.Options
import RowSource.Plan
import RowSource.Plan.Arguments
import RowSource.Plan.Constraint
import RowSource.Proofs.Engine.Views
import RowSource.Proofs.Plan.Bindings
import RowSource.Proofs.Plan.Handover
import RowSource.Proofs.Scan.Arguments
import RowSource.Proofs.Scan.Recorded
import RowSource.Proofs.Scan.Streaming
import RowSource.Proofs.Session.CallbackFailure
import RowSource.Proofs.Session.Checks
import RowSource.Proofs.Session.Explained
import RowSource.Proofs.Session.Iteration
import RowSource.Proofs.Session.Mirror
import RowSource.Proofs.Session.MirroredCalls
import RowSource.Proofs.Session.Pending
import RowSource.Proofs.Session.Served
import RowSource.Proofs.Session.Thrown
import RowSource.Proofs.Session.WriteGuard
import RowSource.Scenario.Recipe
import RowSource.Scenario.Sessions
import RowSource.Scenario.Tables
import RowSource.Session.Calls
import RowSource.Session.HostCode
import RowSource.Session.Kept
import RowSource.Session.Operations
import RowSource.Session.Reading
import RowSource.Session.World
import RowSource.Sql.Affinity
import RowSource.Sql.Breach
import RowSource.Sql.Change
import RowSource.Sql.Collation
import RowSource.Sql.Compile
import RowSource.Sql.Condition
import RowSource.Sql.Database
import RowSource.Sql.Datum
import RowSource.Sql.Declared
import RowSource.Sql.Engine
import RowSource.Sql.Estimate
import RowSource.Sql.Evaluate
import RowSource.Sql.Fixed
import RowSource.Sql.Found
import RowSource.Sql.Function
import RowSource.Sql.Function.Apply
import RowSource.Sql.Function.Number
import RowSource.Sql.Function.Pattern
import RowSource.Sql.Function.PatternStart
import RowSource.Sql.Function.Text
import RowSource.Sql.Groups
import RowSource.Sql.Insert
import RowSource.Sql.Insertion
import RowSource.Sql.Locate
import RowSource.Sql.Location
import RowSource.Sql.Loops
import RowSource.Sql.Merge
import RowSource.Sql.Numeral
import RowSource.Sql.Parser
import RowSource.Sql.Parser.Basic
import RowSource.Sql.Parser.Declaration
import RowSource.Sql.Parser.Expression
import RowSource.Sql.Parser.Query
import RowSource.Sql.Path
import RowSource.Sql.Query
import RowSource.Sql.QueryPlan
import RowSource.Sql.Reference
import RowSource.Sql.Resolve
import RowSource.Sql.Results
import RowSource.Sql.Rows
import RowSource.Sql.Run
import RowSource.Sql.Scope
import RowSource.Sql.Seats
import RowSource.Sql.Sequence
import RowSource.Sql.Sorter
import RowSource.Sql.Statement
import RowSource.Sql.Store
import RowSource.Sql.Storing
import RowSource.Sql.Strength
import RowSource.Sql.Sum
import RowSource.Sql.Syntax
import RowSource.Sql.Tally
import RowSource.Sql.Target
import RowSource.Sql.Term
import RowSource.Sql.Token
import RowSource.Sql.Transaction
import RowSource.Sql.Update
import RowSource.Sql.Way
import RowSource.Sql.Way.Hosted
import RowSource.Sql.Way.Stored
import RowSource.Sql.Work
import RowSource.Status
import RowSource.Status.Trace
import RowSource.Table.Blueprint
import RowSource.Table.Connection
import RowSource.Table.Generator
import RowSource.Table.Scan
import RowSource.Text.AsciiCase
import RowSource.Text.Blank
import RowSource.Text.GraphemeExtend
import RowSource.Text.JsonTree
import RowSource.Text.Quoted
import RowSource.Text.Unprintable
import RowSource.Text.Utf8
import RowSource.Value
import RowSource.Value.Exchange
import RowSource.Proofs.Session.Marks
import RowSource.Proofs.Session.Admission
import RowSource.Proofs.Session.Refusals
import RowSource.Proofs.Session.Scene
import RowSource.Proofs.Session.Scene.Operations
import RowSource.Proofs.Session.Closing
import RowSource.Proofs.Session.Course
import RowSource.Proofs.Session.Restored
import RowSource.Proofs.Session.Lawful
import RowSource.Proofs.Session.Moments
import RowSource.Proofs.Session.Reentry
import RowSource.Proofs.Session.Turns
import RowSource.Proofs.Session.Turns.Order
import RowSource.Proofs.Session.Precedence
import RowSource.Proofs.Session.Closed
import RowSource.Proofs.Session.Lifecycle
import RowSource.Proofs.Session.Transaction
import RowSource.Proofs.Status.LeftBehind
import RowSource.Proofs.Scan.Holdings
import RowSource.Proofs.Status.Accounting
import RowSource.Proofs.Scan.Isolation
import RowSource.Proofs.Scan.Usage
import RowSource.Proofs.Scan.Standing
import RowSource.Proofs.Number.Nearest
import RowSource.Proofs.Value.Exchange
import RowSource.Proofs.Scan.ReadBack
import RowSource.Proofs.Session.Rejections
import RowSource.Proofs.Session.Requests
import RowSource.Proofs.Session.Agreement
import RowSource.Proofs.Session.ReadPaths
import RowSource.Proofs.Number.Whole
import RowSource.Proofs.Plan.Outcome
import RowSource.Proofs.Scan.Contract
import RowSource.Proofs.Scan.Restart
import RowSource.Proofs.Table.Schema
import RowSource.Proofs.Value.Integers
import RowSource.Proofs.Table.Names
import RowSource.Proofs.Session.Registration.Once
import RowSource.Proofs.Session.Registration.Logs
import RowSource.Proofs.Number.Unique
import RowSource.Proofs.Value.RoundTrip
import RowSource.Proofs.Plan.Unpacking
