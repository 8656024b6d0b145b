import DesignHistory.Main
import DesignHistory.Json.Settings
import DesignHistory.Loader.Overlap
import DesignHistory.Session
import DesignHistory.Sql.Meaning
import DesignHistory.Proofs.Session.Lines
import DesignHistory.Proofs.Session.Lookups
import DesignHistory.Proofs.Session.Batches
import DesignHistory.Proofs.Resolution.Agreement
import DesignHistory.Proofs.Text.Decimal
import DesignHistory.Proofs.Pin.Codec
import DesignHistory.Proofs.Sql.Lexer
import DesignHistory.Proofs.Sql.Reader
import DesignHistory.Proofs.Sql.Phrases
import DesignHistory.Proofs.Sql.RoundTrip
import DesignHistory.Proofs.Selection.Order
import DesignHistory.Proofs.Sql.Relations
import DesignHistory.Proofs.Sql.Selections
import DesignHistory.Proofs.Sql.ReadBack
import DesignHistory.Proofs.Database.Columns
import DesignHistory.Proofs.Database.Replies
import DesignHistory.Proofs.Database.Selections
import DesignHistory.Proofs.Lifecycle.ClosedForm
import DesignHistory.Proofs.Lifecycle.Stages
import DesignHistory.Proofs.Selection.Membership
import DesignHistory.Proofs.Sql.Snapshots
import DesignHistory.Proofs.Database.Snapshots
import DesignHistory.Proofs.Store.Growth
import DesignHistory.Proofs.Digest.Hexadecimal
import DesignHistory.Proofs.Version.Content
import DesignHistory.Proofs.Session.Snapshots
import DesignHistory.Proofs.Store.Chain
import DesignHistory.Proofs.Store.Evolution
import DesignHistory.Proofs.Session.Evolution
import DesignHistory.Proofs.Session.Histories
import DesignHistory.Proofs.Store.Events
import DesignHistory.Proofs.Resolution.Consistency
import DesignHistory.Proofs.Selection.Chains
import DesignHistory.Proofs.Selection.NormalForm
import DesignHistory.Proofs.Session.Caches
import DesignHistory.Proofs.Session.Coherence
import DesignHistory.Proofs.Session.Consistency
import DesignHistory.Proofs.Session.Events
import DesignHistory.Proofs.Session.Queries
import DesignHistory.Proofs.Database.Counting
import DesignHistory.Proofs.Loader.Accounts
import DesignHistory.Proofs.Loader.Courses
import DesignHistory.Proofs.Loader.Deliveries
import DesignHistory.Proofs.Store.Keeping
import DesignHistory.Proofs.Store.Issues
import DesignHistory.Proofs.Session.Issues
import DesignHistory.Proofs.Session.HandedOut
import DesignHistory.Proofs.Session.Twins
import DesignHistory.Proofs.Session.Failures
import DesignHistory.Proofs.CommandLine.Arguments
import DesignHistory.Proofs.CommandLine.Grammar
import DesignHistory.Proofs.Json.Lines
import DesignHistory.Proofs.CommandLine.Report
import DesignHistory.Proofs.Session.Selections
import DesignHistory.Proofs.Session.Keys
import DesignHistory.Proofs.Version.Canonical
import DesignHistory.Proofs.Store.References
import DesignHistory.Proofs.References.Lookups
import DesignHistory.Proofs.Session.References
import DesignHistory.Proofs.Sql.References
import DesignHistory.Proofs.Database.References
import DesignHistory.Proofs.Session.Changes
import DesignHistory.Proofs.Session.Records
import DesignHistory.Proofs.Session.Listings
import DesignHistory.Proofs.Instant.Rfc3339
import DesignHistory.Proofs.Json.Records
