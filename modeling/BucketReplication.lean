import BucketReplication.Bucket.Display
import BucketReplication.Json.Record
import BucketReplication.Key.ApplicationKey
import BucketReplication.Proofs.Accounts.Creation
import BucketReplication.Proofs.Accounts.Front
import BucketReplication.Proofs.Accounts.Index
import BucketReplication.Proofs.Accounts.KeyTotal
import BucketReplication.Proofs.Accounts.Lookup
import BucketReplication.Proofs.Accounts.Operation
import BucketReplication.Proofs.Document.Change
import BucketReplication.Proofs.Document.Members
import BucketReplication.Proofs.Document.Records
import BucketReplication.Proofs.Document.RoundTrip
import BucketReplication.Proofs.History.Books
import BucketReplication.Proofs.History.BothSetup
import BucketReplication.Proofs.History.Chronicle
import BucketReplication.Proofs.History.Contents
import BucketReplication.Proofs.History.DerivedName
import BucketReplication.Proofs.History.DerivedPriority
import BucketReplication.Proofs.History.DestinationSetup
import BucketReplication.Proofs.History.KeyReplacement
import BucketReplication.Proofs.History.Lineage
import BucketReplication.Proofs.History.Linkage
import BucketReplication.Proofs.History.Naming
import BucketReplication.Proofs.History.Repetition
import BucketReplication.Proofs.History.Request
import BucketReplication.Proofs.History.Revision
import BucketReplication.Proofs.History.SelfSetup
import BucketReplication.Proofs.History.Session
import BucketReplication.Proofs.History.SourceSetup
import BucketReplication.Proofs.History.Validity
import BucketReplication.Proofs.Json.Layout
import BucketReplication.Proofs.Json.Leniency
import BucketReplication.Proofs.Json.Numeral
import BucketReplication.Proofs.Json.Quotation
import BucketReplication.Proofs.Json.Record
import BucketReplication.Proofs.Json.Spelling
import BucketReplication.Proofs.Json.Token
import BucketReplication.Proofs.Json.Tree
import BucketReplication.Proofs.Key.Capability
import BucketReplication.Proofs.Key.Fitness
import BucketReplication.Proofs.Order.Ascending
import BucketReplication.Proofs.Procedure.Conversation
import BucketReplication.Proofs.Procedure.Outcome
import BucketReplication.Proofs.Procedure.Recording
import BucketReplication.Proofs.Procedure.Trace
import BucketReplication.Proofs.Replication.Report
import BucketReplication.Proofs.Replication.Validity
import BucketReplication.Proofs.Settings.Overlay
import BucketReplication.Proofs.Setup.BothConversation
import BucketReplication.Proofs.Setup.Commutation
import BucketReplication.Proofs.Setup.Confinement
import BucketReplication.Proofs.Setup.Conversation
import BucketReplication.Proofs.Setup.DestinationTrace
import BucketReplication.Proofs.Setup.Effect
import BucketReplication.Proofs.Setup.FitKey
import BucketReplication.Proofs.Setup.KeyChoice
import BucketReplication.Proofs.Setup.LiveKeys
import BucketReplication.Proofs.Setup.Outcome
import BucketReplication.Proofs.Setup.Refusal
import BucketReplication.Proofs.Setup.Residue
import BucketReplication.Proofs.Setup.RuleName
import BucketReplication.Proofs.Setup.RulePriority
import BucketReplication.Proofs.Setup.SideOutcome
import BucketReplication.Proofs.Setup.Tally
import BucketReplication.Proofs.Text.Bytes
import BucketReplication.Proofs.Toml.Members
import BucketReplication.Proofs.Toml.Tidy
import BucketReplication.Scenario.Run
import BucketReplication.Settings.File
