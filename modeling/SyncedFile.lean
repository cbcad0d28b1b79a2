import SyncedFile.CommandLine.Run
import SyncedFile.FileTree.Editing
import SyncedFile.Failure.Raised
import SyncedFile.Main
import SyncedFile.Proofs.Text.LowerCase
import SyncedFile.Proofs.Text.Pieces
import SyncedFile.Proofs.Text.Hexadecimal
import SyncedFile.Proofs.Text.Wrapped
import SyncedFile.Proofs.Uri.Address
import SyncedFile.Proofs.Uri.Host
import SyncedFile.Proofs.Locator.Parts
import SyncedFile.Proofs.Locator.Segments
import SyncedFile.Proofs.Locator.Normal
import SyncedFile.Proofs.Locator.ReadBack
import SyncedFile.Proofs.Locator.RoundTrip
import SyncedFile.Proofs.Locator.Outcome
import SyncedFile.Proofs.Locator.Relative
import SyncedFile.Proofs.Locator.Resolved
import SyncedFile.Proofs.Locator.WellFormed
import SyncedFile.Proofs.Locator.OriginUse
import SyncedFile.Proofs.Locator.Spelling
import SyncedFile.Proofs.Locator.Placeholders
import SyncedFile.Proofs.Path.Names
import SyncedFile.Proofs.LocalPath.FirstFit
import SyncedFile.Proofs.LocalPath.Layout
import SyncedFile.Proofs.LocalPath.FileNames
import SyncedFile.Proofs.Runs
import SyncedFile.Proofs.Builder.Plans
import SyncedFile.Proofs.LocalPath.Derivation
import SyncedFile.Proofs.LocalPath.Collisions
import SyncedFile.Proofs.Path.Below
import SyncedFile.Proofs.LocalPath.Nesting
import SyncedFile.Proofs.LocalPath.Unshortened
import SyncedFile.Proofs.LocalPath.Budgets
import SyncedFile.Proofs.LocalPath.Containment
import SyncedFile.Proofs.FileTree.LinkFree
import SyncedFile.Proofs.Builder.Outcome
import SyncedFile.Proofs.Builder.Isolation
import SyncedFile.Proofs.Builder.Stages
import SyncedFile.Proofs.Locator.Key
import SyncedFile.Proofs.Builder.Failed
import SyncedFile.Proofs.Builder.FailureKinds
import SyncedFile.Proofs.Builder.CallOrder
import SyncedFile.Proofs.Builder.ClosingEvent
import SyncedFile.Proofs.Builder.Invariant
import SyncedFile.Proofs.Builder.History
import SyncedFile.Proofs.Value.Content
import SyncedFile.Proofs.Builder.Exchange
import SyncedFile.Proofs.Builder.Deterministic
import SyncedFile.Proofs.Builder.Order
import SyncedFile.Proofs.Builder.Precedence
import SyncedFile.Proofs.Builder.Secrecy
import SyncedFile.Proofs.Builder.Siblings
import SyncedFile.Proofs.Builder.Placement
import SyncedFile.Proofs.Builder.Reserved
import SyncedFile.Proofs.FileTree.Walks
import SyncedFile.Proofs.FileTree.Making
import SyncedFile.Proofs.FileTree.Readiness
import SyncedFile.Proofs.Log.Lines
import SyncedFile.Proofs.Log.LogFile
import SyncedFile.Proofs.CommandLine.Keys
