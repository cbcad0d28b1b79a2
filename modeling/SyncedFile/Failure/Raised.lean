import SyncedFile.Failure.Foreign
import SyncedFile.Failure.Report

/-!
# What a build can be broken off by

A failure of the library, or a fault of something outside of it. Log lines show either by its kind
and one line of text, or as it ends a trace.

* `Raised` — a failure or a foreign fault, with `kind`, `line` and `trace`.
-/

namespace SyncedFile

/-- What was raised. -/
inductive Raised where
  | failure (report : Report)
  | foreign (fault : ForeignFault)

namespace Raised

def kind : Raised → Text
  | failure report => report.kind.name
  | foreign fault => fault.closestKind

def line : Raised → Text
  | failure report => report.line
  | foreign fault => fault.line

/-- The kind with the place where it is defined. -/
def qualifiedKind : Raised → Text
  | failure report => "realm_sync_config.errors." ++ report.kind.name
  | foreign fault => fault.closestKind

/-- A kind and a line of text, or the kind alone. -/
def closing (kind line : Text) : Text :=
  if line = [] then kind else kind ++ ": " ++ line

def trace (raised : Raised) : Text :=
  match raised with
  | foreign fault =>
    if fault.kind ∈ ForeignFault.sourceKinds then fault.sourceTrace
    else closing raised.qualifiedKind raised.line
  | failure _ => closing raised.qualifiedKind raised.line

end Raised
end SyncedFile
