import DodgingInfinity.TargetRuntime.Observation
import DodgingInfinity.WorkflowAuthority.Store

/-!
# What is read of a workflow record

The texts that the target's own reports leave are clipped and stripped before they
are looked at; the workspace of a workflow is the path of its lease.
-/

namespace DodgingInfinity.TargetBroker

open WorkflowAuthority

def startsWith (text marker : String) : Bool :=
  marker.toList.isPrefixOf text.toList

def strip (text : List Char) : List Char :=
  ((text.dropWhile (· ∈ whitespace)).reverse.dropWhile (· ∈ whitespace)).reverse

def unresolvedTaskId : String := "unknown"

/-- The path of the lease, which the worker verified before it is used. -/
def leasePath (record : WorkflowRecord) : String :=
  (record.workspaceLease.map WorkspaceLease.pathRealpath).getD ""

def isNull : Json → Bool
  | .null => true
  | _ => false

end DodgingInfinity.TargetBroker
