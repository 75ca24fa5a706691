import DodgingInfinity.Library.Binary64
import DodgingInfinity.Library.Encoding
import DodgingInfinity.Library.JsonReading

/-!
# Workspace trust

The global configuration of the user is read, one entry of its projects is given the
trust flag or is removed, and the whole configuration is written back.  The entry is the
one under the workflow's own lease path.
-/

namespace DodgingInfinity.WorkspaceTrust

open Dict (lookupEntries setEntries)
open Framing (Bytes)
open JsonText (Doc Number Numeral Binary64 readDoc isPlain)
open Values (Text Value ofChar ofString)

/-! ## The host -/

/-- The refusals. -/
inductive Problem where
  | leaseMissing
  | outsideManagedRoot
  | notOwnLease
  | targetNotDirectory
  | configMissing
  | configUnreadable
  | configUnparsable
  | configNotObject
  | projectsMissing
  | projectsNotObject
  | entryNotObject
  | writeFailed
  | readbackMismatch
  | revokeReadback
  deriving DecidableEq

/-- The exceptions that leave a call: of a path that cannot be resolved, of the depth of
a document, and of a text that cannot be encoded. -/
inductive Raised where
  | path
  | recursion
  | encoding
  deriving DecidableEq

inductive Stop where
  | refused (problem : Problem)
  | raised (exception : Raised)
  deriving DecidableEq

/-- What a call depends on besides the configuration's content.  A path that cannot be
resolved raises; the reader nests at least three levels. -/
structure Host where
  realpath : Text → Option Text
  isDirectory : Text → Bool
  normalize : Text → Text
  readDepth : Nat
  writeDepth : Nat
  statFails : Bool
  writeFails : Bool
  readDepth_ge : 3 ≤ readDepth

inductive ConfigFile where
  | missing
  | unreadable
  | content (bytes : Bytes)
  deriving DecidableEq

/-- What is read of a workflow record. -/
structure Workflow where
  workflowId : Text
  workspaceLease : Value

/-! ## The path of the lease -/

def slash : Values.CodePoint := ofChar '/'

/-- A name under a directory; an absolute one stands for itself. -/
def joinPath (directory name : Text) : Text :=
  if name.head? = some slash then name
  else if directory = [] ∨ directory.getLast? = some slash then directory ++ name
  else directory ++ slash :: name

def leasePath (workspacesRoot workflowId : Text) : Text := joinPath workspacesRoot workflowId

def isWithin (child parent : Text) : Bool :=
  child = parent ∨ ((parent.reverse.dropWhile (· = slash)).reverse ++ [slash]) <+: child

/-- The path that the lease records, if it is some text. -/
def recordedPath (lease : Value) : Option Text :=
  match lease with
  | .dict entries =>
      match Values.get? entries "path_realpath" with
      | some (.text path) => if path = [] then none else some path
      | _ => none
  | _ => none

def resolve (host : Host) (path : Text) : Except Stop Text :=
  Checked.orFail (host.realpath path) (.raised .path)

/-- The one path that may be trusted. -/
def resolveManagedTarget (host : Host) (workflow : Workflow) (workspacesRoot : Text)
    (requireDirectory : Bool) : Except Stop Text := do
  let recorded ← Checked.orFail (recordedPath workflow.workspaceLease) (.refused .leaseMissing)
  let realRoot ← resolve host workspacesRoot
  let realExpected ← resolve host (leasePath workspacesRoot workflow.workflowId)
  let realTarget ← resolve host recorded
  Checked.failIf (¬ isWithin realTarget realRoot ∨ realTarget = realRoot)
    (.refused .outsideManagedRoot)
  Checked.failIf (realTarget ≠ realExpected) (.refused .notOwnLease)
  Checked.failIf (requireDirectory ∧ ¬ host.isDirectory realTarget) (.refused .targetNotDirectory)
  pure realTarget

def trustKey (host : Host) (path : Text) : Except Stop Text :=
  (resolve host path).map host.normalize

/-! ## The configuration -/

def projectsKey : Text := ofString "projects"

def flagKey : Text := ofString "hasTrustDialogAccepted"

/-- The entries of the configuration, as they are written in it. -/
def readEntries (host : Host) : ConfigFile → Except Stop (List (Text × Doc Numeral))
  | .missing => .error (.refused .configMissing)
  | .unreadable => .error (.refused .configUnreadable)
  | .content bytes =>
      match Encoding.decodeUtf8 bytes with
      | none => .error (.refused .configUnparsable)
      | some text =>
          match readDoc host.readDepth text.toList with
          | .error .tooDeep => .error (.raised .recursion)
          | .error _ => .error (.refused .configUnparsable)
          | .ok (.dict entries) => .ok entries
          | .ok _ => .error (.refused .configNotObject)

abbrev Held := Number Binary64

/-- The entries of the configuration as the host holds them. -/
def readDocument (host : Host) (file : ConfigFile) : Except Stop (List (Text × Doc Held)) :=
  (readEntries host file).map (JsonText.mapEntries Numeral.held)

/-- The bytes of the entries, over several lines and beyond ASCII; a text with a surrogate
has none. -/
def payload (host : Host) (entries : List (Text × Doc Held)) : Except Stop Bytes := do
  let document := Doc.dict (JsonText.mapEntries Number.numeral entries)
  Checked.failIf (host.writeDepth < document.depth) (.raised .recursion)
  Checked.failIf (¬ document.all ⟨isPlain, fun _ => true, fun _ => true⟩) (.raised .encoding)
  pure (Encoding.encodeUtf8 (String.ofList (JsonText.print 0 document)))

/-- Write the entries in place of the configuration. -/
def save (host : Host) (entries : List (Text × Doc Held)) : Except Stop ConfigFile := do
  Checked.failIf host.statFails (.refused .configUnreadable)
  let bytes ← payload host entries
  Checked.failIf host.writeFails (.refused .writeFailed)
  pure (.content bytes)

section

variable {ν : Type}

def projectsOf (entries : List (Text × Doc ν)) : Except Problem (List (Text × Doc ν)) :=
  match lookupEntries projectsKey entries with
  | none => .error .projectsMissing
  | some (.dict projects) => .ok projects
  | some _ => .error .projectsNotObject

def isFlagged (entry : List (Text × Doc ν)) : Bool :=
  match lookupEntries flagKey entry with
  | some (.bool true) => true
  | _ => false

def withProjects (projects entries : List (Text × Doc ν)) : List (Text × Doc ν) :=
  setEntries projectsKey (.dict projects) entries

def flagged (entry : List (Text × Doc ν)) : Doc ν :=
  .dict (setEntries flagKey (.bool true) entry)

/-- The entries with the flag under a key; none are written where it is there already. -/
def trusting (key : Text) (entries : List (Text × Doc ν)) :
    Except Problem (Option (List (Text × Doc ν))) :=
  (projectsOf entries).bind fun projects =>
    match lookupEntries key projects with
    | some (.dict existing) =>
        .ok (if isFlagged existing then none
          else some (withProjects (setEntries key (flagged existing) projects) entries))
    | some .null => .ok (some (withProjects (setEntries key (flagged []) projects) entries))
    | none => .ok (some (withProjects (setEntries key (flagged []) projects) entries))
    | some _ => .error .entryNotObject

def without (key : Text) (entries : List (Text × Doc ν)) : List (Text × Doc ν) :=
  entries.filter fun entry => entry.1 ≠ key

/-- The entries without the one under a key; none are written where there is none. -/
def revoking (key : Text) (entries : List (Text × Doc ν)) :
    Except Problem (Option (List (Text × Doc ν))) :=
  (projectsOf entries).map fun projects =>
    match lookupEntries key projects with
    | none => none
    | some _ => some (withProjects (without key projects) entries)

def entryIsTrusted (key : Text) (projects : List (Text × Doc ν)) : Bool :=
  match lookupEntries key projects with
  | some (.dict entry) => isFlagged entry
  | _ => false

def entryIsGone (key : Text) (entries : List (Text × Doc ν)) : Bool :=
  match lookupEntries projectsKey entries with
  | some (.dict projects) => lookupEntries key projects = none
  | _ => false

end

/-- Whether the configuration trusts a path; one that is not read does not. -/
def isTrusted (host : Host) (file : ConfigFile) (path : Text) : Except Stop Bool :=
  match readDocument host file with
  | .error (.refused _) => .ok false
  | .error (.raised exception) => .error (.raised exception)
  | .ok document =>
      match projectsOf document with
      | .error _ => .ok false
      | .ok projects => (trustKey host path).map fun key => entryIsTrusted key projects

/-! ## The two operations -/

/-- A result, and the configuration that it leaves. -/
structure Left where
  result : Except Stop Unit
  file : ConfigFile
  deriving DecidableEq

/-- Read the configuration, edit it, write it, and check what was written. -/
def edit (host : Host) (change : List (Text × Doc Held) →
    Except Problem (Option (List (Text × Doc Held)))) (check : ConfigFile → Except Stop Unit)
    (file : ConfigFile) : Left :=
  match readDocument host file with
  | .error stop => ⟨.error stop, file⟩
  | .ok document =>
      match change document with
      | .error problem => ⟨.error (.refused problem), file⟩
      | .ok none => ⟨.ok (), file⟩
      | .ok (some edited) =>
          match save host edited with
          | .error stop => ⟨.error stop, file⟩
          | .ok saved => ⟨check saved, saved⟩

def targetOf (host : Host) (workflow : Workflow) (workspacesRoot : Text)
    (requireDirectory : Bool) : Except Stop (Text × Text) := do
  let target ← resolveManagedTarget host workflow workspacesRoot requireDirectory
  let key ← trustKey host target
  pure (target, key)

/-- Record trust for the workflow's own workspace. -/
def establish (host : Host) (workflow : Workflow) (workspacesRoot : Text)
    (file : ConfigFile) : Left :=
  match targetOf host workflow workspacesRoot true with
  | .error stop => ⟨.error stop, file⟩
  | .ok (target, key) =>
      edit host (trusting key) (fun saved => do
        let trusted ← isTrusted host saved target
        Checked.failIf (¬ trusted) (.refused .readbackMismatch)) file

/-- Remove the workflow's own entry. -/
def revoke (host : Host) (workflow : Workflow) (workspacesRoot : Text) (file : ConfigFile) : Left :=
  match targetOf host workflow workspacesRoot false with
  | .error stop => ⟨.error stop, file⟩
  | .ok (_, key) =>
      edit host (revoking key) (fun saved => do
        let fresh ← readDocument host saved
        Checked.failIf (¬ entryIsGone key fresh) (.refused .revokeReadback)) file

end DodgingInfinity.WorkspaceTrust
