import DodgingInfinity.MissionCore.Journal

/-!
# The Mission store document

The bounds of the document, and what is derived from it for the operations:
the contract an activation binds, and the view of the registry the
prerequisite checks read.
-/

namespace DodgingInfinity.MissionCore

open Checked

def maxMissionRecords : Nat := 1024

def maxAuthorizationRecords : Nat := 4096

def maxAuthorityLedgerEntries : Nat := 16384

/-- The bound on the reservations of a kind. -/
def reservationCap : ReferenceKind → Nat
  | .request => 4096
  | .decision => 4096
  | .stateOperation => 65536

/-- The proof contract an activation binds, re-derived from the proposal of
the stored revision. -/
def activationContract [JsonDigest] (mission : Mission)
    (activation : Activation) (location : String) : Checks ProofContract := do
  let entry ← orFailAt (mission.revisionEntry activation.revision)
    .activationBinding location
  failAt (entry.proposalDigestSha256 ≠ activation.proposalDigestSha256) .activationBinding location
  let contract ← orFailAt entry.proposal.proofContract .activationBinding
    location
  let digest ← proofContractDigest contract
  failAt (digest ≠ activation.contractDigestSha256) .activationBinding location
  pure contract

def activationById (state : StateRecord) (activationId : String) : Option Activation :=
  state.contractActivations.find? fun activation =>
    activation.activationId = activationId

/-- The activation a closure is bound to. -/
def closureActivation (state : StateRecord) : Option Activation :=
  state.closure.bind fun closure =>
    closure.activationId.bind (activationById state)

def registryEntry (mission : Mission) (state : Option StateRecord) : RegistryEntry :=
  let activation := state.bind closureActivation
  { currentRevision := mission.currentRevision
    revisionDigests := .ofEntries (mission.revisions.map fun entry =>
      (entry.revision, entry.proposalDigestSha256))
    progress := state.map StateRecord.progress
    closureActivationId := activation.map Activation.activationId
    closureRevision := activation.map Activation.revision
    closureProposalDigestSha256 :=
      activation.map Activation.proposalDigestSha256 }

/-- What the prerequisite checks read, per Mission. -/
def registryView (document : Document) : Registry :=
  .ofEntries (document.missions.entries.map fun entry =>
    (entry.1, registryEntry entry.2 (document.missionState.get? entry.1)))

end DodgingInfinity.MissionCore

/-!
## What every service operation shares

An operation is one locked load, change and save of the store document.  Here
it is a function of the document, of the clock readings and minted ids it is
given, and of its arguments; a refused one returns its problem and leaves the
document as it was.
-/

namespace DodgingInfinity.MissionCore

open Checked

/-- The readings of the injected clock, in the order an operation takes them,
and the answers of the injected id minter.  The minter is asked for a prefix
while so many ids are taken, at most eight times in a row. -/
structure Env where
  receivedAt : Nat
  checkedAt : Nat
  now : Nat
  answeredAt : Nat
  mintId : IdPrefix → Nat → Nat → String

/-- The next minted id that is not taken, within the attempts left. -/
def freshIdWithin (env : Env) (kind : IdPrefix) (taken : List String) : Nat → Checks String
  | 0 => refuse .idGrammar
  | attempts + 1 => do
      let candidate := env.mintId kind taken.length (7 - attempts)
      requireId candidate kind "minted id"
      if candidate ∉ taken then pure candidate
      else freshIdWithin env kind taken attempts

def freshId (env : Env) (kind : IdPrefix) (taken : List String) : Checks String :=
  freshIdWithin env kind taken 8

namespace Document

/-- Store a changed Mission under its id. -/
def setMission (document : Document) (missionId : String) (mission : Mission) : Document :=
  { document with missions := document.missions.set missionId mission }

/-- Mark a reservation consumed. -/
def consume (document : Document) (reservedId : String)
    (reservation : Reservation) (consumedBy : String) : Document :=
  { document with
    reservations := document.reservations.set reservedId
      { reservation with consumedBy := some consumedBy } }

def setState (document : Document) (missionId : String) (state : StateRecord) : Document :=
  { document with missionState := document.missionState.set missionId state }

end Document

/-! ## Reservations -/

/-- The context each kind of id may be reserved for. -/
def requireReservationContext (kind : ReferenceKind) (context : Context) : Checks Unit :=
  match kind with
  | .decision => requireDecisionReservationContext context "context"
  | .request => requireContext context "context"
  | .stateOperation => requireAuthenticatedContext context "context"

def heldReservations (document : Document) (kind : ReferenceKind) : Nat :=
  (document.reservations.values.filter fun reservation =>
    reservation.kind = kind).length

/-- Reserve a minted id for a context. -/
def reserve (env : Env) (document : Document) (kind : ReferenceKind)
    (context : Context) : Checks (Document × String) := do
  requireReservationContext kind context
  failIf (heldReservations document kind ≥ reservationCap kind) .storeFull
  let reservedId ← freshId env kind.idPrefix document.reservations.keys
  pure ({ document with
    reservations := document.reservations.set reservedId {
      reservedAt := env.now
      kind := kind
      context := context.asDict
      consumedBy := none } }, reservedId)

/-- The reservation of an id, of its kind and for exactly this context. -/
def lookupReservation (document : Document) (reservedId : String)
    (kind : ReferenceKind) (context : Context)
    (unknownProblem contextProblem : Problem) : Checks Reservation := do
  let reservation ← orFail (document.reservations.get? reservedId)
    unknownProblem
  failIf (reservation.kind ≠ kind) unknownProblem
  failIf (reservation.context ≠ context.asDict) contextProblem
  pure reservation

def lookupMission (document : Document) (missionId : String) :
    Checks Mission := do
  failIf (idProblem missionId .mission ≠ none) .unknownMission
  orFail (document.missions.get? missionId) .unknownMission

/-- A terminal Mission takes no progress, result, proof, run or decision
write. -/
def refuseTerminal (mission : Mission) : Checks Unit :=
  failIf (mission.state ∈ MissionState.terminal) .missionTerminal

/-! ## The authority ledger -/

def issuanceReason : String := "approved by human decision"

def denialReason : String := "denied by human decision"

def expiryReason : String := "expires_at passed"

def supersededReason : String := "superseded_by_edit"

/-- What an operation records in the ledger; the id of the entry is minted. -/
structure LedgerNote where
  kind : LedgerKind
  revision : Nat
  authorizationId : Option String
  decisionId : Option String
  reason : String

def appendLedger (env : Env) (document : Document) (missionId : String)
    (note : LedgerNote) : Checks Document := do
  failIf (document.authorityLedger.length ≥ maxAuthorityLedgerEntries) .storeFull
  let entryId ← freshId env .ledgerEntry
    (document.authorityLedger.map LedgerEntry.entryId)
  let entry ← newLedgerEntry {
    entryId := entryId
    kind := note.kind
    recordedAt := env.now
    missionId := missionId
    revision := note.revision
    authorizationId := note.authorizationId
    decisionId := note.decisionId
    reason := note.reason }
  pure { document with authorityLedger := document.authorityLedger ++ [entry] }

/-- The authorizations whose expiry the ledger already records. -/
def recordedExpirations (document : Document) : List String :=
  (document.authorityLedger.filter fun entry =>
    entry.kind = .expired).filterMap LedgerEntry.authorizationId

def noteExpiration (env : Env) (mission : Mission) (recorded : List String)
    (document : Document) (authorizationId : String) : Checks Document := do
  let authorization ← orFail (document.authorizations.get? authorizationId)
    .uncaught
  if (∃ expires ∈ authorization.expiresAt, expires ≤ env.now) ∧
      authorization.revocation = none ∧ authorizationId ∉ recorded then
    appendLedger env document mission.missionId {
      kind := .expired
      revision := authorization.revision
      authorizationId := some authorizationId
      decisionId := none
      reason := expiryReason }
  else pure document

/-- Append an expiry for every live authorization of a Mission whose expiry has
passed and is not in the ledger yet. -/
def noteExpirations (env : Env) (document : Document) (mission : Mission) : Checks Document :=
  foldChecked (noteExpiration env mission (recordedExpirations document))
    document mission.authorizationIds

end DodgingInfinity.MissionCore
