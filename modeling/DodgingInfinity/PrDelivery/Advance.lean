import DodgingInfinity.PrDelivery.Steps

/-!
# Driving and revoking a delivery
-/

namespace DodgingInfinity.PrDelivery

open Checked

variable [JsonDigest] [FramedDigest]

inductive Outcome where
  | advanced
  | blocked
  | retry
  | revoked
  | complete
  | noStep
  deriving DecidableEq, Repr

/-- The binding a caller may hand over: exactly this delivery and the step that
its record selects. -/
structure ExpectedStep where
  deliveryId : String
  revision : Nat
  candidateIdentityDigest : Digest
  step : Option Step
  deriving DecidableEq

def selectedStep (record : Record) : ExpectedStep where
  deliveryId := record.deliveryId
  revision := record.authority.revision
  candidateIdentityDigest := record.authority.candidate.identityDigest
  step := stepForPhase record.mode record.phase

def requireExpectedStep (expected : Option ExpectedStep) : Act Unit := do
  let record ← read
  if ∃ binding ∈ expected, binding ≠ selectedStep record then stop .expectedStep
  else pure ()

/-- What runs in a phase: its step, or the observation of a `prUpdate`. -/
def runStep : Option Step → Act Unit
  | none => observePrUpdate
  | some .baseRefresh => stepBaseRefresh
  | some .commit => stepCommit
  | some .push => stepPush
  | some .prCreate => stepPrCreate

def outcomeOf : Act Outcome := do
  let record ← read
  pure (if record.phase = .revoked then .revoked else .advanced)

/-- Record what ended a step. -/
def settle (step : Option Step) : Fault → Act Outcome
  | .block problem => do
      block problem
      pure .blocked
  | .retry => do
      retry step
      pure .retry
  | .receipt problem =>
      if problem = .revoked then do
        transition .revoked
        persist
        pure .revoked
      else do
        block problem
        pure .blocked
  | .candidate problem => do
      block problem
      pure .blocked
  | .transport => do
      retry step
      pure .retry
  | fault => stop fault

def stopRevoked (now : Time) : Act Outcome := do
  let record ← read
  let after ← check (applyTransition record .revoked now)
  change fun _ => after
  persist
  pure .revoked

def stopExpired : Act Outcome := do
  block .expired
  pure .blocked

/-- One step of the loaded record, as far as it gets. -/
def drive (expected : Option ExpectedStep) : Act Outcome := do
  requireExpectedStep expected
  let now ← clock
  let record ← read
  if record.phase ∈ terminalPhases then
    pure (if record.phase = .complete then .complete else .blocked)
  else if isRevoked record then stopRevoked now
  else if isExpired record now then stopExpired
  else
    let step := stepForPhase record.mode record.phase
    (do
      runStep step
      outcomeOf).onFault (settle step)

/-- Load a record and drive it once. -/
def advanceOnce (deliveryId : String) (expected : Option ExpectedStep) :
    Program Call Call.Answer (Except Fault Outcome) :=
  .ask (.load deliveryId) fun answer : Except Failure _ => match answer with
    | .error failure => .done (.error (.store failure))
    | .ok record => (drive expected record.val).andThen fun result =>
        .done result.1

/-- A call of the machine. -/
def IsAdvance (program : Program Call Call.Answer (Except Fault Outcome)) : Prop :=
  ∃ deliveryId expected, program = advanceOnce deliveryId expected

/-- The stored deliveries, each valid and under its own identifier. -/
structure Document where
  deliveries : Dict String Record
  keyed : ∀ deliveryId record, deliveries.get? deliveryId = some record →
    record.deliveryId = deliveryId
  valid : ∀ deliveryId record, deliveries.get? deliveryId = some record →
    validateAuthorization record = .ok ()

namespace Document

def empty : Document where
  deliveries := .empty
  keyed := by
    intro deliveryId record h
    cases h
  valid := by
    intro deliveryId record h
    cases h

/-- Store a valid record under its identifier. -/
def put (document : Document) (record : Record)
    (h : validateAuthorization record = .ok ()) : Document where
  deliveries := document.deliveries.set record.deliveryId record
  keyed := by
    intro deliveryId held hheld
    rw [Dict.get?_set] at hheld
    split at hheld
    · rename_i hkey
      rw [← Option.some.inj hheld]
      exact hkey.symm
    · exact document.keyed deliveryId held hheld
  valid := by
    intro deliveryId held hheld
    rw [Dict.get?_set] at hheld
    split at hheld
    · exact Option.some.inj hheld ▸ h
    · exact document.valid deliveryId held hheld

end Document

/-- A revoked record moves to its phase, unless it is already terminal. -/
def moveRevoked (record : Record) (now : Time) : Except AuthorizationError Record :=
  if record.phase ∉ terminalPhases then applyTransition record .revoked now
  else pure record

/-- The record a revocation leaves: one that is already revoked keeps its
first revocation, and a terminal phase stays. -/
def revokedRecord (record : Record) (revokedBy reason : String) (now : Time) :
    Except AuthorizationError Record := do
  let marked := { record with
    revocation := some (record.revocation.getD ⟨now, revokedBy, reason⟩) }
  let moved ← moveRevoked marked now
  pure { moved with updatedAt := now }

/-- Revoke a delivery, under the lock of the store. -/
def revoke (document : Document) (deliveryId revokedBy reason : String)
    (now : Time) : Except Fault Document :=
  match document.deliveries.get? deliveryId with
  | none => .error (.store .missingRecord)
  | some record =>
      match revokedRecord record revokedBy reason now with
      | .error error => .error (.authorization error)
      | .ok after =>
          match h : validateAuthorization after with
          | .error error => .error (.authorization error)
          | .ok () => .ok (document.put after h)

end DodgingInfinity.PrDelivery
