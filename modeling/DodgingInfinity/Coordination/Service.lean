import DodgingInfinity.Coordination.Attention
import DodgingInfinity.Coordination.Handoff
import DodgingInfinity.Coordination.Routing

/-!
# The coordination document and its service

One document holds five families of records.  Every operation is one cycle under
the store's lock: load, observe through the one read-only source against the
durable floor, apply one pure operation, validate and save.  A refusal anywhere
in the cycle writes nothing.
-/

namespace DodgingInfinity.Coordination

open Checked

/-! ## The document -/

structure Document where
  storeSequence : Nat
  bindings : Bindings
  routeDecisions : Dict String RouteRecord
  attention : AttentionRecords
  book : HandoffBook
  deriving DecidableEq

def defaultDocument : Document where
  storeSequence := 0
  bindings := Dict.empty
  routeDecisions := Dict.empty
  attention := Dict.empty
  book := HandoffBook.empty

def maxBindingRecords : Nat := 4096
def maxRouteDecisionRecords : Nat := 16384
def maxAttentionRecords : Nat := 16384
def maxHandoffRecords : Nat := 4096
def maxParticipantRosters : Nat := 1024

/-- A family within its cap, keyed by ids of its prefix. -/
def validateFamily {α : Type} (family : Dict String α) (cap : Nat)
    (kind : IdPrefix) (name : String) : Checks Unit := do
  failAt (family.entries.length > cap) .storeFull name
  checkAll (requireId · kind name) family.keys

def validateFamilies [JsonDigest] (document : Document) : Checks Unit := do
  validateFamily document.bindings maxBindingRecords .binding "bindings"
  validateFamily document.routeDecisions maxRouteDecisionRecords .route "route_decisions"
  validateFamily document.attention maxAttentionRecords .attention "attention"
  validateFamily document.book.handoffs maxHandoffRecords .handoff "handoffs"
  validateFamily document.book.participants maxParticipantRosters .mission "participants"

def validateDocument [JsonDigest] (document : Document) : Checks Unit := do
  validateFamilies document
  validateBindings document.bindings
  validateRouteDecisions document.routeDecisions
  validateAttentionRecords document.attention
  validateHandoffs document.book

/-! ## The store -/

/-- The file's document, or a fresh one where there is no file. -/
def load [JsonDigest] : Option Document → Checks Document
  | none => .ok defaultDocument
  | some document => do
      validateDocument document
      pure document

/-- The document as it is written, one sequence later.  Nothing is written before
the document is valid and both it and the file stand at the expected sequence. -/
def save [JsonDigest] (stored : Option Document) (document : Document)
    (expectedSequence : Nat) : Checks Document := do
  validateDocument document
  failAt (document.storeSequence ≠ expectedSequence) .storeConflict "document"
  let onDisk ← load stored
  failAt (onDisk.storeSequence ≠ expectedSequence) .storeConflict "store"
  pure { document with storeSequence := expectedSequence + 1 }

/-! ## The floor -/

/-- The Mission whose point a route decision records: the resolved one, or the
only candidate of a clarification. -/
def RouteRecord.subject (route : RouteRecord) : Option String :=
  match route.derivation.missionId, route.derivation.candidates with
  | some missionId, _ => some missionId
  | none, [candidate] => some candidate
  | none, _ => none

def routePoints (routes : Dict String RouteRecord) (missionId : String) : List ObservationPoint :=
  (routes.values.filter (·.subject = some missionId)).flatMap fun route =>
    route.derivation.observationPoint.toList

def bindingPoints (bindings : Bindings) (missionId : String) : List ObservationPoint :=
  (bindings.values.filter (·.missionId = missionId)).map Binding.observationPoint

def attentionPoints (records : AttentionRecords) (missionId : String) : List ObservationPoint :=
  (records.values.filter (·.missionId = missionId)).flatMap Attention.points

def handoffPoints (handoffs : Dict String Handoff) (missionId : String) : List ObservationPoint :=
  (handoffs.values.filter (·.request.missionId = missionId)).flatMap fun value =>
    value.observationPoint :: value.transitions.map TransitionEntry.observationPoint

def rosterPoints (participants : Dict String Roster) (missionId : String) : List ObservationPoint :=
  ((participants.get? missionId).map Roster.observationPoint).toList

/-- Every observation point that the document holds for a Mission. -/
def points (document : Document) (missionId : String) : List ObservationPoint :=
  bindingPoints document.bindings missionId ++ routePoints document.routeDecisions missionId ++
    attentionPoints document.attention missionId ++
    handoffPoints document.book.handoffs missionId ++
    rosterPoints document.book.participants missionId

/-- The greatest point so far and the next one; two that stand at the same pair
with different content refuse. -/
def raiseMark (best : Option ObservationPoint) (point : ObservationPoint) :
    Checks (Option ObservationPoint) :=
  match best with
  | none => .ok (some point)
  | some held =>
      if isBehind held.pair point.pair then .ok (some point)
      else do
        failAt (point.pair = held.pair ∧ point ≠ held) .observationInconsistent "mission"
        pure best

def markOf (point : ObservationPoint) : HighWaterMark :=
  ⟨point.revision, point.cursor, some point⟩

/-- The durable floor of a Mission. -/
def highWaterMark (document : Document) (missionId : String) :
    Checks (Option HighWaterMark) := do
  requireId missionId .mission "mission_id"
  let best ← foldChecked raiseMark none (points document missionId)
  pure (best.map markOf)

/-! ## The service -/

/-- What an operation is answered by its surroundings: the clock, the observation
source, the id minter, the presenter, and the lanes there are. -/
structure Surroundings where
  now : Nat
  answer : String → Answer
  minted : Minted
  presenter : PresenterAnswer
  lanes : List Lane

section

variable [JsonDigest] [Wording]

def observe (document : Document) (around : Surroundings) (missionId : String) :
    Checks FreshnessResult := do
  let floor ← highWaterMark document missionId
  classify (observeSafely (around.answer missionId)) around.now missionId floor

def observeFresh (document : Document) (around : Surroundings)
    (missionId what : String) : Checks MissionObservation := do
  let result ← observe document around missionId
  requireFresh result missionId what

/-- The operations of the service. -/
inductive Operation where
  | route (turn : InboundTurn) (context : AuthenticatedContext)
  | bind (kind : BindingKind) (transport : String) (conversationRef : Option String)
      (selector missionId : String) (context : AuthenticatedContext)
      (expiresAt : Option Nat)
  | revokeBinding (bindingId : String) (context : AuthenticatedContext)
  | rebind (bindingId : String) (context : AuthenticatedContext)
      (expiresAt : Option Nat)
  | projectAttention (missionId : String) (destination : Destination)
  | surfaceAttention (attentionId : String)
  | acknowledgeAttention (attentionId : String) (context : AuthenticatedContext)
  | setRoster (missionId : String) (participants : List Participant)
      (context : AuthenticatedContext)
  | createHandoff (request : HandoffRequest) (context : AuthenticatedContext)
  | transitionHandoff (handoffId : String) (status : HandoffStatus)
      (actor : Participant) (context : AuthenticatedContext)

/-- A new decision, derived and recorded. -/
def routeAnew (document : Document) (around : Surroundings) (turn : InboundTurn)
    (context : AuthenticatedContext) : Checks (Option Document) := do
  let derivation ← deriveRoute turn document.bindings (observe document around)
    around.now around.lanes
  let (routeId, _) ← freshId .route document.routeDecisions around.minted
  let route ← newRouteRecord routeId turn derivation around.now context
  pure (some { document with
    routeDecisions := document.routeDecisions.set routeId route })

/-- The stored decision of a replayed turn, or a new one. -/
def performRoute (document : Document) (around : Surroundings) (turn : InboundTurn)
    (context : AuthenticatedContext) : Checks (Option Document) := do
  requireContext context "context"
  match ← findReplay document.routeDecisions turn context with
  | some _ => pure none
  | none => routeAnew document around turn context

/-- A new binding for an identity that no unrevoked one holds. -/
def bindAs (document : Document) (around : Surroundings) (kind : BindingKind)
    (transport : String) (conversationRef : Option String)
    (selector missionId : String) (observed : MissionObservation)
    (expiresAt : Option Nat) (context : AuthenticatedContext) :
    Checks (Option Document) := do
  failAt (findBindings document.bindings
    (kind, transport, conversationRef, selector) ≠ []) .bindingConflict "binding"
  let (bindingId, _) ← freshId .binding document.bindings around.minted
  let bound ← newBinding bindingId kind transport conversationRef selector missionId
    observed around.now expiresAt context
  let bindings := document.bindings.set bindingId bound
  validateBindings bindings
  pure (some { document with bindings := bindings })

def performBind (document : Document) (around : Surroundings) (kind : BindingKind)
    (transport : String) (conversationRef : Option String)
    (selector missionId : String) (context : AuthenticatedContext)
    (expiresAt : Option Nat) : Checks (Option Document) := do
  requireContext context "context"
  let observed ← observeFresh document around missionId "binding"
  bindAs document around kind transport conversationRef selector missionId observed
    expiresAt context

def heldBinding (document : Document) (bindingId : String) : Checks Binding := do
  requireId bindingId .binding "binding_id"
  orFailAt (document.bindings.get? bindingId) .badValue "binding"

def performRevoke (document : Document) (around : Surroundings)
    (bindingId : String) (context : AuthenticatedContext) :
    Checks (Option Document) := do
  requireContext context "context"
  let bound ← heldBinding document bindingId
  let revoked ← bound.revoke around.now
  pure (some { document with bindings := document.bindings.set bindingId revoked })

/-- Revoke a binding and bind its identity to its Mission again. -/
def performRebind (document : Document) (around : Surroundings)
    (bindingId : String) (context : AuthenticatedContext)
    (expiresAt : Option Nat) : Checks (Option Document) := do
  requireContext context "context"
  let old ← heldBinding document bindingId
  let observed ← observeFresh document around old.missionId "rebinding"
  let revoked ← old.revoke around.now
  bindAs { document with bindings := document.bindings.set bindingId revoked } around
    old.kind old.transport old.conversationRef old.selector old.missionId observed
    expiresAt context

/-- What a projection changed, if it changed anything. -/
def projected (document : Document)
    (outcome : ProjectionOutcome × AttentionRecords) : Option Document :=
  if outcome.1.created ≠ [] ∨ outcome.1.obsoleted ≠ [] ∨ outcome.1.resolved ≠ [] then
    some { document with attention := outcome.2 }
  else none

def performProject (document : Document) (around : Surroundings)
    (missionId : String) (destination : Destination) :
    Checks (Option Document) := do
  let result ← observe document around missionId
  let outcome ← project document.attention missionId destination result around.now
    around.minted
  pure (projected document outcome)

def heldAttention (document : Document) (attentionId : String) :
    Checks Attention := do
  requireId attentionId .attention "attention_id"
  orFailAt (document.attention.get? attentionId) .badValue "attention"

/-- What a surfacing changed, if it changed anything. -/
def surfacedDocument (document : Document)
    (outcome : SurfaceOutcome × AttentionRecords) : Option Document :=
  if outcome.1.surfaced = true ∨ outcome.1.contradicted = true then
    some { document with attention := outcome.2 }
  else none

def performSurface (document : Document) (around : Surroundings)
    (attentionId : String) : Checks (Option Document) := do
  let value ← heldAttention document attentionId
  let result ← observe document around value.missionId
  let outcome ← surface document.attention attentionId result around.presenter
    around.now around.minted
  pure (surfacedDocument document outcome)

def performAcknowledge (document : Document) (around : Surroundings)
    (attentionId : String) (context : AuthenticatedContext) :
    Checks (Option Document) := do
  requireContext context "context"
  let value ← heldAttention document attentionId
  let result ← observe document around value.missionId
  let (_, records) ← acknowledge document.attention attentionId context result
    around.now
  pure (some { document with attention := records })

def performSetRoster (document : Document) (around : Surroundings)
    (missionId : String) (participants : List Participant)
    (context : AuthenticatedContext) : Checks (Option Document) := do
  requireContext context "context"
  let result ← observe document around missionId
  let (_, book) ← Coordination.setRoster document.book missionId participants result
    around.now context
  pure (some { document with book := book })

/-- A created handoff is saved unless it is one of those before. -/
def createdDocument (document : Document) (created : Handoff × HandoffBook) : Option Document :=
  if document.book.handoffs.contains created.1.handoffId then none
  else some { document with book := created.2 }

def performCreateHandoff (document : Document) (around : Surroundings)
    (request : HandoffRequest) (context : AuthenticatedContext) :
    Checks (Option Document) := do
  requireContext context "context"
  let (handoffId, _) ← freshId .handoff document.book.handoffs around.minted
  let result ← observe document around request.missionId
  let created ← Coordination.createHandoff document.book handoffId request result
    around.now context
  pure (createdDocument document created)

def performTransition (document : Document) (around : Surroundings)
    (handoffId : String) (status : HandoffStatus) (actor : Participant)
    (context : AuthenticatedContext) : Checks (Option Document) := do
  requireContext context "context"
  requireId handoffId .handoff "handoff_id"
  let value ← orFailAt (document.book.handoffs.get? handoffId) .badValue "handoff"
  let result ← observe document around value.request.missionId
  let (_, book) ← transition document.book handoffId status actor result around.now
    context
  pure (some { document with book := book })

/-- The document that an operation saves, if it saves one. -/
def Operation.apply (document : Document) (around : Surroundings) :
    Operation → Checks (Option Document)
  | route turn context => performRoute document around turn context
  | bind kind transport conversationRef selector missionId context expiresAt =>
      performBind document around kind transport conversationRef selector missionId
        context expiresAt
  | revokeBinding bindingId context =>
      performRevoke document around bindingId context
  | rebind bindingId context expiresAt =>
      performRebind document around bindingId context expiresAt
  | projectAttention missionId destination =>
      performProject document around missionId destination
  | surfaceAttention attentionId => performSurface document around attentionId
  | acknowledgeAttention attentionId context =>
      performAcknowledge document around attentionId context
  | setRoster missionId participants context =>
      performSetRoster document around missionId participants context
  | createHandoff request context =>
      performCreateHandoff document around request context
  | transitionHandoff handoffId status actor context =>
      performTransition document around handoffId status actor context

/-- Save what an operation formed at the sequence it was loaded at. -/
def saveFormed (stored : Option Document) (expectedSequence : Nat) :
    Option Document → Checks (Option Document)
  | none => .ok stored
  | some document => (save stored document expectedSequence).map some

/-- One load-modify-save cycle under the lock: the file that it leaves. -/
def Operation.cycle (stored : Option Document) (around : Surroundings)
    (operation : Operation) : Checks (Option Document) := do
  let document ← load stored
  let formed ← operation.apply document around
  saveFormed stored document.storeSequence formed

/-- The file changes by a completed cycle only: a refusal or a crash before the
atomic replacement leaves it as it was. -/
def ServiceStep (stored next : Option Document) : Prop :=
  ∃ (operation : Operation) (around : Surroundings), operation.cycle stored around = .ok next

end

end DodgingInfinity.Coordination
