import DodgingInfinity.Coordination.FloorSteps

/-!
# A turn is routed once

The answer to a routed turn beside the document that its cycle leaves.  A stored
decision answers its own context and its own content for ever, without an
observation and without a write; another context is answered with a refusal
that tells nothing of it, and other content is refused.
-/

namespace DodgingInfinity.Coordination

open Checked Relation

section

variable [JsonDigest] [Wording]

/-! ## The answer -/

/-- A decision, and whether it is returned as history. -/
structure Replay where
  replayed : Bool
  route : RouteRecord
  deriving DecidableEq

/-- The decision of a new turn, and the document that records it. -/
def answerAnew (document : Document) (around : Surroundings) (turn : InboundTurn)
    (context : AuthenticatedContext) : Checks (Replay × Option Document) := do
  let derivation ← deriveRoute turn document.bindings (observe document around)
    around.now around.lanes
  let (routeId, _) ← freshId .route document.routeDecisions around.minted
  let route ← newRouteRecord routeId turn derivation around.now context
  pure (⟨false, route⟩, some { document with
    routeDecisions := document.routeDecisions.set routeId route })

/-- What a turn is answered, and the document to save, if there is one. -/
def answerRoute (document : Document) (around : Surroundings) (turn : InboundTurn)
    (context : AuthenticatedContext) : Checks (Replay × Option Document) := do
  requireContext context "context"
  match ← findReplay document.routeDecisions turn context with
  | some route => pure (⟨true, route⟩, none)
  | none => answerAnew document around turn context

/-- The cycle of a routed turn: its answer and the file that it leaves. -/
def routeCycle (stored : Option Document) (around : Surroundings) (turn : InboundTurn)
    (context : AuthenticatedContext) : Checks (Replay × Option Document) := do
  let document ← load stored
  let answer ← answerRoute document around turn context
  let next ← saveFormed stored document.storeSequence answer.2
  pure (answer.1, next)

theorem performRoute_eq (document : Document) (around : Surroundings) (turn : InboundTurn)
    (context : AuthenticatedContext) : performRoute document around turn context =
      (answerRoute document around turn context).map Prod.snd := by
  have hanew : routeAnew document around turn context =
      (answerAnew document around turn context).map Prod.snd := by
    unfold routeAnew answerAnew
    cases deriveRoute turn document.bindings (observe document around) around.now
        around.lanes with
    | error refusal => rfl
    | ok derivation =>
        cases freshId .route document.routeDecisions around.minted with
        | error refusal => rfl
        | ok minted =>
            change (newRouteRecord minted.1 turn derivation around.now context >>= _) =
              Except.map Prod.snd (newRouteRecord minted.1 turn derivation around.now context >>= _)
            cases newRouteRecord minted.1 turn derivation around.now context <;> rfl
  unfold performRoute answerRoute
  cases requireContext context "context" with
  | error refusal => rfl
  | ok passed =>
      cases findReplay document.routeDecisions turn context with
      | error refusal => rfl
      | ok found =>
          cases found with
          | none => exact hanew
          | some route => rfl

/-- The cycle of the operation leaves the file that the routed turn does. -/
theorem cycle_route (stored : Option Document) (around : Surroundings) (turn : InboundTurn)
    (context : AuthenticatedContext) : (Operation.route turn context).cycle stored around =
      (routeCycle stored around turn context).map Prod.snd := by
  unfold Operation.cycle routeCycle Operation.apply
  cases load stored with
  | error refusal => rfl
  | ok document =>
      change (performRoute document around turn context >>= _) =
        Except.map Prod.snd (answerRoute document around turn context >>= _)
      rw [performRoute_eq]
      cases answerRoute document around turn context with
      | error refusal => rfl
      | ok answer =>
          change saveFormed stored document.storeSequence answer.2 =
            Except.map Prod.snd (saveFormed stored document.storeSequence answer.2 >>= _)
          cases saveFormed stored document.storeSequence answer.2 <;> rfl

/-! ## Decisions are kept -/

variable {document next : Document} {around : Surroundings}

/-- What an operation does to the decisions: nothing, or one more under an id
that none has. -/
structure OneMore (before after : Dict String RouteRecord) : Prop where
  cases : after = before ∨ ∃ routeId route, before.get? routeId = none ∧
    after = before.set routeId route

variable {before after : Dict String RouteRecord}

omit [JsonDigest] [Wording] in
theorem OneMore.same (h : after = before) :
    OneMore before after := ⟨.inl h⟩

variable {key : String}

variable {route : RouteRecord}

omit [JsonDigest] [Wording] in
/-- A decision that is held stays held. -/
theorem OneMore.kept (h : OneMore before after) (hheld : before.get? key = some route) :
    after.get? key = some route := by
  rcases h.cases with rfl | ⟨routeId, added, hfresh, rfl⟩
  · exact hheld
  · have hne : routeId ≠ key := by
      rintro rfl
      rw [hfresh] at hheld
      cases hheld
    rw [Dict.get?_set_of_ne _ _ hne.symm]
    exact hheld

variable {context : AuthenticatedContext}

omit [Wording] in
theorem bindAs_routes {kind : BindingKind} {transport : String}
    {conversationRef : Option String} {selector missionId : String}
    {observed : MissionObservation} {expiresAt : Option Nat}
    (h : bindAs document around kind transport conversationRef selector missionId observed
      expiresAt context = .ok (some next)) :
    next.routeDecisions = document.routeDecisions := by
  simp only [bindAs, bind_eq_ok, exists_passed, pure_eq_ok, Option.some.injEq] at h
  obtain ⟨-, pair, -, bound, -, -, rfl⟩ := h
  rfl

variable {turn : InboundTurn}

theorem routeAnew_routes (h : routeAnew document around turn context = .ok (some next)) :
    OneMore document.routeDecisions next.routeDecisions := by
  simp only [routeAnew, bind_eq_ok, pure_eq_ok, Option.some.injEq] at h
  obtain ⟨derivation, -, pair, hid, route, -, rfl⟩ := h
  exact ⟨.inr ⟨pair.1, route, (freshId_eq_ok hid).2, rfl⟩⟩

/-- Only a routed turn adds to the decisions, and no operation drops one. -/
theorem Operation.oneMore {operation : Operation}
    (h : operation.apply document around = .ok (some next)) :
    OneMore document.routeDecisions next.routeDecisions := by
  cases operation with
  | route turn context =>
      simp only [Operation.apply, performRoute, bind_eq_ok, exists_passed] at h
      obtain ⟨-, found, -, hfound⟩ := h
      split at hfound
      · cases hfound
      · exact routeAnew_routes hfound
  | bind kind transport conversationRef selector missionId context expiresAt =>
      simp only [Operation.apply, performBind, bind_eq_ok, exists_passed] at h
      obtain ⟨-, observed, -, hbound⟩ := h
      exact .same (bindAs_routes hbound)
  | revokeBinding bindingId context =>
      simp only [Operation.apply, performRevoke, bind_eq_ok, exists_passed, pure_eq_ok,
        Option.some.injEq] at h
      obtain ⟨-, bound, -, revoked, -, rfl⟩ := h
      exact .same rfl
  | rebind bindingId context expiresAt =>
      simp only [Operation.apply, performRebind, bind_eq_ok, exists_passed] at h
      obtain ⟨-, old, -, observed, -, revoked, -, hbound⟩ := h
      have hsame := bindAs_routes hbound
      exact .same hsame
  | projectAttention missionId destination =>
      simp only [Operation.apply, performProject, projected, bind_eq_ok, pure_eq_ok] at h
      obtain ⟨result, -, outcome, -, hnext⟩ := h
      split at hnext
      · obtain rfl := Option.some.inj hnext
        exact .same rfl
      · cases hnext
  | surfaceAttention attentionId =>
      simp only [Operation.apply, performSurface, surfacedDocument, bind_eq_ok, pure_eq_ok] at h
      obtain ⟨value, -, result, -, outcome, -, hnext⟩ := h
      split at hnext
      · obtain rfl := Option.some.inj hnext
        exact .same rfl
      · cases hnext
  | acknowledgeAttention attentionId context =>
      simp only [Operation.apply, performAcknowledge, bind_eq_ok, exists_passed, pure_eq_ok,
        Option.some.injEq] at h
      obtain ⟨-, value, -, result, -, outcome, -, rfl⟩ := h
      exact .same rfl
  | setRoster missionId participants context =>
      simp only [Operation.apply, performSetRoster, bind_eq_ok, exists_passed, pure_eq_ok,
        Option.some.injEq] at h
      obtain ⟨-, result, -, outcome, -, rfl⟩ := h
      exact .same rfl
  | createHandoff request context =>
      simp only [Operation.apply, performCreateHandoff, createdDocument, bind_eq_ok,
        exists_passed, pure_eq_ok] at h
      obtain ⟨-, pair, -, result, -, created, -, hnext⟩ := h
      split at hnext
      · cases hnext
      · obtain rfl := Option.some.inj hnext
        exact .same rfl
  | transitionHandoff handoffId status actor context =>
      simp only [Operation.apply, performTransition, bind_eq_ok, exists_passed, pure_eq_ok,
        Option.some.injEq] at h
      obtain ⟨-, -, value, -, result, -, outcome, -, rfl⟩ := h
      exact .same rfl

/-! ## Stored documents -/

variable {stored later : Option Document}

/-- The stored document, where there is one, is valid. -/
def StoredValid (stored : Option Document) : Prop :=
  ∀ document, stored = some document → validateDocument document = .ok ()

omit [Wording] in
theorem StoredValid.load (h : StoredValid stored) : load stored = .ok (documentOf stored) := by
  cases stored with
  | none => rfl
  | some document =>
      have hvalid := h document rfl
      change (validateDocument document >>= fun _ => pure document) = _
      rw [hvalid]
      rfl

omit [Wording] in
/-- What a save leaves: the file as it was, or the valid document formed. -/
theorem saveFormed_cases {formed next : Option Document} {sequence : Nat}
    (h : saveFormed stored sequence formed = .ok next) : (formed = none ∧ next = stored) ∨
      ∃ document, formed = some document ∧ validateDocument document = .ok () ∧
        next = some { document with storeSequence := sequence + 1 } := by
  cases formed with
  | none => exact .inl ⟨rfl, (Except.ok.inj h).symm⟩
  | some document =>
      obtain ⟨written, hwritten, rfl⟩ := (map_eq_ok ..).mp h
      simp only [save, bind_eq_ok, exists_passed, pure_eq_ok] at hwritten
      obtain ⟨hvalid, -, -, -, -, rfl⟩ := hwritten
      exact .inr ⟨document, rfl, hvalid, rfl⟩

/-- A step leaves a valid document that holds every decision there was. -/
theorem ServiceStep.routes (hvalid : StoredValid stored) (hstep : ServiceStep stored later) :
    StoredValid later ∧
      OneMore (documentOf stored).routeDecisions (documentOf later).routeDecisions := by
  obtain ⟨operation, around, hcycle⟩ := hstep
  simp only [Operation.cycle, bind_eq_ok, hvalid.load] at hcycle
  obtain ⟨loaded, hloaded, formed, hformed, hsaved⟩ := hcycle
  obtain rfl := Except.ok.inj hloaded
  rcases saveFormed_cases hsaved with ⟨-, rfl⟩ | ⟨document, rfl, hdocument, rfl⟩
  · exact ⟨hvalid, .same rfl⟩
  · have hmore := Operation.oneMore hformed
    refine ⟨fun held hheld => ?_, hmore⟩
    obtain rfl := Option.some.inj hheld
    exact hdocument

theorem storedValid_of_reachable (h : Transition.Reachable ServiceStep none stored) :
    StoredValid stored :=
  h.invariant (p := StoredValid) (fun _ hnone => by cases hnone)
    fun _ _ hvalid hstep => (ServiceStep.routes hvalid hstep).1

/-! ## The stored decision of a turn -/

variable {other : String} {further : RouteRecord}

omit [Wording] in
/-- The decisions of a valid document have distinct identities. -/
theorem identities_distinct (h : validateDocument document = .ok ())
    (hheld : document.routeDecisions.get? key = some route)
    (hother : document.routeDecisions.get? other = some further)
    (hidentity : route.inbound.identity = further.inbound.identity) :
    key = other ∧ route = further := by
  simp only [validateDocument, validateRouteDecisions, bind_eq_ok, exists_passed] at h
  obtain ⟨-, -, ⟨held, hwalk, -⟩, -, -⟩ := h
  have hwalked := (walkDistinct_eq_ok validateHeldRoute_distinguishes
    (nodup_byId document.routeDecisions)).mp ⟨held, hwalk⟩
  have hsame := hwalked.2 (key, route) (mem_byId.mpr hheld) (other, further)
    (mem_byId.mpr hother) rfl rfl hidentity
  exact Prod.mk.inj hsame

/-- A decision is held for a turn and a context. -/
structure HeldFor (stored : Option Document) (turn : InboundTurn)
    (context : AuthenticatedContext) (route : RouteRecord) : Prop where
  held : ∃ key, (documentOf stored).routeDecisions.get? key = some route
  identity : route.inbound.identity = turn.identity
  context : route.provenance.context = context
  digest : route.inboundDigestSha256 = turn.digest

omit [Wording] in
theorem StoredValid.distinct (h : StoredValid stored)
    (hheld : (documentOf stored).routeDecisions.get? key = some route)
    (hother : (documentOf stored).routeDecisions.get? other = some further)
    (hidentity : route.inbound.identity = further.inbound.identity) :
    key = other ∧ route = further := by
  cases stored with
  | none => cases hheld
  | some document => exact identities_distinct (h document rfl) hheld hother hidentity

omit [Wording] in
/-- Only the held decision is found for its identity. -/
theorem StoredValid.find (h : StoredValid stored)
    (hheld : (documentOf stored).routeDecisions.get? key = some route)
    (hidentity : route.inbound.identity = turn.identity) :
    ((byId (documentOf stored).routeDecisions).map Prod.snd).find?
      (·.inbound.identity = turn.identity) = some route := by
  cases hfound : ((byId (documentOf stored).routeDecisions).map Prod.snd).find?
      (·.inbound.identity = turn.identity) with
  | none =>
      have hnone := List.find?_eq_none.mp hfound route
        (List.mem_map.mpr ⟨(key, route), mem_byId.mpr hheld, rfl⟩)
      exact absurd (decide_eq_true hidentity) hnone
  | some further =>
      obtain ⟨entry, hentry, rfl⟩ := List.mem_map.mp (List.mem_of_find?_eq_some hfound)
      have hother := List.find?_some hfound
      rw [decide_eq_true_eq] at hother
      obtain ⟨-, rfl⟩ := h.distinct (mem_byId.mp hentry) hheld (hother.trans hidentity.symm)
      rfl

/-- The answer to a turn whose identity is decided, with no look at anything but
the request and the decision. -/
def answerDecided (route : RouteRecord) (turn : InboundTurn)
    (context : AuthenticatedContext) : Checks Replay := do
  requireContext context "context"
  turn.validate "inbound"
  requireContext context "context"
  let held ← replayOf turn context route
  pure ⟨true, held⟩

/-- A turn whose identity is decided is answered from the decision alone, and
nothing is written. -/
theorem routeCycle_decided (h : StoredValid stored)
    (hheld : (documentOf stored).routeDecisions.get? key = some route)
    (hidentity : route.inbound.identity = turn.identity)
    (around : Surroundings) (context : AuthenticatedContext) :
    routeCycle stored around turn context =
      (answerDecided route turn context).map fun replay => (replay, stored) := by
  have hfind := h.find hheld hidentity
  have hanswer : answerRoute (documentOf stored) around turn context =
      (answerDecided route turn context).map fun replay => (replay, none) := by
    unfold answerRoute answerDecided findReplay
    rw [hfind]
    cases requireContext context "context" with
    | error refusal => rfl
    | ok passed =>
        cases turn.validate "inbound" with
        | error refusal => rfl
        | ok passed =>
            change (Except.map some (replayOf turn context route) >>= _) =
              Except.map _ (replayOf turn context route >>= _)
            cases replayOf turn context route <;> rfl
  unfold routeCycle
  rw [h.load]
  change (answerRoute (documentOf stored) around turn context >>= _) = _
  rw [hanswer]
  cases answerDecided route turn context <;> rfl

/-- What an answered turn leaves: its decision, held for its context. -/
theorem heldFor_of_answer (h : StoredValid stored) {around : Surroundings} {replay : Replay}
    (hanswer : routeCycle stored around turn context = .ok (replay, later)) :
    HeldFor later turn context replay.route ∧
      requireContext context "context" = .ok () ∧ turn.validate "inbound" = .ok () := by
  simp only [routeCycle, h.load, bind_eq_ok, pure_eq_ok, Prod.mk.injEq] at hanswer
  obtain ⟨loaded, hloaded, answer, hroute, next, hsaved, rfl, rfl⟩ := hanswer
  obtain rfl := Except.ok.inj hloaded
  simp only [answerRoute, findReplay, bind_eq_ok, exists_passed] at hroute
  obtain ⟨hcontext, found, ⟨hturn, -, hfound⟩, hanswer⟩ := hroute
  refine ⟨?_, hcontext, hturn⟩
  split at hfound
  · rename_i route hfind
    obtain ⟨held, hreplay, rfl⟩ := (map_eq_ok ..).mp hfound
    simp only [replayOf, bind_eq_ok, exists_passed, failAt_eq_ok, pure_eq_ok, ne_eq,
      not_not] at hreplay
    obtain ⟨hrecorded, hdigest, rfl⟩ := hreplay
    obtain rfl := Except.ok.inj hanswer
    obtain rfl := Except.ok.inj hsaved
    obtain ⟨entry, hentry, hroute⟩ := List.mem_map.mp (List.mem_of_find?_eq_some hfind)
    have hidentity := List.find?_some hfind
    rw [decide_eq_true_eq] at hidentity
    exact ⟨⟨entry.1, hroute ▸ mem_byId.mp hentry⟩, hidentity, hrecorded, hdigest⟩
  · obtain rfl := Except.ok.inj hfound
    simp only [answerAnew, newRouteRecord, bind_eq_ok, exists_passed, pure_eq_ok,
      provenanceRecord_eq_ok] at hanswer
    obtain ⟨derivation, -, pair, -, route, ⟨provenance, ⟨-, rfl⟩, -, rfl⟩, rfl⟩ := hanswer
    rcases saveFormed_cases hsaved with ⟨hnone, -⟩ | ⟨document, hdocument, -, rfl⟩
    · cases hnone
    · obtain rfl := Option.some.inj hdocument
      exact ⟨⟨pair.1, Dict.get?_set_self ..⟩, rfl, rfl, rfl⟩

/-- A decision stays held over every run. -/
theorem HeldFor.run (hvalid : StoredValid stored)
    (h : HeldFor stored turn context route) (hrun : ReflTransGen ServiceStep stored later) :
    StoredValid later ∧ HeldFor later turn context route := by
  induction hrun with
  | refl => exact ⟨hvalid, h⟩
  | tail _ hstep ih =>
      obtain ⟨hmiddle, hheld⟩ := ih
      obtain ⟨hlast, hmore⟩ := ServiceStep.routes hmiddle hstep
      obtain ⟨key, hkey⟩ := hheld.held
      exact ⟨hlast, ⟨key, hmore.kept hkey⟩, hheld.identity, hheld.context, hheld.digest⟩

omit [JsonDigest] [Wording] in
theorem intent_text_injective {intent other : Intent} (h : intent.text = other.text) :
    intent = other := by
  revert h
  cases intent <;> cases other <;> decide

omit [JsonDigest] [Wording] in
/-- A turn is recovered from its canonical JSON. -/
theorem asJson_injective {other : InboundTurn} (h : turn.asJson = other.asJson) :
    turn = other := by
  obtain ⟨transport, conversation, message, explicit, reply, repository, issue, project,
    aliasKey, intent, domain, proposed⟩ := turn
  obtain ⟨transport', conversation', message', explicit', reply', repository', issue',
    project', aliasKey', intent', domain', proposed'⟩ := other
  simp only [InboundTurn.asJson, Json.object.injEq, List.cons.injEq, Prod.mk.injEq,
    Json.text.injEq, true_and, and_true] at h
  have hopt : ∀ {held further : Option String},
      Json.optional Json.text held = Json.optional Json.text further → held = further :=
    Json.optional_inj (fun hsame => Json.text.inj hsame) fun _ hnull => by cases hnull
  obtain ⟨rfl, rfl, rfl, hexplicit, hreply, hrepository, hissue, hproject, halias, hintent,
    hdomain, hproposed⟩ := h
  rw [hopt hexplicit, hopt hreply, hopt hrepository, hopt hissue, hopt hproject, hopt halias,
    intent_text_injective hintent, hopt hdomain, hopt hproposed]

/-- The refusal of another context: it depends on the request alone. -/
def undisclosed (turn : InboundTurn) (context : AuthenticatedContext) :
    Checks (Replay × Option Document) := do
  requireContext context "context"
  turn.validate "inbound"
  .error ⟨.contextMismatch, "route"⟩

/-- The refusal of other content. -/
def conflicting (turn : InboundTurn) : Checks (Replay × Option Document) := do
  turn.validate "inbound"
  .error ⟨.idempotencyConflict, "route"⟩

/-- How the identity of a decided turn is answered. -/
structure RoutedOnce (turn : InboundTurn) (context : AuthenticatedContext)
    (route : RouteRecord) (later : Option Document) : Prop where
  replayed : ∀ around, routeCycle later around turn context = .ok (⟨true, route⟩, later)
  undisclosed : ∀ around asked other, asked.identity = turn.identity → other ≠ context →
    routeCycle later around asked other = undisclosed asked other
  conflicting : ∀ around asked, asked.identity = turn.identity → asked ≠ turn →
    (asked.digest = turn.digest → asked.asJson = turn.asJson) →
      routeCycle later around asked context = conflicting asked

omit [Wording] in
theorem replayOf_same (hcontext : route.provenance.context = context)
    (hdigest : route.inboundDigestSha256 = turn.digest) :
    replayOf turn context route = .ok route := by
  simp only [replayOf, failAt, failIf, hcontext, hdigest, ne_eq, not_true_eq_false, if_false]
  rfl

omit [Wording] in
theorem replayOf_context (hcontext : route.provenance.context ≠ context) :
    replayOf turn context route = .error ⟨.contextMismatch, "route"⟩ := by
  simp only [replayOf, failAt, failIf, if_pos hcontext]
  rfl

omit [Wording] in
theorem replayOf_content (hcontext : route.provenance.context = context)
    (hdigest : route.inboundDigestSha256 ≠ turn.digest) :
    replayOf turn context route = .error ⟨.idempotencyConflict, "route"⟩ := by
  simp only [replayOf, failAt, failIf, hcontext, ne_eq, not_true_eq_false, if_false, if_pos hdigest]
  rfl

theorem HeldFor.routedOnce (hvalid : StoredValid stored) (h : HeldFor stored turn context route)
    (hcontext : requireContext context "context" = .ok ())
    (hturn : turn.validate "inbound" = .ok ()) : RoutedOnce turn context route stored := by
  obtain ⟨key, hkey⟩ := h.held
  constructor
  · intro around
    rw [routeCycle_decided hvalid hkey h.identity, answerDecided, hcontext, hturn,
      replayOf_same h.context h.digest]
    rfl
  · intro around asked other hidentity hother
    have hmismatch : route.provenance.context ≠ other := by
      rw [h.context]
      exact hother.symm
    rw [routeCycle_decided hvalid hkey (h.identity.trans hidentity.symm), answerDecided,
      replayOf_context hmismatch, Coordination.undisclosed]
    cases requireContext other "context" with
    | error refusal => rfl
    | ok passed => cases asked.validate "inbound" <;> rfl
  · intro around asked hidentity hne hcollision
    have hdigest : route.inboundDigestSha256 ≠ asked.digest := by
      intro hsame
      exact hne (asJson_injective (hcollision (hsame.symm.trans h.digest)))
    rw [routeCycle_decided hvalid hkey (h.identity.trans hidentity.symm), answerDecided,
      hcontext, replayOf_content h.context hdigest, Coordination.conflicting]
    cases asked.validate "inbound" <;> rfl

/-- A turn is routed once: no reachable document holds two decisions for one
identity, and after a turn was answered every later run answers it again with the
decision recorded first, whatever is observed and with nothing written; another
context is refused by the request alone, and other content is refused. -/
theorem turn_routed_once (h : Transition.Reachable ServiceStep none stored) :
    (∀ key other route further, (documentOf stored).routeDecisions.get? key = some route →
        (documentOf stored).routeDecisions.get? other = some further →
          route.inbound.identity = further.inbound.identity → key = other ∧ route = further) ∧
    (∀ around turn context replay next, routeCycle stored around turn context = .ok (replay, next) →
        ∀ later, ReflTransGen ServiceStep next later →
          RoutedOnce turn context replay.route later) := by
  have hvalid := storedValid_of_reachable h
  constructor
  · intro key other route further hheld hother hidentity
    exact hvalid.distinct hheld hother hidentity
  · intro around turn context replay next hanswer later hrun
    obtain ⟨hheld, hcontext, hturn⟩ := heldFor_of_answer hvalid hanswer
    have hstep : ServiceStep stored next := by
      refine ⟨.route turn context, around, ?_⟩
      rw [cycle_route, hanswer]
      rfl
    obtain ⟨hlater, hlast⟩ := hheld.run (ServiceStep.routes hvalid hstep).1 hrun
    exact hlast.routedOnce hlater hcontext hturn

end

/-! ## A sample turn -/

/-- Every Mission is observed fresh, and one route id is minted. -/
def sampleRouteReads : Surroundings :=
  { sampleSurroundings with minted := ["cr-00000000000000000000000000000000"] }

/-- A turn that names its Mission and nothing else. -/
def sampleExplicitTurn : InboundTurn where
  transport := "cli"
  conversationRef := "room"
  messageRef := "first"
  explicitMissionId := some sampleMissionId
  replyToMessageRef := none
  repositoryUrl := none
  issueRef := none
  projectKey := none
  aliasKey := none
  intent := .followUp
  domain := none
  proposalDigestSha256 := none

set_option maxRecDepth 100000 in
/-- The turn is decided in a fresh document. -/
theorem sampleDecision : letI := sampleHexDigest
    letI := sampleWording
    ∃ answer ∈ (routeCycle none sampleRouteReads sampleExplicitTurn
      sampleContext).toOption, answer.1.replayed = false := by
  decide +kernel

/-- The general theorem after that decision. -/
theorem turn_routed_once_decided : letI := sampleHexDigest
    letI := sampleWording
    ∃ (replay : Replay) (next : Option Document), replay.replayed = false ∧
      RoutedOnce sampleExplicitTurn sampleContext replay.route next := by
  let _ := sampleHexDigest
  let _ := sampleWording
  obtain ⟨answer, hanswer, hnew⟩ := sampleDecision
  exact ⟨answer.1, answer.2, hnew, (turn_routed_once Transition.Reachable.start).2
    sampleRouteReads sampleExplicitTurn sampleContext answer.1 answer.2
    (ok_of_mem_toOption hanswer) answer.2 .refl⟩

end DodgingInfinity.Coordination
