import DodgingInfinity.Coordination.FloorSteps

/-!
# Routing is sound

A decision names a Mission only on a fresh read of it that every consulted binding
stands at; every other decision asks or proposes.  What is decided can be
recorded: a record of any derivation whose detail is not too long passes the
validator.
-/

namespace DodgingInfinity.Coordination

open Checked Relation

/-! ## Fields that a record may carry -/

/-- What the outcome of a decision goes together with. -/
structure Coherent (fields : Identified) : Prop where
  together : fields.observationPoint.isNone = fields.observedRevision.isNone
  same : ∀ point, fields.observationPoint = some point →
    some point.revision = fields.observedRevision
  mission : fields.missionId.isSome = decide (fields.outcome = .existingMission)
  tier : fields.resolvedTier.isSome = decide (fields.outcome = .existingMission)
  resolved : fields.outcome = .existingMission → fields.reason = .resolved ∧
    fields.observationPoint ≠ none ∧
    ∃ missionId, fields.missionId = some missionId ∧ missionId ∈ fields.candidates
  unsettled : fields.outcome ≠ .existingMission → fields.reason ≠ .resolved
  proposal : fields.proposalDigestSha256.isSome = decide (fields.outcome = .newProposal)
  proposes : decide (fields.outcome = .newProposal) = decide (fields.reason = .newProposalIntent)
  bare : fields.outcome = .newProposal → fields.candidates = [] ∧ fields.observationPoint = none
  bound : ((fields.outcome = .existingMission ∧ fields.resolvedTier ≠ some .explicitMissionId) ∨
    fields.reason ∈ bindingReasons) → fields.boundRevision ≠ none
  named : fields.boundRevision ≠ none → fields.candidates = [] →
    fields.reason ∉ bindingReasons → fields.outcome = .existingMission ∧
      fields.resolvedTier ≠ some .explicitMissionId

theorem validateCoherence_iff {value : RouteDerivation} {location : String} :
    validateCoherence value location = .ok () ↔ Coherent value.toIdentified := by
  simp only [validateCoherence, bind_eq_ok, exists_passed, failAt_eq_ok]
  constructor
  · rintro ⟨htogether, hsame, hexisting, hresolved, hunsettled, hproposal, hbare, hbound, hnamed⟩
    rw [not_or, not_not, not_not] at hexisting hproposal
    refine {
      together := not_not.mp htogether
      same := fun point hpoint => by_contra fun hne => hsame ⟨point, hpoint, hne⟩
      mission := hexisting.1
      tier := hexisting.2
      resolved := fun houtcome => ?_
      unsettled := fun houtcome hreason => hunsettled ⟨houtcome, hreason⟩
      proposal := hproposal.1
      proposes := hproposal.2
      bare := fun houtcome => ?_
      bound := fun hcase hnone => hbound ⟨hcase, hnone⟩
      named := fun hsome hnil hfree => by_contra fun hno =>
        hnamed ⟨hsome, hnil, hfree, hno⟩ }
    · have hall := not_and.mp hresolved houtcome
      rw [not_or, not_or, not_not, not_not] at hall
      exact hall
    · have hboth := not_and.mp hbare houtcome
      rwa [not_or, not_not, not_not] at hboth
  · intro h
    refine ⟨not_not.mpr h.together, ?_, ?_, ?_, fun hboth => h.unsettled hboth.1 hboth.2,
      ?_, ?_, fun hboth => h.bound hboth.1 hboth.2,
      fun hall => hall.2.2.2 (h.named hall.1 hall.2.1 hall.2.2.1)⟩
    · rintro ⟨point, hpoint, hne⟩
      exact hne (h.same point hpoint)
    · rintro (hmission | htier)
      · exact hmission h.mission
      · exact htier h.tier
    · rintro ⟨houtcome, hbad⟩
      obtain ⟨hreason, hpoint, hmission⟩ := h.resolved houtcome
      rcases hbad with hbad | hbad | hbad
      · exact hbad hreason
      · exact hpoint hbad
      · exact hbad hmission
    · rintro (hproposal | hproposes)
      · exact hproposal h.proposal
      · exact hproposes h.proposes
    · rintro ⟨houtcome, hbad⟩
      obtain ⟨hnil, hnone⟩ := h.bare houtcome
      rcases hbad with hbad | hbad
      · exact hbad hnil
      · exact hbad hnone

/-- The fields of a decision that a record of it may carry, whatever its lane. -/
structure FieldsSound (fields : Identified) : Prop where
  mission : ∀ missionId, fields.missionId = some missionId → isId .mission missionId = true
  few : fields.candidates.length ≤ maxRouteCandidates
  missions : ∀ candidate ∈ fields.candidates, isId .mission candidate = true
  sorted : IsSorted fields.candidates
  told : fields.detail ≠ ""
  proposal : ∀ digest, fields.proposalDigestSha256 = some digest → IsHex digest 64
  bound : ∀ revision, fields.boundRevision = some revision → 1 ≤ revision
  point : ∀ point, fields.observationPoint = some point → PointValid point
  observed : fields.observedRevision = fields.observationPoint.map ObservationPoint.revision
  coherent : Coherent fields

theorem isSorted_sortedBy {keys : List String} (h : keys.Nodup) : IsSorted (sortedBy id keys) :=
  ⟨(nodup_sortedBy id).mpr h, (sortedBy_sortedBy id keys).symm⟩

theorem isSorted_singleton (key : String) : IsSorted [key] :=
  isSorted_sortedBy (List.nodup_singleton key)

theorem fieldsSound_clarify {reason : RouteReason} {detail : String}
    {candidates : List String} {boundRevision : Option Nat}
    (h : Clarification reason detail candidates boundRevision) :
    FieldsSound (clarify reason detail candidates boundRevision) := by
  refine ⟨fun _ hsome => (by cases hsome), ?_, ?_, isSorted_sortedBy h.distinct, h.told,
    fun _ hsome => (by cases hsome), h.positive, fun _ hsome => (by cases hsome), rfl, ?_⟩
  · rw [clarify, length_sortedBy]
    exact h.few
  · intro candidate hcandidate
    rw [clarify, mem_sortedBy] at hcandidate
    exact h.missions candidate hcandidate
  · refine ⟨rfl, fun _ hsome => (by cases hsome), rfl, rfl,
      fun houtcome => (by cases houtcome), fun _ => h.unsettled, rfl, ?_,
      fun houtcome => (by cases houtcome), ?_, ?_⟩
    · exact (decide_eq_false h.proposes).symm
    · rintro (⟨houtcome, -⟩ | hreason)
      · cases houtcome
      · exact h.bound hreason
    · exact fun hsome hnil => absurd ((sortedBy_eq_nil id).mp hnil) (h.named hsome)

theorem fieldsSound_proposal {digest : String} (h : IsHex digest 64) :
    FieldsSound (proposal digest) := by
  refine ⟨fun _ hsome => (by cases hsome), Nat.zero_le _,
    fun _ hnone => absurd hnone List.not_mem_nil, ⟨List.nodup_nil, rfl⟩, ?_, ?_,
    fun _ hsome => (by cases hsome), fun _ hsome => (by cases hsome), rfl, ?_⟩
  · unfold proposal
    repeat apply told_of_start
    decide
  · rintro held hheld
    obtain rfl := Option.some.inj hheld
    exact h
  · refine ⟨rfl, fun _ hsome => (by cases hsome), rfl, rfl,
      fun houtcome => (by cases houtcome), fun _ hreason => (by cases hreason), rfl, rfl,
      fun _ => ⟨rfl, rfl⟩, ?_, fun hsome => absurd rfl hsome⟩
    rintro (⟨houtcome, -⟩ | hreason)
    · cases houtcome
    · change RouteReason.newProposalIntent ∈ bindingReasons at hreason
      exact absurd hreason (by decide)

section

variable [HexDigest] {missionId : String} {tier : RouteTier} {used : List Binding}
  {observed : MissionObservation}

theorem fieldsSound_clarifyStale {bound : Binding} {detail : String}
    (hid : isId .mission missionId = true) (hbound : 1 ≤ bound.boundRevision)
    (htold : detail ≠ "") (hvalid : observed.validate "observation" = .ok ()) :
    FieldsSound (clarifyStale missionId bound detail (pointOf observed)) := by
  refine ⟨fun _ hsome => (by cases hsome), by simp [clarifyStale, clarify,
    maxRouteCandidates], ?_, isSorted_singleton _, htold, fun _ hsome => (by cases hsome),
    ?_, ?_, rfl, ?_⟩
  · intro candidate hcandidate
    rwa [List.mem_singleton.mp hcandidate]
  · intro revision hrevision
    rwa [← Option.some.inj hrevision]
  · intro point hpoint
    rw [← Option.some.inj hpoint]
    exact pointOf_valid (observationValid hvalid)
  · refine ⟨rfl, fun point hpoint => (by cases hpoint; rfl), rfl, rfl,
      fun houtcome => (by cases houtcome), fun _ hreason => (by cases hreason), rfl, rfl,
      fun houtcome => (by cases houtcome), fun _ => Option.some_ne_none _, ?_⟩
    exact fun _ hnil => absurd hnil (List.cons_ne_nil _ _)

theorem fieldsSound_resolvedBy (hid : isId .mission missionId = true)
    (hpositive : ∀ bound ∈ used, 1 ≤ bound.boundRevision)
    (hnamed : tier ≠ .explicitMissionId → used ≠ [])
    (hvalid : observed.validate "observation" = .ok ()) :
    FieldsSound (resolvedBy missionId tier (pointOf observed)
      (used.head?.map Binding.boundRevision)) := by
  refine ⟨?_, by simp [resolvedBy, maxRouteCandidates], ?_, isSorted_singleton _, ?_,
    fun _ hsome => (by cases hsome), headRevision_positive hpositive, ?_, rfl, ?_⟩
  · intro held hheld
    rwa [← Option.some.inj hheld]
  · intro candidate hcandidate
    rwa [List.mem_singleton.mp hcandidate]
  · unfold resolvedBy
    repeat apply told_of_start
    decide
  · intro point hpoint
    rw [← Option.some.inj hpoint]
    exact pointOf_valid (observationValid hvalid)
  · refine ⟨rfl, fun point hpoint => (by cases hpoint; rfl), rfl, rfl,
      fun _ => ⟨rfl, Option.some_ne_none _, missionId, rfl, List.mem_singleton_self _⟩,
      fun houtcome => absurd rfl houtcome, rfl, rfl, fun houtcome => (by cases houtcome),
      ?_, fun _ hnil => absurd hnil (List.cons_ne_nil _ _)⟩
    rintro (⟨-, htier⟩ | hreason)
    · have hused := hnamed fun heq => htier (congrArg some heq)
      obtain ⟨first, rest, rfl⟩ := List.exists_cons_of_ne_nil hused
      exact Option.some_ne_none _
    · change RouteReason.resolved ∈ bindingReasons at hreason
      exact absurd hreason (by decide)

theorem ResolvedAs.sound {result : FreshnessResult} {fields : Identified}
    (h : ResolvedAs missionId tier used result fields) (hid : isId .mission missionId = true)
    (hpositive : ∀ bound ∈ used, 1 ≤ bound.boundRevision)
    (hnamed : tier ≠ .explicitMissionId → used ≠ []) : FieldsSound fields := by
  cases h with
  | unread hstale hasks => exact fieldsSound_clarify hasks
  | stale hfresh hobserved hvalid hbound htold =>
      exact fieldsSound_clarifyStale hid (hpositive _ hbound) htold hvalid
  | resolved hfresh hobserved hvalid hstands =>
      exact fieldsSound_resolvedBy hid hpositive hnamed hvalid

variable {turn : InboundTurn} {bindings : Bindings} {now : Nat}

/-! ## The bindings that are consulted -/

omit [HexDigest] in
/-- A consulted binding is held, names the Mission and is active. -/
theorem Reached.held (h : Reached turn bindings now missionId tier used)
    {bound : Binding} (hbound : bound ∈ used) :
    (∃ key, bindings.get? key = some bound) ∧ bound.missionId = missionId ∧
      bound.isActive now = true := by
  cases h with
  | explicit hnamed hothers hcurrent =>
      obtain ⟨hheld, hmission, hlive⟩ := mem_matchingBindings hbound
      exact ⟨hheld, hmission, Binding.active_iff.mpr ⟨hlive, hcurrent bound hbound⟩⟩
  | named hnone hfirst hcurrent =>
      obtain rfl := List.mem_singleton.mp hbound
      have hhit : (tier, bound) ∈ hitsOf turn bindings := by
        rw [hfirst]
        exact List.mem_cons_self ..
      obtain ⟨hheld, hlive⟩ := hitsOf_held hhit
      exact ⟨hheld, rfl, Binding.active_iff.mpr ⟨hlive, hcurrent⟩⟩
  | conversation hnone hnohits honly =>
      obtain ⟨hmember, hmission⟩ := List.mem_filter.mp hbound
      obtain ⟨hheld, hin⟩ := mem_conversationBindings.mp hmember
      exact ⟨hheld, of_decide_eq_true hmission, conversation_active hin⟩

omit [HexDigest] in
/-- A tier of bindings consults one at least. -/
theorem Reached.consults (h : Reached turn bindings now missionId tier used) :
    tier ≠ .explicitMissionId → used ≠ [] := by
  intro htier
  cases h with
  | explicit hnamed hothers hcurrent => exact absurd rfl htier
  | named hnone hfirst hcurrent => exact List.cons_ne_nil _ _
  | conversation hnone hnohits honly =>
      have hmem : missionId ∈ conversationMissions bindings turn now := by
        rw [honly]
        exact List.mem_singleton_self _
      simp only [conversationMissions, mem_sortedBy, List.mem_dedup, List.mem_map]
        at hmem
      obtain ⟨bound, hbound, hmission⟩ := hmem
      exact List.ne_nil_of_mem (List.mem_filter.mpr ⟨hbound, decide_eq_true hmission⟩)

omit [HexDigest] in
theorem Reached.missionId_valid (h : Reached turn bindings now missionId tier used)
    (hbindings : BindingsValid bindings) (hturn : turn.validate "inbound" = .ok ()) :
    isId .mission missionId = true := by
  by_cases hexplicit : tier = .explicitMissionId
  · cases h with
    | explicit hnamed hothers hcurrent =>
        simp only [InboundTurn.validate, bind_eq_ok, exists_passed,
          checkOptional_eq_ok, requireId_eq_ok] at hturn
        obtain ⟨-, -, -, hids, -⟩ := hturn
        exact hids missionId hnamed
    | named hnone hfirst hcurrent =>
        have hhit := List.mem_of_mem_head? (hfirst ▸ List.head?_cons)
        obtain ⟨⟨key, hheld⟩, -⟩ := hitsOf_held hhit
        exact (hbindings.each key _ hheld).1.facts.2.1
    | conversation hnone hnohits honly => cases hexplicit
  · obtain ⟨bound, rest, rfl⟩ := List.exists_cons_of_ne_nil (h.consults hexplicit)
    obtain ⟨⟨key, hheld⟩, rfl, -⟩ := h.held (List.mem_cons_self ..)
    exact (hbindings.each key bound hheld).1.facts.2.1

theorem Decided.sound {lookup : String → Checks FreshnessResult} {fields : Identified}
    (h : Decided turn bindings lookup now fields) (hbindings : BindingsValid bindings)
    (hturn : turn.validate "inbound" = .ok ()) : FieldsSound fields := by
  cases h with
  | asked hasks => exact fieldsSound_clarify hasks
  | proposed hdigest =>
      refine fieldsSound_proposal ?_
      simp only [InboundTurn.validate, bind_eq_ok, exists_passed, requireOptionalHex_eq_ok] at hturn
      obtain ⟨-, -, -, -, -, -, -, -, -, -, hdigests⟩ := hturn
      exact hdigests _ hdigest
  | read hreached hresult hresolved =>
      refine hresolved.sound (hreached.missionId_valid hbindings hturn) ?_ hreached.consults
      intro bound hbound
      obtain ⟨⟨key, hheld⟩, -⟩ := hreached.held hbound
      exact (hbindings.each key bound hheld).1.facts.2.2.1

/-! ## The record -/

omit [HexDigest] in
theorem withLane_valid (fields : Identified) (domain : Option String) (lanes : List Lane) :
    validateLane (withLane fields domain lanes) domain "route" = .ok () := by
  simp only [validateLane, bind_eq_ok, exists_passed, failAt_eq_ok]
  cases domain with
  | none => simp [withLane, selectLane]
  | some held =>
      cases hlane : laneByDomain.lookup held with
      | none => simp [withLane, selectLane, hlane]
      | some lane =>
          by_cases hclarified : fields.outcome = .clarificationRequired
          · simp [withLane, selectLane, hlane, hclarified]
          · by_cases havailable : lane ∈ lanes
            · simp [withLane, selectLane, hlane, hclarified, havailable]
            · simp [withLane, selectLane, hlane, hclarified, havailable]

/-- A derivation with sound fields and a detail that is not too long is recorded,
under any fresh id and for any caller. -/
theorem newRouteRecord_forms {fields : Identified} {lanes : List Lane}
    {routeId : String} {context : AuthenticatedContext} (hfields : FieldsSound fields)
    (hturn : turn.validate "inbound" = .ok ())
    (hdetail : fields.detail.toList.length ≤ maxDetailChars)
    (hid : isId .route routeId = true) (hcontext : ContextValid context) :
    ∃ route, newRouteRecord routeId turn (withLane fields turn.domain lanes) now
      context = .ok route ∧ RouteValid route := by
  have hpoint : ∀ held, fields.observationPoint.map ObservationPoint.cursor =
      some held → IsCursor held := by
    intro held hheld
    obtain ⟨point, hsome, rfl⟩ := Option.map_eq_some_iff.mp hheld
    exact (hfields.point point hsome).cursor
  have hrevision : ∀ held, fields.observedRevision = some held → 1 ≤ held := by
    intro held hheld
    rw [hfields.observed] at hheld
    obtain ⟨point, hsome, rfl⟩ := Option.map_eq_some_iff.mp hheld
    exact (hfields.point point hsome).revision
  have htogether : fields.observedRevision.isNone =
      (fields.observationPoint.map ObservationPoint.cursor).isNone := by
    rw [hfields.observed, Option.isNone_map, Option.isNone_map]
  have hvalid : ProvenanceValid {
      context := context
      receivedAt := now
      observedRevision := fields.observedRevision
      observationCursor := fields.observationPoint.map ObservationPoint.cursor
      humanIdentityProof := none
      proof := proofTransportCredentialOnly } :=
    ⟨hcontext, hrevision, hpoint, htogether, rfl, rfl⟩
  have htold : fields.detail.toList ≠ [] := by
    rw [ne_eq, String.toList_eq_nil_iff]
    exact hfields.told
  let route : RouteRecord := {
    routeId := routeId
    decidedAt := now
    inbound := turn
    inboundDigestSha256 := turn.digest
    derivation := withLane fields turn.domain lanes
    provenance := {
      context := context
      receivedAt := now
      observedRevision := fields.observedRevision
      observationCursor := fields.observationPoint.map ObservationPoint.cursor
      humanIdentityProof := none
      proof := proofTransportCredentialOnly }
    authority := authorityNone }
  have hroute : RouteValid route := by
    simp only [RouteValid, validateRoute, bind_eq_ok, exists_passed, requireId_eq_ok,
      requireHex_eq_ok, failAt_eq_ok, checkOptional_eq_ok, requireCandidates_eq_ok,
      requireSorted_eq_ok, requireStr_eq_ok, requireOptionalHex_eq_ok,
      requireAtLeast_eq_ok, validateObservationPoint_eq_ok, validateProvenance_eq_ok,
      requireAuthority_eq_ok]
    refine ⟨hid, (InboundTurn.validate_eq_ok _).mpr hturn, isHex_digest _, not_not.mpr rfl,
      hfields.mission, ⟨hfields.few, hfields.missions⟩, hfields.sorted,
      ⟨htold, hdetail⟩, hfields.proposal, hfields.bound, hrevision, hfields.point,
      validateCoherence_iff.mpr hfields.coherent, withLane_valid .., hvalid, ?_, rfl⟩
    rintro (hreceived | hobserved | hcursor)
    · exact hreceived rfl
    · exact hobserved rfl
    · exact hcursor rfl
  refine ⟨route, ?_, hroute⟩
  simp only [newRouteRecord, bind_eq_ok, exists_passed, pure_eq_ok]
  exact ⟨route.provenance, provenanceRecord_eq_ok.mpr ⟨hvalid, rfl⟩, hroute, rfl⟩

end

/-! ## Every derivation -/

section

variable [HexDigest] [Wording] {stored : Option Document} {around : Surroundings}
  {turn : InboundTurn} {derivation : RouteDerivation}

/-- What holds of a derivation over a document and the answers around it. -/
structure RouteHolds (document : Document) (around : Surroundings)
    (turn : InboundTurn) (derivation : RouteDerivation) : Prop where
  resolved : derivation.outcome = .existingMission →
    ∃ missionId tier used result observed, derivation.missionId = some missionId ∧
      derivation.resolvedTier = some tier ∧
      Reached turn document.bindings around.now missionId tier used ∧
      observe document around missionId = .ok result ∧ result.freshness = .fresh ∧
      result.observation = some observed ∧
      ∀ bound ∈ used, (∃ key, document.bindings.get? key = some bound) ∧
        bound.missionId = missionId ∧ bound.isActive around.now = true ∧ StandsAt observed bound
  undisputed : derivation.outcome = .existingMission →
    derivation.resolvedTier = some .explicitMissionId ∨
      derivation.resolvedTier = some .uniqueConversationMatch →
    ∀ tier bound, (tier, bound) ∈ hitsOf turn document.bindings →
      bound.isActive around.now = true → derivation.missionId = some bound.missionId
  asks : derivation.outcome ≠ .existingMission → derivation.missionId = none ∧
    (derivation.outcome = .clarificationRequired ∨ derivation.outcome = .newProposal)
  forms : derivation.detail.toList.length ≤ maxDetailChars → ∀ routeId context,
    isId .route routeId = true → ContextValid context →
    ∃ route, newRouteRecord routeId turn derivation around.now context = .ok route ∧
      RouteValid route

omit [HexDigest] [Wording] in
theorem Reached.undisputed {tier : RouteTier} {bindings : Bindings} {bound : Binding}
    {missionId : String} {used : List Binding} {now : Nat}
    (h : Reached turn bindings now missionId tier used)
    (htier : tier = .explicitMissionId ∨ tier = .uniqueConversationMatch)
    {other : RouteTier} (hhit : (other, bound) ∈ hitsOf turn bindings)
    (hactive : bound.isActive now = true) : bound.missionId = missionId := by
  cases h with
  | explicit hnamed hothers hcurrent =>
      by_contra hne
      have hmem : bound.missionId ∈ otherMissions (hitsOf turn bindings) missionId now := by
        simp only [otherMissions, mem_sortedBy, List.mem_dedup, List.mem_map,
          List.mem_filter, decide_eq_true_eq]
        exact ⟨(other, bound), ⟨hhit, hactive, hne⟩, rfl⟩
      rw [hothers] at hmem
      cases hmem
  | @named _ first rest hnone hfirst hcurrent =>
      have hfound : (tier, first) ∈ hitsOf turn bindings := by
        rw [hfirst]
        exact List.mem_cons_self ..
      obtain ⟨selector, kind, hentry, -⟩ := mem_hitsOf hfound
      simp only [namedTiers, List.mem_filterMap, List.mem_cons, List.not_mem_nil,
        or_false, Option.map_eq_some_iff] at hentry
      obtain ⟨entry, hcases, held, -, heq⟩ := hentry
      have hsame : entry.1 = tier := congrArg Prod.fst heq
      rcases htier with rfl | rfl
      · rcases hcases with rfl | rfl | rfl | rfl | rfl | rfl | rfl <;> cases hsame
      · rcases hcases with rfl | rfl | rfl | rfl | rfl | rfl | rfl <;> cases hsame
  | conversation hnone hnohits honly =>
      rw [hnohits] at hhit
      cases hhit

/-- Over every document that a run reaches, a derivation that names a Mission read
it fresh and consulted active bindings that stand at the read; every other one asks
or proposes; and it is recorded when its detail is not too long. -/
theorem routing_sound (h : Transition.Reachable ServiceStep none stored)
    (hderive : deriveRoute turn (documentOf stored).bindings
      (observe (documentOf stored) around) around.now around.lanes = .ok derivation) :
    RouteHolds (documentOf stored) around turn derivation := by
  have hbindings := (storedKept_of_reachable h).records.bindings
  simp only [deriveRoute, bind_eq_ok, exists_passed, pure_eq_ok] at hderive
  obtain ⟨hturn, fields, hfields, rfl⟩ := hderive
  have hdecided := identity_decided hbindings hturn hfields
  have hsound := hdecided.sound hbindings hturn
  have hforms : fields.detail.toList.length ≤ maxDetailChars → ∀ routeId context,
      isId .route routeId = true → ContextValid context → ∃ route,
        newRouteRecord routeId turn (withLane fields turn.domain around.lanes)
          around.now context = .ok route ∧ RouteValid route :=
    fun hdetail routeId context hid hcontext =>
      newRouteRecord_forms hsound hturn hdetail hid hcontext
  cases hdecided with
  | asked hasks =>
      exact ⟨fun houtcome => (by cases houtcome), fun houtcome => (by cases houtcome),
        fun _ => ⟨rfl, .inl rfl⟩, hforms⟩
  | proposed hdigest =>
      exact ⟨fun houtcome => (by cases houtcome), fun houtcome => (by cases houtcome),
        fun _ => ⟨rfl, .inr rfl⟩, hforms⟩
  | read hreached hresult hresolved =>
      cases hresolved with
      | unread hstale hasks =>
          exact ⟨fun houtcome => (by cases houtcome), fun houtcome => (by cases houtcome),
            fun _ => ⟨rfl, .inl rfl⟩, hforms⟩
      | stale hfresh hobserved hvalid hbound htold =>
          exact ⟨fun houtcome => (by cases houtcome), fun houtcome => (by cases houtcome),
            fun _ => ⟨rfl, .inl rfl⟩, hforms⟩
      | resolved hfresh hobserved hvalid hstands =>
          refine ⟨fun _ => ⟨_, _, _, _, _, rfl, rfl, hreached, hresult, hfresh, hobserved,
            ?_⟩, ?_, fun houtcome => absurd rfl houtcome, hforms⟩
          · intro bound hbound
            obtain ⟨hheld, hmission, hactive⟩ := hreached.held hbound
            exact ⟨hheld, hmission, hactive, hstands bound hbound⟩
          · intro _ htier other bound hhit hactive
            have htiers := htier.imp Option.some.inj Option.some.inj
            rw [Reached.undisputed hreached htiers hhit hactive]
            rfl

end

/-! ## Sample routes -/

def sampleOtherMissionId : String := "mn-11111111111111111111111111111111"

/-- Every Mission is observed fresh. -/
def sampleReads : Surroundings :=
  { sampleSurroundings with
    answer := fun missionId => .returned (.observed
      { sampleObservation with missionId := missionId })
    minted := ["cb-00000000000000000000000000000000", "cb-11111111111111111111111111111111"] }

/-- A turn that replies to a message and names an alias. -/
def sampleTurn : InboundTurn where
  transport := "cli"
  conversationRef := "room"
  messageRef := "second"
  explicitMissionId := none
  replyToMessageRef := some "first"
  repositoryUrl := none
  issueRef := none
  projectKey := none
  aliasKey := some "web"
  intent := .followUp
  domain := none
  proposalDigestSha256 := none

set_option maxRecDepth 100000 in
/-- A turn names its Mission and nothing else. -/
theorem sampleRouting : letI := sampleHexDigest
    letI := sampleWording
    ∃ derivation ∈ (deriveRoute
      { sampleTurn with explicitMissionId := some sampleMissionId }
      (documentOf none).bindings (observe (documentOf none) sampleReads)
      sampleReads.now sampleReads.lanes).toOption,
      derivation.outcome = .existingMission := by
  decide +kernel

/-- The general theorem for that turn. -/
theorem routing_sound_named : letI := sampleHexDigest
    letI := sampleWording
    ∃ turn derivation, RouteHolds (documentOf none) sampleReads turn derivation ∧
      derivation.outcome = .existingMission := by
  let _ := sampleHexDigest
  let _ := sampleWording
  obtain ⟨derivation, hderive, houtcome⟩ := sampleRouting
  exact ⟨_, derivation, routing_sound Transition.Reachable.start
    (ok_of_mem_toOption hderive), houtcome⟩

set_option maxRecDepth 100000 in
/-- A message binding and an alias are bound to two Missions; the message wins. -/
theorem sampleDisputed : letI := sampleHexDigest
    letI := sampleWording
    ∃ first ∈ ((Operation.bind .replyToMessage "cli" (some "room") "first"
      sampleMissionId sampleContext none).cycle none sampleReads).toOption,
    ∃ second ∈ ((Operation.bind .aliasName "cli" none "web" sampleOtherMissionId
      sampleContext none).cycle first sampleReads).toOption,
    ∃ derivation ∈ (deriveRoute sampleTurn (documentOf second).bindings
      (observe (documentOf second) sampleReads) sampleReads.now
      sampleReads.lanes).toOption, derivation.outcome = .existingMission ∧
      derivation.missionId = some sampleMissionId ∧
      ∃ hit ∈ hitsOf sampleTurn (documentOf second).bindings,
        hit.2.isActive sampleReads.now = true ∧
          hit.2.missionId = sampleOtherMissionId := by
  decide +kernel

/-- Without an explicit id the first named binding decides, though an active named
one points to another Mission. -/
theorem named_context_disputed : letI := sampleHexDigest
    letI := sampleWording
    ∃ stored around turn derivation tier bound, Transition.Reachable ServiceStep none stored ∧
      deriveRoute turn (documentOf stored).bindings
        (observe (documentOf stored) around) around.now around.lanes =
          .ok derivation ∧ derivation.outcome = .existingMission ∧
      (tier, bound) ∈ hitsOf turn (documentOf stored).bindings ∧ bound.isActive around.now = true ∧
      derivation.missionId ≠ some bound.missionId := by
  let _ := sampleHexDigest
  let _ := sampleWording
  obtain ⟨first, hfirst, second, hsecond, derivation, hderive, houtcome, hmission,
    hit, hhit, hactive, hother⟩ := sampleDisputed
  have hbound : ServiceStep none first := ⟨_, sampleReads, ok_of_mem_toOption hfirst⟩
  have hagain : ServiceStep first second := ⟨_, sampleReads, ok_of_mem_toOption hsecond⟩
  refine ⟨second, sampleReads, sampleTurn, derivation, hit.1, hit.2,
    (Transition.Reachable.start.tail hbound).tail hagain, ok_of_mem_toOption hderive,
    houtcome, hhit, hactive, ?_⟩
  rw [hmission, hother]
  decide

end DodgingInfinity.Coordination
