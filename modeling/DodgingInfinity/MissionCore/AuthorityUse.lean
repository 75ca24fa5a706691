import DodgingInfinity.MissionCore.Replay

/-!
# What a valid use of an authorization rests on

The one validation path answers from any document whatsoever.  A valid answer
leaves nothing to trust: the last decision of the named Mission approved
exactly this revision, this digest and at least this scope.
-/

namespace DodgingInfinity.MissionCore

open Checked

section

variable [JsonDigest]

/-- What a passed check has established, in the source's order. -/
structure UseChecked (document : Document) (authorizationId missionId : String)
    (revision now : Int) (requiredActions : List String)
    (requiredDeliveryTarget expectedProposalDigest : Option String)
    (mission : Mission) (authorization : Authorization) : Prop where
  mission_held : document.missions.get? missionId = some mission
  mission_valid : validateMissionBody mission "mission" = .ok ()
  authorization_held : document.authorizations.get? authorizationId = some authorization
  authorization_valid : validateAuthorizationRecord authorization "authorization" = .ok ()
  binds : authorization.missionId = missionId
  listed : authorizationId ∈ mission.authorizationIds
  registry : reconcileRegistry document = .ok ()
  history : reconcileMissionHistory document mission = .ok ()
  unrevoked : authorization.revocation = none
  revision_eq : (authorization.revision : Int) = revision
  current : (mission.currentRevision : Int) = revision
  digest : (mission.revisionEntry revision).map
    RevisionEntry.proposalDigestSha256 = some authorization.proposalDigestSha256
  expected : ∀ digest, expectedProposalDigest = some digest →
    digest = authorization.proposalDigestSha256
  state : mission.state = .authorized
  unexpired : ∀ expires, authorization.expiresAt = some expires → now < (expires : Int)
  actions : ∀ action ∈ requiredActions,
    action ∈ authorization.authorizedActionScope.map ActionScope.text
  target : ∀ target, requiredDeliveryTarget = some target →
    target ∈ authorization.authorizedDeliveryTargets.map DeliveryTarget.text

variable {document : Document} {authorizationId missionId : String}
  {revision now : Int} {requiredActions : List String}
  {requiredDeliveryTarget expectedProposalDigest : Option String}
  {mission : Mission} {authorization : Authorization}

theorem resolveAuthority_eq_ok : resolveAuthority document authorizationId missionId =
        .ok (mission, authorization) ↔ idProblem missionId .mission = none ∧
        document.missions.get? missionId = some mission ∧
        validateMissionBody mission "mission" = .ok () ∧
        idProblem authorizationId .authorization = none ∧
        document.authorizations.get? authorizationId = some authorization ∧
        validateAuthorizationRecord authorization "authorization" = .ok () := by
  simp only [resolveAuthority, bind_eq_ok, exists_passed, Checked.failIf_eq_ok,
    Checked.orFail_eq_ok, refuseAs_eq_ok, validateMissionRecord_eq_ok,
    pure_eq_ok, Prod.mk.injEq, not_not, ne_eq]
  constructor
  · rintro ⟨hid, held, hheld, hvalid, hgrammar, record, hrecord, hchecked, rfl, rfl⟩
    exact ⟨hid, hheld, hvalid, hgrammar, hrecord, hchecked⟩
  · rintro ⟨hid, hheld, hvalid, hgrammar, hrecord, hchecked⟩
    exact ⟨hid, mission, hheld, hvalid, hgrammar, authorization, hrecord, hchecked, rfl, rfl⟩

/-- A passed check, inverted. -/
theorem useChecked_of_ok (h : checkAuthorizationUse document authorizationId missionId revision now
      requiredActions requiredDeliveryTarget expectedProposalDigest =
        .ok authorization) : ∃ mission, UseChecked document authorizationId missionId revision now
      requiredActions requiredDeliveryTarget expectedProposalDigest mission
      authorization := by
  simp only [checkAuthorizationUse, bind_eq_ok, exists_passed, Prod.exists,
    Checked.failIf_eq_ok, refuseAs_eq_ok, pure_eq_ok, not_not, ne_eq,
    not_exists, not_and, ge_iff_le, not_le] at h
  obtain ⟨mission, record, hresolved, hbinds, hlisted, hregistry, hhistory,
    hunrevoked, hrevision, hcurrent, hdigest, hexpected, -, hstate, hunexpired,
    hactions, htarget, rfl⟩ := h
  obtain ⟨-, hheld, hvalid, -, hrecord, hchecked⟩ :=
    resolveAuthority_eq_ok.mp hresolved
  exact ⟨mission, {
    mission_held := hheld
    mission_valid := hvalid
    authorization_held := hrecord
    authorization_valid := hchecked
    binds := hbinds
    listed := hlisted
    registry := hregistry
    history := hhistory
    unrevoked := hunrevoked
    revision_eq := hrevision
    current := hcurrent
    digest := hdigest
    expected := hexpected
    state := hstate
    unexpired := hunexpired
    actions := hactions
    target := htarget }⟩

theorem useChecked_of_valid
    (h : (validateAuthorizationUse document authorizationId missionId revision
      now requiredActions requiredDeliveryTarget
      expectedProposalDigest).valid = true) :
    ∃ mission authorization, UseChecked document authorizationId missionId
      revision now requiredActions requiredDeliveryTarget
      expectedProposalDigest mission authorization := by
  unfold validateAuthorizationUse at h
  split at h
  · rename_i authorization hok
    obtain ⟨mission, hchecked⟩ := useChecked_of_ok hok
    exact ⟨mission, authorization, hchecked⟩
  · simp at h

/-- What the last decision of a Mission must be for a use of its authorization
to be valid. -/
structure ApprovesUse (mission : Mission) (revision now : Int)
    (requiredActions : List String) (requiredDeliveryTarget : Option String)
    (decision : DecisionRecord) (entry : RevisionEntry) : Prop where
  approves : decision.decision = .approve
  revision_eq : (decision.revision : Int) = revision
  stored : mission.revisionEntry revision = some entry
  digest : decision.outcome.proposalDigestSha256 = entry.proposalDigestSha256
  actions : ∃ approved, decision.approvedActionScope = some approved ∧
    requiredActions ⊆ approved.map ActionScope.text ∧ approved ⊆ entry.proposal.requestedActionScope
  target : ∀ target, requiredDeliveryTarget = some target →
    ∃ approved, decision.approvedDeliveryTargets = some approved ∧
      target ∈ approved.map DeliveryTarget.text ∧
      entry.proposal.requestedDeliveryTarget.map DeliveryTarget.text = some target
  unexpired : ∀ expires, decision.expiresAt = some expires → now < (expires : Int)

/-- A checked use rests on the approval its history ends with. -/
theorem UseChecked.approved (h : UseChecked document authorizationId missionId revision now
      requiredActions requiredDeliveryTarget expectedProposalDigest mission
      authorization) : ∃ earlier decision entry, mission.decisions = earlier ++ [decision] ∧
      ApprovesUse mission revision now requiredActions requiredDeliveryTarget
        decision entry := by
  obtain ⟨-, replay, -, -, hreplay, hreplayed⟩ :=
    (reconcileMissionHistory_eq_ok ..).mp h.history
  obtain ⟨-, -, decision, hlast, happroved⟩ :=
    hreplayed.live (replayHistory_inv hreplay) h.listed h.authorization_held h.unrevoked
  obtain ⟨earlier, hdecisions⟩ :=
    List.getLast?_eq_some_iff.mp hlast
  obtain ⟨-, -, -, -, entry, hentry, houtcome⟩ :=
    outcome_of_replayHistory hreplay hdecisions
  have hrevision : (replay.revision : Int) = revision := by
    rw [hreplayed.revision, h.current]
  -- The entry the use names is the one the replay approved.
  obtain ⟨stored, hstored, -⟩ := Option.map_eq_some_iff.mp h.digest
  have hsame : stored = entry := by
    rw [← hrevision] at hstored
    exact Option.some.inj ((Mission.revisionEntry_natCast hstored).symm.trans hentry)
  subst hsame
  obtain ⟨held, approved, hheld, happrovedEntry, hrequested, hagrees⟩ :=
    happroved.issued
  obtain rfl := Option.some.inj (h.authorization_held.symm.trans hheld)
  obtain rfl := Option.some.inj (hentry.symm.trans happrovedEntry)
  obtain ⟨actions, targets, hactions, htargets, hwithin, hwithinTargets⟩ :=
    (requireRequested_eq_ok ..).mp hrequested
  obtain ⟨-, -, -, hscope, hdelivery, hexpires, -, -⟩ :=
    (authorizationAgrees_eq_ok ..).mp hagrees
  rw [hactions, Option.some.injEq] at hscope
  rw [htargets, Option.some.injEq] at hdelivery
  refine ⟨earlier, decision, stored, hdecisions, {
    approves := happroved.approves
    revision_eq := by rw [happroved.revision_eq, hrevision]
    stored := hstored
    digest := houtcome
    actions := ⟨actions, hactions, fun action haction => hscope ▸ h.actions action haction, hwithin⟩
    target := fun target htarget => ?_
    unexpired := fun expires hexpiry =>
      h.unexpired expires (hexpires.trans hexpiry) }⟩
  have hmem := h.target target htarget
  rw [hdelivery] at hmem
  refine ⟨targets, htargets, hmem, ?_⟩
  obtain ⟨delivery, hheldTarget, rfl⟩ := List.mem_map.mp hmem
  have hasked := hwithinTargets hheldTarget
  rw [Option.mem_toList] at hasked
  rw [hasked, Option.map_some]

/-- Whenever the one validation path answers valid, on any document, the last
decision of the named Mission approved exactly this use. -/
theorem validateAuthorizationUse_sound (document : Document)
    (authorizationId missionId : String) (revision now : Int) (requiredActions : List String)
    (requiredDeliveryTarget expectedProposalDigest : Option String)
    (h : (validateAuthorizationUse document authorizationId missionId revision
      now requiredActions requiredDeliveryTarget
      expectedProposalDigest).valid = true) : ∃ mission authorization,
      document.missions.get? missionId = some mission ∧
      document.authorizations.get? authorizationId = some authorization ∧
      mission.state = .authorized ∧ authorization.revocation = none ∧
      ∃ earlier decision entry, mission.decisions = earlier ++ [decision] ∧
        ApprovesUse mission revision now requiredActions
          requiredDeliveryTarget decision entry := by
  obtain ⟨mission, authorization, hchecked⟩ := useChecked_of_valid h
  exact ⟨mission, authorization, hchecked.mission_held,
    hchecked.authorization_held, hchecked.state, hchecked.unrevoked, hchecked.approved⟩

end

/-! ## A read-only Mission, approved -/

/-- The SHA-256 of the three values the sample below digests. -/
@[reducible]
def sampleDigest : JsonDigest where
  jsonDigest
    | .object (("objective", _) :: _) =>
        "a8d8b2beca5f99ca7f997728688555a7cd832731962de8434ac78742126f5c62"
    | .object (("mission_id", _) :: _) =>
        "c392a254239e06bc219d07216f6edd5f7d2bfc05988bb9ec3e131805eb8a3e70"
    | .object (("authorization_id", _) :: _) =>
        "45b71fcd2592ca4db7b1ba4aa96b46fbf9033a9f60052273bc5dd97553e02693"
    | _ => ""

def sampleContext : ContextFields where
  transport := "http"
  principalKind := .localProcessUser
  principalRef := "uid"
  configuredSubject := none

def sampleProvenance (receivedAt : Nat) (kind : ReferenceKind)
    (referenceId : String) : Provenance where
  context := sampleContext
  receivedAt := receivedAt
  referenceKind := kind
  referenceId := referenceId
  missionId := "mn-00000000000000000000000000000001"
  revision := 1
  humanIdentityProof := none
  proof := .transportCredentialOnly

def sampleRevision : RevisionEntry where
  revision := 1
  proposal := {
    objective := "list the open issues"
    targetContext := ""
    repositoryUrl := none
    requestedScope := "read only"
    requestedActionScope := [.repositoryRead]
    requestedDeliveryTarget := none
    proofContract := none }
  proposalDigestSha256 :=
    "a8d8b2beca5f99ca7f997728688555a7cd832731962de8434ac78742126f5c62"
  createdAt := 1
  provenance := sampleProvenance 1 .request "mq-00000000000000000000000000000001"

def sampleDecision : DecisionRecord where
  decisionId := "md-00000000000000000000000000000001"
  missionId := "mn-00000000000000000000000000000001"
  revision := 1
  decision := .approve
  approvedActionScope := some [.repositoryRead]
  approvedDeliveryTargets := some []
  expiresAt := none
  proposalDigestSha256 := none
  provenance := sampleProvenance 2 .decision "md-00000000000000000000000000000001"
  receivedAt := 2
  decidedAt := 2
  decisionDigestSha256 :=
    "c392a254239e06bc219d07216f6edd5f7d2bfc05988bb9ec3e131805eb8a3e70"
  outcome := {
    resultingState := .authorized
    resultingRevision := 1
    proposalDigestSha256 :=
      "a8d8b2beca5f99ca7f997728688555a7cd832731962de8434ac78742126f5c62"
    authorizationId := some "ma-00000000000000000000000000000001"
    invalidatedAuthorizationIds := [] }
  reason := none

def sampleMission : Mission where
  schemaVersion := 1
  missionId := "mn-00000000000000000000000000000001"
  requestId := "mq-00000000000000000000000000000001"
  createdAt := 1
  updatedAt := 2
  state := .authorized
  currentRevision := 1
  revisions := [sampleRevision]
  decisions := [sampleDecision]
  authorizationIds := ["ma-00000000000000000000000000000001"]
  withdrawal := none
  withdrawalKeyDigestSha256 := none
  withdrawalKeyExpiresAt := none
  run := none
  lifecycle := none

def sampleAuthorization : Authorization where
  authorizationId := "ma-00000000000000000000000000000001"
  missionId := "mn-00000000000000000000000000000001"
  revision := 1
  proposalDigestSha256 :=
    "a8d8b2beca5f99ca7f997728688555a7cd832731962de8434ac78742126f5c62"
  humanPrincipal :=
    sampleProvenance 2 .decision "md-00000000000000000000000000000001"
  authorizedActionScope := [.repositoryRead]
  authorizedDeliveryTargets := []
  issuedAt := 2
  expiresAt := none
  revocation := none
  authorizationDigestSha256 :=
    "45b71fcd2592ca4db7b1ba4aa96b46fbf9033a9f60052273bc5dd97553e02693"

def sampleReservation (kind : ReferenceKind) (consumedBy : String) :
    Reservation where
  reservedAt := 1
  kind := kind
  context := sampleContext
  consumedBy := some consumedBy

/-- One Mission, its approval and the authority the approval issued. -/
def sampleDocument : Document where
  missions := Dict.empty.set "mn-00000000000000000000000000000001" sampleMission
  authorizations := Dict.empty.set "ma-00000000000000000000000000000001" sampleAuthorization
  authorityLedger := [{
    entryId := "ml-00000000000000000000000000000001"
    kind := .issued
    recordedAt := 2
    missionId := "mn-00000000000000000000000000000001"
    revision := 1
    authorizationId := some "ma-00000000000000000000000000000001"
    decisionId := some "md-00000000000000000000000000000001"
    reason := "approved by human decision" }]
  reservations :=
    (Dict.empty.set "mq-00000000000000000000000000000001"
      (sampleReservation .request "mn-00000000000000000000000000000001")).set
        "md-00000000000000000000000000000001"
        (sampleReservation .decision "md-00000000000000000000000000000001")
  missionState := .empty

theorem validateAuthorizationUse_sound_sample : letI := sampleDigest
    ∃ mission authorization, sampleDocument.missions.get? "mn-00000000000000000000000000000001" =
        some mission ∧ sampleDocument.authorizations.get?
        "ma-00000000000000000000000000000001" = some authorization ∧ mission.state = .authorized ∧
      authorization.revocation = none ∧
      ∃ earlier decision entry, mission.decisions = earlier ++ [decision] ∧
        ApprovesUse mission 1 3 ["repository_read"] none decision entry :=
  letI := sampleDigest
  validateAuthorizationUse_sound sampleDocument "ma-00000000000000000000000000000001"
    "mn-00000000000000000000000000000001" 1 3 ["repository_read"] none none
    (by decide +kernel)

end DodgingInfinity.MissionCore
