import DodgingInfinity.Coordination.Handoff

/-!
# What the handoff validator accepts

Each validator as a proposition: what it says of a record, of the link to a
parent, and of the whole book of handoffs and rosters.
-/

namespace DodgingInfinity.Coordination

open Checked

/-! ## One record -/

def CitationValid (kind : IdPrefix) (allowed : List ReferenceLevel) (value : Citation) : Prop :=
  isId kind value.referenceId = true ∧ value.level ∈ allowed

structure CitationsValid (kind : IdPrefix) (allowed : List ReferenceLevel)
    (value : List Citation) : Prop where
  few : value.length ≤ maxReferenceList
  each : ∀ citation ∈ value, CitationValid kind allowed citation
  sorted : IsSorted (value.map Citation.referenceId)

variable {location : String} {passed : Unit}

@[simp] theorem validateCitations_eq_ok {kind : IdPrefix}
    {allowed : List ReferenceLevel} {value : List Citation} :
    validateCitations kind allowed value location = .ok passed ↔
      CitationsValid kind allowed value := by
  have heach : ∀ citation place, validateCitation kind allowed citation place =
      .ok () ↔ CitationValid kind allowed citation := by
    simp [validateCitation, CitationValid]
  simp only [validateCitations, bind_eq_ok, exists_passed,
    requireEach_eq_ok heach, requireSorted_eq_ok]
  constructor
  · rintro ⟨⟨hfew, heach⟩, hsorted⟩
    exact ⟨hfew, heach, hsorted⟩
  · rintro ⟨hfew, heach, hsorted⟩
    exact ⟨⟨hfew, heach⟩, hsorted⟩

/-- The request of a handoff is well formed. -/
structure RequestValid (request : HandoffRequest) : Prop where
  missionId : isId .mission request.missionId = true
  apart : request.source ≠ request.destination
  requestText : IsStr request.requestText maxRequestTextChars
  evidence : CitationsValid .evidence evidenceReferenceLevels request.evidenceRefs
  artifacts : CitationsValid .artifact artifactReferenceLevels request.artifactRefs
  key : IsKey request.idempotencyKey
  parent : ∀ parentId, request.parentHandoffId = some parentId → isId .handoff parentId = true

structure ContentValid [JsonDigest] (value : Handoff) : Prop where
  handoffId : isId .handoff value.handoffId = true
  request : RequestValid value.request
  revision : 1 ≤ value.revision
  proposal : IsHex value.proposalDigestSha256 64
  digestHex : IsHex value.contentDigestSha256 64
  digest : value.contentDigestSha256 = contentDigest value.request value.revision
  parentDigest : ∀ held, value.parentContentDigestSha256 = some held → IsHex held 64
  depth : value.forwardDepth ≤ maxHandoffForwardDepth
  together : value.request.parentHandoffId.isSome = value.parentContentDigestSha256.isSome
  forwarded : value.request.parentHandoffId.isSome = decide (0 < value.forwardDepth)
  notSelf : value.request.parentHandoffId ≠ some value.handoffId

variable {value : Handoff}

theorem validateHandoffContent_eq_ok [JsonDigest] :
    validateHandoffContent value location = .ok passed ↔ ContentValid value := by
  simp only [validateHandoffContent, bind_eq_ok, exists_passed, requireId_eq_ok,
    requireAtLeast_eq_ok, requireHex_eq_ok, failAt_eq_ok, requireStr_eq_ok,
    validateCitations_eq_ok, requireKey_eq_ok, checkOptional_eq_ok,
    requireOptionalHex_eq_ok, not_or, not_not, ne_eq, not_lt]
  constructor
  · rintro ⟨hid, hmission, hrevision, hproposal, hapart, htext, hevidence,
      hartifacts, hkey, hhex, hdigest, hparent, hparentHex, hdepth, ⟨htogether, hforwarded⟩, hself⟩
    exact ⟨hid, ⟨hmission, hapart, htext, hevidence, hartifacts, hkey, hparent⟩,
      hrevision, hproposal, hhex, hdigest, hparentHex, hdepth, htogether, hforwarded, hself⟩
  · intro h
    exact ⟨h.handoffId, h.request.missionId, h.revision, h.proposal,
      h.request.apart, h.request.requestText, h.request.evidence,
      h.request.artifacts, h.request.key, h.digestHex, h.digest,
      h.request.parent, h.parentDigest, h.depth, ⟨h.together, h.forwarded⟩, h.notSelf⟩

/-- One entry of a history may follow `previous`. -/
structure EntryValid (value : Handoff) (previous : Option TransitionEntry)
    (entry : TransitionEntry) : Prop where
  context : ContextValid entry.enteredBy
  point : PointValid entry.observationPoint
  later : previous ≠ none → entry.status ≠ .opened
  actor : entry.actor = actorOf value.request
    (if previous = none then .opened else entry.status)
  revision : entry.observationPoint.revision = value.revision
  proposal : entry.observationPoint.proposalDigestSha256 = value.proposalDigestSha256
  cursor : cursorNumber (entryFloor value previous).cursor ≤
    cursorNumber entry.observationPoint.cursor
  follows : followEntry value entry "" previous = .ok ()

variable {previous : Option TransitionEntry}

theorem followEntry_eq_ok {entry : TransitionEntry} :
    followEntry value entry location previous = .ok () ↔
      followEntry value entry "" previous = .ok () := by
  cases previous <;> simp [followEntry]

theorem validateEntry_eq_ok
    {next : Option TransitionEntry} {indexed : TransitionEntry × Nat} :
    validateEntry value location previous indexed = .ok next ↔
      EntryValid value previous indexed.1 ∧ next = some indexed.1 := by
  simp only [validateEntry, bind_eq_ok, exists_passed, requireContext_eq_ok,
    validateObservationPoint_eq_ok, failAt_eq_ok, followEntry_eq_ok, pure_eq_ok,
    not_or, not_not, ne_eq, not_and, not_lt]
  constructor
  · rintro ⟨hcontext, hpoint, hlater, hactor, ⟨hrevision, hproposal⟩, hcursor, hfollows, rfl⟩
    exact ⟨⟨hcontext, hpoint, hlater, hactor, hrevision, hproposal, hcursor, hfollows⟩, rfl⟩
  · rintro ⟨h, rfl⟩
    exact ⟨h.context, h.point, h.later, h.actor, ⟨h.revision, h.proposal⟩, h.cursor, h.follows, rfl⟩

/-- Each entry of a history may follow the one before it. -/
def EntriesFollow (value : Handoff) : Option TransitionEntry → List TransitionEntry → Prop
  | _, [] => True
  | previous, entry :: rest =>
      EntryValid value previous entry ∧ EntriesFollow value (some entry) rest

theorem foldEntries_eq_ok
    {entries : List TransitionEntry} {start : Nat}
    {last : Option TransitionEntry} :
    foldChecked (validateEntry value location) previous (entries.zipIdx start) =
        .ok last ↔ EntriesFollow value previous entries ∧
        last = entries.getLast?.or previous := by
  induction entries generalizing start previous with
  | nil => simp [EntriesFollow, eq_comm]
  | cons entry rest ih =>
      rw [List.zipIdx_cons, foldChecked_cons_eq_ok]
      simp only [validateEntry_eq_ok, ih, EntriesFollow]
      have hlast : (entry :: rest).getLast?.or previous =
          rest.getLast?.or (some entry) := by
        cases rest with
        | nil => simp
        | cons second others =>
            rw [List.getLast?_cons_cons,
              List.getLast?_eq_some_getLast (List.cons_ne_nil second others)]
            rfl
      rw [hlast]
      constructor
      · rintro ⟨next, ⟨hentry, rfl⟩, hrest, hnext⟩
        exact ⟨⟨hentry, hrest⟩, hnext⟩
      · rintro ⟨⟨hentry, hrest⟩, hnext⟩
        exact ⟨_, ⟨hentry, rfl⟩, hrest, hnext⟩

structure TransitionsValid (value : Handoff) : Prop where
  few : value.transitions.length ≤ maxHandoffTransitions
  some : value.transitions ≠ []
  point : PointValid value.observationPoint
  follow : EntriesFollow value none value.transitions
  status : value.transitions.getLast?.map TransitionEntry.status = .some value.status
  updated : value.transitions.getLast?.map TransitionEntry.enteredAt =
    .some value.updatedAt

theorem validateTransitions_eq_ok :
    validateTransitions value location = .ok passed ↔ TransitionsValid value := by
  simp only [validateTransitions, bind_eq_ok, exists_passed, failAt_eq_ok,
    validateObservationPoint_eq_ok, foldEntries_eq_ok, Option.or_none, not_not, ne_eq, not_lt]
  constructor
  · rintro ⟨hfew, hsome, hpoint, last, ⟨hfollow, rfl⟩, hstatus, hupdated⟩
    exact ⟨hfew, hsome, hpoint, hfollow, hstatus, hupdated⟩
  · rintro ⟨hfew, hsome, hpoint, hfollow, hstatus, hupdated⟩
    exact ⟨hfew, hsome, hpoint, _, ⟨hfollow, rfl⟩, hstatus, hupdated⟩

structure BoundTo (value : Handoff) : Prop where
  revision : value.observationPoint.revision = value.revision
  proposal : value.observationPoint.proposalDigestSha256 = value.proposalDigestSha256
  provenance : ProvenanceValid value.provenance
  received : value.provenance.receivedAt = value.createdAt
  observedRevision : value.provenance.observedRevision = some value.revision
  observedCursor : value.provenance.observationCursor = some value.observationPoint.cursor
  transfers : value.transfers = transfersContextAndRequestOnly
  authority : value.authority = authorityNone

theorem validateBindingOf_eq_ok :
    validateBindingOf value location = .ok passed ↔ BoundTo value := by
  simp only [validateBindingOf, bind_eq_ok, exists_passed, failAt_eq_ok,
    validateProvenance_eq_ok, requireAuthority_eq_ok, not_or, not_not, ne_eq]
  constructor
  · rintro ⟨⟨hrevision, hproposal⟩, hprovenance, ⟨hreceived, hobserved, hcursor⟩,
      htransfers, hauthority⟩
    exact ⟨hrevision, hproposal, hprovenance, hreceived, hobserved, hcursor, htransfers, hauthority⟩
  · intro h
    exact ⟨⟨h.revision, h.proposal⟩, h.provenance,
      ⟨h.received, h.observedRevision, h.observedCursor⟩, h.transfers, h.authority⟩

structure HandoffValid [JsonDigest] (value : Handoff) : Prop where
  content : ContentValid value
  history : TransitionsValid value
  bound : BoundTo value

theorem validateHandoff_eq_ok [JsonDigest] :
    validateHandoff value location = .ok passed ↔ HandoffValid value := by
  simp only [validateHandoff, bind_eq_ok, exists_passed,
    validateHandoffContent_eq_ok, validateTransitions_eq_ok, validateBindingOf_eq_ok]
  constructor
  · rintro ⟨hcontent, hhistory, hbound⟩
    exact ⟨hcontent, hhistory, hbound⟩
  · rintro ⟨hcontent, hhistory, hbound⟩
    exact ⟨hcontent, hhistory, hbound⟩

/-! ## Links, rosters and the book -/

/-- A handoff forwards exactly what its parent was addressed with. -/
structure LinkValid (handoffs : Dict String Handoff) (value parent : Handoff)
    (parentId : String) : Prop where
  held : handoffs.get? parentId = some parent
  mission : parent.request.missionId = value.request.missionId
  content : value.parentContentDigestSha256 = some parent.contentDigestSha256
  continuity : value.request.source = parent.request.destination
  revision : parent.revision = value.revision
  proposal : parent.proposalDigestSha256 = value.proposalDigestSha256
  depth : value.forwardDepth = parent.forwardDepth + 1
  onward : ∃ upstream, chainParticipants handoffs parentId = .ok upstream ∧
    value.request.destination ∉ upstream

theorem requireLink_eq_ok [JsonDigest]
    {handoffs : Dict String Handoff} : requireLink handoffs value location = .ok passed ↔
      ∀ parentId, value.request.parentHandoffId = some parentId →
        ∃ parent, LinkValid handoffs value parent parentId := by
  rw [requireLink, checkOptional_eq_ok]
  refine forall_congr' fun parentId => imp_congr_right fun _ => ?_
  simp only [requireLinkTo, bind_eq_ok, exists_passed, orFailAt_eq_ok,
    failAt_eq_ok, not_or, not_not, ne_eq]
  constructor
  · rintro ⟨parent, hheld, hmission, hcontent, hcontinuity, ⟨hrevision, hproposal⟩, hdepth, honward⟩
    exact ⟨parent, hheld, hmission, hcontent, hcontinuity, hrevision, hproposal, hdepth, honward⟩
  · rintro ⟨parent, h⟩
    exact ⟨parent, h.held, h.mission, h.content, h.continuity,
      ⟨h.revision, h.proposal⟩, h.depth, h.onward⟩

structure RosterValid (value : Roster) : Prop where
  missionId : isId .mission value.missionId = true
  few : value.participants.length ≤ maxParticipantsPerMission
  sorted : IsSorted (value.participants.map Participant.text)
  some : value.participants ≠ []
  revision : 1 ≤ value.revision
  registeredBy : ContextValid value.registeredBy
  point : PointValid value.observationPoint
  same : value.observationPoint.revision = value.revision
  authority : value.authority = authorityNone

theorem validateRoster_eq_ok {value : Roster} :
    validateRoster value location = .ok passed ↔ RosterValid value := by
  simp only [validateRoster, bind_eq_ok, exists_passed, requireId_eq_ok,
    failAt_eq_ok, requireSorted_eq_ok, requireAtLeast_eq_ok,
    requireContext_eq_ok, validateObservationPoint_eq_ok,
    requireAuthority_eq_ok, not_not, ne_eq, not_lt]
  constructor
  · rintro ⟨hid, hfew, hsorted, hsome, hrevision, hcontext, hpoint, hsame, hauthority⟩
    exact ⟨hid, hfew, hsorted, hsome, hrevision, hcontext, hpoint, hsame, hauthority⟩
  · rintro ⟨hid, hfew, hsorted, hsome, hrevision, hcontext, hpoint, hsame, hauthority⟩
    exact ⟨hid, hfew, hsorted, hsome, hrevision, hcontext, hpoint, hsame, hauthority⟩

def Eligible (book : HandoffBook) (missionId : String) (participant : Participant) : Prop :=
  ∃ roster, book.participants.get? missionId = some roster ∧ participant ∈ roster.participants

@[simp] theorem requireEligible_eq_ok {book : HandoffBook} {missionId : String}
    {participant : Participant} :
    requireEligible book missionId participant location = .ok passed ↔
      Eligible book missionId participant := by
  simp [requireEligible, Eligible]

/-- What every document's handoffs and rosters keep. -/
structure BookValid [JsonDigest] (book : HandoffBook) : Prop where
  rosters : ∀ key roster, book.participants.get? key = some roster →
    RosterValid roster ∧ roster.missionId = key
  each : ∀ key value, book.handoffs.get? key = some value →
    HandoffValid value ∧ value.handoffId = key ∧
      Eligible book value.request.missionId value.request.source ∧
      Eligible book value.request.missionId value.request.destination
  keyed : ∀ key value other held, book.handoffs.get? key = some value →
    book.handoffs.get? other = some held → value.request.missionId = held.request.missionId →
    value.request.idempotencyKey = held.request.idempotencyKey → key = other
  live : ∀ key value other held, book.handoffs.get? key = some value →
    book.handoffs.get? other = some held → value.isLive = true →
    held.isLive = true → value.request.missionId = held.request.missionId →
    value.contentDigestSha256 = held.contentDigestSha256 → key = other
  linked : ∀ key value, book.handoffs.get? key = some value →
    ∀ parentId, value.request.parentHandoffId = some parentId →
      ∃ parent, LinkValid book.handoffs value parent parentId

section

variable [JsonDigest]

variable {passed : Unit}

omit [JsonDigest] in
theorem validateRosters_eq_ok
    {participants : Dict String Roster} : validateRosters participants = .ok passed ↔
      ∀ key roster, participants.get? key = some roster →
        RosterValid roster ∧ roster.missionId = key := by
  simp only [validateRosters, checkAll_eq_ok, bind_eq_ok, exists_passed,
    validateRoster_eq_ok, failAt_eq_ok, not_not, ne_eq, Prod.forall, mem_byId]

theorem validateHeldHandoff_distinguishes (book : HandoffBook) :
    Distinguishes (validateHeldHandoff book)
      (fun entry => HandoffValid entry.2 ∧ entry.2.handoffId = entry.1 ∧
        Eligible book entry.2.request.missionId entry.2.request.source ∧
        Eligible book entry.2.request.missionId entry.2.request.destination)
      (fun _ => true)
      fun entry => (entry.2.request.missionId, entry.2.request.idempotencyKey) := by
  intro keys entry next
  simp only [validateHeldHandoff, bind_eq_ok, exists_passed,
    validateHandoff_eq_ok, failAt_eq_ok, requireEligible_eq_ok, pure_eq_ok,
    not_not, ne_eq, true_implies, if_true]
  constructor
  · rintro ⟨hvalid, hid, hnew, hsource, hdestination, rfl⟩
    exact ⟨⟨hvalid, hid, hsource, hdestination⟩, hnew, rfl⟩
  · rintro ⟨⟨hvalid, hid, hsource, hdestination⟩, hnew, rfl⟩
    exact ⟨hvalid, hid, hnew, hsource, hdestination, rfl⟩

omit [JsonDigest] in
theorem validateLive_distinguishes :
    Distinguishes validateLive (fun _ => True) (fun entry => entry.2.isLive)
      fun entry => (entry.2.request.missionId, entry.2.contentDigestSha256) := by
  intro live entry next
  simp only [validateLive, bind_eq_ok, exists_passed, failAt_eq_ok, not_and, pure_eq_ok, true_and]
  exact and_congr_right' eq_comm

theorem validateHandoffs_eq_ok {book : HandoffBook} :
    validateHandoffs book = .ok passed ↔ BookValid book := by
  have hheld := walkDistinct_eq_ok (validateHeldHandoff_distinguishes book)
    (nodup_byId book.handoffs)
  have hlive := walkDistinct_eq_ok validateLive_distinguishes (nodup_byId book.handoffs)
  simp only [Prod.forall, mem_byId, Prod.mk.injEq, true_implies, and_imp,
    implies_true, true_and] at hheld hlive
  simp only [validateHandoffs, bind_eq_ok, exists_passed, validateRosters_eq_ok,
    checkAll_eq_ok, requireLink_eq_ok, Prod.forall, mem_byId]
  constructor
  · rintro ⟨hrosters, keys, hkeys, live, hlives, hlinked⟩
    obtain ⟨heach, hkeyed⟩ := hheld.mp ⟨keys, hkeys⟩
    have halive := hlive.mp ⟨live, hlives⟩
    exact {
      rosters := hrosters
      each := heach
      keyed := fun key value other held hvalue hother hmission hkey =>
        (hkeyed key value hvalue other held hother hmission hkey).1
      live := fun key value other held hvalue hother hlive hheld hmission hdigest =>
        (halive key value hvalue other held hother hlive hheld hmission hdigest).1
      linked := hlinked }
  · intro h
    have hsame : ∀ key value other held, book.handoffs.get? key = some value →
        book.handoffs.get? other = some held → key = other →
        key = other ∧ value = held := by
      rintro key value other held hvalue hother rfl
      exact ⟨rfl, Option.some.inj (hvalue.symm.trans hother)⟩
    obtain ⟨keys, hkeys⟩ := hheld.mpr ⟨h.each,
      fun key value hvalue other held hother hmission hkey =>
        hsame key value other held hvalue hother
          (h.keyed key value other held hvalue hother hmission hkey)⟩
    obtain ⟨live, hlives⟩ := hlive.mpr
      fun key value hvalue other held hother hlive hheld hmission hdigest =>
        hsame key value other held hvalue hother
          (h.live key value other held hvalue hother hlive hheld hmission hdigest)
    exact ⟨h.rosters, keys, hkeys, live, hlives, h.linked⟩

end

end DodgingInfinity.Coordination
