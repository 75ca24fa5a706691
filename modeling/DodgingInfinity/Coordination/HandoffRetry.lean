import DodgingInfinity.Coordination.HandoffKept

/-!
# Retried handoff creations

A creation that is repeated with its own arguments builds a candidate with the
stored record's content, so the only check that can still part the two is the
one on the parent's status, which comes before the stored record is looked up.
-/

namespace DodgingInfinity.Coordination

open Checked

/-- One operation under some classified observation and clock. -/
def HandoffStep [JsonDigest] (book next : HandoffBook) : Prop :=
  ∃ (operation : HandoffOperation) (result : FreshnessResult) (now : Nat),
    operation.perform book result now = .ok next

section

variable [JsonDigest] {book : HandoffBook}

theorem bookValid_of_reachable (h : Transition.Reachable HandoffStep HandoffBook.empty book) :
    BookValid book := by
  refine h.invariant bookValid_empty fun before next hbefore hstep => ?_
  obtain ⟨operation, result, now, hperform⟩ := hstep
  exact hbefore.changed (operation.changes hperform)

/-- The chain of every handoff of a valid book is short, and nobody occurs on it
twice. -/
theorem BookValid.chained (h : BookValid book) {key : String} {value : Handoff}
    (hheld : book.handoffs.get? key = some value) :
    ∃ path participants, chain book.handoffs key = .ok path ∧
      path.length ≤ maxHandoffForwardDepth + 1 ∧
      chainParticipants book.handoffs key = .ok participants ∧
      participants.Nodup := by
  obtain ⟨up, hup⟩ := h.wellFormed hheld rfl
  have hdepth := (h.each key value hheld).1.content.depth
  refine ⟨up, _, hup.chain_eq hdepth hup.path, ?_, hup.participants_eq hdepth, hup.participants⟩
  rw [hup.length]
  exact Nat.succ_le_succ hdepth

end

/-! ## The retried call -/

/-- The observed revision and proposal are those of the stored record, and its
citations are still proven. -/
structure StillHolds [JsonDigest] (value : Handoff) (result : FreshnessResult)
    (observed : MissionObservation) : Prop where
  fresh : result.freshness = .fresh
  held : result.observation = some observed
  valid : observed.validate "observation" = .ok ()
  own : observed.missionId = value.request.missionId
  revision : observed.currentRevision = value.revision
  proposal : observed.proposalDigestSha256 = value.proposalDigestSha256
  cited : requireCitationsProven observed value.request "handoff" = .ok ()

/-- The parent of a handoff may still be forwarded. -/
def ParentForwardable (book : HandoffBook) (value : Handoff) : Prop :=
  ∀ parentId parent, value.request.parentHandoffId = some parentId →
    book.handoffs.get? parentId = some parent → parent.status ∈ HandoffStatus.forwardable

section

variable [HexDigest] {book : HandoffBook}

variable {key : String} {value : Handoff}

/-- The forward that a stored handoff was made as. -/
theorem BookValid.forwardOf_eq_ok (h : BookValid book) (hheld : book.handoffs.get? key = some value)
    {forward : Option String × Nat} :
    forwardOf book.handoffs value.request.parentHandoffId = .ok forward ↔
      ParentForwardable book value ∧
        forward = (value.parentContentDigestSha256, value.forwardDepth) := by
  have hcontent := (h.each key value hheld).1.content
  cases hparent : value.request.parentHandoffId with
  | none =>
      have htogether := hcontent.together
      have hforwarded := hcontent.forwarded
      rw [hparent] at htogether hforwarded
      have hnone : value.parentContentDigestSha256 = none := by
        simpa using htogether.symm
      have hzero : value.forwardDepth = 0 := by
        simpa using hforwarded.symm
      rw [forwardOf, Except.ok.injEq, hnone, hzero]
      constructor
      · rintro rfl
        refine ⟨fun parentId parent hother => ?_, rfl⟩
        rw [hparent] at hother
        cases hother
      · rintro ⟨-, rfl⟩
        rfl
  | some parentId =>
      obtain ⟨parent, hlink⟩ := h.linked key value hheld parentId hparent
      have hdepth : parent.forwardDepth + 1 ≤ maxHandoffForwardDepth := by
        rw [← hlink.depth]
        exact hcontent.depth
      simp only [forwardOf, bind_eq_ok, exists_passed, orFailAt_eq_ok,
        failAt_eq_ok, pure_eq_ok, not_not, not_lt, hlink.held, Option.some.injEq]
      constructor
      · rintro ⟨held, rfl, hforwardable, -, rfl⟩
        refine ⟨fun other found hother hfound => ?_, ?_⟩
        · obtain rfl := Option.some.inj (hparent.symm.trans hother)
          obtain rfl := Option.some.inj (hlink.held.symm.trans hfound)
          exact hforwardable
        · rw [hlink.content, hlink.depth]
      · rintro ⟨hforwardable, rfl⟩
        refine ⟨parent, rfl, hforwardable parentId parent hparent hlink.held, hdepth, ?_⟩
        rw [hlink.content, hlink.depth]

/-- The candidate that a retry builds. -/
def retryOf (value : Handoff) (observed : MissionObservation) (now : Nat)
    (provenance : Provenance) : Handoff :=
  newHandoff value.handoffId value.request (pointOf observed)
    (value.parentContentDigestSha256, value.forwardDepth) now
    value.provenance.context provenance

variable {result : FreshnessResult}

theorem retryOf_content
    {observed : MissionObservation} (hvalid : HandoffValid value)
    (hholds : StillHolds value result observed) (now : Nat) (provenance : Provenance) :
    (retryOf value observed now provenance).contentDigestSha256 =
      value.contentDigestSha256 := by
  rw [hvalid.content.digest, ← hholds.revision]
  rfl

/-- The provenance of a retry. -/
def retryProvenance (value : Handoff) (observed : MissionObservation)
    (now : Nat) : Provenance where
  context := value.provenance.context
  receivedAt := now
  observedRevision := some observed.currentRevision
  observationCursor := some observed.stateCursor
  humanIdentityProof := none
  proof := proofTransportCredentialOnly

theorem retryProvenance_valid {observed : MissionObservation}
    (hvalid : HandoffValid value) (hobserved : ObservationValid observed)
    (now : Nat) : ProvenanceValid (retryProvenance value observed now) where
  context := hvalid.bound.provenance.context
  observedRevision := by
    rintro held hheld
    cases hheld
    exact hobserved.revision
  observationCursor := by
    rintro held hheld
    cases hheld
    exact hobserved.cursor
  together := rfl
  humanIdentityProof := rfl
  proof := rfl

theorem retryOf_valid
    {observed : MissionObservation} (hvalid : HandoffValid value)
    (hholds : StillHolds value result observed) (now : Nat) :
    HandoffValid (retryOf value observed now (retryProvenance value observed now)) := by
  have hobserved := observationValid hholds.valid
  have hpoint := pointOf_valid hobserved
  refine ⟨?_, ?_, ?_⟩
  · exact {
      handoffId := hvalid.content.handoffId
      request := hvalid.content.request
      revision := hobserved.revision
      proposal := hobserved.proposal
      digestHex := isHex_digest _
      digest := rfl
      parentDigest := hvalid.content.parentDigest
      depth := hvalid.content.depth
      together := hvalid.content.together
      forwarded := hvalid.content.forwarded
      notSelf := hvalid.content.notSelf }
  · have hentry : EntryValid (retryOf value observed now (retryProvenance value observed now)) none
        (transitionEntry .opened now value.request.source
          value.provenance.context (pointOf observed)) := {
      context := hvalid.bound.provenance.context
      point := hpoint
      later := fun hnone => absurd rfl hnone
      actor := rfl
      revision := rfl
      proposal := rfl
      cursor := le_refl _
      follows := by
        simp [followEntry, transitionEntry, retryOf, newHandoff] }
    exact {
      few := by simp [retryOf, newHandoff, maxHandoffTransitions]
      some := List.cons_ne_nil _ _
      point := hpoint
      follow := ⟨hentry, trivial⟩
      status := rfl
      updated := rfl }
  · exact {
      revision := rfl
      proposal := rfl
      provenance := retryProvenance_valid hvalid hobserved now
      received := rfl
      observedRevision := rfl
      observedCursor := rfl
      transfers := rfl
      authority := rfl }

omit [HexDigest] in
/-- The holder of a stored request's idempotency key is the stored record. -/
theorem BookValid.keyHolder_eq [JsonDigest] (h : BookValid book)
    (hheld : book.handoffs.get? key = some value) :
    keyHolder book.handoffs value.request = some value := by
  cases hfound : keyHolder book.handoffs value.request with
  | none =>
      exact absurd rfl (keyHolder_eq_none hfound key value hheld rfl)
  | some existing =>
      have hmatch := List.find?_some hfound
      have hmem := List.mem_of_find?_eq_some hfound
      obtain ⟨entry, hentry, hexisting⟩ := List.mem_map.mp hmem
      obtain ⟨other, held⟩ := entry
      rw [mem_byId] at hentry
      simp only at hexisting
      subst hexisting
      simp only [decide_eq_true_eq] at hmatch
      have hsame := h.keyed other held key value hentry hheld hmatch.1 hmatch.2
      rw [hsame, hheld] at hentry
      exact hentry.symm

/-- A retried creation returns the stored record and writes nothing if and only
if the parent, if any, may still be forwarded. -/
theorem BookValid.createHandoff_again (h : BookValid book)
    (hheld : book.handoffs.get? key = some value) {observed : MissionObservation}
    (hholds : StillHolds value result observed) (now : Nat) :
    createHandoff book key value.request result now value.provenance.context =
        .ok (value, book) ↔ ParentForwardable book value := by
  obtain ⟨hvalid, rfl, hsource, hdestination⟩ := h.each key value hheld
  have hobserved := observationValid hholds.valid
  have hfresh : requireFresh result value.request.missionId "handoff creation" =
      .ok observed :=
    requireFresh_eq_ok.mpr ⟨hholds.fresh, hholds.held, hholds.own⟩
  have hstored : ∀ provenance, storeHandoff book
      (retryOf value observed now provenance) = .ok (value, book) := by
    intro provenance
    have hkey : keyHolder book.handoffs (retryOf value observed now provenance).request =
        some value := h.keyHolder_eq hheld
    simp [storeHandoff, hkey, retryOf_content hvalid hholds]
  constructor
  · intro hcreated
    simp only [createHandoff, bind_eq_ok] at hcreated
    obtain ⟨-, -, -, -, -, -, -, -, -, -, -, -, -, -, -, -, -, -, forward, hforward, -⟩ := hcreated
    exact ((h.forwardOf_eq_ok hheld).mp hforward).1
  · intro hparent
    simp only [createHandoff, bind_eq_ok, exists_passed, requireId_eq_ok,
      requireContext_eq_ok, requireKey_eq_ok, requireEligible_eq_ok,
      observationPoint_eq_ok, provenanceRecord_eq_ok, validateHandoff_eq_ok]
    exact ⟨hvalid.content.handoffId, hvalid.content.request.missionId,
      hvalid.bound.provenance.context, hvalid.content.request.key, observed, hfresh,
      hsource, hdestination, pointOf observed, ⟨hholds.valid, rfl⟩,
      retryProvenance value observed now, ⟨retryProvenance_valid hvalid hobserved now, rfl⟩, _,
      (h.forwardOf_eq_ok hheld).mpr ⟨hparent, rfl⟩,
      retryOf_valid hvalid hholds now, hholds.cited, hstored _⟩

/-! ## Every run -/

/-- What every document reached by the operations keeps. -/
structure HandoffsKept (book : HandoffBook) : Prop where
  valid : validateHandoffs book = .ok ()
  chained : ∀ key value, book.handoffs.get? key = some value →
    value.forwardDepth ≤ maxHandoffForwardDepth ∧
      ∃ path participants, chain book.handoffs key = .ok path ∧
        path.length ≤ maxHandoffForwardDepth + 1 ∧
        chainParticipants book.handoffs key = .ok participants ∧ participants.Nodup
  live : ∀ key value other held, book.handoffs.get? key = some value →
    book.handoffs.get? other = some held → value.isLive = true →
    held.isLive = true → value.request.missionId = held.request.missionId →
    value.contentDigestSha256 = held.contentDigestSha256 → key = other
  replayed : ∀ key value, book.handoffs.get? key = some value →
    ∀ result observed, StillHolds value result observed → ∀ now,
      (createHandoff book key value.request result now value.provenance.context =
        .ok (value, book) ↔ ParentForwardable book value)

/-- In every reachable document the handoffs are valid, every chain is short and
passes nobody twice, a request is live once, and a retried creation returns the
stored record exactly while its parent may be forwarded. -/
theorem handoffs_kept (h : Transition.Reachable HandoffStep HandoffBook.empty book) :
    HandoffsKept book := by
  have hbook := bookValid_of_reachable h
  exact {
    valid := validateHandoffs_eq_ok.mpr hbook
    chained := fun key value hheld =>
      ⟨(hbook.each key value hheld).1.content.depth, hbook.chained hheld⟩
    live := hbook.live
    replayed := fun key value hheld result observed hholds now =>
      hbook.createHandoff_again hheld hholds now }

end

/-! ## A forward of a declined parent -/

def sampleRequestId : String := "ch-00000000000000000000000000000001"
def sampleForwardId : String := "ch-00000000000000000000000000000002"

def sampleFresh : FreshnessResult := ⟨.fresh, sampleObservation, none⟩

def sampleRequest : HandoffRequest where
  missionId := sampleMissionId
  source := .coordinator
  destination := .engineering
  purpose := .question
  requestText := "build"
  evidenceRefs := []
  artifactRefs := []
  idempotencyKey := "a"
  parentHandoffId := none

def sampleForward : HandoffRequest where
  missionId := sampleMissionId
  source := .engineering
  destination := .operations
  purpose := .question
  requestText := "build"
  evidenceRefs := []
  artifactRefs := []
  idempotencyKey := "b"
  parentHandoffId := some sampleRequestId

/-- A request is forwarded, and then declined by its addressee. -/
def sampleOperations : List HandoffOperation :=
  [.setRoster sampleMissionId [.coordinator, .engineering, .operations] sampleContext,
    .createHandoff sampleRequestId sampleRequest sampleContext,
    .createHandoff sampleForwardId sampleForward sampleContext,
    .transition sampleRequestId .declined .engineering sampleContext]

/-- The operations one after the other, under one observation. -/
def performAll [JsonDigest] (result : FreshnessResult) (now : Nat)
    (operations : List HandoffOperation) (book : HandoffBook) : Checks HandoffBook :=
  foldChecked (fun held operation => operation.perform held result now) book operations

theorem reachable_of_performAll [JsonDigest] {result : FreshnessResult}
    {now : Nat} {operations : List HandoffOperation} {book next : HandoffBook}
    (hbook : Transition.Reachable HandoffStep HandoffBook.empty book)
    (h : performAll result now operations book = .ok next) :
    Transition.Reachable HandoffStep HandoffBook.empty next := by
  induction operations generalizing book with
  | nil =>
      rw [performAll, foldChecked_nil, Except.ok.injEq] at h
      exact h ▸ hbook
  | cons operation rest ih =>
      rw [performAll, foldChecked_cons_eq_ok] at h
      obtain ⟨middle, hfirst, hrest⟩ := h
      exact ih (hbook.tail ⟨operation, result, now, hfirst⟩) hrest

set_option maxRecDepth 100000 in
/-- The run ends with the forward stored under the digest of its request, and
its retry is refused. -/
theorem sampleForward_refused : letI := sampleHexDigest
    ∃ book ∈ (performAll sampleFresh 5 sampleOperations HandoffBook.empty).toOption,
      ∃ value ∈ book.handoffs.get? sampleForwardId,
        (value.request = sampleForward ∧ value.revision = 1 ∧
          value.proposalDigestSha256 = sampleNullDigest ∧
          value.provenance.context = sampleContext) ∧
        (createHandoff book sampleForwardId sampleForward sampleFresh 5
          sampleContext).toOption = none := by
  decide +kernel

theorem sampleForward_holds {value : Handoff}
    (hrequest : value.request = sampleForward) (hrevision : value.revision = 1)
    (hproposal : value.proposalDigestSha256 = sampleNullDigest) : letI := sampleHexDigest
    StillHolds value sampleFresh sampleObservation :=
  let _ := sampleHexDigest
  { fresh := rfl
    held := rfl
    valid := sampleObservation_valid
    own := hrequest ▸ rfl
    revision := hrevision ▸ rfl
    proposal := hproposal ▸ rfl
    cited := by rw [hrequest]; rfl }

/-- The retry of a forward whose parent was declined is refused. -/
theorem forward_retry_refused : letI := sampleHexDigest
    ¬ ∀ book, Transition.Reachable HandoffStep HandoffBook.empty book →
      ∀ key value, book.handoffs.get? key = some value →
        ∀ result observed, StillHolds value result observed → ∀ now,
          createHandoff book key value.request result now
            value.provenance.context = .ok (value, book) := by
  intro hclaim
  let _ := sampleHexDigest
  obtain ⟨book, hbook, value, hvalue, ⟨hrequest, hrevision, hproposal, hcontext⟩,
    hrefused⟩ := sampleForward_refused
  have hrun := ok_of_mem_toOption hbook
  have hreplayed := hclaim book (reachable_of_performAll .start hrun) _ value hvalue
    sampleFresh sampleObservation
    (sampleForward_holds hrequest hrevision hproposal) 5
  rw [hrequest, hcontext] at hreplayed
  rw [hreplayed] at hrefused
  cases hrefused

/-- The general theorem at the document that the refusal occurs in. -/
theorem handoffs_kept_declined : letI := sampleHexDigest
    ∃ book, HandoffsKept book ∧ ∃ value, book.handoffs.get? sampleForwardId = some value ∧
        ¬ ParentForwardable book value := by
  let _ := sampleHexDigest
  obtain ⟨book, hbook, value, hvalue, ⟨hrequest, hrevision, hproposal, hcontext⟩,
    hrefused⟩ := sampleForward_refused
  have hrun := ok_of_mem_toOption hbook
  have hkept := handoffs_kept (reachable_of_performAll .start hrun)
  refine ⟨book, hkept, value, hvalue, fun hparent => ?_⟩
  have hreplayed := (hkept.replayed _ value hvalue sampleFresh sampleObservation
    (sampleForward_holds hrequest hrevision hproposal) 5).mpr hparent
  rw [hrequest, hcontext] at hreplayed
  rw [hreplayed] at hrefused
  cases hrefused

end DodgingInfinity.Coordination
