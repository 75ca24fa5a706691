import DodgingInfinity.MissionCore.Registry

/-!
# A withdrawn proposal is final

A withdrawal marks a proposal nobody decided.  No operation changes the marked
Mission again, and the withdrawal that marked it answers alike ever after.
-/

namespace DodgingInfinity.MissionCore

open Checked Relation

/-- What a withdrawal finds, and every later document keeps. -/
structure Undecided (mission : Mission) : Prop where
  waiting : mission.state = .awaitingDecision
  decisions : mission.decisions = []
  authorizationIds : mission.authorizationIds = []
  unrun : mission.run = none

/-- Every marked Mission is undecided. -/
def WithdrawalsUndecided (document : Document) : Prop :=
  ∀ missionId mission, document.missions.get? missionId = some mission →
    mission.withdrawal ≠ none → Undecided mission

/-- A marked Mission is the same record in the later document. -/
def WithdrawalsFixed (document later : Document) : Prop :=
  ∀ missionId mission, document.missions.get? missionId = some mission →
    mission.withdrawal ≠ none → later.missions.get? missionId = some mission

/-- A Mission answers to the request id and the key it was created with. -/
structure SameKey (mission changed : Mission) : Prop where
  request : changed.requestId = mission.requestId
  digest :
    changed.withdrawalKeyDigestSha256 = mission.withdrawalKeyDigestSha256
  expires : changed.withdrawalKeyExpiresAt = mission.withdrawalKeyExpiresAt

def KeysFixed (document later : Document) : Prop :=
  ∀ missionId mission, document.missions.get? missionId = some mission →
    ∃ changed, later.missions.get? missionId = some changed ∧ SameKey mission changed

theorem SameKey.refl (mission : Mission) : SameKey mission mission :=
  ⟨rfl, rfl, rfl⟩

theorem SameKey.trans {mission middle changed : Mission}
    (hfirst : SameKey mission middle) (hsecond : SameKey middle changed) :
    SameKey mission changed where
  request := hsecond.request.trans hfirst.request
  digest := hsecond.digest.trans hfirst.digest
  expires := hsecond.expires.trans hfirst.expires

theorem KeysFixed.refl (document : Document) : KeysFixed document document :=
  fun _ mission hheld => ⟨mission, hheld, .refl mission⟩

theorem KeysFixed.trans {first second third : Document}
    (hfirst : KeysFixed first second) (hsecond : KeysFixed second third) :
    KeysFixed first third := by
  intro missionId mission hheld
  obtain ⟨middle, hmiddle, hone⟩ := hfirst missionId mission hheld
  obtain ⟨changed, hchanged, htwo⟩ := hsecond missionId middle hmiddle
  exact ⟨changed, hchanged, hone.trans htwo⟩

variable [JsonDigest] {env : Env} {document next later noted effected : Document}
  {missionId requestId : String} {mission changed : Mission}
  {decision : DecisionRecord} {withdrawalKey : Option String}
  {context : Context} {outcome : WithdrawOutcome}

/-! ## One change of a marked Mission -/

omit [JsonDigest] in
/-- A Mission that waits for its decision has no run. -/
theorem WellFormed.unrun_of_waiting (hwell : WellFormed missionId mission)
    (hwaiting : mission.state = .awaitingDecision) : mission.run = none := by
  have hlifecycle := hwell.lifecycle_of_open (by simp [hwaiting, runStates])
  by_contra hrun
  have hauthorized := hwell.waiting hrun hlifecycle
  rw [hwaiting] at hauthorized
  cases hauthorized

/-- No run write reaches an undecided Mission. -/
theorem RunChange.fixed_of_undecided (h : RunChange document missionId mission changed)
    (hwell : WellFormed missionId mission) (hrest : Undecided mission) :
    changed = mission := by
  cases h with
  | kept => rfl
  | stored run now hstored =>
      rcases hstored.held hwell with hrun | hauthorized
      · exact absurd hrest.unrun hrun
      · rw [hrest.waiting] at hauthorized
        cases hauthorized
  | moved run target reason now hmoves hwired =>
      simp [hrest.waiting, MissionState.runTransitions] at hwired

theorem MissionChange.fixed_of_undecided (h : MissionChange document missionId mission changed)
    (hwell : WellFormed missionId mission) (hmarked : mission.withdrawal ≠ none)
    (hrest : Undecided mission) : changed = mission := by
  cases h with
  | withdrawn _ _ hfirst => exact absurd hfirst hmarked
  | decided _ _ _ _ _ _ _ hstanding => exact absurd hstanding hmarked
  | ran _ hchange => exact hchange.fixed_of_undecided hwell hrest
  | reclaimed run _ _ hrun =>
      rw [hrest.unrun] at hrun
      cases hrun

theorem DecisionEffected.sameKey
    (h : DecisionEffected env noted mission decision effected changed) :
    SameKey mission changed ∧ changed.withdrawal = mission.withdrawal := by
  cases h <;> exact ⟨⟨rfl, rfl, rfl⟩, rfl⟩

theorem RunChange.sameKey (h : RunChange document missionId mission changed) :
    SameKey mission changed ∧ changed.withdrawal = mission.withdrawal := by
  cases h <;> exact ⟨⟨rfl, rfl, rfl⟩, rfl⟩

theorem MissionChange.sameKey (h : MissionChange document missionId mission changed) :
    SameKey mission changed := by
  cases h with
  | withdrawn => exact ⟨rfl, rfl, rfl⟩
  | decided _ _ _ moved _ _ _ _ heffected =>
      obtain ⟨hrequest, hdigest, hexpires⟩ := heffected.sameKey.1
      exact ⟨hrequest, hdigest, hexpires⟩
  | ran _ hchange => exact hchange.sameKey.1
  | reclaimed => exact ⟨rfl, rfl, rfl⟩

/-- A change marks a Mission nobody decided, or leaves the marks alone. -/
theorem MissionChange.undecided
    (h : MissionChange document missionId mission changed) (hwell : WellFormed missionId mission)
    (hrest : mission.withdrawal ≠ none → Undecided mission)
    (hmarked : changed.withdrawal ≠ none) : Undecided changed := by
  by_cases hbefore : mission.withdrawal = none
  · cases h with
    | withdrawn _ _ _ hstate hdecisions hauthorizations =>
        exact ⟨hstate, hdecisions, hauthorizations, hwell.unrun_of_waiting hstate⟩
    | decided _ _ _ moved _ _ _ _ heffected =>
        exact absurd (heffected.sameKey.2.trans hbefore) hmarked
    | ran _ hchange =>
        exact absurd (hchange.sameKey.2.trans hbefore) hmarked
    | reclaimed => exact absurd hbefore hmarked
  · rw [h.fixed_of_undecided hwell hbefore (hrest hbefore)]
    exact hrest hbefore

/-! ## A withdrawal, inverted -/

/-- The proposer, by the context and the request id of the creation, holding
its key. -/
structure Withdraws (mission : Mission) (requestId : String)
    (withdrawalKey : Option String) (context : Context) : Prop where
  request : mission.requestId = requestId
  proposer : ∃ first, mission.revisions.head? = some first ∧
    first.provenance.context = context.asDict
  unauthenticated : context.principalKind = .unauthenticatedLocalCaller
  key : withdrawalKeyDigest withdrawalKey = mission.withdrawalKeyDigestSha256
  held : mission.withdrawalKeyDigestSha256 ≠ none

/-- What a first withdrawal requires on top. -/
structure FirstWithdrawal (env : Env) (mission : Mission) : Prop where
  unexpired : ∃ expires, mission.withdrawalKeyExpiresAt = some expires ∧ env.now < expires
  waiting : mission.state = .awaitingDecision
  revision : mission.currentRevision = 1
  decisions : mission.decisions = []
  authorizationIds : mission.authorizationIds = []

omit [JsonDigest] in
theorem requireProposer_eq_ok {passed : Unit}
    (h : requireProposer mission requestId context = .ok passed) : mission.requestId = requestId ∧
      (∃ first, mission.revisions.head? = some first ∧ first.provenance.context = context.asDict) ∧
      context.principalKind = .unauthenticatedLocalCaller := by
  simp only [requireProposer, Mission.firstRevision, provenanceContext,
    bind_eq_ok, orFail_eq_ok, failIf_eq_ok, not_or, not_not, ne_eq] at h
  obtain ⟨first, hfirst, recorded, hrecorded, hrequest, hcontext, hkind⟩ := h
  refine ⟨hrequest, ⟨first, hfirst, ?_⟩, hkind⟩
  rw [← hcontext]
  unfold contextFromDict at hrecorded
  split at hrecorded <;> simp only [bind_eq_ok, exists_passed, pure_eq_ok] at hrecorded <;>
    rw [← hrecorded.2] <;> rfl

theorem requireWithdrawalKeyMatch_eq_ok {passed : Unit}
    (h : requireWithdrawalKeyMatch mission withdrawalKey = .ok passed) :
    withdrawalKeyDigest withdrawalKey = mission.withdrawalKeyDigestSha256 ∧
      mission.withdrawalKeyDigestSha256 ≠ none := by
  simp only [requireWithdrawalKeyMatch, failIf_eq_ok, not_or, not_not, ne_eq] at h
  exact ⟨h.2.2, h.1⟩

omit [JsonDigest] in
theorem firstWithdrawal_eq_ok (h : firstWithdrawal env document missionId mission context =
      .ok (next, outcome)) : FirstWithdrawal env mission ∧ ∃ withdrawal,
      next = document.setMission missionId { mission with
        withdrawal := some withdrawal, updatedAt := env.now } ∧ outcome = {
        missionId := missionId
        state := mission.state
        withdrawal := some withdrawal
        idempotent := false } := by
  simp only [firstWithdrawal, bind_eq_ok, exists_passed, orFail_eq_ok,
    failIf_eq_ok, pure_eq_ok, Prod.mk.injEq, not_or, not_not, ne_eq, ge_iff_le, not_le] at h
  obtain ⟨expires, hexpires, hnow, ⟨hstate, hrevision, hdecisions,
    hauthorizations⟩, withdrawal, -, rfl, rfl⟩ := h
  exact ⟨⟨⟨expires, hexpires, hnow⟩, hstate, hrevision, hdecisions,
    hauthorizations⟩, withdrawal, rfl, rfl⟩

/-- Every withdrawal that is not refused passes the checks of its arguments
and of its Mission. -/
structure WithdrawalPassed (mission : Mission) (missionId requestId : String)
    (withdrawalKey : Option String) (context : Context) : Prop where
  context_ok : requireContext context "context" = .ok ()
  request_ok : requireId requestId .request "request_id" = .ok ()
  mission_ok : idProblem missionId .mission = none
  proposer_ok : requireProposer mission requestId context = .ok ()
  key_ok : requireWithdrawalKeyMatch mission withdrawalKey = .ok ()

theorem withdrawProposal_cases (h : withdrawProposal env document missionId requestId withdrawalKey
      context = .ok (next, outcome)) : ∃ mission, document.missions.get? missionId = some mission ∧
      WithdrawalPassed mission missionId requestId withdrawalKey context ∧
      ((mission.withdrawal ≠ none ∧ next = document ∧ outcome = {
          missionId := missionId
          state := mission.state
          withdrawal := mission.withdrawal
          idempotent := true }) ∨ (mission.withdrawal = none ∧
          firstWithdrawal env document missionId mission context =
            .ok (next, outcome))) := by
  simp only [withdrawProposal, bind_eq_ok, exists_passed, lookupMission_eq_ok] at h
  obtain ⟨hcontext, hrequest, mission, ⟨hid, hheld⟩, hproposer, hkey, h⟩ := h
  refine ⟨mission, hheld, ⟨hcontext, hrequest, hid, hproposer, hkey⟩, ?_⟩
  split at h
  · rename_i hmarked
    obtain ⟨rfl, rfl⟩ := Prod.mk.inj ((pure_eq_ok ..).mp h)
    exact .inl ⟨hmarked, rfl, rfl⟩
  · rename_i hfirst
    exact .inr ⟨not_not.mp hfirst, h⟩

/-- A marked Mission answers its withdrawal again with the mark it carries. -/
theorem WithdrawalPassed.replay
    (h : WithdrawalPassed mission missionId requestId withdrawalKey context)
    (hheld : document.missions.get? missionId = some mission)
    (hmarked : mission.withdrawal ≠ none) :
    withdrawProposal env document missionId requestId withdrawalKey context = .ok (document, {
        missionId := missionId
        state := mission.state
        withdrawal := mission.withdrawal
        idempotent := true }) := by
  have hfound : lookupMission document missionId = .ok mission :=
    lookupMission_eq_ok.mpr ⟨h.mission_ok, hheld⟩
  simp only [withdrawProposal, bind_eq_ok, exists_passed]
  refine ⟨h.context_ok, h.request_ok, mission, hfound, h.proposer_ok, h.key_ok, ?_⟩
  rw [if_pos hmarked]
  rfl

/-- What a withdrawal leaves is marked, and answers alike. -/
theorem withdrawProposal_marked (h : withdrawProposal env document missionId requestId withdrawalKey
      context = .ok (next, outcome)) : ∃ marked, next.missions.get? missionId = some marked ∧
      marked.withdrawal ≠ none ∧ WithdrawalPassed marked missionId requestId withdrawalKey context ∧
      { outcome with idempotent := true } = {
        missionId := missionId
        state := marked.state
        withdrawal := marked.withdrawal
        idempotent := true } := by
  obtain ⟨mission, hheld, hpassed, ⟨hmarked, rfl, rfl⟩ | ⟨-, hfirst⟩⟩ :=
    withdrawProposal_cases h
  · exact ⟨mission, hheld, hmarked, hpassed, rfl⟩
  · obtain ⟨-, withdrawal, rfl, rfl⟩ := firstWithdrawal_eq_ok hfirst
    have hstored : (document.setMission missionId { mission with
        withdrawal := some withdrawal, updatedAt := env.now }).missions.get?
          missionId = some { mission with
            withdrawal := some withdrawal, updatedAt := env.now } := by
      simp [Document.setMission]
    exact ⟨_, hstored, Option.some_ne_none withdrawal, ⟨hpassed.context_ok,
      hpassed.request_ok, hpassed.mission_ok, hpassed.proposer_ok, hpassed.key_ok⟩, rfl⟩

/-! ## Over runs -/

variable [ReconciliationPlanner]

theorem Change.withdrawalsUndecided (h : Change document next) (hwell : AllWellFormed document)
    (hrest : WithdrawalsUndecided document) : WithdrawalsUndecided next := by
  intro missionId mission hheld hmarked
  rcases h.mission_of_next hheld with hold | hwritten
  · exact hrest missionId mission hold hmarked
  · cases hwritten with
    | created _ _ _ _ _ _ hnew =>
        rw [hnew.record] at hmarked
        exact absurd rfl hmarked
    | changed before _ hbefore hchange =>
        exact hchange.undecided (hwell missionId before hbefore)
          (hrest missionId before hbefore) hmarked

theorem Change.withdrawalsFixed (h : Change document next) (hwell : AllWellFormed document)
    (hrest : WithdrawalsUndecided document) :
    WithdrawalsFixed document next := by
  intro missionId mission hheld hmarked
  obtain ⟨changed, hnext, hsame | hchange⟩ := h.mission_of_held hheld
  · rw [hnext, hsame]
  · rw [hnext, hchange.fixed_of_undecided (hwell missionId mission hheld)
      hmarked (hrest missionId mission hheld hmarked)]

theorem Change.keysFixed (h : Change document next) :
    KeysFixed document next := by
  intro missionId mission hheld
  obtain ⟨changed, hnext, rfl | hchange⟩ := h.mission_of_held hheld
  · exact ⟨changed, hnext, .refl changed⟩
  · exact ⟨changed, hnext, hchange.sameKey⟩

omit [JsonDigest] [ReconciliationPlanner] in
theorem withdrawalsUndecided_default :
    WithdrawalsUndecided defaultDocument := by
  intro missionId mission hheld
  simp [defaultDocument] at hheld

theorem Reachable.withdrawalsFixed (h : Reachable document)
    (hrun : Runs document later) : WithdrawalsFixed document later :=
  h.related (p := WithdrawalsUndecided) withdrawalsUndecided_default
    (fun _ _ hwell hrest hchange => hchange.withdrawalsUndecided hwell hrest)
    (fun _ _ _ hheld _ => hheld)
    (fun _ _ _ hfirst hsecond missionId mission hheld hmarked =>
      hsecond missionId mission (hfirst missionId mission hheld hmarked) hmarked)
    (fun _ _ hwell hrest hchange => hchange.withdrawalsFixed hwell hrest) hrun

theorem Reachable.keysFixed (h : Reachable document)
    (hrun : Runs document later) : KeysFixed document later :=
  h.related (p := fun _ => True) trivial (fun _ _ _ _ _ => trivial)
    KeysFixed.refl (fun _ _ _ => KeysFixed.trans)
    (fun _ _ _ _ hchange => hchange.keysFixed) hrun

/-- No authorization is ever issued to a marked Mission. -/
theorem Reachable.unauthorized_of_withdrawn (h : Reachable document)
    (hheld : document.missions.get? missionId = some mission)
    (hmarked : mission.withdrawal ≠ none) : ∀ authorizationId authorization,
      document.authorizations.get? authorizationId = some authorization →
        authorization.missionId ≠ missionId := by
  have hrest := (h.invariant withdrawalsUndecided_default
    fun _ _ hwell hrest hchange => hchange.withdrawalsUndecided hwell hrest).2
      missionId mission hheld hmarked
  rintro authorizationId authorization hstored rfl
  obtain ⟨owner, howner, hlisted⟩ := h.consistent.owned authorizationId authorization hstored
  obtain rfl := Option.some.inj (hheld.symm.trans howner)
  rw [hrest.authorizationIds] at hlisted
  cases hlisted

/-- The Mission a proposal creates keeps the request id and the key it was
created with. -/
theorem Reachable.key_of_created {call : ProposeCall} {created : ProposeOutcome}
    (h : Reachable document) (hcall : propose env document call = .ok (next, created))
    (hnew : created.idempotent = false) (hrun : Runs next later) :
    ∃ mission, later.missions.get? created.missionId = some mission ∧
      mission.requestId = call.requestId ∧
      mission.withdrawalKeyDigestSha256 = call.withdrawalKeyDigestSha256 ∧
      mission.withdrawalKeyExpiresAt = call.withdrawalKeyExpiresAt := by
  have hnext : Reachable next := Transition.Reachable.tail h
    ⟨env, .propose call, (map_eq_ok ..).mpr ⟨_, hcall, rfl⟩⟩
  obtain ⟨clean, digest, reservation, -, -, -, hcases⟩ := propose_eq_ok hcall
  rcases hcases with ⟨consumedBy, -, hreplay⟩ | ⟨-, hcreate⟩
  · obtain ⟨_, _, -, -, -, -, -, hanswer, -⟩ :=
      replayPropose_eq_ok.mp hreplay
    obtain ⟨_, -, rfl⟩ := proposeOutcome_eq_ok hanswer
    cases hnew
  · obtain ⟨missionId, mission, entry, -, hmission, hanswer, rfl⟩ :=
      createMission_eq_ok hcreate
    obtain ⟨_, -, rfl⟩ := proposeOutcome_eq_ok hanswer
    have hstored : ((document.setMission missionId mission).consume
        call.requestId reservation missionId).missions.get? missionId =
          some mission := by
      simp [Document.consume, Document.setMission]
    obtain ⟨changed, hchanged, hsame⟩ := hnext.keysFixed hrun _ _ hstored
    rw [hmission.record] at hsame ⊢
    exact ⟨changed, hchanged, hsame.request, hsame.digest, hsame.expires⟩

/-- Once a Mission carries a withdrawal marker its record never changes and
nothing is authorized for it; the first withdrawal presents the key of the
creation in time and before any decision; and a withdrawal answers alike in
every later document. -/
theorem withdrawn_final (document : Document) (h : Reachable document) :
    (∀ later missionId mission, Runs document later →
      document.missions.get? missionId = some mission → mission.withdrawal ≠ none →
      later.missions.get? missionId = some mission ∧ ∀ authorizationId authorization,
          later.authorizations.get? authorizationId = some authorization →
            authorization.missionId ≠ missionId) ∧
    (∀ env missionId requestId withdrawalKey context next outcome mission,
      document.missions.get? missionId = some mission → mission.withdrawal = none →
      withdrawProposal env document missionId requestId withdrawalKey context =
        .ok (next, outcome) → Withdraws mission requestId withdrawalKey context ∧
        FirstWithdrawal env mission) ∧ (∀ env call next created later,
      propose env document call = .ok (next, created) →
      created.idempotent = false → Runs next later →
      ∃ mission, later.missions.get? created.missionId = some mission ∧
        mission.requestId = call.requestId ∧
        mission.withdrawalKeyDigestSha256 = call.withdrawalKeyDigestSha256 ∧
        mission.withdrawalKeyExpiresAt = call.withdrawalKeyExpiresAt) ∧
    ∀ env again missionId requestId withdrawalKey context next outcome later,
      withdrawProposal env document missionId requestId withdrawalKey context =
        .ok (next, outcome) → Runs next later →
      withdrawProposal again later missionId requestId withdrawalKey context =
        .ok (later, { outcome with idempotent := true }) := by
  refine ⟨?_, ?_, ?_, ?_⟩
  · intro later missionId mission hrun hheld hmarked
    have hkept := h.withdrawalsFixed hrun missionId mission hheld hmarked
    exact ⟨hkept, Reachable.unauthorized_of_withdrawn
      (Transition.Reachable.run h hrun) hkept hmarked⟩
  · intro env missionId requestId withdrawalKey context next outcome mission hheld hunmarked hcall
    obtain ⟨found, hfound, hpassed, ⟨hmarked, -, -⟩ | ⟨-, hfirst⟩⟩ :=
      withdrawProposal_cases hcall
    · obtain rfl := Option.some.inj (hheld.symm.trans hfound)
      exact absurd hunmarked hmarked
    · obtain rfl := Option.some.inj (hheld.symm.trans hfound)
      obtain ⟨hrequest, hproposer, hkind⟩ :=
        requireProposer_eq_ok hpassed.proposer_ok
      obtain ⟨hkey, hbound⟩ := requireWithdrawalKeyMatch_eq_ok hpassed.key_ok
      exact ⟨⟨hrequest, hproposer, hkind, hkey, hbound⟩, (firstWithdrawal_eq_ok hfirst).1⟩
  · intro env call next created later hcall hnew hrun
    exact h.key_of_created hcall hnew hrun
  · intro env again missionId requestId withdrawalKey context next outcome later hcall hrun
    obtain ⟨marked, hstored, hmarked, hpassed, hanswer⟩ :=
      withdrawProposal_marked hcall
    have hnext : Reachable next := Transition.Reachable.tail h
      ⟨env, .withdraw missionId requestId withdrawalKey context, (map_eq_ok ..).mpr ⟨_, hcall, rfl⟩⟩
    rw [hanswer]
    exact hpassed.replay (hnext.withdrawalsFixed hrun missionId marked hstored hmarked) hmarked

/-! ## A proposal withdrawn in time -/

omit [JsonDigest] [ReconciliationPlanner]

/-- The SHA-256 of the withdrawal key below, and of the sample run's values. -/
@[reducible]
def sampleKeyDigest : JsonDigest where
  jsonDigest
    | .object [("withdrawal_key", _)] =>
        "50cb5de5682609ad81c832f5538dcc704c786f998c3d8853b28c459b7b06a13a"
    | value => sampleRunDigest.jsonDigest value

def sampleProposer : Context := .authenticated { sampleContext with
  principalKind := .unauthenticatedLocalCaller }

def sampleWithdrawal : ServiceCall :=
  .withdraw sampleMissionId (sampleId .request 0) (some "original") sampleProposer

/-- What an unauthenticated proposal leaves. -/
def sampleOffered : Document :=
  @attemptAll sampleKeyDigest samplePlanner defaultDocument
    [(sampleEnv 1, .mint .request sampleProposer), (sampleEnv 1, .propose {
        requestId := sampleId .request 0
        proposal := sampleProposal
        context := sampleProposer
        withdrawalKeyDigestSha256 := some
          "50cb5de5682609ad81c832f5538dcc704c786f998c3d8853b28c459b7b06a13a"
        withdrawalKeyExpiresAt := some 10 })]

/-- What its withdrawal leaves. -/
def sampleWithdrawn : Document :=
  @attempt sampleKeyDigest samplePlanner sampleOffered (sampleEnv 5, sampleWithdrawal)

theorem sampleOffered_reachable : @Reachable sampleKeyDigest samplePlanner sampleOffered :=
  @attemptAll_reachable sampleKeyDigest samplePlanner _

theorem sampleWithdrawn_reachable : @Reachable sampleKeyDigest samplePlanner sampleWithdrawn :=
  Transition.Reachable.run sampleOffered_reachable (@attempt_runs sampleKeyDigest samplePlanner _ _)

theorem withdrawn_final_sample : letI := sampleKeyDigest
    letI := samplePlanner
    ∃ mission, sampleWithdrawn.missions.get? sampleMissionId = some mission ∧
      mission.withdrawal ≠ none ∧
      (attempt sampleWithdrawn (sampleEnv 11, sampleWithdrawal)).missions.get?
        sampleMissionId = some mission := by
  let := sampleKeyDigest
  let := samplePlanner
  have hmarked : (sampleWithdrawn.missions.get? sampleMissionId).any
      (fun mission => mission.withdrawal ≠ none) = true := by
    decide +kernel
  simp only [Option.any_eq_true, decide_eq_true_eq] at hmarked
  obtain ⟨mission, hheld, hmarked⟩ := hmarked
  obtain ⟨hfinal, -⟩ := withdrawn_final sampleWithdrawn sampleWithdrawn_reachable
  exact ⟨mission, hheld, hmarked, (hfinal _ _ mission (attempt_runs _) hheld hmarked).1⟩

end DodgingInfinity.MissionCore
