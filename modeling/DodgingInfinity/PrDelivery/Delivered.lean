import DodgingInfinity.PrDelivery.Comparison
import DodgingInfinity.PrDelivery.ConductRun
import DodgingInfinity.PrDelivery.Revocation

/-!
# What was delivered is what was authorized

Whatever the transport answers, a record that is pushed or complete has a
commit that was read to be the authorized change, and a complete update was
read to be the authorized pull request at that commit.
-/

namespace DodgingInfinity.PrDelivery

/-! ## The delivered change -/

/-- The recorded commit is what its receipt is bound to, and was read to have
the bound parent and tree, and exactly the candidate for its difference from
that parent. -/
structure DeliveredCommit (site : Site) (commit : Oid) (binding : CommitBinding) :
    Prop where
  recorded : ∃ receipt, site.stored.steps.commit.receipt = some receipt ∧
    receipt.binding = .commit binding ∧ receipt.observed = some (.committed commit)
  parentAndTree : Heard site (.commitParentAndTree (some commit))
    (some binding.headBefore, some binding.expectedTreeOid)
  difference : ∃ raw entries, Heard site (.diffTreeRaw binding.headBefore commit) raw ∧
      raw.entries = .ok entries ∧ ∀ path, entryAt entries path =
        entryAt site.stored.authority.candidate.entries path

/-- The pull request is open, on the head and base branches of the authorized
repository, with its head at the commit. -/
structure ShownOpen (authority : Authority) (number : Nat) (commit : Oid)
    (view : PrView) : Prop where
  numbered : view.number = some (number : Int)
  isOpen : view.state = some "OPEN"
  head : view.headRefName = some authority.source.branch
  base : view.baseRefName = some authority.targetBase.branch
  atCommit : view.headRefOid = some commit
  own : view.isCrossRepository = some false
  repository : ∃ url target repository, view.url = some url ∧
    Canonical.canonicalizeTargetUrl url = .ok target ∧
    Canonical.canonicalizeTargetUrl authority.repository.repositoryUrl =
      .ok repository ∧ target.kind = some .pullRequest ∧ target.number = some number ∧
    Canonical.sameRepositoryIdentity target repository = true

theorem refusal_eq_none {c : Prop} {_ : Decidable c} {problem : Problem}
    {rest : Option Problem} :
    (if c then some problem else rest) = none ↔ ¬ c ∧ rest = none := by
  by_cases hc : c
  · simp [hc]
  · simp [hc]

theorem shownOpen_of_identity {authority : Authority} {number : Nat}
    {commit : Oid} {view : PrView}
    (h : prUpdateIdentityProblem (some view) authority number commit = none) :
    ShownOpen authority number commit view := by
  unfold prUpdateIdentityProblem at h
  split at h
  · rename_i shown url state headRefName baseRefName headRefOid cross heq
    cases heq
    simp only [refusal_eq_none, not_not, ne_eq] at h
    obtain ⟨rfl, -, h⟩ := h
    split at h
    · rename_i target repository htarget hrepository
      simp only [refusal_eq_none, not_or, not_not, Bool.not_eq_false,
        Bool.not_eq_true, and_true] at h
      obtain ⟨⟨hkind, hnumber, hidentity⟩, rfl, -, -, rfl, rfl, rfl, rfl⟩ := h
      exact ⟨rfl, rfl, rfl, rfl, rfl, rfl, ⟨url, target, repository, rfl, htarget,
        hrepository, hkind, hnumber, hidentity⟩⟩
    · cases h
  · cases h

theorem recordedCommit_eq {record : Record} {receipt : Receipt}
    {commit shown : Oid} (hreceipt : record.steps.commit.receipt = some receipt)
    (hobserved : receipt.observed = some (.committed commit))
    (h : recordedCommit record = some shown) : shown = commit := by
  have hget : (record.steps.get .commit).receipt = some receipt := hreceipt
  unfold recordedCommit at h
  rw [hget] at h
  split at h
  · rename_i heq
    cases heq
    cases hobserved
    split at h
    · exact (Option.some.inj h).symm
    · cases h
  · cases h

/-- An update was pushed onto exactly the approved head, and is complete only
once the pull request was read open at the commit. -/
structure DeliveredUpdate (authority : Authority) (site : Site) (commit : Oid) :
    Prop where
  parents : Heard site (.commitParents (some commit))
    [authority.originalBaseline.commitSha]
  pushed : ∃ receipt push, site.stored.steps.push.receipt = some receipt ∧
    receipt.binding = .push push ∧ push.expectedRemoteOldOid = authority.originalBaseline.commitSha
  viewed : site.stored.phase = .complete → ∃ update view, authority.kind = .prUpdate update ∧
    Heard site (.ghPrView update.pullRequestNumber) (some view) ∧
    ShownOpen authority update.pullRequestNumber commit view

theorem Committed.delivered {site : Site} {commit : Oid}
    {binding : CommitBinding} (h : Committed site.stored site commit binding) :
    DeliveredCommit site commit binding := by
  obtain ⟨raw, entries, hheard, hentries, hsame⟩ := h.difference
  exact ⟨h.receipt, h.parentAndTree, ⟨raw, entries, hheard, hentries, entryAt_eq_of_compare hsame⟩⟩

section

variable [JsonDigest] [FramedDigest]

/-- In every run from a minted record, whatever is answered and wherever it is
cut off, what was delivered is what was authorized. -/
theorem delivered_as_authorized {authority : Authority} {now : Time}
    {others : List Record} {trace : List (Asked Call Call.Answer Site)}
    {final : Site} (hminted : validateAuthorization (newAuthorization authority now) = .ok ())
    (hrun : Sessions (delivering fun _ => True) IsAdvance
      ⟨newAuthorization authority now, others, []⟩ trace final)
    (hphase : final.stored.phase ∈ [Phase.pushed, .prOpened, .complete]) :
    final.stored.authority = authority ∧ ∃ commit binding, DeliveredCommit final commit binding ∧
        (authority.kind.mode = .prUpdate →
          DeliveredUpdate authority final commit) := by
  obtain ⟨hsound, -⟩ := conduct_sessions hminted hrun
  have hauthority := hsound.authority
  obtain ⟨commit, binding, hcommitted⟩ :=
    hsound.earned.committed (List.mem_cons_of_mem _ hphase)
  refine ⟨hauthority, commit, binding, hcommitted.delivered, fun hmode => ?_⟩
  have hupdate : final.stored.mode = .prUpdate := by
    rw [Record.mode, hauthority, hmode]
  refine ⟨hauthority ▸ hcommitted.parents hupdate, ?_, fun hcomplete => ?_⟩
  · obtain ⟨receipt, push, hreceipt, hbinding⟩ := hsound.earned.pushed hphase
    obtain ⟨-, honhead⟩ := hsound.permitted .push receipt hreceipt
    exact ⟨receipt, push, hreceipt, hbinding, hauthority ▸ honhead hupdate push hbinding⟩
  · obtain ⟨shown, view, update, hrecorded, hkind, hheard, hnone⟩ :=
      hsound.earned.viewed hcomplete hupdate
    obtain ⟨receipt, hreceipt, -, hobserved⟩ := hcommitted.receipt
    obtain rfl := recordedCommit_eq hreceipt hobserved hrecorded
    rw [hauthority] at hkind hnone
    exact ⟨update, view, hkind, hheard, shownOpen_of_identity hnone⟩

end

/-! ## An update that is delivered -/

def sampleCommit : Oid := "5bd62c6b18ee7a1b0a2c5c8e4e5d1f2a3b4c5d6e"

def sampleTree : Oid := "7c1f0a9d2b3e4c5d6e7f8091a2b3c4d5e6f70819"

def sampleStaged : Digest :=
  "1f0e2d3c4b5a69788796a5b4c3d2e1f00f1e2d3c4b5a69788796a5b4c3d2e1f0"

def sampleUpdateAuthority : Authority :=
  { sampleAuthority with
    kind := .prUpdate ⟨7, sampleStaged⟩
    prText := ⟨sampleStaged, sampleStaged, sampleStaged⟩ }

/-- The verb has been asked for. -/
def Site.asked (site : Site) (verb : Verb) : Bool :=
  site.log.any fun exchange => match exchange.call with
    | .transport asked => asked = verb
    | _ => false

/-- What moves from the approved head to the commit once a verb was asked for. -/
def sampleHead (site : Site) (verb : Verb) : Oid :=
  if site.asked verb then sampleCommit else sampleBaseline

def sampleView (head : Oid) : PrView where
  number := some 7
  url := some "https://github.com/octo/project/pull/7"
  state := some "OPEN"
  headRefName := some "topic"
  baseRefName := some "main"
  headRefOid := some head
  isCrossRepository := some false

/-- A transport on which the update goes through. -/
def sampleScript : Script
  | .toplevel, _ => .ok "/work/project"
  | .gitDir, _ => .ok "/work/project/.git"
  | .remoteUrl, _ | .remoteFetchUrl, _ | .remotePushUrl, _ =>
      .ok (some "https://github.com/octo/project")
  | .symbolicRefHead, _ => .ok (some "refs/heads/topic")
  | .headOid, site => .ok (some (sampleHead site .commit))
  | .revParse _, _ => .ok none
  | .worktreeStatusZ, _ => .ok (.ok [])
  | .diffIndexRaw _, _ | .diffTreeRaw _ _, _ =>
      .ok ⟨.ok sampleAuthority.candidate.entries, .ok ["src/new.py"]⟩
  | .stagedDiffSha256, _ => .ok sampleStaged
  | .writeTree, _ => .ok sampleTree
  | .commitParentAndTree _, _ => .ok (some sampleBaseline, some sampleTree)
  | .commitParents _, _ => .ok [sampleBaseline]
  | .lsRemote _, site => .ok (some (sampleHead site
      (.push "refs/heads/topic" "refs/heads/topic")))
  | .ghPrView _, site => .ok (some (sampleView (sampleHead site
      (.push "refs/heads/topic" "refs/heads/topic"))))
  | .commit, _ | .push _ _, _ => .ok ()
  | _, _ => .error .transport

/-- A digest that is well formed. -/
@[reducible] def sampleJsonDigest : JsonDigest :=
  ⟨fun _ => "0000000000000000000000000000000000000000000000000000000000000000"⟩

@[reducible] def sampleFramedDigest : FramedDigest :=
  ⟨fun _ => "0000000000000000000000000000000000000000000000000000000000000000"⟩

/-- Another delivery of the same repository, in the middle of its commit. -/
def sampleRival (deliveryId : String) : Record :=
  let minted := newAuthorization
    { sampleUpdateAuthority with deliveryId := deliveryId } 10
  let receipt : Receipt := {
    receiptId := "rcpt-1"
    step := .commit
    deliveryId := deliveryId
    parentAuthorityDigest := sampleAuthority.authorityDigest
    derivedAt := 15
    attempt := 1
    state := .executing
    binding := .commit ⟨"/work/project", "/work/project/.git", "topic",
      "refs/heads/topic", sampleBaseline, sampleStaged, sampleStaged, sampleTree,
      "Octo", "octo@example.com", sampleStaged⟩
    observed := none
    receiptDigest := sampleStaged }
  { minted with steps := { minted.steps with
      commit := ⟨.executing, some receipt, []⟩ } }

def sampleRivals : List Record := [sampleRival "prd-2", sampleRival "prd-3"]

def sampleUpdate : Site :=
  ⟨newAuthorization sampleUpdateAuthority 10, sampleRivals, []⟩

/-- The site after three calls. -/
def sampleUpdated : Site :=
  let _ := sampleJsonDigest
  let _ := sampleFramedDigest
  Site.runAll sampleScript 20 "0" (List.replicate 3 (advanceOnce "prd-1" none)) sampleUpdate

def samplePush : Verb := .push "refs/heads/topic" "refs/heads/topic"

theorem sampleUpdate_minted : letI := sampleJsonDigest
    validateAuthorization (newAuthorization sampleUpdateAuthority 10) = .ok () := by
  decide +kernel

set_option maxRecDepth 100000 in
theorem sampleUpdated_facts : sampleUpdated.stored.phase = .complete ∧
    sampleUpdated.asked .commit = true ∧ sampleUpdated.asked samplePush = true := by
  decide +kernel

theorem Site.asked_of_sessions [JsonDigest] {sound : Exchange → Prop} {α : Type}
    {starts : Program Call Call.Answer α → Prop} {stored : Record}
    {others : List Record} {final : Site} {verb : Verb}
    {trace : List (Asked Call Call.Answer Site)}
    (hrun : Sessions (delivering sound) starts ⟨stored, others, []⟩ trace final)
    (h : final.asked verb = true) :
    ∃ asked ∈ trace, asked.question = .transport verb := by
  obtain ⟨⟨call, answer⟩, hin, hcall⟩ := List.any_eq_true.mp h
  rcases log_of_sessions hrun hin with hnone | ⟨asked, hasked, heq⟩
  · cases hnone
  · refine ⟨asked, hasked, (congrArg Exchange.call heq).symm.trans ?_⟩
    cases call with
    | transport other => exact congrArg _ (of_decide_eq_true hcall)
    | _ => cases hcall

/-- A run in which the update is delivered, next to two others. -/
theorem sampleUpdated_run : letI := sampleJsonDigest
    letI := sampleFramedDigest
    ∃ trace final, Sessions (delivering fun _ => True) IsAdvance
        ⟨newAuthorization sampleUpdateAuthority 10, sampleRivals, []⟩ trace
        final ∧ final.stored.phase = .complete ∧
      (∀ asked ∈ trace, asked.before.others = sampleRivals) ∧
      (∃ asked ∈ trace, asked.question = .transport .commit) ∧
      ∃ asked ∈ trace, asked.question = .transport samplePush := by
  let _ := sampleJsonDigest
  let _ := sampleFramedDigest
  have hadvances : ∀ program ∈ List.replicate 3 (advanceOnce "prd-1" none),
      IsAdvance program := by
    intro program hprogram
    exact ⟨"prd-1", none, (List.mem_replicate.mp hprogram).2⟩
  obtain ⟨trace, hrun, hothers⟩ := Site.runAll_sessions sampleScript 20 "0"
    (fun _ _ => trivial) hadvances (.start : Sessions (delivering fun _ => True)
      IsAdvance sampleUpdate [] sampleUpdate) rfl (fun _ h => by cases h)
  obtain ⟨hphase, hcommit, hpush⟩ := sampleUpdated_facts
  exact ⟨trace, sampleUpdated, hrun, hphase, hothers,
    Site.asked_of_sessions hrun hcommit, Site.asked_of_sessions hrun hpush⟩

/-- The sample update is complete, with one new commit on the approved head. -/
theorem delivered_as_authorized_sample : letI := sampleJsonDigest
    letI := sampleFramedDigest
    ∃ trace final, Sessions (delivering fun _ => True) IsAdvance
        ⟨newAuthorization sampleUpdateAuthority 10, sampleRivals, []⟩ trace
        final ∧ final.stored.phase = .complete ∧
      ∃ commit binding, DeliveredCommit final commit binding ∧
        DeliveredUpdate sampleUpdateAuthority final commit := by
  let _ := sampleJsonDigest
  let _ := sampleFramedDigest
  obtain ⟨trace, final, hrun, hcomplete, -⟩ := sampleUpdated_run
  have hphase : final.stored.phase ∈ [Phase.pushed, .prOpened, .complete] := by
    simp [hcomplete]
  obtain ⟨-, commit, binding, hcommit, hupdate⟩ :=
    delivered_as_authorized sampleUpdate_minted hrun hphase
  exact ⟨trace, final, hrun, hcomplete, commit, binding, hcommit, hupdate rfl⟩

end DodgingInfinity.PrDelivery
