import DodgingInfinity.TargetBroker.Workspaces
import DodgingInfinity.WorkflowAuthority.Sound

/-!
# What a close rests on

A workspace that is closed was proven to be the workflow's own, and the readings made
for the close show the same child record and the same live agents; unless the child
listing could not be read then, in which case nothing compares it.
-/

namespace DodgingInfinity.TargetBroker

open Checked WorkflowAuthority
open TargetRuntime (fieldOf textOf namedText isObject)

section

variable {worker : WorkspaceWorker} {root : String} {record : WorkflowRecord}
  {snapshot : ProofSnapshot} {reading first second : Reading}

/-! ## What a reading shows -/

/-- Exactly one child record of the workflow is listed, and it names the workspace and
the agents that were proven. -/
def ShowsChild (root : String) (record : WorkflowRecord) (snapshot : ProofSnapshot)
    (reading : Reading) : Prop :=
  ∃ children child agents, listedOf reading = .list children ∧
    ownedRecords reading.realpath root record children = .ok [child] ∧
    textOf (fieldOf child "workspace_id") = some snapshot.workspaceId ∧
    recordedAgents child = some agents ∧
    sameNames (agents.map fun agent => .text agent.2) snapshot.agentNames = true

/-- Exactly one live workspace has the id that was proven, and the agents in it are
those that were proven. -/
def ShowsLive (worker : WorkspaceWorker) (snapshot : ProofSnapshot) (reading : Reading) : Prop :=
  ∃ live workspace observed, liveOf worker reading = some (.list live) ∧
    workspacesOf live snapshot.workspaceId = [workspace] ∧
    fieldOf workspace "agent_names" = .list observed ∧ sameNames observed snapshot.agentNames = true

/-- The one child record of the workflow names a workspace that no live one is. -/
def ShowsNoSession (worker : WorkspaceWorker) (root : String) (record : WorkflowRecord)
    (reading : Reading) : Prop :=
  ∃ children child workspaceId live, listedOf reading = .list children ∧
    ownedRecords reading.realpath root record children = .ok [child] ∧
    namedText (fieldOf child "workspace_id") = some workspaceId ∧
    liveOf worker reading = some (.list live) ∧ workspacesOf live workspaceId = []

/-- A proof by the first reading that the second one shows again in full. -/
structure FullProof (worker : WorkspaceWorker) (root : String) (record : WorkflowRecord)
    (first second : Reading) (snapshot : ProofSnapshot) : Prop where
  proven : domainBProof worker root record first = .ok (some snapshot)
  child : ShowsChild root record snapshot first
  live : ShowsLive worker snapshot first
  childAgain : ShowsChild root record snapshot second
  liveAgain : ShowsLive worker snapshot second

/-- Only what is proven in full is closed; and where the broker is one that reads or
closes workspaces, the directory is given up without a close only when the reading shows
that no session remains. -/
structure Careful (worker : WorkspaceWorker) (root : String) (record : WorkflowRecord)
    (first second : Reading) : Prop where
  closes : ∀ workspaceId,
    (releaseSessions worker root record first second).invoked = some workspaceId →
      ∃ snapshot, snapshot.workspaceId = workspaceId ∧
        FullProof worker root record first second snapshot
  retains : worker.observes = true ∨ worker.closes = true →
    (releaseSessions worker root record first second).invoked = none → ∀ answer,
      (releaseSessions worker root record first second).answer = .ok answer →
        answer.reclaimed = true → ShowsNoSession worker root record second

/-- A proven workspace, live as it was, while the child listing cannot be read. -/
def Unlisted (worker : WorkspaceWorker) (root : String) (record : WorkflowRecord)
    (first second : Reading) : Prop :=
  ∃ snapshot live, domainBProof worker root record first = .ok (some snapshot) ∧
    worker.closes = true ∧ liveOf worker second = some live ∧
    liveStillMatches snapshot live = .ok true ∧
    recordStillMatches second.realpath record snapshot = .ok true ∧ listedOf second = .null

/-! ## The proof -/

theorem sameNames_texts (names : List String) :
    sameNames (names.map Json.text) names = true := by
  unfold sameNames
  rw [Bool.and_eq_true, List.all_eq_true, List.all_eq_true]
  constructor
  · intro item hmem
    obtain ⟨name, hname, rfl⟩ := List.mem_map.mp hmem
    exact decide_eq_true hname
  · intro name hname
    exact List.any_eq_true.mpr ⟨.text name, List.mem_map_of_mem hname, decide_eq_true rfl⟩

/-- What the comparison of the agents proves. -/
theorem compareAgents_owned {realpath : Realpath} {workspaceId taskId : String}
    {child workspace : Json} (h : compareAgents realpath record workspaceId taskId child workspace =
      .ok (.owned snapshot)) : ∃ agents observed, recordedAgents child = some agents ∧
      fieldOf workspace "agent_names" = .list observed ∧
      sameNames observed (agents.map Prod.snd) = true ∧
      snapshot.agentNames = agents.map Prod.snd ∧ snapshot.workspaceId = workspaceId := by
  unfold compareAgents at h
  split at h
  · cases h
  · next agents observed hagents hobserved =>
      simp only [bind_eq_ok, exists_passed, failIf_eq_ok, not_not] at h
      obtain ⟨-, h⟩ := h
      split at h
      · next hsame =>
          simp only [bind_eq_ok, pure_eq_ok] at h
          obtain ⟨lease, -, hsnapshot⟩ := h
          cases hsnapshot
          exact ⟨agents, observed, hagents, hobserved, hsame, rfl, rfl⟩
      · simp only [bind_eq_ok, pure_eq_ok] at h
        obtain ⟨-, -, h⟩ := h
        cases h
  · cases h

/-- An owned proof shows the child record and the live workspace it names. -/
theorem proveOwnership_owned {live : Json} (hlive : liveOf worker reading = some live)
    (h : proveOwnership reading.realpath root record (listedOf reading) live =
      .ok (.owned snapshot)) :
    ShowsChild root record snapshot reading ∧ ShowsLive worker snapshot reading := by
  unfold proveOwnership at h
  split at h
  · next taskId children workspaces _ hchildren =>
      simp only [bind_eq_ok] at h
      obtain ⟨matching, hmatching, h⟩ := h
      split at h
      · cases h
      · next child =>
          unfold proveLive at h
          split at h
          · cases h
          · next workspaceId hid =>
              split at h
              · cases h
              · next workspace hworkspace =>
                  obtain ⟨agents, observed, hagents, hobserved, hsame, hnames, rfl⟩ :=
                    compareAgents_owned h
                  have htext : textOf (fieldOf child "workspace_id") =
                      some snapshot.workspaceId := (Option.filter_eq_some_iff.mp hid).1
                  refine ⟨⟨children, child, agents, hchildren, hmatching, htext, hagents, ?_⟩,
                    workspaces, workspace, observed, hlive, hworkspace, hobserved, ?_⟩
                  · rw [hnames]
                    have htexts := sameNames_texts (agents.map Prod.snd)
                    rw [List.map_map] at htexts
                    exact htexts
                  · rw [hnames]
                    exact hsame
              · cases h
      · cases h
  · cases h

theorem domainBProof_shows (h : domainBProof worker root record first = .ok (some snapshot)) :
    ShowsChild root record snapshot first ∧ ShowsLive worker snapshot first := by
  unfold domainBProof at h
  split at h
  · cases h
  · next live hlive =>
      simp only [bind_eq_ok, pure_eq_ok] at h
      obtain ⟨proof, hproof, hsnapshot⟩ := h
      cases proof with
      | owned held =>
          cases hsnapshot
          exact proveOwnership_owned hlive hproof
      | notOwned problem => cases hsnapshot
      | unprovable problem => cases hsnapshot

/-- The evidence that no session remains. -/
theorem proveOwnership_notFound {live : Json} (hlive : liveOf worker reading = some live)
    {proof : Proof}
    (h : proveOwnership reading.realpath root record (listedOf reading) live = .ok proof)
    (hproblem : problemOf proof = some .workspaceNotFound) :
    ShowsNoSession worker root record reading := by
  unfold proveOwnership at h
  split at h
  · next taskId children workspaces _ hchildren =>
      simp only [bind_eq_ok] at h
      obtain ⟨matching, hmatching, h⟩ := h
      split at h
      · cases h
        cases hproblem
      · next child =>
          unfold proveLive at h
          split at h
          · cases h
            cases hproblem
          · next workspaceId hid =>
              split at h
              · next hnone =>
                  exact ⟨children, child, workspaceId, workspaces, hchildren, hmatching, hid,
                    hlive, hnone⟩
              · next workspace _ =>
                  unfold compareAgents at h
                  split at h
                  · cases h
                    cases hproblem
                  · simp only [bind_eq_ok, exists_passed, failIf_eq_ok, not_not] at h
                    obtain ⟨-, h⟩ := h
                    split at h
                    · simp only [bind_eq_ok, pure_eq_ok] at h
                      obtain ⟨lease, -, rfl⟩ := h
                      cases hproblem
                    · simp only [bind_eq_ok, pure_eq_ok] at h
                      obtain ⟨-, -, rfl⟩ := h
                      cases hproblem
                  · cases h
                    cases hproblem
              · cases h
                cases hproblem
      · cases h
        cases hproblem
  · cases h
    cases hproblem

/-- A workflow without a task id is never found to have no child record. -/
theorem proveOwnership_noChild {live : Json} {proof : Proof}
    (h : proveOwnership reading.realpath root record (listedOf reading) live = .ok proof)
    (hproblem : problemOf proof = some .noChildRecord) : recordedTaskId record ≠ none := by
  intro hnone
  unfold proveOwnership at h
  rw [hnone] at h
  cases h
  cases hproblem

/-! ## The close -/

/-- A workspace is closed exactly when it was proven and everything compared still
matches. -/
theorem invoked_eq_some {workspaceId : String} :
    (releaseSessions worker root record first second).invoked = some workspaceId ↔
      ∃ snapshot live, domainBProof worker root record first = .ok (some snapshot) ∧
        worker.closes = true ∧ liveOf worker second = some live ∧
        stillMatches second.realpath root record snapshot (listedOf second) live = .ok true ∧
        snapshot.workspaceId = workspaceId := by
  unfold releaseSessions
  cases hproof : domainBProof worker root record first with
  | error unfit => simp
  | ok proof =>
      simp only [domainBRelease]
      cases hcloses : worker.closes with
      | false =>
          cases hobserves : worker.observes <;> simp
      | true =>
          cases proof with
          | none => simp
          | some snapshot =>
              cases hlive : liveOf worker second with
              | none => simp
              | some live =>
                  simp only [closeProven]
                  cases hmatches : stillMatches second.realpath root record snapshot
                      (listedOf second) live with
                  | error unfit => simp [hmatches]
                  | ok matched => cases matched <;> simp [hmatches]

/-- What still matches in full, or matches where no listing is there to compare. -/
theorem stillMatches_eq_true {live : Json} :
    stillMatches reading.realpath root record snapshot (listedOf reading) live = .ok true ↔
      liveStillMatches snapshot live = .ok true ∧
        recordStillMatches reading.realpath record snapshot = .ok true ∧
        childrenStillMatch reading.realpath root record snapshot (listedOf reading) =
          .ok true := by
  unfold stillMatches
  constructor
  · intro h
    simp only [bind_eq_ok] at h
    obtain ⟨matched, hmatched, h⟩ := h
    split at h
    · cases h
    · next hlive =>
        simp only [bind_eq_ok] at h
        obtain ⟨bound, hbound, h⟩ := h
        split at h
        · cases h
        · next hrecord =>
            rw [Bool.not_eq_false] at hlive hrecord
            subst hlive hrecord
            exact ⟨hmatched, hbound, h⟩
  · rintro ⟨hlive, hbound, hchildren⟩
    rw [hlive, hbound]
    exact hchildren

theorem liveStillMatches_shows {live : Json} (hlive : liveOf worker reading = some live)
    (h : liveStillMatches snapshot live = .ok true) : ShowsLive worker snapshot reading := by
  unfold liveStillMatches at h
  split at h
  · next workspaces =>
      split at h
      · next workspace hworkspace =>
          split at h
          · next observed hobserved =>
              simp only [bind_eq_ok, exists_passed, failIf_eq_ok, not_not, pure_eq_ok] at h
              exact ⟨workspaces, workspace, observed, hlive, hworkspace, hobserved, h.2⟩
          · cases h
      · cases h
  · cases h

/-- A listing that is there is compared in full. -/
theorem childrenStillMatch_shows
    (h : childrenStillMatch reading.realpath root record snapshot (listedOf reading) = .ok true)
    (hlisted : listedOf reading ≠ .null) : ShowsChild root record snapshot reading := by
  unfold childrenStillMatch at h
  split at h
  · next hnull => exact absurd hnull hlisted
  · next children hchildren =>
      simp only [bind_eq_ok, pure_eq_ok] at h
      obtain ⟨matching, hmatching, h⟩ := h
      unfold childStillMatches at h
      split at h
      · next child =>
          rw [decide_eq_true_eq] at h
          obtain ⟨hid, hagents⟩ := h
          cases hrecorded : recordedAgents child with
          | none =>
              rw [hrecorded] at hagents
              cases hagents
          | some agents =>
              rw [hrecorded] at hagents
              exact ⟨children, child, agents, hchildren, hmatching, hid, hrecorded, hagents⟩
      · cases h
  · cases h
  · cases h
  · cases h

/-- Where the readings can be compared, what is closed is proven in full. -/
theorem fullProof_of_invoked (hlisted : ¬ Unlisted worker root record first second)
    {workspaceId : String}
    (h : (releaseSessions worker root record first second).invoked = some workspaceId) :
    ∃ snapshot, snapshot.workspaceId = workspaceId ∧
      FullProof worker root record first second snapshot := by
  obtain ⟨snapshot, live, hproof, hcloses, hlive, hmatches, hid⟩ := invoked_eq_some.mp h
  obtain ⟨hliveMatches, hbound, hchildren⟩ := stillMatches_eq_true.mp hmatches
  obtain ⟨hchild, hshown⟩ := domainBProof_shows hproof
  have hnonnull : listedOf second ≠ .null := fun hnull =>
    hlisted ⟨snapshot, live, hproof, hcloses, hlive, hliveMatches, hbound, hnull⟩
  exact ⟨snapshot, hid, hproof, hchild, hshown, childrenStillMatch_shows hchildren hnonnull,
    liveStillMatches_shows hlive hliveMatches⟩

/-- Without a close the sessions count as reclaimed only where none remains. -/
theorem noSession_of_reclaimed (hconfigured : worker.observes = true ∨ worker.closes = true)
    (hnone : (releaseSessions worker root record first second).invoked = none)
    {answer : SessionsAnswer}
    (h : (releaseSessions worker root record first second).answer = .ok answer)
    (hreclaimed : answer.reclaimed = true) : ShowsNoSession worker root record second := by
  unfold releaseSessions at h hnone
  split at h
  · cases h
  · next snapshot hproof =>
      rw [hproof] at hnone
      simp only at hnone
      unfold domainBRelease at h hnone
      have hactor : ¬ (¬ worker.observes = true ∧ ¬ worker.closes = true) := by
        rintro ⟨hblind, hbound⟩
        exact hconfigured.elim hblind hbound
      rw [if_neg hactor] at h hnone
      by_cases hcloses : worker.closes = true
      · rw [if_neg (not_not.mpr hcloses)] at h hnone
        cases snapshot with
        | none =>
            simp only [nothingToClose] at h
            split at h
            · cases h
              cases hreclaimed
            · next live hlive =>
                simp only [bind_eq_ok, pure_eq_ok] at h
                obtain ⟨proof, hproof, rfl⟩ := h
                rcases of_decide_eq_true hreclaimed with hproblem | ⟨hproblem, htask⟩
                · exact proveOwnership_notFound hlive hproof hproblem
                · exact absurd htask (proveOwnership_noChild hproof hproblem)
        | some snapshot =>
            simp only at h hnone
            split at h
            · cases h
              cases hreclaimed
            · next live hlive =>
                rw [hlive] at hnone
                simp only [closeProven] at h hnone
                split at h
                · cases h
                · cases h
                  cases hreclaimed
                · next hmatches =>
                    rw [hmatches] at hnone
                    cases hnone
      · rw [if_pos hcloses] at h
        cases h
        cases hreclaimed

/-- Where a proven workspace is live as it was and no listing can be read, it is closed
without one. -/
theorem invoked_of_unlisted (h : Unlisted worker root record first second) : ∃ workspaceId,
      (releaseSessions worker root record first second).invoked = some workspaceId := by
  obtain ⟨snapshot, live, hproof, hcloses, hlive, hliveMatches, hbound, hnull⟩ := h
  refine ⟨snapshot.workspaceId, invoked_eq_some.mpr
    ⟨snapshot, live, hproof, hcloses, hlive, ?_, rfl⟩⟩
  refine stillMatches_eq_true.mpr ⟨hliveMatches, hbound, ?_⟩
  rw [hnull]
  rfl

theorem not_careful_of_unlisted (h : Unlisted worker root record first second) :
    ¬ Careful worker root record first second := by
  intro hcareful
  obtain ⟨workspaceId, hinvoked⟩ := invoked_of_unlisted h
  obtain ⟨-, -, -, -, -, -, -, hnull⟩ := h
  obtain ⟨snapshot, -, hfull⟩ := hcareful.closes workspaceId hinvoked
  obtain ⟨children, -, -, hlisted, -⟩ := hfull.childAgain
  rw [hnull] at hlisted
  cases hlisted

/-- A release is careful exactly when it does not come to a proven workspace, live as it
was, while the child listing cannot be read. -/
theorem careful_iff (worker : WorkspaceWorker) (root : String) (record : WorkflowRecord)
    (first second : Reading) :
    Careful worker root record first second ↔ ¬ Unlisted worker root record first second := by
  constructor
  · exact fun hcareful hunlisted => not_careful_of_unlisted hunlisted hcareful
  · intro hlisted
    exact ⟨fun _ hinvoked => fullProof_of_invoked hlisted hinvoked,
      fun hconfigured hnone _ hanswer hreclaimed =>
        noSession_of_reclaimed hconfigured hnone hanswer hreclaimed⟩

end

/-- A blocked workflow with a lease and a bound task. -/
def leasedRecord : WorkflowRecord :=
  { sampleRecord "wf-1" sampleWordsDigest with
    phase := .blocked
    workspaceLease := some ⟨"lease-1", "/ws/wf-1", 0, none⟩
    targetEngine := some ⟨"di-remote-2-wf-1", "task-1", "/ws/wf-1", 0⟩ }

def leasedChild : Json :=
  .object [("repo", .text "/ws/wf-1"), ("task_id", .text "task-1"),
    ("workspace_id", .text "w1"), ("agents", .object [("lead1", .text "a-lead")])]

def leasedLive : Json :=
  .list [.object [("workspace_id", .text "w1"), ("agent_names", .list [.text "a-lead"])]]

def plainPath : Realpath := fun path => .ok path

/-- The listing and the live workspaces agree. -/
def listedReading : Reading where
  children := some (.object [("listed", .list [leasedChild])])
  live := some leasedLive
  realpath := plainPath

/-- The live workspaces are as before, and the listing cannot be read. -/
def unlistedReading : Reading where
  children := none
  live := some leasedLive
  realpath := plainPath

def leasedSnapshot : ProofSnapshot := ⟨"w1", "task-1", ["a-lead"], some "/ws/wf-1"⟩

theorem domainBProof_listedReading :
    domainBProof ⟨true, true⟩ "/ws" leasedRecord listedReading = .ok (some leasedSnapshot) := by
  decide +kernel

theorem liveStillMatches_leased : liveStillMatches leasedSnapshot leasedLive = .ok true := by
  decide +kernel

theorem recordStillMatches_leased :
    recordStillMatches plainPath leasedRecord leasedSnapshot = .ok true := by
  decide +kernel

/-- A workspace is closed although the child listing cannot be read at the close. -/
theorem close_without_listing :
    ¬ ∀ worker root record first second, Careful worker root record first second := by
  intro hall
  refine not_careful_of_unlisted ?_
    (hall ⟨true, true⟩ "/ws" leasedRecord listedReading unlistedReading)
  exact ⟨leasedSnapshot, leasedLive, domainBProof_listedReading, rfl, rfl,
    liveStillMatches_leased, recordStillMatches_leased, rfl⟩

end DodgingInfinity.TargetBroker
