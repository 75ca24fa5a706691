import DodgingInfinity.MissionSources.Absence

/-!
# The children of a record no live session corroborates

The child chains of such a record are followed although its own team is refused.  They
leave every other Mission as it is when none of the children is named, recorded or
staffed by another.
-/

namespace DodgingInfinity.MissionSources

variable {views : List View} {view record : View} {deferred postponed : Dict String Binding}
  {observation : Observation} {chains : ChainReading} {complete : Bool}
  {links chained : List Link} {child : ChildRecord}

/-- Two links name one task or one root. -/
def Link.Overlaps (link other : Link) : Prop :=
  (link.1 ≠ none ∧ link.1 = other.1) ∨ (link.2 ≠ none ∧ link.2 = other.2)

/-- The children a view's own root records. -/
def recordedChildren (chains : ChainReading) (view : View) : List ChildRecord :=
  (parentChildren chains view).2

/-- The children a record's root records are nobody else's: none is the task or the root
of another active task-native record, none is recorded by another Mission, and none is
staffed by an agent or a session of another task. -/
structure ChildrenApart (views : List View) (observation : Observation)
    (chains : ChainReading) (record : View) : Prop where
  unnamed : ∀ child ∈ recordedChildren chains record, ∀ view ∈ without views record,
    view.taskNative = true → view.standing = .active → ¬ view.link.Shares child.link
  unrecorded : ∀ child ∈ recordedChildren chains record,
    ∀ view ∈ without views record, ∀ other ∈ recordedChildren chains view,
      ¬ other.link.Overlaps child.link
  unstaffed : ∀ child ∈ recordedChildren chains record,
    ∀ task ∈ observation.reading.tasks, some task.taskId = child.childTaskId →
      ∀ other ∈ observation.reading.tasks, other.taskId ≠ task.taskId →
        ∀ recorded ∈ other.bindings, ∀ held ∈ task.bindings, recorded.agent ≠ held.agent ∧
            ∀ session, recorded.session = some session → held.session ≠ some session

/-! ## Deferrals -/

theorem deferral_fewer {pairs : List Link} {link : Link} (hsub : ∀ other ∈ chained, other ∈ links)
    (hnew : ∀ other ∈ links, other ∈ chained ∨ ¬ link.Shares other) :
    deferral pairs links complete link = deferral pairs chained complete link := by
  have hmem : link ∈ links ↔ link ∈ chained := by
    constructor
    · intro hlink
      exact (hnew link hlink).resolve_right fun hnot => hnot (.inl rfl)
    · exact hsub link
  have hshared : link.sharedWith links = link.sharedWith chained := by
    rw [Bool.eq_iff_iff]
    unfold Link.sharedWith
    simp only [decide_eq_true_eq, List.mem_map]
    constructor
    · rintro (⟨hne, other, hother, heq⟩ | ⟨hne, other, hother, heq⟩)
      · refine .inl ⟨hne, other, (hnew other hother).resolve_right ?_, heq⟩
        exact fun hnot => hnot (.inr (.inl ⟨hne, heq.symm⟩))
      · refine .inr ⟨hne, other, (hnew other hother).resolve_right ?_, heq⟩
        exact fun hnot => hnot (.inr (.inr ⟨hne, heq.symm⟩))
    · rintro (⟨hne, other, hother, heq⟩ | ⟨hne, other, hother, heq⟩)
      · exact .inl ⟨hne, other, hsub other hother, heq⟩
      · exact .inr ⟨hne, other, hsub other hother, heq⟩
  simp only [deferral, hmem, hshared]

/-- Without a task-native record the others claim as they did. -/
theorem claimant_without (hrefs : DistinctRefs views) (hheld : record ∈ views)
    (hnative : record.taskNative = true) : Claimant (without views record) complete links view ↔
      Claimant views complete links view := by
  unfold Claimant
  constructor
  · rintro ⟨hactive, hclaims⟩
    rw [← deferringTo_eq_none hactive, deferringTo_without hrefs hheld hnative] at hclaims
    exact ⟨hactive, (deferringTo_eq_none hactive).mp hclaims⟩
  · rintro ⟨hactive, hclaims⟩
    rw [← deferringTo_eq_none hactive, ← deferringTo_without hrefs hheld hnative]
      at hclaims
    exact ⟨hactive, (deferringTo_eq_none hactive).mp hclaims⟩

theorem mem_parentLinks (hrefs : DistinctRefs views) {link : Link} :
    link ∈ parentLinks chains views complete ↔ ∃ view ∈ views, Claimant views complete [] view ∧
        ∃ child ∈ recordedChildren chains view, child.link = link := by
  unfold parentLinks recordedChildren
  simp only [List.mem_flatMap, List.mem_map, mem_claimants hrefs, and_assoc]

/-- The parent chains but the record's are those without it. -/
theorem mem_parentLinks_without (hrefs : DistinctRefs views) (hheld : record ∈ views)
    (hnative : record.taskNative = true) :
    (∀ link ∈ parentLinks chains (without views record) complete,
        link ∈ parentLinks chains views complete) ∧ ∀ link ∈ parentLinks chains views complete,
        link ∈ parentLinks chains (without views record) complete ∨
          ∃ child ∈ recordedChildren chains record, child.link = link := by
  constructor
  · intro link hlink
    obtain ⟨view, hview, hclaims, hchild⟩ :=
      (mem_parentLinks (hrefs.without record)).mp hlink
    rw [claimant_without hrefs hheld hnative] at hclaims
    exact (mem_parentLinks hrefs).mpr ⟨view, (mem_without.mp hview).1, hclaims, hchild⟩
  · intro link hlink
    obtain ⟨view, hview, hclaims, hchild⟩ := (mem_parentLinks hrefs).mp hlink
    by_cases hsame : view.missionRef = record.missionRef
    · obtain rfl := List.inj_on_of_nodup_map hrefs hview hheld hsame
      exact .inr hchild
    · refine .inl ((mem_parentLinks (hrefs.without record)).mpr
        ⟨view, mem_without.mpr ⟨hview, hsame⟩, ?_, hchild⟩)
      rw [claimant_without hrefs hheld hnative]
      exact hclaims

/-- Children that are nobody else's leave the deferrals of the others as they are. -/
theorem ChildrenApart.othersDefer (h : ChildrenApart views observation chains record)
    (hrefs : DistinctRefs views) (hheld : record ∈ views) (hnative : record.taskNative = true) :
    OthersDefer views (chainDeferrals chains views complete)
      (chainDeferrals chains (without views record) complete) record := by
  intro view hview
  unfold chainDeferrals
  rw [get?_deferrals_of_mem hrefs (mem_without.mp hview).1,
    get?_deferrals_of_mem (hrefs.without record) hview, deferringTo_without hrefs hheld hnative]
  obtain ⟨hsub, hnew⟩ := @mem_parentLinks_without _ _ chains complete hrefs hheld hnative
  unfold deferringTo
  split
  · rfl
  · rename_i hdefers
    rw [not_or, Bool.not_eq_false, not_not] at hdefers
    apply deferral_fewer hsub
    intro link hlink
    rcases hnew link hlink with hkept | ⟨child, hchild, rfl⟩
    · exact .inl hkept
    · exact .inr (h.unnamed child hchild view hview hdefers.1 hdefers.2)

/-! ## Claims -/

/-- What is left out contributes nothing to a name it does not hold. -/
theorem count_flatMap_filter {α β γ : Type} [DecidableEq γ] {items : List α}
    {keep : α → Bool} {f : α → List β} {g : β → Option γ} {name : γ}
    (hout : ∀ item ∈ items, keep item = false → ∀ held ∈ f item, g held ≠ some name) :
    (((items.filter keep).flatMap f).filterMap g).count name =
      ((items.flatMap f).filterMap g).count name := by
  induction items with
  | nil => rfl
  | cons item rest ih =>
      have hrest := ih fun other hother => hout other (List.mem_cons_of_mem _ hother)
      rw [List.flatMap_cons, List.filterMap_append, List.count_append, ← hrest]
      cases hkeep : keep item with
      | true =>
          rw [List.filter_cons_of_pos hkeep, List.flatMap_cons, List.filterMap_append,
            List.count_append]
      | false =>
          have hnone : ((f item).filterMap g).count name = 0 := by
            rw [List.count_eq_zero, List.mem_filterMap]
            rintro ⟨held, hheld, hname⟩
            exact hout item List.mem_cons_self hkeep held hheld hname
          rw [List.filter_cons_of_neg (by simp [hkeep]), hnone, Nat.zero_add]

/-- The claimants without a record are the others. -/
theorem claimants_without (hothers : OthersDefer views deferred postponed record) :
    claimants (without views record) postponed = (claimants views deferred).filter
        fun view => view.missionRef ≠ record.missionRef := by
  unfold claimants without
  rw [List.filter_filter, List.filter_filter]
  apply List.filter_congr
  intro view hview
  by_cases hne : view.missionRef = record.missionRef
  · simp [hne]
  · have hsame := hothers view (mem_without.mpr ⟨hview, hne⟩)
    unfold Dict.contains
    simp only [hne, hsame, ne_eq, not_false_eq_true, decide_true, Bool.and_true, Bool.true_and]

/-- The children followed under a Mission are those its root records; it is active and
defers to none. -/
theorem mem_missionChildren (hchild : child ∈ (missionChildren chains deferred view).2) :
    child ∈ recordedChildren chains view ∧ deferred.get? view.missionRef = none ∧
      view.standing = .active := by
  unfold missionChildren at hchild
  split at hchild
  · cases hchild
  · rename_i hcontains
    rw [Bool.not_eq_true, Dict.contains_eq_false_iff] at hcontains
    refine ⟨hchild, hcontains, ?_⟩
    by_contra hactive
    unfold parentChildren at hchild
    rw [if_pos hactive] at hchild
    cases hchild

/-- The children claimed without a record are counted as with it, in a name none of its
own has. -/
theorem count_claimedChildren {f : ChildRecord → Option String} {name : String}
    (hothers : OthersDefer views deferred postponed record)
    (hrefs : DistinctRefs views) (hheld : record ∈ views)
    (hapart : ∀ child ∈ recordedChildren chains record, f child ≠ some name) :
    ((claimedChildren chains views deferred).filterMap f).count name =
      ((claimedChildren chains (without views record) postponed).filterMap f).count
        name := by
  have hsame : ∀ view ∈ (claimants views deferred).filter
      (fun view => view.missionRef ≠ record.missionRef), (missionChildren chains postponed view).2 =
        (missionChildren chains deferred view).2 := by
    intro view hview
    rw [List.mem_filter, decide_eq_true_eq] at hview
    have hmem := (List.mem_filter.mp hview.1).1
    unfold missionChildren Dict.contains
    rw [hothers view (mem_without.mpr ⟨hmem, hview.2⟩)]
  unfold claimedChildren
  rw [claimants_without hothers, List.flatMap_congr hsame]
  symm
  apply count_flatMap_filter
  intro view hview hleft child hchild
  have hmem := (List.mem_filter.mp hview).1
  rw [decide_eq_false_iff_not, not_not] at hleft
  obtain rfl := List.inj_on_of_nodup_map hrefs hmem hheld hleft
  exact hapart child (mem_missionChildren hchild).1

/-! ## The child chains of the others -/

/-- What the child chains of a classification are decided against. -/
def chainScope (views : List View) (observation : Observation) (chains : ChainReading)
    (deferred : Dict String Binding) : ChainScope where
  observation := observation
  chains := chains
  tasks := chainTaskClaims chains views deferred
  workspaces := chainWorkspaceClaims chains views deferred

@[simp] theorem chainScope_observation :
    (chainScope views observation chains deferred).observation = observation := rfl

@[simp] theorem chainScope_chains :
    (chainScope views observation chains deferred).chains = chains := rfl

/-- A direct chain is not read against the claims. -/
theorem directChain_chainScope (mission : Mission) (others : List View) :
    directChain (chainScope views observation chains deferred) mission =
      directChain (chainScope others observation chains postponed) mission := by
  unfold directChain
  simp only [chainScope_observation, chainScope_chains]

theorem sameScope_chainScope (others : List View) :
    SameScope (chainScope views observation chains deferred)
      (chainScope others observation chains postponed) where
  observation := by
    simp only [chainScope_observation]
    exact ⟨rfl, rfl, .refl _, .refl _, rfl, rfl, rfl⟩
  chains := by simp only [chainScope_chains]

/-- What a Mission's chains are, before any member is classified. -/
def chainsOf (views : List View) (observation : Observation) (chains : ChainReading)
    (deferred : Dict String Binding) (mission : Mission) : DecidedChains where
  mission := mission
  chains := directChain (chainScope views observation chains deferred) mission ::
    (missionChildren chains deferred mission.view).2.map
      (childChain (chainScope views observation chains deferred) mission.view
        (parentConfirmed observation (taskClaims views deferred)
          (workspaceClaims views deferred) mission.view))

@[simp] theorem chainsOf_mission (mission : Mission) :
    (chainsOf views observation chains deferred mission).mission = mission := rfl

theorem decidedChains_eq : decidedChains views observation chains = (classifyWith views observation
        (chainDeferrals chains views observation.canonicalComplete)).1.map
        (chainsOf views observation chains
          (chainDeferrals chains views observation.canonicalComplete)) := rfl

/-- An uncorroborated record of a version 2 classification, and what it leaves to the
others. -/
structure Overshadowed (views : List View) (observation : Observation)
    (chains : ChainReading) (record : View) : Prop where
  alone : Alone views observation
    (chainDeferrals chains views observation.canonicalComplete) record
  apart : ChildrenApart views observation chains record

theorem Overshadowed.othersDefer (h : Overshadowed views observation chains record)
    (hrefs : DistinctRefs views) :
    OthersDefer views (chainDeferrals chains views observation.canonicalComplete)
      (chainDeferrals chains (without views record) observation.canonicalComplete)
      record :=
  h.apart.othersDefer hrefs h.alone.held h.alone.native

/-- The record names no task and no root that another's child has: it would defer to that
chain. -/
theorem Overshadowed.not_shares (h : Overshadowed views observation chains record)
    (hrefs : DistinctRefs views) (hview : view ∈ views)
    (hclaims : Claimant views observation.canonicalComplete [] view)
    (hchild : child ∈ recordedChildren chains view) :
    ¬ record.link.Shares child.link := by
  intro hshares
  have hundeferred := h.alone.undeferred
  unfold chainDeferrals at hundeferred
  rw [get?_deferrals_of_mem hrefs h.alone.held, deferringTo_eq_none h.alone.active] at hundeferred
  apply hundeferred
  refine ⟨h.alone.native, .inr (.inl ⟨child.link, ?_, hshares⟩)⟩
  exact (mem_parentLinks hrefs).mpr ⟨view, hview, hclaims, child, hchild, rfl⟩

/-- A Mission that defers to no chain defers to no canonical record. -/
theorem claimant_first (hrefs : DistinctRefs views) (hview : view ∈ views)
    (hactive : view.standing = .active)
    (hundeferred : (chainDeferrals chains views complete).get? view.missionRef = none) :
    Claimant views complete [] view := by
  unfold chainDeferrals at hundeferred
  rw [get?_deferrals_of_mem hrefs hview, deferringTo_eq_none hactive] at hundeferred
  refine ⟨hactive, ?_⟩
  rintro ⟨hnative, hcanonical | ⟨link, hlink, -⟩ | hincomplete⟩
  · exact hundeferred ⟨hnative, .inl hcanonical⟩
  · cases hlink
  · exact hundeferred ⟨hnative, .inr (.inr hincomplete)⟩

/-- Another's child is counted as if the record were absent. -/
theorem Overshadowed.sameChild (h : Overshadowed views observation chains record)
    (hrefs : DistinctRefs views) (hview : view ∈ without views record)
    (hchild : child ∈ (missionChildren chains
      (chainDeferrals chains views observation.canonicalComplete) view).2) : SameChild
      (chainScope views observation chains
        (chainDeferrals chains views observation.canonicalComplete))
      (chainScope (without views record) observation chains
        (chainDeferrals chains (without views record) observation.canonicalComplete))
      child := by
  obtain ⟨hrecorded, hundeferred, hactive⟩ := mem_missionChildren hchild
  have hmem := (mem_without.mp hview).1
  have hothers := h.othersDefer hrefs
  have hnot := h.not_shares hrefs hmem (claimant_first hrefs hmem hactive hundeferred) hrecorded
  constructor
  · intro taskId htask
    have hown : record.execution.taskId ≠ some taskId := by
      intro hsame
      apply hnot
      refine .inr (.inl ⟨?_, hsame.trans htask.symm⟩)
      exact Option.ne_none_iff_exists'.mpr ⟨taskId, hsame⟩
    have hchildren : ∀ held ∈ recordedChildren chains record,
        held.childTaskId ≠ some taskId := by
      intro held hheld hsame
      apply h.apart.unrecorded held hheld view hview child hrecorded
      refine .inl ⟨?_, htask.trans hsame.symm⟩
      exact Option.ne_none_iff_exists'.mpr ⟨taskId, htask⟩
    unfold chainScope chainTaskClaims
    dsimp only
    rw [List.count_append, List.count_append,
      count_claimedChildren hothers hrefs h.alone.held hchildren]
    congr 1
    exact h.alone.count_claims hrefs hothers hown
  · intro workspace hworkspace
    have hown : record.execution.workspaceRealpath ≠ some workspace := by
      intro hsame
      apply hnot
      refine .inr (.inr ⟨?_, hsame.trans hworkspace.symm⟩)
      exact Option.ne_none_iff_exists'.mpr ⟨workspace, hsame⟩
    have hchildren : ∀ held ∈ recordedChildren chains record,
        held.repo ≠ some workspace := by
      intro held hheld hsame
      apply h.apart.unrecorded held hheld view hview child hrecorded
      refine .inr ⟨?_, hworkspace.trans hsame.symm⟩
      exact Option.ne_none_iff_exists'.mpr ⟨workspace, hworkspace⟩
    unfold chainScope chainWorkspaceClaims
    dsimp only
    rw [List.count_append, List.count_append,
      count_claimedChildren hothers hrefs h.alone.held hchildren]
    congr 1
    exact h.alone.count_claims hrefs hothers hown

/-- The chains of another Mission are those it has without the record. -/
theorem Overshadowed.chainsOf (h : Overshadowed views observation chains record)
    (hrefs : DistinctRefs views) {mission : Mission}
    (hmission : mission.view ∈ without views record) : chainsOf views observation chains
        (chainDeferrals chains views observation.canonicalComplete) mission =
      chainsOf (without views record) observation chains
        (chainDeferrals chains (without views record) observation.canonicalComplete)
        mission := by
  have hothers := h.othersDefer hrefs
  have hscope : SameScope (chainScope views observation chains
        (chainDeferrals chains views observation.canonicalComplete))
      (chainScope (without views record) observation chains
        (chainDeferrals chains (without views record) observation.canonicalComplete)) :=
    sameScope_chainScope (without views record)
  have hchildren : missionChildren chains
      (chainDeferrals chains (without views record) observation.canonicalComplete)
      mission.view = missionChildren chains
      (chainDeferrals chains views observation.canonicalComplete) mission.view := by
    unfold missionChildren Dict.contains
    rw [hothers mission.view hmission]
  unfold MissionSources.chainsOf
  rw [hchildren, directChain_chainScope mission (without views record)]
  congr 2
  apply List.map_congr_left
  intro child hchild
  obtain ⟨hmem, hne⟩ := mem_without.mp hmission
  obtain ⟨-, hundeferred, hactive⟩ := mem_missionChildren hchild
  have hclaimant : mission.view ∈ claimants views
      (chainDeferrals chains views observation.canonicalComplete) := by
    unfold claimants
    rw [List.mem_filter, decide_eq_true_eq, Dict.contains_eq_false_iff]
    exact ⟨hmem, hundeferred, hactive⟩
  rw [parentConfirmed_congr ⟨rfl, rfl, .refl _, .refl _, rfl, rfl, rfl⟩
    (h.alone.executionBinding hrefs hothers hclaimant hne)]
  exact hscope.childChain (h.sameChild hrefs hmission hchild) mission.view _

/-- The other Missions' chains are those decided without the record. -/
theorem Overshadowed.decided (h : Overshadowed views observation chains record)
    (hrefs : DistinctRefs views) : (decidedChains views observation chains).filter
        (fun entry => entry.mission.view.missionRef ≠ record.missionRef) =
      decidedChains (without views record) observation chains := by
  have hmissions := h.alone.classifyWith hrefs (h.othersDefer hrefs)
  have hothers : ∀ mission ∈ (classifyWith (without views record) observation
      (chainDeferrals chains (without views record) observation.canonicalComplete)).1,
      MissionSources.chainsOf views observation chains
          (chainDeferrals chains views observation.canonicalComplete) mission =
        MissionSources.chainsOf (without views record) observation chains
          (chainDeferrals chains (without views record) observation.canonicalComplete)
          mission := by
    intro mission hmission
    obtain ⟨view, hview, rfl⟩ := mem_classifyWith.mp hmission
    exact h.chainsOf hrefs hview
  rw [decidedChains_eq, decidedChains_eq, ← List.map_congr_left hothers, ← hmissions,
    List.filter_map]
  rfl

/-! ## Bound tasks -/

variable {task : SnapshotTask}

/-- A chain refused by a condition is bound to no task. -/
theorem task_undecided_or {condition : Prop} [Decidable condition] {state : BindingState}
    {reason : BindingReason} {taskId : Option String} {decision : Decision} :
    (if condition then undecided state reason taskId else decision).task = some task ↔
      ¬ condition ∧ decision.task = some task := by
  split_ifs with hrefused
  · simp [hrefused, undecided]
  · simp [hrefused]

theorem childSnapshotDecision_task {scope : ChainScope}
    (h : (childSnapshotDecision scope child).task = some task) :
    scope.observation.reading.tasksById child.childTaskId = [task] := by
  unfold childSnapshotDecision at h
  cases hfound : scope.observation.reading.tasksById child.childTaskId with
  | nil =>
      rw [hfound] at h
      cases h
  | cons held rest =>
      cases rest with
      | nil =>
          rw [hfound] at h
          rw [Option.some.inj (task_undecided_or.mp h).2]
      | cons _ _ =>
          rw [hfound] at h
          cases h

/-- A child chain is bound to the task the snapshot holds once, of a child claimed
once. -/
theorem childDecision_task {scope : ChainScope} {confirmed : Bool}
    (h : (childDecision scope view confirmed child).task = some task) :
    scope.observation.reading.tasksById child.childTaskId = [task] ∧
      multiplyClaimed scope.tasks child.childTaskId = false := by
  unfold childDecision at h
  simp only [task_undecided_or, Bool.not_eq_true] at h
  obtain ⟨-, -, -, -, honce, -, hroot⟩ := h
  refine ⟨?_, honce⟩
  unfold childRootDecision at hroot
  cases hentry : scope.chains.rootOf child.repo with
  | none =>
      rw [hentry] at hroot
      cases hroot
  | some entry =>
      simp only [hentry] at hroot
      cases hcurrent : entry.task with
      | none =>
          rw [hcurrent] at hroot
          cases hroot
      | some current =>
          simp only [hcurrent, task_undecided_or] at hroot
          exact childSnapshotDecision_task hroot.2.2

theorem mem_tasksById {taskId : Option String} (h : observation.reading.tasksById taskId = [task]) :
    task ∈ observation.reading.tasks ∧ some task.taskId = taskId := by
  have hmem : task ∈ observation.reading.tasksById taskId := by
    rw [h]
    exact List.mem_singleton_self task
  unfold SnapshotReading.tasksById at hmem
  rw [List.mem_filter, decide_eq_true_eq] at hmem
  exact hmem

variable {entry : DecidedChains}

/-- A task a Mission's chains are bound to is its own, which it claims, or one of its
children's. -/
theorem bound_cases (hrefs : DistinctRefs views)
    (hentry : entry ∈ decidedChains views observation chains) (htask : task ∈ entry.bound) :
    task ∈ observation.reading.tasks ∧ ((entry.mission.binding.state = .bound ∧
        entry.mission.view ∈ claimants views
          (chainDeferrals chains views observation.canonicalComplete) ∧
        entry.mission.view.execution.taskId = some task.taskId) ∨ ∃ child ∈ (missionChildren chains
          (chainDeferrals chains views observation.canonicalComplete)
          entry.mission.view).2, child.childTaskId = some task.taskId ∧
        multiplyClaimed (chainTaskClaims chains views
          (chainDeferrals chains views observation.canonicalComplete))
          child.childTaskId = false) := by
  rw [decidedChains_eq, List.mem_map] at hentry
  obtain ⟨mission, hmission, rfl⟩ := hentry
  obtain ⟨chain, hchain, hheld⟩ := List.mem_filterMap.mp htask
  rcases List.mem_cons.mp hchain with rfl | hchild
  · unfold directChain at hheld
    dsimp only at hheld
    split at hheld
    · rename_i hbound
      obtain ⟨view, hview, rfl⟩ := mem_classifyWith.mp hmission
      rcases @decideBinding_cases view (chainDeferrals chains views observation.canonicalComplete)
          observation
          (taskClaims views (chainDeferrals chains views observation.canonicalComplete))
          (workspaceClaims views (chainDeferrals chains views observation.canonicalComplete)) with
        ⟨taskId, workspace, held, hlookup, -, hdecided⟩ | ⟨_, _, _, -, -, hrefused⟩ |
        ⟨-, hrefuses | hdeferred⟩
      · unfold missionOf at hheld
        dsimp only at hheld
        rw [hdecided] at hheld
        unfold boundDecision chainScope at hheld
        dsimp only at hheld
        rw [hlookup.found, List.head?_cons, Option.some.injEq] at hheld
        subst hheld
        obtain ⟨hmem, hid⟩ := mem_tasksById hlookup.found
        refine ⟨hmem, .inl ⟨hbound, ?_, ?_⟩⟩
        · unfold claimants
          rw [List.mem_filter, decide_eq_true_eq, Dict.contains_eq_false_iff]
          exact ⟨hview, hlookup.undeferred, hlookup.active⟩
        · exact hlookup.resolved.task_eq.trans hid.symm
      · simp only [missionOf, hrefused, undecided] at hbound
        cases hbound
      · exact absurd hbound hrefuses.1
      · unfold chainDeferrals at hdeferred
        rw [get?_deferrals_of_mem hrefs hview] at hdeferred
        exact absurd hbound (deferringTo_refuses hdeferred).1
    · cases hheld
  · obtain ⟨child, hmem, rfl⟩ := List.mem_map.mp hchild
    obtain ⟨hfound, honce⟩ := childDecision_task hheld
    obtain ⟨hknown, hid⟩ := mem_tasksById hfound
    exact ⟨hknown, .inr ⟨child, hmem, hid.symm, honce⟩⟩

theorem mem_decidedChains
    (hentry : entry ∈ decidedChains views observation chains) : entry.mission.view ∈ views ∧
      entry.mission = missionOf views observation
        (chainDeferrals chains views observation.canonicalComplete) entry.mission.view := by
  rw [decidedChains_eq, List.mem_map] at hentry
  obtain ⟨mission, hmission, rfl⟩ := hentry
  obtain ⟨view, hview, rfl⟩ := mem_classifyWith.mp hmission
  exact ⟨hview, rfl⟩

/-- A child's task claimed once is nobody's own. -/
theorem not_claimed_directly {taskId : String} (hview : view ∈ claimants views deferred)
    (hown : view.execution.taskId = some taskId) (hrecord : record ∈ claimants views deferred)
    (hchild : child ∈ (missionChildren chains deferred record).2)
    (hnamed : child.childTaskId = some taskId) :
    multiplyClaimed (chainTaskClaims chains views deferred) child.childTaskId = true := by
  have hdirect : 0 < (taskClaims views deferred).count taskId := by
    rw [List.count_pos_iff]
    exact List.mem_filterMap.mpr ⟨view, hview, hown⟩
  have hclaimed : 0 < ((claimedChildren chains views deferred).filterMap
      ChildRecord.childTaskId).count taskId := by
    rw [List.count_pos_iff]
    refine List.mem_filterMap.mpr ⟨child, ?_, hnamed⟩
    exact List.mem_flatMap.mpr ⟨record, hrecord, hchild⟩
  unfold multiplyClaimed chainTaskClaims
  rw [hnamed, Option.any_some, decide_eq_true_eq, List.count_append]
  omega

/-- A task of the record's chains is a child's of it, claimed once. -/
theorem Overshadowed.bound_child (h : Overshadowed views observation chains record)
    (hrefs : DistinctRefs views) (hentry : entry ∈ decidedChains views observation chains)
    (hown : entry.mission.view.missionRef = record.missionRef) (htask : task ∈ entry.bound) :
    task ∈ observation.reading.tasks ∧ ∃ child ∈ (missionChildren chains
          (chainDeferrals chains views observation.canonicalComplete) record).2,
        child.childTaskId = some task.taskId ∧ multiplyClaimed (chainTaskClaims chains views
          (chainDeferrals chains views observation.canonicalComplete))
          child.childTaskId = false := by
  obtain ⟨hview, hmission⟩ := mem_decidedChains hentry
  have hsame := List.inj_on_of_nodup_map hrefs hview h.alone.held hown
  obtain ⟨hknown, ⟨hbound, -⟩ | hchild⟩ := bound_cases hrefs hentry htask
  · rw [hmission, hsame] at hbound
    exact absurd hbound h.alone.refused
  · rw [hsame] at hchild
    exact ⟨hknown, hchild⟩

/-- The teams of the record's children and of the others have no binding in common. -/
theorem Overshadowed.staffed_apart (h : Overshadowed views observation chains record)
    (hrefs : DistinctRefs views) {other : DecidedChains}
    (hentry : entry ∈ decidedChains views observation chains)
    (hother : other ∈ decidedChains views observation chains)
    (hown : entry.mission.view.missionRef = record.missionRef)
    (hne : other.mission.view.missionRef ≠ record.missionRef)
    {held : SnapshotTask} (htask : task ∈ entry.bound) (hheld : held ∈ other.bound) :
    ∀ recorded ∈ held.bindings, ∀ staffed ∈ task.bindings, recorded.agent ≠ staffed.agent ∧
        ∀ session, recorded.session = some session →
          staffed.session ≠ some session := by
  obtain ⟨hknown, child, hchild, hnamed, honce⟩ := h.bound_child hrefs hentry hown htask
  obtain ⟨hotherKnown, hcases⟩ := bound_cases hrefs hother hheld
  obtain ⟨hview, -⟩ := mem_decidedChains hother
  have hrecorded := (mem_missionChildren hchild).1
  have hids : held.taskId ≠ task.taskId := by
    intro hsame
    rcases hcases with ⟨-, hclaims, hdirect⟩ | ⟨hers, hhers, hdirect, -⟩
    · rw [not_claimed_directly hclaims (hdirect.trans (congrArg some hsame))
        h.alone.mem_claimants hchild hnamed] at honce
      cases honce
    · apply h.apart.unrecorded child hrecorded _ (mem_without.mpr ⟨hview, hne⟩) hers
        (mem_missionChildren hhers).1
      refine .inl ⟨?_, hdirect.trans ((congrArg some hsame).trans hnamed.symm)⟩
      exact Option.ne_none_iff_exists'.mpr ⟨held.taskId, hdirect⟩
  exact h.apart.unstaffed child hrecorded task hknown hnamed.symm held hotherKnown hids

/-! ## Members -/

/-- The bindings of the teams a Mission's chains are bound to. -/
def DecidedChains.teams (decided : DecidedChains) : List SnapshotBinding :=
  decided.bound.flatMap SnapshotTask.bindings

theorem agentNames_eq (entries : List DecidedChains) (agents : List SnapshotAgent) :
    (newClaims (entries.flatMap DecidedChains.bound) agents).agentNames =
      (entries.flatMap DecidedChains.teams).filterMap
        fun recorded => some recorded.agent := by
  unfold newClaims DecidedChains.teams
  dsimp only
  rw [List.filterMap_eq_map', ← List.flatMap_assoc, List.map_flatMap]

theorem recordedSessions_eq (entries : List DecidedChains) (agents : List SnapshotAgent) :
    (newClaims (entries.flatMap DecidedChains.bound) agents).recordedSessions =
      (entries.flatMap DecidedChains.teams).filterMap SnapshotBinding.session := by
  unfold newClaims DecidedChains.teams
  dsimp only
  rw [← List.flatMap_assoc, List.filterMap_flatMap]

theorem newClaims_agents (bound : List SnapshotTask) (agents : List SnapshotAgent) :
    (newClaims bound agents).agents = agents := rfl

/-- What the record's children are staffed by counts nothing for the teams of others. -/
theorem Overshadowed.sameClaims (h : Overshadowed views observation chains record)
    (hrefs : DistinctRefs views) {other : DecidedChains}
    (hother : other ∈ decidedChains views observation chains)
    (hne : other.mission.view.missionRef ≠ record.missionRef) {held : SnapshotTask}
    (hheld : held ∈ other.bound) {recorded : SnapshotBinding}
    (hrecorded : recorded ∈ held.bindings) : SameClaims (chainClaims views observation chains)
      (chainClaims (without views record) observation chains) recorded := by
  have hapart : ∀ entry ∈ decidedChains views observation chains,
      decide (entry.mission.view.missionRef ≠ record.missionRef) = false →
      ∀ staffed ∈ entry.teams, recorded.agent ≠ staffed.agent ∧
        ∀ session, recorded.session = some session →
          staffed.session ≠ some session := by
    intro entry hentry hleft staffed hstaffed
    rw [decide_eq_false_iff_not, not_not] at hleft
    obtain ⟨task, htask, hstaffed⟩ := List.mem_flatMap.mp hstaffed
    exact h.staffed_apart hrefs hentry hother hleft hne htask hheld recorded hrecorded
      staffed hstaffed
  unfold chainClaims
  constructor
  · rw [agentNames_eq, agentNames_eq, ← h.decided hrefs]
    symm
    apply count_flatMap_filter
    intro entry hentry hleft staffed hstaffed hsame
    exact (hapart entry hentry hleft staffed hstaffed).1 (Option.some.inj hsame).symm
  · intro session hsession
    rw [recordedSessions_eq, recordedSessions_eq, ← h.decided hrefs]
    symm
    apply count_flatMap_filter
    intro entry hentry hleft staffed hstaffed
    exact (hapart entry hentry hleft staffed hstaffed).2 session hsession
  · rw [newClaims_agents, newClaims_agents]

/-- What is said of a Mission and its chains. -/
def chainMissionOf (views : List View) (observation : Observation)
    (chains : ChainReading) (entry : DecidedChains) : ChainMission where
  view := entry.mission.view
  binding := entry.mission.binding
  members := sortedMembers (entry.chains.flatMap
    (chainMembers (chainClaims views observation chains)
      observation.reading.observedAt entry.mission))
  taskChains := entry.chains.map Prod.fst
  childrenRecord := (missionChildren chains
    (chainDeferrals chains views observation.canonicalComplete) entry.mission.view).1

@[simp] theorem chainMissionOf_view (entry : DecidedChains) :
    (chainMissionOf views observation chains entry).view = entry.mission.view := rfl

@[simp] theorem chainMissionOf_binding (entry : DecidedChains) :
    (chainMissionOf views observation chains entry).binding = entry.mission.binding := rfl

theorem classifyV2_missions : (classifyV2 views observation chains).1 =
      (decidedChains views observation chains).map
        (chainMissionOf views observation chains) := by
  unfold classifyV2
  dsimp only
  apply List.map_congr_left
  intro entry _
  unfold chainMissionOf chainClaims
  rfl

/-- Every other Mission, its binding, its chains and its members, is what it is without
the record. -/
theorem Overshadowed.classifyV2 (h : Overshadowed views observation chains record)
    (hrefs : DistinctRefs views) : (classifyV2 views observation chains).1.filter
        (fun mission => mission.view.missionRef ≠ record.missionRef) =
      (classifyV2 (without views record) observation chains).1 := by
  have hfilter : (decidedChains views observation chains).filter
      ((fun mission => decide (mission.view.missionRef ≠ record.missionRef)) ∘
        chainMissionOf views observation chains) =
      decidedChains (without views record) observation chains := by
    rw [← h.decided hrefs]
    apply List.filter_congr
    intro entry _
    rw [Function.comp_apply, chainMissionOf_view]
  rw [classifyV2_missions, classifyV2_missions, List.filter_map, hfilter]
  apply List.map_congr_left
  intro entry hentry
  rw [← h.decided hrefs] at hentry
  obtain ⟨hmem, hkept⟩ := List.mem_filter.mp hentry
  have hne : entry.mission.view.missionRef ≠ record.missionRef := of_decide_eq_true hkept
  have hview : entry.mission.view ∈ without views record :=
    mem_without.mpr ⟨(mem_decidedChains hmem).1, hne⟩
  have hmembers : ∀ chain ∈ entry.chains, chainMembers (chainClaims views observation chains)
          observation.reading.observedAt entry.mission chain =
        chainMembers (chainClaims (without views record) observation chains)
          observation.reading.observedAt entry.mission chain := by
    intro chain hchain
    unfold chainMembers
    cases htask : chain.2 with
    | none => rw [Option.elim_none, Option.elim_none]
    | some task =>
        have hbound : task ∈ entry.bound := List.mem_filterMap.mpr ⟨chain, hchain, htask⟩
        rw [Option.elim_some, Option.elim_some, classifyMembers_congr fun recorded hrecorded =>
          h.sameClaims hrefs hmem hne hbound hrecorded]
  have hchildren : missionChildren chains
      (chainDeferrals chains views observation.canonicalComplete) entry.mission.view =
    missionChildren chains (chainDeferrals chains (without views record)
      observation.canonicalComplete) entry.mission.view := by
    unfold missionChildren Dict.contains
    rw [h.othersDefer hrefs _ hview]
  unfold chainMissionOf
  rw [List.flatMap_congr hmembers, hchildren]

/-! ## What task-native records leave alone -/

def chainBinding (mission : ChainMission) : View × Binding :=
  (mission.view, mission.binding)

/-- The bindings of the Missions with their chains are those of the Missions alone. -/
theorem chainBindings_eq : (classifyV2 views observation chains).1.map chainBinding =
      (classifyWith views observation
        (chainDeferrals chains views observation.canonicalComplete)).1.map ownBinding := by
  rw [classifyV2_missions, decidedChains_eq, List.map_map, List.map_map]
  apply List.map_congr_left
  intro mission _
  simp only [Function.comp_apply, chainBinding, ownBinding, chainMissionOf_view,
    chainMissionOf_binding, chainsOf_mission]

/-- The bindings of some Missions, chosen before or after. -/
theorem map_filter_fst {α β γ : Type} (items : List α) (f : α → β × γ) (keep : β → Bool) :
    (items.map f).filter (fun entry => keep entry.1) =
      (items.filter fun item => keep (f item).1).map f :=
  List.filter_map

/-- The canonical Missions are bound as they are among themselves, with their chains or
without. -/
theorem canonical_chainBindings (hrefs : DistinctRefs views) :
    ((classifyV2 views observation chains).1.filter
        fun mission => mission.view.taskNative = false).map chainBinding =
      (classifyV2 (canonicalViews views) observation chains).1.map chainBinding := by
  rw [chainBindings_eq, chainDeferrals, ← canonical_bindings hrefs]
  have hown := map_filter_fst (classifyWith views observation
    (chainDeferrals chains views observation.canonicalComplete)).1 ownBinding
    fun view => decide (view.taskNative = false)
  have hchains := map_filter_fst (classifyV2 views observation chains).1 chainBinding
    fun view => decide (view.taskNative = false)
  rw [chainBindings_eq] at hchains
  exact hchains.symm.trans hown

/-- Task-native records never change how a canonical Mission is bound; one that no live
session corroborates changes no other Mission, and with its chains none as long as its
children are nobody else's. -/
theorem task_records_leave_others (views : List View) (observation : Observation)
    (chains : ChainReading) (hrefs : DistinctRefs views) : (((classify views observation).1.filter
        fun mission => mission.view.taskNative = false).map ownBinding =
      (classify (canonicalViews views) observation).1.map ownBinding ∧
    ((classifyV2 views observation chains).1.filter
        fun mission => mission.view.taskNative = false).map chainBinding =
      (classifyV2 (canonicalViews views) observation chains).1.map chainBinding) ∧
    (∀ record, Uncorroborated views observation [] record → (classify views observation).1.filter
          (fun mission => mission.view.missionRef ≠ record.missionRef) =
        (classify (without views record) observation).1) ∧
    ∀ record, Uncorroborated views observation
        (parentLinks chains views observation.canonicalComplete) record →
      ChildrenApart views observation chains record → (classifyV2 views observation chains).1.filter
          (fun mission => mission.view.missionRef ≠ record.missionRef) =
        (classifyV2 (without views record) observation chains).1 := by
  refine ⟨⟨canonical_bindings hrefs, canonical_chainBindings hrefs⟩, ?_, ?_⟩
  · intro record hrecord
    apply (hrecord.alone hrefs).classifyWith hrefs
    intro view hview
    rw [get?_deferrals_of_mem hrefs (mem_without.mp hview).1,
      get?_deferrals_of_mem (hrefs.without record) hview,
      deferringTo_without hrefs hrecord.held hrecord.native]
  · intro record hrecord hapart
    have hovershadowed : Overshadowed views observation chains record :=
      ⟨hrecord.alone hrefs, hapart⟩
    exact hovershadowed.classifyV2 hrefs

/-! ## A historical record of a team -/

/-- A record of an earlier task, in a root of its own. -/
def sampleHistoric : View := { sampleView with
  missionRef := "herd:t9"
  sourceId := "herd"
  model := "herdr.task/1"
  execution := sampleExecution "t9" "/work/old" }

def sampleChild (parent taskId repo : String) : ChildRecord :=
  ⟨parent, some taskId, some repo, none, none, none⟩

def sampleRoot (taskId : String) (records : List ChildRecord) : RootEntry where
  task := some ⟨taskId, some "ACTIVE", false, false⟩
  children := ⟨⟨.observed, none, none, some records.length, some 0⟩, records⟩

/-- A parent with a child, and the historical record with a child of its own root. -/
def familyChains (taskId repo : String) : ChainReading where
  health := .fresh
  roots := [("/work/one", sampleRoot "t1" [sampleChild "t1" "t2" "/work/two"]),
    ("/work/old", sampleRoot "t9" [sampleChild "t9" taskId repo]),
    ("/work/two", sampleRoot "t2" [])]
  unavailable := []
  overCapacity := []

/-- The parent's and the child's teams are live; the historical one is not. -/
def familyObservation : Observation where
  reading := ⟨.fresh, some 7, [sampleTask,
      ⟨"t2", "/work/two", [{ sampleBinding with
        agent := "lead2", session := some "s2", paneId := some "p2" }]⟩,
      ⟨"t9", "/work/old", [{ sampleBinding with
        agent := "lead9", session := some "s9" }]⟩],
    [sampleAgent, { sampleAgent with
      agent := "lead2", session := some "s2", paneId := some "p2" }]⟩
  observedRoots := none
  confirmedBindings := none
  canonicalComplete := true

theorem sampleHistoric_uncorroborated (taskId repo : String)
    (hrefused : (missionOf [sampleView, sampleHistoric] familyObservation
      (chainDeferrals (familyChains taskId repo) [sampleView, sampleHistoric] true)
      sampleHistoric).binding.reason = .taskRecordNotCorroborated) :
    Uncorroborated [sampleView, sampleHistoric] familyObservation
      (parentLinks (familyChains taskId repo) [sampleView, sampleHistoric] true)
      sampleHistoric where
  held := List.mem_cons_of_mem _ List.mem_cons_self
  native := rfl
  refused := hrefused

/-- A historical record that names another's child takes that child's team from it. -/
theorem historic_child_taken : Uncorroborated [sampleView, sampleHistoric] familyObservation
      (parentLinks (familyChains "t2" "/work/two") [sampleView, sampleHistoric] true)
      sampleHistoric ∧ ((classifyV2 [sampleView, sampleHistoric] familyObservation
        (familyChains "t2" "/work/two")).1.filter
      fun mission => mission.view.missionRef ≠ sampleHistoric.missionRef) ≠
      (classifyV2 (without [sampleView, sampleHistoric] sampleHistoric)
        familyObservation (familyChains "t2" "/work/two")).1 := by
  constructor
  · exact sampleHistoric_uncorroborated _ _ (by decide +kernel)
  · decide +kernel

theorem sampleHistoric_apart : ChildrenApart [sampleView, sampleHistoric]
    familyObservation (familyChains "t3" "/work/three") sampleHistoric := by
  have hchildren : recordedChildren (familyChains "t3" "/work/three") sampleHistoric =
      [sampleChild "t9" "t3" "/work/three"] := by decide +kernel
  have hothers : recordedChildren (familyChains "t3" "/work/three") sampleView =
      [sampleChild "t1" "t2" "/work/two"] := by decide +kernel
  have hviews : without [sampleView, sampleHistoric] sampleHistoric = [sampleView] := by
    decide +kernel
  constructor
  · rw [hviews]
    intro _ _ view hview hnative
    rw [List.mem_singleton.mp hview] at hnative
    cases hnative
  · rw [hviews, hchildren]
    intro child hchild view hview other hother
    rw [List.mem_singleton.mp hview, hothers] at hother
    rw [List.mem_singleton.mp hchild, List.mem_singleton.mp hother]
    rintro (⟨-, hsame⟩ | ⟨-, hsame⟩) <;> revert hsame <;> decide
  · rw [hchildren]
    intro child hchild task htask hnamed
    exfalso
    rw [List.mem_singleton.mp hchild] at hnamed
    revert hnamed
    revert task
    decide

theorem task_records_leave_others_sample :
    ((classifyV2 [sampleView, sampleHistoric] familyObservation
        (familyChains "t3" "/work/three")).1.filter
      fun mission => mission.view.missionRef ≠ sampleHistoric.missionRef) =
      (classifyV2 (without [sampleView, sampleHistoric] sampleHistoric)
        familyObservation (familyChains "t3" "/work/three")).1 :=
  (task_records_leave_others [sampleView, sampleHistoric] familyObservation
    (familyChains "t3" "/work/three") (by unfold DistinctRefs; decide)).2.2
    sampleHistoric (sampleHistoric_uncorroborated _ _ (by decide +kernel))
    sampleHistoric_apart

end DodgingInfinity.MissionSources
