import DodgingInfinity.MissionSources.Reordering

/-!
# Who is a member

A Mission is bound exactly when every link of the canonical chain holds, and each live
agent and session is represented once.
-/

namespace DodgingInfinity.MissionSources

variable {views : List View} {view : View} {deferred : Dict String Binding}
  {observation : Observation} {tasks workspaces : List String}

/-! ## Decisions -/

/-- A record that supports a lookup: it names a task and a workspace, consistently, and
claims each alone. -/
structure Resolved (view : View) (tasks workspaces : List String)
    (taskId workspace : String) : Prop where
  unambiguous : view.execution.recordAmbiguous = false
  consistent : view.execution.consistent = true
  task_eq : view.execution.taskId = some taskId
  workspace_eq : view.execution.workspaceRealpath = some workspace
  task_once : tasks.count taskId ≤ 1
  workspace_once : workspaces.count workspace ≤ 1

/-- A binding that refuses, before any corroboration. -/
def Refuses (binding : Binding) : Prop :=
  binding.state ≠ .bound ∧ binding.reason ≠ .taskRecordNotCorroborated

/-- A record supports a lookup, or its binding says which check it fails. -/
theorem executionBinding_cases : (executionBinding view tasks workspaces = none ∧
        ∃ taskId workspace, Resolved view tasks workspaces taskId workspace) ∨
      ∃ binding, executionBinding view tasks workspaces = some binding ∧
        Refuses binding := by
  unfold executionBinding
  split
  · exact .inr ⟨_, rfl, by simp [Refuses]⟩
  · rename_i hambiguous
    split
    · exact .inr ⟨_, rfl, by simp [Refuses]⟩
    · rename_i hconsistent
      split
      · split
        · exact .inr ⟨_, rfl, by simp [Refuses]⟩
        · split
          · exact .inr ⟨_, rfl, by simp [Refuses]⟩
          · exact .inr ⟨_, rfl, by simp [Refuses]⟩
      · exact .inr ⟨_, rfl, by simp [Refuses]⟩
      · rename_i taskId workspace htask hworkspace
        split
        · exact .inr ⟨_, rfl, by simp [Refuses]⟩
        · rename_i htasks
          split
          · exact .inr ⟨_, rfl, by simp [Refuses]⟩
          · rename_i hworkspaces
            exact .inl ⟨rfl, taskId, workspace, {
              unambiguous := Bool.not_eq_true _ ▸ hambiguous
              consistent := Bool.not_eq_false _ ▸ hconsistent
              task_eq := htask
              workspace_eq := hworkspace
              task_once := Nat.not_lt.mp htasks
              workspace_once := Nat.not_lt.mp hworkspaces }⟩

theorem executionBinding_eq_none : executionBinding view tasks workspaces = none ↔
      ∃ taskId workspace, Resolved view tasks workspaces taskId workspace := by
  constructor
  · intro hnone
    rcases @executionBinding_cases view tasks workspaces with ⟨-, hresolved⟩ | ⟨binding, hsome, -⟩
    · exact hresolved
    · rw [hnone] at hsome
      cases hsome
  · rintro ⟨taskId, workspace, h⟩
    simp [executionBinding, h.unambiguous, h.consistent, h.task_eq, h.workspace_eq,
      Nat.not_lt.mpr h.task_once, Nat.not_lt.mpr h.workspace_once]

/-- Every check a bound Mission passed, with the task it is bound to. -/
structure Lookup (observation : Observation) (deferred : Dict String Binding)
    (tasks workspaces : List String) (view : View) (taskId workspace : String)
    (task : SnapshotTask) : Prop where
  active : view.standing = .active
  undeferred : deferred.get? view.missionRef = none
  live : observation.reading.isLive = true
  resolved : Resolved view tasks workspaces taskId workspace
  observed : observation.unobserved view = false
  confirmed : observation.unconfirmed view = false
  found : observation.reading.tasksById (some taskId) = [task]
  workspace_eq : task.workspaceRealpath = workspace

/-- Whether a live session corroborates the task of a view, if it has to. -/
def TeamCorroborated (observation : Observation) (view : View) (task : SnapshotTask) : Prop :=
  view.taskNative = true → corroborated task observation.reading.agents = true

/-- The decision of a bound Mission. -/
def boundDecision (taskId : String) (task : SnapshotTask) : Decision :=
  ⟨⟨.bound, .canonicalChainComplete, some taskId⟩, some task⟩

/-- A decision that binds nothing. -/
def Unbound (deferred : Dict String Binding) (view : View) (decision : Decision) : Prop :=
  decision.task = none ∧ (Refuses decision.binding ∨
    deferred.get? view.missionRef = some decision.binding)

theorem unbound_undecided {state : BindingState} {reason : BindingReason}
    {taskId : Option String} (hrefuses : state ≠ .bound ∧ reason ≠ .taskRecordNotCorroborated) :
    Unbound deferred view (undecided state reason taskId) :=
  ⟨rfl, .inl hrefuses⟩

variable {taskId workspace : String} {task : SnapshotTask}

theorem recordedDecision_of_lookup
    (h : Lookup observation deferred tasks workspaces view taskId workspace task) :
    recordedDecision observation deferred tasks workspaces view =
      boundDecision taskId task := by
  have hsnapshot : snapshotDecision observation view = boundDecision taskId task := by
    simp [snapshotDecision, h.observed, h.confirmed, h.resolved.task_eq, h.found,
      h.resolved.workspace_eq, h.workspace_eq, boundDecision]
  simp [recordedDecision, h.active, h.undeferred, h.live,
    executionBinding_eq_none.mpr ⟨taskId, workspace, h.resolved⟩, hsnapshot]

theorem corroboratedDecision_boundDecision :
    (TeamCorroborated observation view task ∧ corroboratedDecision observation.reading.agents view
          (boundDecision taskId task) = boundDecision taskId task) ∨
      (view.taskNative = true ∧ corroborated task observation.reading.agents = false ∧
        corroboratedDecision observation.reading.agents view
          (boundDecision taskId task) =
            undecided .unverified .taskRecordNotCorroborated (some task.taskId)) := by
  unfold corroboratedDecision boundDecision TeamCorroborated
  dsimp only
  split
  · rename_i huncorroborated
    exact .inr ⟨huncorroborated.1, huncorroborated.2, rfl⟩
  · rename_i hcorroborated
    refine .inl ⟨?_, rfl⟩
    intro hnative
    rw [not_and, Bool.not_eq_false] at hcorroborated
    exact hcorroborated hnative

theorem decideBinding_of_lookup
    (h : Lookup observation deferred tasks workspaces view taskId workspace task)
    (hteam : TeamCorroborated observation view task) :
    decideBinding observation deferred tasks workspaces view =
      boundDecision taskId task := by
  unfold decideBinding
  rw [recordedDecision_of_lookup h]
  rcases @corroboratedDecision_boundDecision view observation taskId task with
    ⟨-, hdecided⟩ | ⟨hnative, hnone, -⟩
  · exact hdecided
  · rw [hteam hnative] at hnone
    cases hnone

/-- What a lookup in the snapshot binds, or that it binds nothing. -/
theorem snapshotDecision_cases
    (hresolved : Resolved view tasks workspaces taskId workspace) :
    (∃ task, observation.unobserved view = false ∧ observation.unconfirmed view = false ∧
        observation.reading.tasksById (some taskId) = [task] ∧ task.workspaceRealpath = workspace ∧
        snapshotDecision observation view = boundDecision taskId task) ∨
      Unbound deferred view (snapshotDecision observation view) := by
  unfold snapshotDecision
  dsimp only
  split
  · exact .inr (unbound_undecided (by simp))
  · rename_i hobserved
    split
    · exact .inr (unbound_undecided (by simp))
    · rename_i hconfirmed
      rw [hresolved.task_eq, hresolved.workspace_eq]
      split
      · exact .inr (unbound_undecided (by simp))
      · rename_i task hfound
        split
        · exact .inr (unbound_undecided (by simp))
        · rename_i hworkspace
          rw [ne_eq, not_not, Option.some.injEq] at hworkspace
          exact .inl ⟨task, Bool.not_eq_true _ ▸ hobserved,
            Bool.not_eq_true _ ▸ hconfirmed, hfound, hworkspace, rfl⟩
      · exact .inr (unbound_undecided (by simp))

/-- A decision that binds nothing is left by the corroboration. -/
theorem Unbound.corroboratedDecision {decision : Decision}
    (h : Unbound deferred view decision) (agents : List SnapshotAgent) :
    corroboratedDecision agents view decision = decision := by
  unfold MissionSources.corroboratedDecision
  rw [h.1]

/-- What a Mission's own record and the snapshot bind, or that they bind nothing. -/
theorem recordedDecision_cases : (∃ taskId workspace task,
        Lookup observation deferred tasks workspaces view taskId workspace task ∧
        recordedDecision observation deferred tasks workspaces view = boundDecision taskId task) ∨
      Unbound deferred view
        (recordedDecision observation deferred tasks workspaces view) := by
  unfold recordedDecision
  split
  · exact .inr (unbound_undecided (by simp))
  · rename_i hactive
    rw [ne_eq, not_not] at hactive
    split
    · rename_i binding hdeferred
      exact .inr ⟨rfl, .inr hdeferred⟩
    · rename_i hundeferred
      split
      · exact .inr (unbound_undecided (by simp))
      · rename_i hlive
        rw [Bool.not_eq_false] at hlive
        rcases @executionBinding_cases view tasks workspaces with
          ⟨hnone, taskId, workspace, hresolved⟩ | ⟨binding, hsome, hrefuses⟩
        · rw [hnone]
          dsimp only
          rcases @snapshotDecision_cases _ deferred observation _ _ _ _ hresolved with
            ⟨task, hobserved, hconfirmed, hfound, hworkspace, hbound⟩ | hunbound
          · refine .inl ⟨taskId, workspace, task, ?_, hbound⟩
            exact {
              active := hactive
              undeferred := hundeferred
              live := hlive
              resolved := hresolved
              observed := hobserved
              confirmed := hconfirmed
              found := hfound
              workspace_eq := hworkspace }
          · exact .inr hunbound
        · rw [hsome]
          exact .inr ⟨rfl, .inl hrefuses⟩

/-- A Mission's decision binds it, refuses it for want of a live session, or binds
nothing. -/
theorem decideBinding_cases : (∃ taskId workspace task,
        Lookup observation deferred tasks workspaces view taskId workspace task ∧
        TeamCorroborated observation view task ∧
        decideBinding observation deferred tasks workspaces view = boundDecision taskId task) ∨
      (∃ taskId workspace task,
        Lookup observation deferred tasks workspaces view taskId workspace task ∧
        view.taskNative = true ∧ decideBinding observation deferred tasks workspaces view =
          undecided .unverified .taskRecordNotCorroborated (some task.taskId)) ∨
      Unbound deferred view
        (decideBinding observation deferred tasks workspaces view) := by
  unfold decideBinding
  rcases @recordedDecision_cases view deferred observation tasks workspaces with
    ⟨taskId, workspace, task, hlookup, hrecorded⟩ | hunbound
  · rw [hrecorded]
    rcases @corroboratedDecision_boundDecision view observation taskId task with
      ⟨hteam, hbound⟩ | ⟨hnative, -, hrefused⟩
    · exact .inl ⟨taskId, workspace, task, hlookup, hteam, hbound⟩
    · exact .inr (.inl ⟨taskId, workspace, task, hlookup, hnative, hrefused⟩)
  · rw [hunbound.corroboratedDecision]
    exact .inr (.inr hunbound)

/-! ## The canonical chain -/

variable {complete : Bool} {links : List Link}

/-- Two links share a task, a workspace, or are the same. -/
def Link.Shares (link other : Link) : Prop :=
  link = other ∨ (link.1 ≠ none ∧ link.1 = other.1) ∨ (link.2 ≠ none ∧ link.2 = other.2)

/-- An active Mission defers when it is task-native and shares its link with a canonical
record that claims or with a recorded parent chain, or when a canonical source could not
be read. -/
def Defers (views : List View) (complete : Bool) (links : List Link) (view : View) : Prop :=
  view.taskNative = true ∧ ((∃ canonical ∈ views, canonical.canonicalClaiming = true ∧
        view.link.Shares canonical.link) ∨
      (∃ link ∈ links, view.link.Shares link) ∨ complete = false)

/-- A Mission that claims its task and its workspace. -/
def Claimant (views : List View) (complete : Bool) (links : List Link) (view : View) : Prop :=
  view.standing = .active ∧ ¬ Defers views complete links view

variable {link : Link}

theorem sharedWith_or_mem :
    (link ∈ links ∨ link.sharedWith links = true) ↔ ∃ other ∈ links, link.Shares other := by
  unfold Link.sharedWith Link.Shares
  simp only [decide_eq_true_eq, List.mem_map]
  constructor
  · rintro (hmem | ⟨hne, other, hother, heq⟩ | ⟨hne, other, hother, heq⟩)
    · exact ⟨link, hmem, .inl rfl⟩
    · exact ⟨other, hother, .inr (.inl ⟨hne, heq.symm⟩)⟩
    · exact ⟨other, hother, .inr (.inr ⟨hne, heq.symm⟩)⟩
  · rintro ⟨other, hother, rfl | ⟨hne, heq⟩ | ⟨hne, heq⟩⟩
    · exact .inl hother
    · exact .inr (.inl ⟨hne, other, hother, heq.symm⟩)
    · exact .inr (.inr ⟨hne, other, hother, heq.symm⟩)

theorem deferral_eq_none {pairs : List Link} :
    deferral pairs links complete link = none ↔ (¬ ∃ other ∈ pairs, link.Shares other) ∧
        (¬ ∃ other ∈ links, link.Shares other) ∧ complete = true := by
  rw [← sharedWith_or_mem, ← sharedWith_or_mem]
  unfold deferral
  split_ifs with hpair hpart hlink hlinked hcomplete
  · simp [hpair]
  · simp [hpart]
  · simp [hlink]
  · simp [hlinked]
  · simp [hcomplete]
  · simp [hpair, hpart, hlink, hlinked, hcomplete]

theorem deferringTo_eq_none (hactive : view.standing = .active) :
    deferringTo views complete links view = none ↔ ¬ Defers views complete links view := by
  unfold deferringTo Defers
  split_ifs with hcanonical
  · simp [hcanonical.resolve_right (not_not.mpr hactive)]
  · rw [not_or, Bool.not_eq_false] at hcanonical
    rw [deferral_eq_none]
    simp only [List.mem_map, List.mem_filter, hcanonical.1, true_and, not_or, Bool.not_eq_false]
    constructor
    · rintro ⟨hpairs, hlinks, hcomplete⟩
      refine ⟨?_, hlinks, hcomplete⟩
      rintro ⟨canonical, hview, hclaiming, hshares⟩
      exact hpairs ⟨_, ⟨canonical, ⟨hview, hclaiming⟩, rfl⟩, hshares⟩
    · rintro ⟨hpairs, hlinks, hcomplete⟩
      refine ⟨?_, hlinks, hcomplete⟩
      rintro ⟨_, ⟨canonical, ⟨hview, hclaiming⟩, rfl⟩, hshares⟩
      exact hpairs ⟨canonical, hview, hclaiming, hshares⟩

theorem deferringTo_refuses {binding : Binding}
    (h : deferringTo views complete links view = some binding) : Refuses binding := by
  unfold deferringTo at h
  split at h
  · cases h
  · unfold deferral at h
    split_ifs at h <;> obtain rfl := Option.some.inj h <;> simp [Refuses]

theorem mem_claimants (hrefs : DistinctRefs views) :
    view ∈ claimants views (deferrals views complete links) ↔
      view ∈ views ∧ Claimant views complete links view := by
  unfold claimants Claimant
  rw [List.mem_filter, decide_eq_true_eq, Dict.contains_eq_false_iff]
  constructor
  · rintro ⟨hview, hnone, hactive⟩
    rw [get?_deferrals_of_mem hrefs hview, deferringTo_eq_none hactive] at hnone
    exact ⟨hview, hactive, hnone⟩
  · rintro ⟨hview, hactive, hclaims⟩
    rw [← deferringTo_eq_none hactive, ← get?_deferrals_of_mem hrefs hview] at hclaims
    exact ⟨hview, hclaims, hactive⟩

/-- Every link of the documented chain from a Mission to its team. -/
structure CanonicalChain (views : List View) (observation : Observation)
    (links : List Link) (view : View) (taskId workspace : String) (task : SnapshotTask) :
    Prop where
  claimant : Claimant views observation.canonicalComplete links view
  fresh : observation.reading.health = .fresh
  unambiguous : view.execution.recordAmbiguous = false
  consistent : view.execution.consistent = true
  task_named : view.execution.taskId = some taskId
  workspace_named : view.execution.workspaceRealpath = some workspace
  task_once : ∀ other ∈ views, Claimant views observation.canonicalComplete links other →
    other.execution.taskId = some taskId → other = view
  workspace_once : ∀ other ∈ views, Claimant views observation.canonicalComplete links other →
    other.execution.workspaceRealpath = some workspace → other = view
  observed : ∀ roots, observation.observedRoots = some roots → workspace ∈ roots
  confirmed : ∀ bindings, observation.confirmedBindings = some bindings →
    bindings.get? view.missionRef = some (bindingIdentity view)
  found : (observation.reading.tasks.filter fun held => held.taskId = taskId) = [task]
  workspace_eq : task.workspaceRealpath = workspace
  corroborated : view.taskNative = true → ∃ recorded ∈ task.bindings,
    ∃ agent ∈ observation.reading.agents, ∃ session, recorded.session = some session ∧
      agent.session = some session ∧ agent.agent = recorded.agent

theorem corroborated_eq_true {agents : List SnapshotAgent} :
    corroborated task agents = true ↔ ∃ recorded ∈ task.bindings, ∃ agent ∈ agents,
      ∃ session, recorded.session = some session ∧ agent.session = some session ∧
        agent.agent = recorded.agent := by
  simp only [corroborated, List.any_eq_true, Bool.and_eq_true, decide_eq_true_eq,
    Option.isSome_iff_exists]
  constructor
  · rintro ⟨recorded, hrecorded, ⟨session, hsession⟩, agent, hagent, hname, hsame⟩
    exact ⟨recorded, hrecorded, agent, hagent, session, hsession, hsame.trans hsession, hname⟩
  · rintro ⟨recorded, hrecorded, agent, hagent, session, hsession, hlive, hname⟩
    exact ⟨recorded, hrecorded, ⟨session, hsession⟩, agent, hagent, hname,
      hlive.trans hsession.symm⟩

theorem tasksById_some (reading : SnapshotReading) (taskId : String) :
    reading.tasksById (some taskId) =
      reading.tasks.filter fun held => held.taskId = taskId := by
  simp only [SnapshotReading.tasksById, Option.some.injEq]

theorem unobserved_eq_false
    (hworkspace : view.execution.workspaceRealpath = some workspace) :
    observation.unobserved view = false ↔
      ∀ roots, observation.observedRoots = some roots → workspace ∈ roots := by
  unfold Observation.unobserved
  rw [hworkspace]
  cases observation.observedRoots with
  | none => simp
  | some roots => simp

theorem unconfirmed_eq_false : observation.unconfirmed view = false ↔
      ∀ bindings, observation.confirmedBindings = some bindings →
        bindings.get? view.missionRef = some (bindingIdentity view) := by
  unfold Observation.unconfirmed
  cases observation.confirmedBindings with
  | none => simp
  | some bindings => simp

theorem DistinctRefs.nodup (h : DistinctRefs views) : views.Nodup :=
  List.Nodup.of_map _ h

/-- The claims of a claimant are counted once exactly when no other makes them. -/
theorem count_claims_le_one {f : View → Option String} {name : String}
    (hrefs : DistinctRefs views) (hview : view ∈ views)
    (hclaimant : Claimant views complete links view) (hname : f view = some name) :
    ((claimants views (deferrals views complete links)).filterMap f).count name ≤ 1 ↔
      ∀ other ∈ views, Claimant views complete links other → f other = some name →
        other = view := by
  have hnodup : (claimants views (deferrals views complete links)).Nodup :=
    hrefs.nodup.filter _
  rw [count_filterMap_le_one hnodup
    ((mem_claimants hrefs).mpr ⟨hview, hclaimant⟩) hname]
  constructor
  · intro h other hother hclaims
    exact h other ((mem_claimants hrefs).mpr ⟨hother, hclaims⟩)
  · intro h other hother
    obtain ⟨hmem, hclaims⟩ := (mem_claimants hrefs).mp hother
    exact h other hmem hclaims

/-- The checks of the decision are the links of the chain. -/
theorem lookup_iff_chain
    (hrefs : DistinctRefs views) (hview : view ∈ views) :
    Lookup observation (deferrals views observation.canonicalComplete links)
        (taskClaims views (deferrals views observation.canonicalComplete links))
        (workspaceClaims views (deferrals views observation.canonicalComplete links))
        view taskId workspace task ∧ TeamCorroborated observation view task ↔
      CanonicalChain views observation links view taskId workspace task := by
  constructor
  · rintro ⟨h, hteam⟩
    have hclaimant : Claimant views observation.canonicalComplete links view := by
      refine ⟨h.active, ?_⟩
      rw [← deferringTo_eq_none h.active, ← get?_deferrals_of_mem hrefs hview]
      exact h.undeferred
    exact {
      claimant := hclaimant
      fresh := by simpa [SnapshotReading.isLive] using h.live
      unambiguous := h.resolved.unambiguous
      consistent := h.resolved.consistent
      task_named := h.resolved.task_eq
      workspace_named := h.resolved.workspace_eq
      task_once := (count_claims_le_one hrefs hview hclaimant h.resolved.task_eq).mp
        h.resolved.task_once
      workspace_once := (count_claims_le_one hrefs hview hclaimant
        h.resolved.workspace_eq).mp h.resolved.workspace_once
      observed := (unobserved_eq_false h.resolved.workspace_eq).mp h.observed
      confirmed := unconfirmed_eq_false.mp h.confirmed
      found := by
        rw [← tasksById_some]
        exact h.found
      workspace_eq := h.workspace_eq
      corroborated := fun hnative => corroborated_eq_true.mp (hteam hnative) }
  · intro h
    refine ⟨?_, fun hnative => corroborated_eq_true.mpr (h.corroborated hnative)⟩
    exact {
      active := h.claimant.1
      undeferred := by
        rw [get?_deferrals_of_mem hrefs hview, deferringTo_eq_none h.claimant.1]
        exact h.claimant.2
      live := by
        unfold SnapshotReading.isLive
        rw [h.fresh]
        rfl
      resolved := {
        unambiguous := h.unambiguous
        consistent := h.consistent
        task_eq := h.task_named
        workspace_eq := h.workspace_named
        task_once :=
          (count_claims_le_one hrefs hview h.claimant h.task_named).mpr h.task_once
        workspace_once := (count_claims_le_one hrefs hview h.claimant
          h.workspace_named).mpr h.workspace_once }
      observed := (unobserved_eq_false h.workspace_named).mpr h.observed
      confirmed := unconfirmed_eq_false.mpr h.confirmed
      found := by
        rw [tasksById_some]
        exact h.found
      workspace_eq := h.workspace_eq }

/-! ## Missions -/

variable {mission : Mission}

/-- The Mission of a view in a classification. -/
def missionOf (views : List View) (observation : Observation)
    (deferred : Dict String Binding) (view : View) : Mission :=
  let decision := decideBinding observation deferred (taskClaims views deferred)
    (workspaceClaims views deferred) view
  { view := view
    binding := decision.binding
    members := decision.task.elim [] fun task =>
      classifyMembers view task
        (newClaims ((decisions views observation deferred).filterMap fun entry =>
          entry.2.task) observation.reading.agents)
        observation.reading.observedAt }

theorem classifyWith_missions : (classifyWith views observation deferred).1 =
      (sortedBy View.missionRef views).map (missionOf views observation deferred) := by
  unfold classifyWith missionOf decisions
  dsimp only
  rw [List.map_map]
  rfl

theorem mem_classifyWith : mission ∈ (classifyWith views observation deferred).1 ↔
      ∃ view ∈ views, missionOf views observation deferred view = mission := by
  rw [classifyWith_missions, List.mem_map]
  simp only [mem_sortedBy]

/-- A Mission is bound exactly when every link of its chain holds. -/
theorem bound_iff_chain (hrefs : DistinctRefs views)
    (hmission : mission ∈ (classifyWith views observation
      (deferrals views observation.canonicalComplete links)).1) :
    mission.view ∈ views ∧ (mission.binding.state = .bound ↔ ∃ taskId workspace task,
        CanonicalChain views observation links mission.view taskId workspace task) := by
  obtain ⟨view, hview, rfl⟩ := mem_classifyWith.mp hmission
  refine ⟨hview, ?_⟩
  constructor
  · intro hbound
    rcases @decideBinding_cases view (deferrals views observation.canonicalComplete links)
        observation (taskClaims views (deferrals views observation.canonicalComplete links))
        (workspaceClaims views (deferrals views observation.canonicalComplete links)) with
      ⟨taskId, workspace, task, hlookup, hteam, -⟩ | ⟨_, _, _, -, -, hrefused⟩ |
      ⟨-, hrefuses | hdeferred⟩
    · exact ⟨taskId, workspace, task, (lookup_iff_chain hrefs hview).mp ⟨hlookup, hteam⟩⟩
    · simp only [missionOf, hrefused, undecided] at hbound
      cases hbound
    · exact absurd hbound hrefuses.1
    · rw [get?_deferrals_of_mem hrefs hview] at hdeferred
      exact absurd hbound (deferringTo_refuses hdeferred).1
  · rintro ⟨taskId, workspace, task, hchain⟩
    obtain ⟨hlookup, hteam⟩ := (lookup_iff_chain hrefs hview).mpr hchain
    have hdecided := decideBinding_of_lookup hlookup hteam
    simp only [missionOf, hdecided, boundDecision]

/-! ## Members -/

variable {claims : Claims} {member : Member} {members : List Member}

/-- A member that stands for a live agent. -/
def Member.represents (member : Member) : Bool :=
  member.classification = .present ∨ member.classification = .replaced

/-- Each live agent and each live session is represented by one member at most. -/
structure RepresentedOnce (members : List Member) : Prop where
  agents : ((members.filter Member.represents).map Member.agent).Nodup
  sessions : ((members.filter Member.represents).filterMap Member.liveSession).Nodup

/-- A present member has the agent, pane, workspace and session of a live agent that
is alone in its name and in its session. -/
def PresentLive (agents : List SnapshotAgent) (member : Member) : Prop :=
  member.classification = .present → ∃ agent paneId workspaceId session,
    (agents.filter fun held => held.agent = member.agent) = [agent] ∧
    (∀ held ∈ agents, held.session = some session → held = agent) ∧
    agent.paneId = some paneId ∧ member.paneId = some paneId ∧
    agent.workspaceId = some workspaceId ∧ member.workspaceId = some workspaceId ∧
    agent.session = some session ∧ member.recordedSession = some session ∧
    member.liveSession = some session

/-- A member as the classification of a recorded binding makes it. -/
structure FromBinding (claims : Claims) (recorded : SnapshotBinding) (member : Member) :
    Prop where
  agent_eq : member.agent = recorded.agent
  pane_eq : member.paneId = recorded.paneId
  workspace_eq : member.workspaceId = recorded.workspaceId
  session_eq : member.recordedSession = recorded.session
  classified : ∃ logicalCount, member.classification =
      (memberClassification recorded logicalCount claims).classification ∧ member.liveSession =
      (memberClassification recorded logicalCount claims).live.bind SnapshotAgent.session

/-- What a binding classified present or replaced went through. -/
structure Matched (claims : Claims) (recorded : SnapshotBinding) (agent : SnapshotAgent) :
    Prop where
  claimed_once : claims.agentNames.count recorded.agent ≤ 1
  living : claims.liveByName recorded.agent = [agent]
  unshared : ∀ session, agent.session = some session → claims.liveSessions.count session ≤ 1
  identified : recorded.paneId ≠ none ∧ recorded.workspaceId ≠ none
  pane_eq : recorded.paneId = agent.paneId
  workspace_eq : recorded.workspaceId = agent.workspaceId
  recorded_session : recorded.session ≠ none
  live_session : agent.session ≠ none

theorem sharedSession_eq_false {sessions : List String} {session : Option String} :
    sharedSession sessions session = false ↔
      ∀ held, session = some held → sessions.count held ≤ 1 := by
  unfold sharedSession
  cases session with
  | none => simp
  | some held => simp

variable {recorded : SnapshotBinding}

variable {agent : SnapshotAgent}

theorem liveClassification_cases :
    (liveClassification recorded agent claims).classification = .ambiguous ∨
      (sharedSession claims.liveSessions agent.session = false ∧
        (recorded.paneId ≠ none ∧ recorded.workspaceId ≠ none) ∧
        recorded.paneId = agent.paneId ∧ recorded.workspaceId = agent.workspaceId ∧
        recorded.session ≠ none ∧ agent.session ≠ none ∧
        (liveClassification recorded agent claims).live = some agent ∧
        ((liveClassification recorded agent claims).classification = .present →
          recorded.session = agent.session)) := by
  unfold liveClassification
  split_ifs with hshared hunknown hconflict hsession hprovenance hchanged
  · exact .inl rfl
  · exact .inl rfl
  · exact .inl rfl
  · exact .inl rfl
  · exact .inl rfl
  all_goals
    right
    simp only [List.mem_cons, List.not_mem_nil, or_false, not_or] at hunknown
    rw [not_or] at hsession
    rw [not_or, ne_eq, ne_eq, not_not, not_not] at hconflict
    refine ⟨Bool.not_eq_true _ ▸ hshared, ⟨Ne.symm hunknown.1, Ne.symm hunknown.2.2.1⟩,
      hconflict.1, hconflict.2, hsession.1, hsession.2, rfl, ?_⟩
  · intro h
    cases h
  · intro _
    exact not_not.mp hchanged

theorem memberClassification_cases {logicalCount : Nat} :
    (memberClassification recorded logicalCount claims).classification = .ambiguous ∨
      (memberClassification recorded logicalCount claims).classification =
        .disappeared ∨ ∃ agent, Matched claims recorded agent ∧
        (memberClassification recorded logicalCount claims).live = some agent ∧
        ((memberClassification recorded logicalCount claims).classification = .present →
          recorded.session = agent.session) := by
  unfold memberClassification
  split_ifs with hlogical hagent hsession
  · exact .inl rfl
  · exact .inl rfl
  · exact .inl rfl
  · split
    · exact .inr (.inl rfl)
    · rename_i agent hliving
      rcases @liveClassification_cases claims recorded agent with
        hambiguous | ⟨hshared, hknown, hpane, hworkspace, hrecorded, hlive, hheld, hpresent⟩
      · exact .inl hambiguous
      · refine .inr (.inr ⟨agent, ?_, hheld, hpresent⟩)
        exact {
          claimed_once := Nat.not_lt.mp hagent
          living := hliving
          unshared := sharedSession_eq_false.mp hshared
          identified := hknown
          pane_eq := hpane
          workspace_eq := hworkspace
          recorded_session := hrecorded
          live_session := hlive }
    · exact .inl rfl

theorem FromBinding.matched
    (h : FromBinding claims recorded member) (hrepresents : member.represents = true) :
    ∃ agent, Matched claims recorded agent ∧ member.liveSession = agent.session ∧
      (member.classification = .present → recorded.session = agent.session) := by
  obtain ⟨logicalCount, hclassification, hlive⟩ := h.classified
  unfold Member.represents at hrepresents
  rw [decide_eq_true_eq, hclassification] at hrepresents
  rcases @memberClassification_cases claims recorded logicalCount with hambiguous | hdisappeared |
      ⟨agent, hmatched, hheld, hpresent⟩
  · rw [hambiguous] at hrepresents
    simp at hrepresents
  · rw [hdisappeared] at hrepresents
    simp at hrepresents
  · refine ⟨agent, hmatched, ?_, ?_⟩
    · rw [hlive, hheld]
      rfl
    · rw [hclassification]
      exact hpresent

/-- The live agent a binding was matched with is among those reported. -/
theorem Matched.agent_mem (h : Matched claims recorded agent) :
    agent ∈ claims.agents ∧ agent.agent = recorded.agent := by
  have hmem : agent ∈ claims.liveByName recorded.agent := by
    rw [h.living]
    exact List.mem_singleton_self agent
  unfold Claims.liveByName at hmem
  rw [List.mem_filter, decide_eq_true_eq] at hmem
  exact hmem

theorem FromBinding.presentLive
    (h : FromBinding claims recorded member) : PresentLive claims.agents member := by
  intro hpresent
  have hrepresents : member.represents = true := by
    simp [Member.represents, hpresent]
  obtain ⟨agent, hmatched, hlive, hsession⟩ := h.matched hrepresents
  obtain ⟨paneId, hpane⟩ := Option.ne_none_iff_exists'.mp hmatched.identified.1
  obtain ⟨workspaceId, hworkspace⟩ := Option.ne_none_iff_exists'.mp hmatched.identified.2
  obtain ⟨session, hheld⟩ := Option.ne_none_iff_exists'.mp hmatched.live_session
  have hagent := hmatched.agent_mem
  refine ⟨agent, paneId, workspaceId, session, ?_, ?_, ?_, ?_, ?_, ?_, hheld, ?_, ?_⟩
  · rw [h.agent_eq]
    exact hmatched.living
  · intro other hother hsame
    exact eq_of_count_filterMap_le_one (hmatched.unshared session hheld) hother hagent.1
      hsame hheld
  · rw [← hmatched.pane_eq, hpane]
  · rw [h.pane_eq, hpane]
  · rw [← hmatched.workspace_eq, hworkspace]
  · rw [h.workspace_eq, hworkspace]
  · rw [h.session_eq, hsession hpresent, hheld]
  · rw [hlive, hheld]

/-- Members that are the recorded bindings, each once, represent each live agent and
session once. -/
theorem representedOnce_of_fromBinding
    (hnames : (members.map Member.agent).Perm claims.agentNames)
    (hmembers : ∀ member ∈ members, ∃ recorded, FromBinding claims recorded member) :
    RepresentedOnce members := by
  have hagents : ((members.filter Member.represents).map Member.agent).Nodup := by
    apply nodup_map_filter
    intro member hmember hrepresents
    obtain ⟨recorded, hfrom⟩ := hmembers member hmember
    obtain ⟨agent, hmatched, -, -⟩ := hfrom.matched hrepresents
    rw [hnames.count_eq, hfrom.agent_eq]
    exact hmatched.claimed_once
  refine ⟨hagents, ?_⟩
  rw [List.Nodup, List.pairwise_filterMap]
  refine (List.pairwise_map.mp hagents).imp_of_mem ?_
  intro first second hfirst hsecond hne session hheld later hlater hsame
  subst hsame
  apply hne
  obtain ⟨hfirstMem, hfirstLive⟩ := List.mem_filter.mp hfirst
  obtain ⟨hsecondMem, hsecondLive⟩ := List.mem_filter.mp hsecond
  obtain ⟨recorded, hfrom⟩ := hmembers first hfirstMem
  obtain ⟨other, hother⟩ := hmembers second hsecondMem
  obtain ⟨agent, hmatched, hlive, -⟩ := hfrom.matched hfirstLive
  obtain ⟨living, hliving, hlast, -⟩ := hother.matched hsecondLive
  rw [hlive] at hheld
  rw [hlast] at hlater
  have hagent := eq_of_count_filterMap_le_one (hmatched.unshared session hheld)
    hmatched.agent_mem.1 hliving.agent_mem.1 hheld hlater
  rw [hfrom.agent_eq, hother.agent_eq, ← hmatched.agent_mem.2, ← hliving.agent_mem.2, hagent]

theorem classifyMembers_agents (task : SnapshotTask) (observedAt : Option Nat) :
    ((classifyMembers view task claims observedAt).map Member.agent).Perm
      (task.bindings.map SnapshotBinding.agent) := by
  have hperm := ((sortedBy_perm Member.logical _).trans (sortedBy_perm Member.agent
    (task.bindings.map fun recorded =>
      newMember view task.taskId recorded
        (memberClassification recorded
          ((task.bindings.map SnapshotBinding.logical).count recorded.logical) claims)
        observedAt))).map Member.agent
  rw [List.map_map] at hperm
  exact hperm

variable {observedAt : Option Nat}

theorem classifyMembers_fromBinding
    (hmember : member ∈ classifyMembers view task claims observedAt) :
    ∃ recorded, FromBinding claims recorded member := by
  unfold classifyMembers at hmember
  rw [mem_sortedBy, mem_sortedBy, List.mem_map] at hmember
  obtain ⟨recorded, -, rfl⟩ := hmember
  exact ⟨recorded, rfl, rfl, rfl, rfl, _, rfl, rfl⟩

/-- The members of the Missions, in the order of their refs. -/
theorem classifyWith_members :
    ((classifyWith views observation deferred).1.flatMap Mission.members) =
      (decisions views observation deferred).flatMap fun entry =>
        entry.2.task.elim [] fun task => classifyMembers entry.1 task
          (newClaims ((decisions views observation deferred).filterMap fun entry =>
            entry.2.task) observation.reading.agents)
          observation.reading.observedAt := by
  unfold classifyWith
  dsimp only
  rw [List.flatMap_map]

theorem elim_agents {α : Type} (entries : List α) (task : α → Option SnapshotTask)
    (view : α → View) (observedAt : Option Nat) :
    ((entries.flatMap fun entry => (task entry).elim [] fun held =>
        classifyMembers (view entry) held claims observedAt).map Member.agent).Perm
      ((entries.filterMap task).flatMap fun held =>
        held.bindings.map SnapshotBinding.agent) := by
  induction entries with
  | nil => exact List.Perm.nil
  | cons entry rest ih =>
      rw [List.flatMap_cons, List.map_append]
      cases htask : task entry with
      | none =>
          rw [List.filterMap_cons_none htask]
          exact ih
      | some held =>
          rw [List.filterMap_cons_some htask, List.flatMap_cons]
          exact (classifyMembers_agents held observedAt).append ih

/-- The members of a classification represent each live agent and session once. -/
theorem classifyWith_representedOnce :
    RepresentedOnce ((classifyWith views observation deferred).1.flatMap
      Mission.members) ∧
    ∀ member ∈ (classifyWith views observation deferred).1.flatMap Mission.members,
      PresentLive observation.reading.agents member := by
  rw [classifyWith_members]
  have hfrom : ∀ member ∈ (decisions views observation deferred).flatMap (fun entry =>
      entry.2.task.elim [] fun task => classifyMembers entry.1 task
        (newClaims ((decisions views observation deferred).filterMap fun entry =>
          entry.2.task) observation.reading.agents)
        observation.reading.observedAt),
      ∃ recorded, FromBinding (newClaims ((decisions views observation
        deferred).filterMap fun entry => entry.2.task) observation.reading.agents)
        recorded member := by
    intro member hmember
    obtain ⟨entry, -, hheld⟩ := List.mem_flatMap.mp hmember
    cases htask : entry.2.task with
    | none =>
        rw [htask] at hheld
        cases hheld
    | some task =>
        rw [htask] at hheld
        exact classifyMembers_fromBinding hheld
  constructor
  · refine representedOnce_of_fromBinding ?_ hfrom
    exact elim_agents _ (fun entry : View × Decision => entry.2.task) Prod.fst _
  · intro member hmember
    obtain ⟨recorded, hrecorded⟩ := hfrom member hmember
    exact hrecorded.presentLive

/-! ## The members of the chains -/

variable {chains : ChainReading}

theorem sortedMembers_perm (members : List ChainMember) :
    (sortedMembers members).Perm members := by
  have hchild : ∀ items : List ChainMember,
      (items.filter fun member => member.chain = .child) =
        items.filter fun member => !decide (member.chain = .direct) := by
    intro items
    apply List.filter_congr
    intro member _
    cases member.chain <;> rfl
  unfold sortedMembers
  dsimp only
  rw [hchild]
  refine (List.filter_append_perm _ _).trans ?_
  exact (sortedBy_perm _ _).trans ((sortedBy_perm _ _).trans (sortedBy_perm _ _))

theorem chainMembers_agents (observedAt : Option Nat) (mission : Mission)
    (decided : List (Chain × Option SnapshotTask)) :
    ((decided.flatMap (chainMembers claims observedAt mission)).map
        fun member => member.member.agent).Perm
      ((decided.filterMap Prod.snd).flatMap fun task =>
        task.bindings.map SnapshotBinding.agent) := by
  induction decided with
  | nil => exact List.Perm.nil
  | cons chain rest ih =>
      obtain ⟨chain, task⟩ := chain
      rw [List.flatMap_cons, List.map_append]
      cases task with
      | none => exact ih
      | some task =>
          have hsome : ((chain, some task) : Chain × Option SnapshotTask).2 = some task :=
            rfl
          rw [List.filterMap_cons_some hsome, List.flatMap_cons]
          refine List.Perm.append ?_ ih
          unfold chainMembers
          dsimp only [Option.elim]
          rw [List.map_map]
          exact classifyMembers_agents task observedAt

theorem chainMembers_fromBinding {mission : Mission}
    {chain : Chain × Option SnapshotTask} {held : ChainMember}
    (hheld : held ∈ chainMembers claims observedAt mission chain) :
    ∃ recorded, FromBinding claims recorded held.member := by
  unfold chainMembers at hheld
  obtain ⟨chain, task⟩ := chain
  cases task with
  | none => cases hheld
  | some task =>
      obtain ⟨member, hmember, rfl⟩ := List.mem_map.mp hheld
      obtain ⟨recorded, hfrom⟩ := classifyMembers_fromBinding hmember
      exact ⟨recorded, hfrom.agent_eq, hfrom.pane_eq, hfrom.workspace_eq,
        hfrom.session_eq, hfrom.classified⟩

/-- The members of every chain of every Mission. -/
def chainRoster (missions : List ChainMission) : List Member :=
  (missions.flatMap ChainMission.members).map ChainMember.member

/-- The claims over every chain of every Mission. -/
def chainClaims (views : List View) (observation : Observation) (chains : ChainReading) : Claims :=
  newClaims ((decidedChains views observation chains).flatMap DecidedChains.bound)
    observation.reading.agents

theorem chainRoster_eq : chainRoster (classifyV2 views observation chains).1 =
      ((decidedChains views observation chains).flatMap fun entry =>
        sortedMembers (entry.chains.flatMap (chainMembers
          (chainClaims views observation chains) observation.reading.observedAt
          entry.mission))).map ChainMember.member := by
  unfold chainRoster classifyV2 chainClaims
  dsimp only
  rw [List.flatMap_map]

theorem chainRoster_agents :
    ((chainRoster (classifyV2 views observation chains).1).map Member.agent).Perm
      (chainClaims views observation chains).agentNames := by
  rw [chainRoster_eq, List.map_map]
  unfold chainClaims newClaims
  dsimp only
  generalize hclaims : ({ agentNames := _, recordedSessions := _, agents := _ } :
    Claims) = claims
  clear hclaims
  induction decidedChains views observation chains with
  | nil => exact List.Perm.nil
  | cons entry rest ih =>
      rw [List.flatMap_cons, List.map_append, List.flatMap_cons, List.flatMap_append]
      refine List.Perm.append ?_ ih
      refine ((sortedMembers_perm _).map _).trans ?_
      exact chainMembers_agents _ entry.mission entry.chains

theorem chainRoster_fromBinding
    (hmember : member ∈ chainRoster (classifyV2 views observation chains).1) :
    ∃ recorded, FromBinding (chainClaims views observation chains) recorded member := by
  rw [chainRoster_eq] at hmember
  obtain ⟨held, hheld, rfl⟩ := List.mem_map.mp hmember
  obtain ⟨entry, -, hheld⟩ := List.mem_flatMap.mp hheld
  rw [(sortedMembers_perm _).mem_iff] at hheld
  obtain ⟨chain, -, hheld⟩ := List.mem_flatMap.mp hheld
  exact chainMembers_fromBinding hheld

theorem classifyV2_representedOnce :
    RepresentedOnce (chainRoster (classifyV2 views observation chains).1) ∧
      ∀ member ∈ chainRoster (classifyV2 views observation chains).1,
        PresentLive observation.reading.agents member := by
  constructor
  · exact representedOnce_of_fromBinding chainRoster_agents
      fun _ hmember => chainRoster_fromBinding hmember
  · intro member hmember
    obtain ⟨recorded, hfrom⟩ := chainRoster_fromBinding hmember
    exact hfrom.presentLive

/-! ## The order of the chains -/

variable {others : List View} {other : Observation} {scope counted : ChainScope}

/-- A bound Mission's task is the one the snapshot holds under its id. -/
theorem bound_found (hrefs : DistinctRefs views)
    (hmission : mission ∈ (classifyWith views observation
      (deferrals views complete links)).1) (hbound : mission.binding.state = .bound) :
    ∃ task, observation.reading.tasksById mission.binding.taskId = [task] := by
  obtain ⟨view, hview, rfl⟩ := mem_classifyWith.mp hmission
  rcases @decideBinding_cases view (deferrals views complete links) observation
      (taskClaims views (deferrals views complete links))
      (workspaceClaims views (deferrals views complete links)) with
    ⟨taskId, workspace, task, hlookup, -, hdecided⟩ | ⟨_, _, _, -, -, hrefused⟩ |
    ⟨-, hrefuses | hdeferred⟩
  · refine ⟨task, ?_⟩
    unfold missionOf
    dsimp only
    rw [hdecided]
    exact hlookup.found
  · simp only [missionOf, hrefused, undecided] at hbound
    cases hbound
  · exact absurd hbound hrefuses.1
  · rw [get?_deferrals_of_mem hrefs hview] at hdeferred
    exact absurd hbound (deferringTo_refuses hdeferred).1

theorem SameScope.directChain (h : SameScope scope counted)
    (hfound : mission.binding.state = .bound →
      ∃ task, counted.observation.reading.tasksById mission.binding.taskId = [task]) :
    directChain scope mission = directChain counted mission := by
  unfold MissionSources.directChain
  dsimp only
  rw [h.chains]
  congr 1
  split_ifs with hbound
  · exact head?_tasksById h.observation (hfound hbound)
  · rfl

theorem parentConfirmed_congr {claimed occupied : List String} (h : Reordered observation other)
    (hexecution : executionBinding view tasks workspaces = executionBinding view claimed occupied) :
    parentConfirmed other tasks workspaces view =
      parentConfirmed observation claimed occupied view := by
  unfold parentConfirmed Observation.unconfirmed
  rw [hexecution, h.confirmed]

theorem decidedChains_perm (h : Reordered observation other) (hperm : views.Perm others)
    (hrefs : DistinctRefs views) :
    decidedChains views other chains = decidedChains others observation chains := by
  have hdeferred := @chainDeferrals_perm _ _ observation.canonicalComplete chains hperm hrefs
  have hothers : DistinctRefs others := (hperm.map _).nodup hrefs
  unfold decidedChains
  dsimp only
  rw [h.complete, classifyWith_perm h hperm hrefs hdeferred]
  apply List.map_congr_left
  intro mission hmission
  have hscope : SameScope {
        observation := other
        chains := chains
        tasks := chainTaskClaims chains views
          (chainDeferrals chains views observation.canonicalComplete)
        workspaces := chainWorkspaceClaims chains views
          (chainDeferrals chains views observation.canonicalComplete) } {
        observation := observation
        chains := chains
        tasks := chainTaskClaims chains others
          (chainDeferrals chains others observation.canonicalComplete)
        workspaces := chainWorkspaceClaims chains others
          (chainDeferrals chains others observation.canonicalComplete) } := ⟨h, rfl⟩
  have hexecution := @executionBinding_congr mission.view _ _ _ _
    (fun taskId _ => taskClaims_count hperm hdeferred taskId)
    (fun workspace _ => workspaceClaims_count hperm hdeferred workspace)
  rw [hscope.directChain (bound_found hothers hmission),
    parentConfirmed_congr h hexecution, missionChildren_congr hdeferred]
  congr 2
  apply List.map_congr_left
  intro record _
  apply hscope.childChain
  exact ⟨fun taskId _ => chainTaskClaims_count hperm hdeferred taskId,
    fun workspace _ => chainWorkspaceClaims_count hperm hdeferred workspace⟩

theorem classifyV2_perm (h : Reordered observation other) (hperm : views.Perm others)
    (hrefs : DistinctRefs views) :
    classifyV2 views other chains = classifyV2 others observation chains := by
  have hdeferred := @chainDeferrals_perm _ _ observation.canonicalComplete chains hperm hrefs
  unfold classifyV2
  dsimp only
  rw [decidedChains_perm h hperm hrefs, h.complete, h.observedAt]
  congr 1
  · apply List.map_congr_left
    intro entry _
    have hmembers : ∀ chain, chainMembers
        (newClaims ((decidedChains others observation chains).flatMap
          DecidedChains.bound) other.reading.agents)
        observation.reading.observedAt entry.mission chain = chainMembers
        (newClaims ((decidedChains others observation chains).flatMap
          DecidedChains.bound) observation.reading.agents)
        observation.reading.observedAt entry.mission chain := by
      intro chain
      unfold chainMembers
      congr 1
      funext task
      rw [classifyMembers_congr fun recorded _ => sameClaims_newClaims h recorded]
    rw [missionChildren_congr hdeferred, funext hmembers]
  · exact h.unmatchedAgents rfl

theorem mem_classifyV2_mission {held : ChainMission}
    (hheld : held ∈ (classifyV2 views observation chains).1) :
    ∃ mission ∈ (classifyWith views observation
        (chainDeferrals chains views observation.canonicalComplete)).1,
      held.view = mission.view ∧ held.binding = mission.binding := by
  unfold classifyV2 decidedChains at hheld
  dsimp only at hheld
  rw [List.map_map, List.mem_map] at hheld
  obtain ⟨mission, hmission, rfl⟩ := hheld
  exact ⟨mission, hmission, rfl, rfl⟩

/-- Membership is the canonical chain, in every order of the views, tasks and agents:
a Mission is bound exactly when every link holds, each live agent and session is
represented once, and a present member is a live agent's in every respect. -/
theorem roster_is_canonical (views : List View) (observation : Observation)
    (chains : ChainReading) (hrefs : DistinctRefs views) :
    (∀ others other, views.Perm others → Reordered observation other →
      classify others other = classify views observation ∧
        classifyV2 others other chains = classifyV2 views observation chains) ∧
    (∀ mission ∈ (classify views observation).1, mission.view ∈ views ∧
      (mission.binding.state = .bound ↔ ∃ taskId workspace task,
        CanonicalChain views observation [] mission.view taskId workspace task)) ∧
    (∀ mission ∈ (classifyV2 views observation chains).1, mission.view ∈ views ∧
      (mission.binding.state = .bound ↔ ∃ taskId workspace task, CanonicalChain views observation
          (parentLinks chains views observation.canonicalComplete) mission.view taskId
          workspace task)) ∧
    (RepresentedOnce ((classify views observation).1.flatMap Mission.members) ∧
      RepresentedOnce (chainRoster (classifyV2 views observation chains).1)) ∧
    (∀ member ∈ (classify views observation).1.flatMap Mission.members,
      PresentLive observation.reading.agents member) ∧
    ∀ member ∈ chainRoster (classifyV2 views observation chains).1,
      PresentLive observation.reading.agents member := by
  refine ⟨?_, ?_, ?_, ⟨classifyWith_representedOnce.1, classifyV2_representedOnce.1⟩,
    classifyWith_representedOnce.2, classifyV2_representedOnce.2⟩
  · intro others other hperm hreordered
    have hothers : DistinctRefs others := (hperm.map _).nodup hrefs
    exact ⟨classify_perm hreordered hperm.symm hothers,
      classifyV2_perm hreordered hperm.symm hothers⟩
  · intro mission hmission
    exact bound_iff_chain hrefs hmission
  · intro held hheld
    obtain ⟨mission, hmission, hview, hbinding⟩ := mem_classifyV2_mission hheld
    rw [hview, hbinding]
    exact bound_iff_chain hrefs hmission

/-! ## A team -/

def sampleExecution (taskId : String) (workspace : String) : Execution where
  taskId := some taskId
  identitySource := none
  workspaceRealpath := some workspace
  runStarted := true
  receiptRecorded := true
  consistent := true
  recordAmbiguous := false

def sampleView : View where
  missionRef := "core:m1"
  sourceId := "core"
  model := "mission_core.mission_state/1"
  standing := .active
  declared := "mission-core"
  execution := sampleExecution "t1" "/work/one"

/-- A task-native record of the same root. -/
def sampleAlias : View := { sampleView with
  missionRef := "herd:t1"
  sourceId := "herd"
  model := "herdr.task/1" }

def sampleBinding : SnapshotBinding where
  logical := "lead"
  role := some "lead"
  agent := "lead1"
  session := some "s1"
  paneId := some "p1"
  workspaceId := some "w1"

def sampleTask : SnapshotTask := ⟨"t1", "/work/one", [sampleBinding]⟩

def sampleAgent : SnapshotAgent where
  agent := "lead1"
  provider := some "codex"
  status := "working"
  session := some "s1"
  paneId := some "p1"
  workspaceId := some "w1"

def sampleObservation : Observation where
  reading := ⟨.fresh, some 7, [sampleTask], [sampleAgent]⟩
  observedRoots := some ["/work/one"]
  confirmedBindings := none
  canonicalComplete := true

def sampleChains : ChainReading := ⟨.fresh, [], [], []⟩

theorem sampleMission_bound : (classify [sampleAlias, sampleView] sampleObservation).1.map
      (fun mission => (mission.view.missionRef, mission.binding.state,
        mission.members.map Member.classification)) =
      [("core:m1", .bound, [.present]), ("herd:t1", .notApplicable, [])] := by
  decide +kernel

theorem roster_is_canonical_sample :
    (∃ mission ∈ (classify [sampleAlias, sampleView] sampleObservation).1,
      ∃ taskId workspace task, CanonicalChain [sampleAlias, sampleView]
        sampleObservation [] mission.view taskId workspace task) ∧
    classifyV2 [sampleView, sampleAlias] sampleObservation sampleChains =
      classifyV2 [sampleAlias, sampleView] sampleObservation sampleChains := by
  obtain ⟨horder, hchain, -⟩ := roster_is_canonical [sampleAlias, sampleView]
    sampleObservation sampleChains (by unfold DistinctRefs; decide)
  have hbound : ("core:m1", BindingState.bound, [MemberClassification.present]) ∈
      (classify [sampleAlias, sampleView] sampleObservation).1.map
        (fun mission => (mission.view.missionRef, mission.binding.state,
          mission.members.map Member.classification)) := by
    rw [sampleMission_bound]
    exact List.mem_cons_self
  obtain ⟨mission, hmission, hheld⟩ := List.mem_map.mp hbound
  simp only [Prod.mk.injEq] at hheld
  refine ⟨⟨mission, hmission, (hchain mission hmission).2.mp hheld.2.1⟩, ?_⟩
  exact (horder _ _ (List.Perm.swap _ _ _) ⟨rfl, rfl, List.Perm.refl _,
    List.Perm.refl _, rfl, rfl, rfl⟩).2

end DodgingInfinity.MissionSources
