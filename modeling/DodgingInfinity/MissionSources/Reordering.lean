import DodgingInfinity.Library.Counting
import DodgingInfinity.MissionSources.Chains

/-!
# The order of the views, tasks and agents

A classification reads its views, tasks and agents by their refs, ids and names and by
how often each is claimed.  So the order they come in decides nothing.
-/

namespace DodgingInfinity.MissionSources

/-- No two views share a Mission ref. -/
def DistinctRefs (views : List View) : Prop :=
  (views.map View.missionRef).Nodup

/-- The same observation, its tasks and its agents in another order. -/
structure Reordered (observation other : Observation) : Prop where
  health : other.reading.health = observation.reading.health
  observedAt : other.reading.observedAt = observation.reading.observedAt
  tasks : other.reading.tasks.Perm observation.reading.tasks
  agents : other.reading.agents.Perm observation.reading.agents
  roots : other.observedRoots = observation.observedRoots
  confirmed : other.confirmedBindings = observation.confirmedBindings
  complete : other.canonicalComplete = observation.canonicalComplete

section

variable {α : Type} {items others : List α}

/-- Items with distinct keys are sorted in one way. -/
theorem sortedBy_eq_of_perm {key : α → String} (hperm : items.Perm others)
    (hnodup : (items.map key).Nodup) : sortedBy key items = sortedBy key others := by
  refine @List.Perm.eq_of_pairwise _ (fun first second => key first ≤ key second) _ _
    ?_ (pairwise_sortedBy key items) (pairwise_sortedBy key others) ?_
  · intro first second hfirst hsecond hle hge
    rw [mem_sortedBy] at hfirst
    rw [mem_sortedBy, ← hperm.mem_iff] at hsecond
    exact List.inj_on_of_nodup_map hnodup hfirst hsecond (le_antisymm hle hge)
  · exact (sortedBy_perm key items).trans (hperm.trans (sortedBy_perm key others).symm)

end

/-! ## Deferrals -/

variable {views others : List View} {view : View} {deferred postponed : Dict String Binding}
  {observation other : Observation} {links chained : List Link} {complete : Bool}

theorem get?_deferrals (hrefs : DistinctRefs views) {missionRef : String}
    {binding : Binding} : (deferrals views complete links).get? missionRef = some binding ↔
      ∃ view ∈ views, view.missionRef = missionRef ∧
        deferringTo views complete links view = some binding := by
  have hnodup : ((views.filterMap fun view =>
      (deferringTo views complete links view).map fun binding =>
        (view.missionRef, binding)).map Prod.fst).Nodup := by
    rw [List.Nodup, List.pairwise_map, List.pairwise_filterMap]
    refine (List.pairwise_map.mp hrefs).imp ?_
    intro first second hne held hheld later hlater
    obtain ⟨_, -, rfl⟩ := Option.map_eq_some_iff.mp hheld
    obtain ⟨_, -, rfl⟩ := Option.map_eq_some_iff.mp hlater
    exact hne
  unfold deferrals
  rw [← Dict.mem_entries_iff, Dict.entries_ofEntries hnodup, List.mem_filterMap]
  constructor
  · rintro ⟨view, hview, hheld⟩
    obtain ⟨held, hdefers, heq⟩ := Option.map_eq_some_iff.mp hheld
    obtain ⟨rfl, rfl⟩ := Prod.mk.inj heq
    exact ⟨view, hview, rfl, hdefers⟩
  · rintro ⟨view, hview, rfl, hdefers⟩
    exact ⟨view, hview, by rw [hdefers]; rfl⟩

/-- A view of distinct refs is deferred as it defers. -/
theorem get?_deferrals_of_mem (hrefs : DistinctRefs views) (hview : view ∈ views) :
    (deferrals views complete links).get? view.missionRef =
      deferringTo views complete links view := by
  apply Option.ext
  intro binding
  rw [get?_deferrals hrefs]
  constructor
  · rintro ⟨held, hheld, hsame, hdefers⟩
    rwa [List.inj_on_of_nodup_map hrefs hheld hview hsame] at hdefers
  · intro hdefers
    exact ⟨view, hview, rfl, hdefers⟩

theorem deferral_congr {pairs paired : List Link} (hpairs : ∀ link, link ∈ pairs ↔ link ∈ paired)
    (hlinks : ∀ link, link ∈ links ↔ link ∈ chained) (link : Link) :
    deferral pairs links complete link = deferral paired chained complete link := by
  have hshared : ∀ {first second : List Link}, (∀ link, link ∈ first ↔ link ∈ second) →
        link.sharedWith first = link.sharedWith second := by
    intro first second hmem
    simp only [Link.sharedWith, List.mem_map, hmem]
  simp only [deferral, hpairs, hlinks, hshared hpairs, hshared hlinks]

theorem deferringTo_congr (hviews : ∀ view, view ∈ views ↔ view ∈ others)
    (hlinks : ∀ link, link ∈ links ↔ link ∈ chained) (view : View) :
    deferringTo views complete links view = deferringTo others complete chained view := by
  unfold deferringTo
  split_ifs
  · rfl
  · apply deferral_congr _ hlinks
    intro link
    simp only [List.mem_map, List.mem_filter, hviews]

theorem get?_deferrals_perm (hperm : views.Perm others) (hrefs : DistinctRefs views)
    (hlinks : ∀ link, link ∈ links ↔ link ∈ chained) (missionRef : String) :
    (deferrals views complete links).get? missionRef =
      (deferrals others complete chained).get? missionRef := by
  have hothers : DistinctRefs others := (hperm.map _).nodup hrefs
  apply Option.ext
  intro binding
  rw [get?_deferrals hrefs, get?_deferrals hothers]
  simp only [hperm.mem_iff, deferringTo_congr (fun view => hperm.mem_iff) hlinks]

/-! ## Claims and bindings -/

/-- Two records of deferrals that agree under every ref. -/
def SameDeferrals (deferred postponed : Dict String Binding) : Prop :=
  ∀ missionRef, deferred.get? missionRef = postponed.get? missionRef

theorem SameDeferrals.contains (h : SameDeferrals deferred postponed) (missionRef : String) :
    deferred.contains missionRef = postponed.contains missionRef := by
  unfold Dict.contains
  rw [h missionRef]

theorem claimants_perm (hperm : views.Perm others) (hdeferred : SameDeferrals deferred postponed) :
    (claimants views deferred).Perm (claimants others postponed) := by
  unfold claimants
  simp only [hdeferred.contains]
  exact hperm.filter _

theorem executionBinding_congr {tasks claimed workspaces occupied : List String}
    (htasks : ∀ taskId, view.execution.taskId = some taskId →
      tasks.count taskId = claimed.count taskId)
    (hworkspaces : ∀ workspace, view.execution.workspaceRealpath = some workspace →
      workspaces.count workspace = occupied.count workspace) :
    executionBinding view tasks workspaces = executionBinding view claimed occupied := by
  unfold executionBinding
  cases htask : view.execution.taskId with
  | none => rfl
  | some taskId =>
      cases hworkspace : view.execution.workspaceRealpath with
      | none => rfl
      | some workspace =>
          simp only [htasks taskId htask, hworkspaces workspace hworkspace]

theorem Reordered.isLive (h : Reordered observation other) :
    other.reading.isLive = observation.reading.isLive := by
  unfold SnapshotReading.isLive
  rw [h.health]

theorem Reordered.tasksById (h : Reordered observation other) (taskId : Option String) :
    (other.reading.tasksById taskId).Perm (observation.reading.tasksById taskId) :=
  h.tasks.filter _

theorem Reordered.snapshotDecision (h : Reordered observation other) (view : View) :
    snapshotDecision other view = snapshotDecision observation view := by
  unfold MissionSources.snapshotDecision Observation.unobserved Observation.unconfirmed
  dsimp only
  rw [h.roots, h.confirmed]
  rcases perm_cases (h.tasksById view.execution.taskId) with
    hsame | ⟨⟨_, _, _, hmany⟩, ⟨_, _, _, hothers⟩⟩
  · rw [hsame]
  · rw [hmany, hothers]

theorem corroborated_perm {agents living : List SnapshotAgent} (task : SnapshotTask)
    (hperm : agents.Perm living) : corroborated task agents = corroborated task living := by
  have hany : ∀ p : SnapshotAgent → Bool, agents.any p = living.any p := by
    intro p
    rw [Bool.eq_iff_iff, List.any_eq_true, List.any_eq_true]
    simp only [hperm.mem_iff]
  simp only [corroborated, hany]

theorem decideBinding_congr {tasks claimed workspaces occupied : List String}
    (h : Reordered observation other)
    (hdeferred : deferred.get? view.missionRef = postponed.get? view.missionRef)
    (hexecution : view.standing = .active → deferred.get? view.missionRef = none →
      executionBinding view tasks workspaces = executionBinding view claimed occupied) :
    decideBinding other deferred tasks workspaces view =
      decideBinding observation postponed claimed occupied view := by
  have hrecorded : recordedDecision other deferred tasks workspaces view =
      recordedDecision observation postponed claimed occupied view := by
    unfold recordedDecision
    split
    · rfl
    · rename_i hactive
      rw [ne_eq, not_not] at hactive
      rw [← hdeferred, h.isLive, h.snapshotDecision view]
      cases hheld : deferred.get? view.missionRef with
      | some binding => rfl
      | none => rw [hexecution hactive hheld]
  unfold decideBinding
  rw [hrecorded]
  simp only [corroboratedDecision, corroborated_perm _ h.agents]

/-! ## Members -/

/-- Two records of claims that count alike what a binding names. -/
structure SameClaims (claims counted : Claims) (recorded : SnapshotBinding) : Prop where
  agents : claims.agentNames.count recorded.agent = counted.agentNames.count recorded.agent
  sessions : ∀ session, recorded.session = some session →
    claims.recordedSessions.count session = counted.recordedSessions.count session
  living : claims.agents.Perm counted.agents

theorem sharedSession_congr {sessions held : List String} {session : Option String}
    (hcount : ∀ name, session = some name → sessions.count name = held.count name) :
    sharedSession sessions session = sharedSession held session := by
  cases session with
  | none => rfl
  | some name => simp only [sharedSession, Option.any_some, hcount name rfl]

theorem liveClassification_perm {claims counted : Claims}
    (hliving : claims.agents.Perm counted.agents) (recorded : SnapshotBinding)
    (agent : SnapshotAgent) : liveClassification recorded agent claims =
      liveClassification recorded agent counted := by
  have hlive : sharedSession claims.liveSessions agent.session =
      sharedSession counted.liveSessions agent.session :=
    sharedSession_congr fun session _ =>
      (hliving.filterMap SnapshotAgent.session).count_eq session
  unfold liveClassification
  rw [hlive]

theorem SameClaims.memberClassification {claims counted : Claims}
    {recorded : SnapshotBinding} (h : SameClaims claims counted recorded) (logicalCount : Nat) :
    memberClassification recorded logicalCount claims =
      memberClassification recorded logicalCount counted := by
  have hliving : (claims.liveByName recorded.agent).Perm
      (counted.liveByName recorded.agent) := h.living.filter _
  unfold MissionSources.memberClassification
  rw [h.agents, sharedSession_congr h.sessions]
  simp only [liveClassification_perm h.living]
  rcases perm_cases hliving with hsame | ⟨⟨_, _, _, hmany⟩, ⟨_, _, _, hothers⟩⟩
  · rw [hsame]
  · rw [hmany, hothers]

theorem classifyMembers_congr {claims counted : Claims} {task : SnapshotTask}
    (h : ∀ recorded ∈ task.bindings, SameClaims claims counted recorded) (view : View)
    (observedAt : Option Nat) : classifyMembers view task claims observedAt =
      classifyMembers view task counted observedAt := by
  unfold classifyMembers
  congr 2
  apply List.map_congr_left
  intro recorded hrecorded
  rw [(h recorded hrecorded).memberClassification]

theorem sameClaims_newClaims {bound : List SnapshotTask}
    (h : Reordered observation other) (recorded : SnapshotBinding) :
    SameClaims (newClaims bound other.reading.agents)
      (newClaims bound observation.reading.agents) recorded :=
  ⟨rfl, fun _ _ => rfl, h.agents⟩

theorem Reordered.unmatchedAgents (h : Reordered observation other)
    {claims counted : Claims} (hnames : claims.agentNames = counted.agentNames) :
    unmatchedAgents other.reading claims =
      unmatchedAgents observation.reading counted := by
  unfold MissionSources.unmatchedAgents
  rw [h.isLive, hnames, h.agents.countP_eq]

/-! ## The classifications -/

theorem taskClaims_count (hperm : views.Perm others)
    (hdeferred : SameDeferrals deferred postponed) (taskId : String) :
    (taskClaims views deferred).count taskId = (taskClaims others postponed).count taskId :=
  ((claimants_perm hperm hdeferred).filterMap _).count_eq taskId

theorem workspaceClaims_count (hperm : views.Perm others)
    (hdeferred : SameDeferrals deferred postponed) (workspace : String) :
    (workspaceClaims views deferred).count workspace =
      (workspaceClaims others postponed).count workspace :=
  ((claimants_perm hperm hdeferred).filterMap _).count_eq workspace

theorem decisions_perm (h : Reordered observation other) (hperm : views.Perm others)
    (hrefs : DistinctRefs views) (hdeferred : SameDeferrals deferred postponed) :
    decisions views other deferred = decisions others observation postponed := by
  unfold decisions
  rw [sortedBy_eq_of_perm hperm hrefs]
  apply List.map_congr_left
  intro view _
  have hexecution := @executionBinding_congr view _ _ _ _
    (fun taskId _ => taskClaims_count hperm hdeferred taskId)
    (fun workspace _ => workspaceClaims_count hperm hdeferred workspace)
  rw [decideBinding_congr h (hdeferred view.missionRef) fun _ _ => hexecution]

theorem classifyWith_perm (h : Reordered observation other) (hperm : views.Perm others)
    (hrefs : DistinctRefs views) (hdeferred : SameDeferrals deferred postponed) :
    classifyWith views other deferred = classifyWith others observation postponed := by
  unfold classifyWith
  rw [decisions_perm h hperm hrefs hdeferred, h.observedAt]
  dsimp only
  congr 1
  · apply List.map_congr_left
    intro entry _
    congr 2
    funext task
    exact classifyMembers_congr (fun recorded _ => sameClaims_newClaims h recorded) entry.1 _
  · exact h.unmatchedAgents rfl

theorem classify_perm (h : Reordered observation other) (hperm : views.Perm others)
    (hrefs : DistinctRefs views) : classify views other = classify others observation := by
  unfold classify
  rw [h.complete]
  exact classifyWith_perm h hperm hrefs (get?_deferrals_perm hperm hrefs fun _ => Iff.rfl)

/-! ## The chains -/

variable {chains : ChainReading}

theorem mem_parentLinks_perm (hperm : views.Perm others) (hrefs : DistinctRefs views)
    (link : Link) : link ∈ parentLinks chains views complete ↔
      link ∈ parentLinks chains others complete := by
  have hclaimants := @claimants_perm _ _ (deferrals views complete [])
      (deferrals others complete []) hperm
    (get?_deferrals_perm hperm hrefs fun _ => Iff.rfl)
  unfold parentLinks
  simp only [List.mem_flatMap, hclaimants.mem_iff]

theorem chainDeferrals_perm (hperm : views.Perm others) (hrefs : DistinctRefs views) :
    SameDeferrals (chainDeferrals chains views complete) (chainDeferrals chains others complete) :=
  get?_deferrals_perm hperm hrefs (mem_parentLinks_perm hperm hrefs)

theorem missionChildren_congr (hdeferred : SameDeferrals deferred postponed) (view : View) :
    missionChildren chains deferred view = missionChildren chains postponed view := by
  unfold missionChildren
  rw [hdeferred.contains]

theorem claimedChildren_perm (hperm : views.Perm others)
    (hdeferred : SameDeferrals deferred postponed) : (claimedChildren chains views deferred).Perm
      (claimedChildren chains others postponed) := by
  unfold claimedChildren
  simp only [missionChildren_congr hdeferred]
  exact (claimants_perm hperm hdeferred).flatMap_right _

theorem chainTaskClaims_count (hperm : views.Perm others)
    (hdeferred : SameDeferrals deferred postponed) (taskId : String) :
    (chainTaskClaims chains views deferred).count taskId =
      (chainTaskClaims chains others postponed).count taskId := by
  unfold chainTaskClaims
  rw [List.count_append, List.count_append, taskClaims_count hperm hdeferred,
    ((claimedChildren_perm hperm hdeferred).filterMap _).count_eq]

theorem chainWorkspaceClaims_count (hperm : views.Perm others)
    (hdeferred : SameDeferrals deferred postponed) (workspace : String) :
    (chainWorkspaceClaims chains views deferred).count workspace =
      (chainWorkspaceClaims chains others postponed).count workspace := by
  unfold chainWorkspaceClaims
  rw [List.count_append, List.count_append, workspaceClaims_count hperm hdeferred,
    ((claimedChildren_perm hperm hdeferred).filterMap _).count_eq]

/-- Two scopes that read alike. -/
structure SameScope (scope counted : ChainScope) : Prop where
  observation : Reordered counted.observation scope.observation
  chains : scope.chains = counted.chains

/-- Two scopes that count alike what a child record names. -/
structure SameChild (scope counted : ChainScope) (record : ChildRecord) : Prop where
  tasks : ∀ taskId, record.childTaskId = some taskId →
    scope.tasks.count taskId = counted.tasks.count taskId
  workspaces : ∀ workspace, record.repo = some workspace →
    scope.workspaces.count workspace = counted.workspaces.count workspace

variable {scope counted : ChainScope} {record : ChildRecord}

theorem SameScope.live (h : SameScope scope counted) : scope.live = counted.live := by
  unfold ChainScope.live
  rw [h.observation.isLive, h.chains]

theorem multiplyClaimed_congr {claims held : List String} {name : Option String}
    (hcount : ∀ text, name = some text → claims.count text = held.count text) :
    multiplyClaimed claims name = multiplyClaimed held name := by
  cases name with
  | none => rfl
  | some text => simp only [multiplyClaimed, Option.any_some, hcount text rfl]

theorem SameScope.childSnapshotDecision (h : SameScope scope counted) (record : ChildRecord) :
    childSnapshotDecision scope record = childSnapshotDecision counted record := by
  unfold MissionSources.childSnapshotDecision
  rcases perm_cases (h.observation.tasksById record.childTaskId) with
    hsame | ⟨⟨_, _, _, hmany⟩, ⟨_, _, _, hothers⟩⟩
  · rw [hsame]
  · rw [hmany, hothers]

theorem SameScope.childDecision (h : SameScope scope counted)
    (hchild : SameChild scope counted record) (view : View) (confirmed : Bool) :
    childDecision scope view confirmed record =
      childDecision counted view confirmed record := by
  unfold MissionSources.childDecision childRootDecision
  dsimp only
  rw [h.live, multiplyClaimed_congr hchild.tasks,
    multiplyClaimed_congr hchild.workspaces, h.chains, h.childSnapshotDecision]

theorem SameScope.childChain (h : SameScope scope counted)
    (hchild : SameChild scope counted record) (view : View) (confirmed : Bool) :
    childChain scope view confirmed record = childChain counted view confirmed record := by
  unfold MissionSources.childChain
  dsimp only
  rw [h.childDecision hchild, h.live, h.chains]

/-- A task the snapshot holds once is found whatever the order. -/
theorem head?_tasksById (h : Reordered observation other) {taskId : Option String}
    (hone : ∃ task, observation.reading.tasksById taskId = [task]) :
    (other.reading.tasksById taskId).head? =
      (observation.reading.tasksById taskId).head? := by
  obtain ⟨task, hone⟩ := hone
  have hperm := h.tasksById taskId
  rw [hone] at hperm ⊢
  rw [List.perm_singleton.mp hperm]

end DodgingInfinity.MissionSources
