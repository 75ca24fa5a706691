import DodgingInfinity.MissionSources.Membership

/-!
# What a record leaves to others

A task-native record defers to every canonical one, and one that no live session
corroborates claims its task and its workspace alone.  So neither is seen by another
Mission's own binding.
-/

namespace DodgingInfinity.MissionSources

variable {views : List View} {view record : View} {deferred postponed : Dict String Binding}
  {observation : Observation} {complete : Bool} {links chained : List Link}

/-! ## Some views of all -/

section

variable {keep : View → Bool}

theorem DistinctRefs.filter (h : DistinctRefs views) (keep : View → Bool) :
    DistinctRefs (views.filter keep) :=
  List.Nodup.sublist (List.filter_sublist.map View.missionRef) h

/-- Some views are sorted as they are among all. -/
theorem sortedBy_filter (hrefs : DistinctRefs views) :
    sortedBy View.missionRef (views.filter keep) =
      (sortedBy View.missionRef views).filter keep := by
  refine @List.Perm.eq_of_pairwise _
      (fun first second => View.missionRef first ≤ View.missionRef second) _ _
    ?_ (pairwise_sortedBy _ _) ((pairwise_sortedBy _ _).filter _) ?_
  · intro first second hfirst hsecond hle hge
    rw [mem_sortedBy] at hfirst
    rw [List.mem_filter, mem_sortedBy] at hsecond
    exact List.inj_on_of_nodup_map hrefs (List.mem_filter.mp hfirst).1 hsecond.1
      (le_antisymm hle hge)
  · exact (sortedBy_perm _ _).trans ((sortedBy_perm _ _).filter keep).symm

/-- Claims of a name are counted alike among some views, when these are the ones that
make them. -/
theorem count_claims_filter {f : View → Option String} {name : String}
    (hagree : ∀ view ∈ views, view.standing = .active → f view = some name →
      (deferred.contains view.missionRef = false ↔
        keep view = true ∧ postponed.contains view.missionRef = false)) :
    ((claimants views deferred).filterMap f).count name =
      ((claimants (views.filter keep) postponed).filterMap f).count name := by
  unfold claimants
  rw [List.count_filterMap, List.count_filterMap, List.countP_filter, List.countP_filter,
    List.countP_filter]
  apply List.countP_congr
  intro view hview
  simp only [Bool.and_eq_true, beq_iff_eq, decide_eq_true_eq]
  constructor
  · rintro ⟨hname, hclaims, hactive⟩
    obtain ⟨hkept, hclaimed⟩ := (hagree view hview hactive hname).mp hclaims
    exact ⟨⟨hname, hclaimed, hactive⟩, hkept⟩
  · rintro ⟨⟨hname, hclaimed, hactive⟩, hkept⟩
    exact ⟨hname, (hagree view hview hactive hname).mpr ⟨hkept, hclaimed⟩, hactive⟩

/-- The Missions of some views, chosen from the classification of all. -/
theorem classifyWith_filter (hrefs : DistinctRefs views) :
    (classifyWith views observation deferred).1.filter (fun mission => keep mission.view) =
      (sortedBy View.missionRef (views.filter keep)).map
        (missionOf views observation deferred) := by
  rw [classifyWith_missions, List.filter_map, sortedBy_filter hrefs]
  rfl

end

/-! ## Canonical bindings -/

/-- The views of the canonical sources. -/
def canonicalViews (views : List View) : List View :=
  views.filter fun view => view.taskNative = false

theorem DistinctRefs.canonicalViews (h : DistinctRefs views) :
    DistinctRefs (canonicalViews views) :=
  h.filter _

theorem deferringTo_canonical (hcanonical : view.taskNative = false) :
    deferringTo views complete links view = none := by
  unfold deferringTo
  rw [if_pos (.inl hcanonical)]

theorem contains_deferrals (hrefs : DistinctRefs views) (hview : view ∈ views) :
    (deferrals views complete links).contains view.missionRef = false ↔
      deferringTo views complete links view = none := by
  rw [Dict.contains_eq_false_iff, get?_deferrals_of_mem hrefs hview]

/-- Only the canonical views name what an active canonical view names, and claim. -/
theorem claims_like_canonical {f : View → Option String} {name : String}
    (hshares : ∀ other, f other = some name → other.link.Shares view.link)
    (hrefs : DistinctRefs views) (hview : view ∈ views)
    (hcanonical : view.taskNative = false) (hactive : view.standing = .active) :
    ((claimants views (deferrals views complete links)).filterMap f).count name =
      ((claimants (canonicalViews views) (deferrals (canonicalViews views) complete
        chained)).filterMap f).count name := by
  apply count_claims_filter
  intro other hother hstands hname
  rw [contains_deferrals hrefs hother, decide_eq_true_eq]
  cases hnative : other.taskNative with
  | false =>
      have hkept : other ∈ canonicalViews views :=
        List.mem_filter.mpr ⟨hother, by rw [decide_eq_true_eq]; exact hnative⟩
      rw [contains_deferrals hrefs.canonicalViews hkept, deferringTo_canonical hnative,
        deferringTo_canonical hnative]
      simp
  | true =>
      rw [deferringTo_eq_none hstands]
      simp only [reduceCtorEq, false_and, iff_false, not_not]
      refine ⟨hnative, .inl ⟨view, hview, ?_, hshares other hname⟩⟩
      simp [View.canonicalClaiming, hcanonical, hactive]

/-- The binding of a canonical Mission is what it is among the canonical ones. -/
theorem canonical_binding (hrefs : DistinctRefs views) (hview : view ∈ views)
    (hcanonical : view.taskNative = false) :
    (missionOf views observation (deferrals views complete links) view).binding =
      (missionOf (canonicalViews views) observation
        (deferrals (canonicalViews views) complete chained) view).binding := by
  have hkept : view ∈ canonicalViews views :=
    List.mem_filter.mpr ⟨hview, by rw [decide_eq_true_eq]; exact hcanonical⟩
  unfold missionOf
  dsimp only
  rw [decideBinding_congr ⟨rfl, rfl, .refl _, .refl _, rfl, rfl, rfl⟩]
  · rw [get?_deferrals_of_mem hrefs hview, get?_deferrals_of_mem hrefs.canonicalViews hkept,
      deferringTo_canonical hcanonical, deferringTo_canonical hcanonical]
  · intro hactive _
    apply executionBinding_congr
    · intro taskId htask
      apply claims_like_canonical _ hrefs hview hcanonical hactive
      intro other hother
      refine .inr (.inl ⟨?_, hother.trans htask.symm⟩)
      exact Option.ne_none_iff_exists'.mpr ⟨taskId, hother⟩
    · intro workspace hworkspace
      apply claims_like_canonical _ hrefs hview hcanonical hactive
      intro other hother
      refine .inr (.inr ⟨?_, hother.trans hworkspace.symm⟩)
      exact Option.ne_none_iff_exists'.mpr ⟨workspace, hother⟩

/-- What is said of a Mission's own binding. -/
def ownBinding (mission : Mission) : View × Binding :=
  (mission.view, mission.binding)

theorem canonical_bindings (hrefs : DistinctRefs views) :
    ((classifyWith views observation (deferrals views complete links)).1.filter
        fun mission => mission.view.taskNative = false).map ownBinding =
      (classifyWith (canonicalViews views) observation
        (deferrals (canonicalViews views) complete chained)).1.map ownBinding := by
  have hfilter := @classifyWith_filter _ (deferrals views complete links) observation
      (fun view => decide (view.taskNative = false)) hrefs
  rw [hfilter, classifyWith_missions, List.map_map, List.map_map]
  apply List.map_congr_left
  intro view hview
  rw [mem_sortedBy, List.mem_filter, decide_eq_true_eq] at hview
  simp only [Function.comp_apply, ownBinding]
  rw [canonical_binding hrefs hview.1 hview.2]
  rfl

/-! ## A record no live session corroborates -/

/-- The views but one. -/
def without (views : List View) (record : View) : List View :=
  views.filter fun view => view.missionRef ≠ record.missionRef

/-- A task-native record whose binding is refused because no live session corroborates
its task record. -/
structure Uncorroborated (views : List View) (observation : Observation)
    (links : List Link) (record : View) : Prop where
  held : record ∈ views
  native : record.taskNative = true
  refused : (missionOf views observation
    (deferrals views observation.canonicalComplete links) record).binding.reason =
      .taskRecordNotCorroborated

/-- What such a record went through: it is active, defers to none, is alone in what it
claims, and binds nothing. -/
structure Alone (views : List View) (observation : Observation)
    (deferred : Dict String Binding) (record : View) : Prop where
  held : record ∈ views
  native : record.taskNative = true
  active : record.standing = .active
  undeferred : deferred.get? record.missionRef = none
  resolved : ∃ taskId workspace, Resolved record (taskClaims views deferred)
    (workspaceClaims views deferred) taskId workspace
  unbound : (decideBinding observation deferred (taskClaims views deferred)
    (workspaceClaims views deferred) record).task = none
  refused : (decideBinding observation deferred (taskClaims views deferred)
    (workspaceClaims views deferred) record).binding.state ≠ .bound

theorem Uncorroborated.alone (h : Uncorroborated views observation links record)
    (hrefs : DistinctRefs views) :
    Alone views observation (deferrals views observation.canonicalComplete links)
      record := by
  have hrefused := h.refused
  unfold missionOf at hrefused
  dsimp only at hrefused
  rcases @decideBinding_cases record (deferrals views observation.canonicalComplete links)
      observation (taskClaims views (deferrals views observation.canonicalComplete links))
      (workspaceClaims views (deferrals views observation.canonicalComplete links)) with
    ⟨_, _, _, -, -, hbound⟩ | ⟨taskId, workspace, task, hlookup, -, hdecided⟩ |
    ⟨-, hrefuses | hdeferred⟩
  · rw [hbound] at hrefused
    cases hrefused
  · exact {
      held := h.held
      native := h.native
      active := hlookup.active
      undeferred := hlookup.undeferred
      resolved := ⟨taskId, workspace, hlookup.resolved⟩
      unbound := by rw [hdecided]; rfl
      refused := by
        rw [hdecided]
        simp [undecided] }
  · exact absurd hrefused hrefuses.2
  · rw [get?_deferrals_of_mem hrefs h.held] at hdeferred
    exact absurd hrefused (deferringTo_refuses hdeferred).2

theorem mem_without : view ∈ without views record ↔
    view ∈ views ∧ view.missionRef ≠ record.missionRef := by
  unfold without
  rw [List.mem_filter, decide_eq_true_eq]

theorem DistinctRefs.without (h : DistinctRefs views) (record : View) :
    DistinctRefs (without views record) :=
  h.filter _

/-- A task-native record is none that others defer to. -/
theorem deferringTo_without (hrefs : DistinctRefs views) (hheld : record ∈ views)
    (hnative : record.taskNative = true) (view : View) :
    deferringTo (without views record) complete links view =
      deferringTo views complete links view := by
  unfold deferringTo
  split
  · rfl
  · apply deferral_congr _ fun _ => Iff.rfl
    intro link
    simp only [List.mem_map, List.mem_filter, mem_without]
    constructor
    · rintro ⟨other, ⟨⟨hother, -⟩, hclaiming⟩, rfl⟩
      exact ⟨other, ⟨hother, hclaiming⟩, rfl⟩
    · rintro ⟨other, ⟨hother, hclaiming⟩, rfl⟩
      refine ⟨other, ⟨⟨hother, ?_⟩, hclaiming⟩, rfl⟩
      intro hsame
      obtain rfl := List.inj_on_of_nodup_map hrefs hother hheld hsame
      simp [View.canonicalClaiming, hnative] at hclaiming

/-- The deferrals of the others are the same without the record. -/
def OthersDefer (views : List View) (deferred postponed : Dict String Binding)
    (record : View) : Prop :=
  ∀ view ∈ without views record, deferred.get? view.missionRef = postponed.get? view.missionRef

theorem Alone.mem_claimants (h : Alone views observation deferred record) :
    record ∈ claimants views deferred := by
  unfold claimants
  rw [List.mem_filter, decide_eq_true_eq, Dict.contains_eq_false_iff]
  exact ⟨h.held, h.undeferred, h.active⟩

/-- Another's claim is counted as if the record were absent. -/
theorem Alone.count_claims {f : View → Option String} {name : String}
    (h : Alone views observation deferred record) (hrefs : DistinctRefs views)
    (hothers : OthersDefer views deferred postponed record) (hapart : f record ≠ some name) :
    ((claimants views deferred).filterMap f).count name =
      ((claimants (without views record) postponed).filterMap f).count name := by
  apply count_claims_filter
  intro other hother hactive hname
  rw [decide_eq_true_eq]
  have hne : other.missionRef ≠ record.missionRef := by
    intro hsame
    obtain rfl := List.inj_on_of_nodup_map hrefs hother h.held hsame
    exact hapart hname
  unfold Dict.contains
  rw [hothers other (mem_without.mpr ⟨hother, hne⟩)]
  simp [hne]

/-- What another claimant names, the record does not. -/
theorem Alone.apart (h : Alone views observation deferred record)
    (hview : view ∈ claimants views deferred) (hne : view.missionRef ≠ record.missionRef) :
    (∀ taskId, view.execution.taskId = some taskId → record.execution.taskId ≠ some taskId) ∧
      ∀ workspace, view.execution.workspaceRealpath = some workspace →
        record.execution.workspaceRealpath ≠ some workspace := by
  obtain ⟨taskId, workspace, hresolved⟩ := h.resolved
  constructor
  · intro name hname hsame
    obtain rfl := Option.some.inj (hresolved.task_eq.symm.trans hsame)
    apply hne
    rw [eq_of_count_filterMap_le_one hresolved.task_once hview h.mem_claimants hname hsame]
  · intro name hname hsame
    obtain rfl := Option.some.inj (hresolved.workspace_eq.symm.trans hsame)
    apply hne
    rw [eq_of_count_filterMap_le_one hresolved.workspace_once hview h.mem_claimants hname hsame]

theorem Alone.executionBinding (h : Alone views observation deferred record)
    (hrefs : DistinctRefs views) (hothers : OthersDefer views deferred postponed record)
    (hview : view ∈ claimants views deferred) (hne : view.missionRef ≠ record.missionRef) :
    executionBinding view (taskClaims views deferred) (workspaceClaims views deferred) =
      executionBinding view (taskClaims (without views record) postponed)
        (workspaceClaims (without views record) postponed) := by
  obtain ⟨htasks, hworkspaces⟩ := h.apart hview hne
  apply executionBinding_congr
  · intro taskId htask
    exact h.count_claims hrefs hothers (htasks taskId htask)
  · intro workspace hworkspace
    exact h.count_claims hrefs hothers (hworkspaces workspace hworkspace)

theorem Alone.decideBinding (h : Alone views observation deferred record)
    (hrefs : DistinctRefs views) (hothers : OthersDefer views deferred postponed record)
    (hview : view ∈ without views record) :
    decideBinding observation deferred (taskClaims views deferred)
        (workspaceClaims views deferred) view =
      decideBinding observation postponed (taskClaims (without views record) postponed)
        (workspaceClaims (without views record) postponed) view := by
  obtain ⟨hmem, hne⟩ := mem_without.mp hview
  apply decideBinding_congr ⟨rfl, rfl, .refl _, .refl _, rfl, rfl, rfl⟩ (hothers view hview)
  intro hactive hundeferred
  apply h.executionBinding hrefs hothers _ hne
  unfold claimants
  rw [List.mem_filter, decide_eq_true_eq, Dict.contains_eq_false_iff]
  exact ⟨hmem, hundeferred, hactive⟩

/-- The tasks the direct chains are bound to are those of the others. -/
theorem Alone.bound (h : Alone views observation deferred record) (hrefs : DistinctRefs views)
    (hothers : OthersDefer views deferred postponed record) :
    (decisions views observation deferred).filterMap (fun entry => entry.2.task) =
      (decisions (without views record) observation postponed).filterMap
        fun entry => entry.2.task := by
  unfold decisions
  rw [List.filterMap_map, List.filterMap_map]
  unfold without
  rw [sortedBy_filter hrefs, List.filterMap_filter]
  apply List.filterMap_congr
  intro view hview
  rw [mem_sortedBy] at hview
  simp only [Function.comp_apply, decide_eq_true_eq]
  split_ifs with hne
  · rw [h.decideBinding hrefs hothers (mem_without.mpr ⟨hview, hne⟩)]
    rfl
  · rw [ne_eq, not_not] at hne
    obtain rfl := List.inj_on_of_nodup_map hrefs hview h.held hne
    exact h.unbound

/-- Every other Mission, its binding and its members, is what it is without the
record. -/
theorem Alone.classifyWith (h : Alone views observation deferred record)
    (hrefs : DistinctRefs views) (hothers : OthersDefer views deferred postponed record) :
    (classifyWith views observation deferred).1.filter
        (fun mission => mission.view.missionRef ≠ record.missionRef) =
      (classifyWith (without views record) observation postponed).1 := by
  have hfilter := @classifyWith_filter _ deferred observation
      (fun view => decide (view.missionRef ≠ record.missionRef)) hrefs
  rw [hfilter, classifyWith_missions]
  apply List.map_congr_left
  intro view hview
  rw [mem_sortedBy] at hview
  unfold missionOf
  dsimp only
  rw [h.decideBinding hrefs hothers hview, h.bound hrefs hothers]

end DodgingInfinity.MissionSources
