import DodgingInfinity.Coordination.Validity
import Mathlib.Data.List.Dedup

/-!
# Where a route decision comes from

A Mission reached through a tier is read once.  A fresh read resolves it when
every binding on the way stands at the read, and clarifies otherwise; any other
read clarifies.  The point that a decision records is that read's.
-/

namespace DodgingInfinity.Coordination

open Checked

/-! ## What a clarification asks -/

theorem told_of_start {start rest : String} (h : start ≠ "") : start ++ rest ≠ "" := by
  rw [ne_eq, String.append_eq_empty_iff]
  exact fun hboth => h hboth.1

/-- What a clarification goes together with. -/
structure Clarification (reason : RouteReason) (detail : String)
    (candidates : List String) (boundRevision : Option Nat) : Prop where
  unsettled : reason ≠ .resolved
  proposes : reason ≠ .newProposalIntent
  told : detail ≠ ""
  few : candidates.length ≤ maxRouteCandidates
  distinct : candidates.Nodup
  missions : ∀ candidate ∈ candidates, isId .mission candidate = true
  bound : reason ∈ bindingReasons → boundRevision ≠ none
  named : boundRevision ≠ none → candidates ≠ []
  positive : ∀ revision, boundRevision = some revision → 1 ≤ revision

namespace Clarification

variable {reason : RouteReason} {detail missionId : String}

/-- No Mission is named. -/
theorem ofNone (hopen : reason ≠ .resolved) (hproposes : reason ≠ .newProposalIntent)
    (hfree : reason ∉ bindingReasons) (htold : detail ≠ "") :
    Clarification reason detail [] none where
  unsettled := hopen
  proposes := hproposes
  told := htold
  few := Nat.zero_le _
  distinct := List.nodup_nil
  missions := fun _ hnone => absurd hnone List.not_mem_nil
  bound := fun hbound => absurd hbound hfree
  named := fun hsome => absurd rfl hsome
  positive := fun _ hsome => by cases hsome

/-- One Mission is named, at the revision of a binding if there is one. -/
theorem ofOne {boundRevision : Option Nat} (hopen : reason ≠ .resolved)
    (hproposes : reason ≠ .newProposalIntent) (htold : detail ≠ "")
    (hid : isId .mission missionId = true) (hbound : reason ∈ bindingReasons → boundRevision ≠ none)
    (hpositive : ∀ revision, boundRevision = some revision → 1 ≤ revision) :
    Clarification reason detail [missionId] boundRevision where
  unsettled := hopen
  proposes := hproposes
  told := htold
  few := by simp [maxRouteCandidates]
  distinct := List.nodup_singleton missionId
  missions := fun _ hmem => by rwa [List.mem_singleton.mp hmem]
  bound := hbound
  named := fun _ => List.cons_ne_nil _ _
  positive := hpositive

end Clarification

/-! ## Bindings that stand at a read -/

/-- A binding stands at a read: it is bound at the read's revision, and the
repository that it names, if it names one, is the read's. -/
structure StandsAt (observed : MissionObservation) (bound : Binding) : Prop where
  revision : bound.boundRevision = observed.currentRevision
  repository : bound.kind = .repository ∨ bound.kind = .issue →
    ∃ url, repositoryOfSelector bound = .ok url ∧ observed.repositoryUrl = some url

variable {missionId : String} {observed : MissionObservation} {bound : Binding}

theorem repositoryDisagreement_eq_none {url : String} :
    repositoryDisagreement missionId observed bound url = none ↔
      observed.repositoryUrl = some url := by
  unfold repositoryDisagreement
  split
  · rename_i hother
    constructor
    · intro h
      cases h
    · intro hsame
      exact absurd hsame.symm hother
  · rename_i hsame
    rw [ne_eq, not_not] at hsame
    exact ⟨fun _ => hsame.symm, fun _ => rfl⟩

theorem staleDetail_eq_none :
    staleDetail missionId observed bound = .ok none ↔ StandsAt observed bound := by
  unfold staleDetail
  split
  · rename_i hother
    constructor
    · intro h
      cases h
    · intro h
      exact absurd h.revision hother
  rename_i hrevision
  rw [ne_eq, not_not] at hrevision
  split
  · rename_i hkind
    change (repositoryDisagreement missionId observed bound) <$> repositoryOfSelector bound = _ ↔ _
    simp only [map_eq_ok, repositoryDisagreement_eq_none]
    constructor
    · rintro ⟨url, hurl, hsame⟩
      exact ⟨hrevision, fun _ => ⟨url, hurl, hsame⟩⟩
    · intro h
      exact h.repository hkind
  · rename_i hkind
    exact ⟨fun _ => ⟨hrevision, fun hnamed => absurd hnamed hkind⟩, fun _ => rfl⟩

variable {bindings : List Binding}

theorem firstStale_eq_none : firstStale missionId observed bindings = .ok none ↔
      ∀ bound ∈ bindings, StandsAt observed bound := by
  induction bindings with
  | nil => simp [firstStale]
  | cons bound rest ih =>
      simp only [firstStale, bind_eq_ok, List.forall_mem_cons]
      constructor
      · rintro ⟨stale, hstale, hrest⟩
        cases stale with
        | none => exact ⟨staleDetail_eq_none.mp hstale, ih.mp hrest⟩
        | some detail => cases hrest
      · rintro ⟨hbound, hrest⟩
        exact ⟨none, staleDetail_eq_none.mpr hbound, ih.mpr hrest⟩

variable {detail : String}

theorem staleDetail_told
    (h : staleDetail missionId observed bound = .ok (some detail)) : detail ≠ "" := by
  unfold staleDetail at h
  split at h
  · obtain rfl := Option.some.inj (Except.ok.inj h)
    repeat apply told_of_start
    decide
  split at h
  · change (repositoryDisagreement missionId observed bound) <$> repositoryOfSelector bound = _ at h
    obtain ⟨url, -, hurl⟩ := (map_eq_ok ..).mp h
    unfold repositoryDisagreement at hurl
    split at hurl
    · obtain rfl := Option.some.inj hurl
      repeat apply told_of_start
      decide
    · cases hurl
  · cases h

theorem firstStale_mem (h : firstStale missionId observed bindings = .ok (some (bound, detail))) :
    bound ∈ bindings ∧ detail ≠ "" := by
  induction bindings with
  | nil => cases h
  | cons first rest ih =>
      simp only [firstStale, bind_eq_ok] at h
      obtain ⟨stale, hstale, hrest⟩ := h
      cases stale with
      | none => exact (ih hrest).imp_left (List.mem_cons_of_mem _)
      | some found =>
          simp only [pure_eq_ok, Option.some.injEq, Prod.mk.injEq] at hrest
          rw [← hrest.1, ← hrest.2]
          exact ⟨List.mem_cons_self .., staleDetail_told hstale⟩

/-! ## One read -/

section

variable [JsonDigest]

/-- What resolving a Mission by a read comes to. -/
inductive ResolvedAs (missionId : String) (tier : RouteTier)
    (bindings : List Binding) (result : FreshnessResult) : Identified → Prop
  | unread {reason : RouteReason} {detail : String}
      (hstale : result.freshness ≠ .fresh) (hasks : Clarification reason detail [missionId]
        (bindings.head?.map Binding.boundRevision)) : ResolvedAs missionId tier bindings result
        (clarify reason detail [missionId]
          (bindings.head?.map Binding.boundRevision))
  | stale {observed : MissionObservation} {bound : Binding} {detail : String}
      (hfresh : result.freshness = .fresh) (hobserved : result.observation = some observed)
      (hvalid : observed.validate "observation" = .ok ()) (hbound : bound ∈ bindings)
      (htold : detail ≠ "") : ResolvedAs missionId tier bindings result
        (clarifyStale missionId bound detail (pointOf observed))
  | resolved {observed : MissionObservation} (hfresh : result.freshness = .fresh)
      (hobserved : result.observation = some observed)
      (hvalid : observed.validate "observation" = .ok ())
      (hstands : ∀ bound ∈ bindings, StandsAt observed bound) :
      ResolvedAs missionId tier bindings result
        (resolvedBy missionId tier (pointOf observed)
          (bindings.head?.map Binding.boundRevision))

variable {missionId : String} {tier : RouteTier} {used : List Binding}
  {fields : Identified}

omit [JsonDigest] in
theorem headRevision_positive (hpositive : ∀ bound ∈ used, 1 ≤ bound.boundRevision) :
    ∀ revision, used.head?.map Binding.boundRevision = some revision →
      1 ≤ revision := by
  intro revision hrevision
  obtain ⟨bound, hbound, rfl⟩ := Option.map_eq_some_iff.mp hrevision
  exact hpositive bound (List.mem_of_mem_head? hbound)

variable {result : FreshnessResult}

/-- A read that is neither fresh nor absent clarifies. -/
theorem resolvedAs_unobserved {reason : RouteReason}
    (hid : isId .mission missionId = true) (hpositive : ∀ bound ∈ used, 1 ≤ bound.boundRevision)
    (hstale : result.freshness ≠ .fresh) (hunsettled : reason ≠ .resolved)
    (hproposes : reason ≠ .newProposalIntent) (hfree : reason ∉ bindingReasons) :
    ResolvedAs missionId tier used result
      (unobserved reason missionId used result) := by
  refine .unread hstale (.ofOne hunsettled hproposes ?_ hid
    (fun hbound => absurd hbound hfree) (headRevision_positive hpositive))
  repeat apply told_of_start
  decide

theorem resolvedAs_notObserved (hid : isId .mission missionId = true)
    (hpositive : ∀ bound ∈ used, 1 ≤ bound.boundRevision) (hstale : result.freshness ≠ .fresh) :
    ResolvedAs missionId tier used result (notObserved missionId used) := by
  cases used with
  | nil =>
      refine @ResolvedAs.unread _ _ _ [] _ _ _ hstale (.ofOne (by decide) (by decide) ?_ hid
        (by decide) (headRevision_positive hpositive))
      repeat apply told_of_start
      decide
  | cons bound rest =>
      refine @ResolvedAs.unread _ _ _ (bound :: rest) _ _ _ hstale (.ofOne (by decide)
        (by decide) ?_ hid (fun _ => Option.some_ne_none _) (headRevision_positive hpositive))
      repeat apply told_of_start
      decide

theorem resolveAs_cases (hid : isId .mission missionId = true)
    (hpositive : ∀ bound ∈ used, 1 ≤ bound.boundRevision)
    (h : resolveAs missionId tier used result = .ok fields) :
    ResolvedAs missionId tier used result fields := by
  unfold resolveAs at h
  split at h
  · rename_i hfreshness
    obtain rfl := Except.ok.inj h
    exact resolvedAs_notObserved hid hpositive (by rw [hfreshness]; decide)
  · rename_i hfreshness
    obtain rfl := Except.ok.inj h
    exact resolvedAs_unobserved hid hpositive (by rw [hfreshness]; decide) (by decide)
      (by decide) (by decide)
  · rename_i hfreshness
    obtain rfl := Except.ok.inj h
    exact resolvedAs_unobserved hid hpositive (by rw [hfreshness]; decide) (by decide)
      (by decide) (by decide)
  · rename_i hfreshness
    obtain rfl := Except.ok.inj h
    exact resolvedAs_unobserved hid hpositive (by rw [hfreshness]; decide) (by decide)
      (by decide) (by decide)
  · rename_i hfreshness
    simp only [resolveFresh, bind_eq_ok, orFailAt_eq_ok, observationPoint_eq_ok, pure_eq_ok] at h
    obtain ⟨observed, hobserved, stale, hstale, point, ⟨hvalid, rfl⟩, rfl⟩ := h
    cases stale with
    | none =>
        exact .resolved hfreshness hobserved hvalid (firstStale_eq_none.mp hstale)
    | some found =>
        obtain ⟨hbound, htold⟩ := firstStale_mem hstale
        exact .stale hfreshness hobserved hvalid hbound htold

theorem resolve_cases {observe : String → Checks FreshnessResult}
    (hid : isId .mission missionId = true) (hpositive : ∀ bound ∈ used, 1 ≤ bound.boundRevision)
    (h : resolve missionId tier used observe = .ok fields) :
    ∃ result, observe missionId = .ok result ∧
      ResolvedAs missionId tier used result fields := by
  simp only [resolve, bind_eq_ok] at h
  obtain ⟨result, hresult, hfields⟩ := h
  exact ⟨result, hresult, resolveAs_cases hid hpositive hfields⟩

end

/-! ## Every decision -/

section

variable [JsonDigest] {turn : InboundTurn} {bindings : Bindings} {now : Nat}

/-- The context through which a turn reaches a Mission, with the bindings that are
consulted for it. -/
inductive Reached (turn : InboundTurn) (bindings : Bindings) (now : Nat) :
    String → RouteTier → List Binding → Prop
  | explicit {missionId : String} (hnamed : turn.explicitMissionId = some missionId)
      (hothers : otherMissions (hitsOf turn bindings) missionId now = [])
      (hcurrent : ∀ bound ∈ matchingBindings turn bindings missionId now,
        bound.isExpired now = false) : Reached turn bindings now missionId .explicitMissionId
        (matchingBindings turn bindings missionId now)
  | named {tier : RouteTier} {bound : Binding} {rest : List (RouteTier × Binding)}
      (hnone : turn.explicitMissionId = none)
      (hfirst : hitsOf turn bindings = (tier, bound) :: rest)
      (hcurrent : bound.isExpired now = false) :
      Reached turn bindings now bound.missionId tier [bound]
  | conversation {missionId : String} (hnone : turn.explicitMissionId = none)
      (hnohits : hitsOf turn bindings = [])
      (honly : conversationMissions bindings turn now = [missionId]) :
      Reached turn bindings now missionId .uniqueConversationMatch
        ((conversationBindings bindings turn.transport turn.conversationRef
          now).filter (·.missionId = missionId))

/-- What deriving the fields of a decision comes to. -/
inductive Decided (turn : InboundTurn) (bindings : Bindings)
    (observe : String → Checks FreshnessResult) (now : Nat) : Identified → Prop
  | asked {reason : RouteReason} {detail : String} {candidates : List String}
      {boundRevision : Option Nat} (hasks : Clarification reason detail candidates boundRevision) :
      Decided turn bindings observe now
        (clarify reason detail candidates boundRevision)
  | proposed {digest : String} (hdigest : turn.proposalDigestSha256 = some digest) :
      Decided turn bindings observe now (proposal digest)
  | read {missionId : String} {tier : RouteTier} {used : List Binding}
      {result : FreshnessResult} {fields : Identified}
      (hreached : Reached turn bindings now missionId tier used)
      (hresult : observe missionId = .ok result)
      (hresolved : ResolvedAs missionId tier used result fields) :
      Decided turn bindings observe now fields

variable {tier : RouteTier} {bound : Binding}

omit [JsonDigest] in
theorem mem_hitsOf (h : (tier, bound) ∈ hitsOf turn bindings) :
    ∃ selector kind, (tier, kind, selector) ∈ namedTiers turn ∧
      bound ∈ findBindings bindings (lookupIdentity turn kind selector) := by
  simp only [hitsOf, List.mem_flatMap, List.mem_map, Prod.mk.injEq] at h
  obtain ⟨entry, hentry, held, hheld, rfl, rfl⟩ := h
  exact ⟨entry.2.2, entry.2.1, hentry, hheld⟩

omit [JsonDigest] in
theorem hitsOf_held (h : (tier, bound) ∈ hitsOf turn bindings) :
    (∃ key, bindings.get? key = some bound) ∧ bound.revoked = false := by
  obtain ⟨selector, kind, -, hfound⟩ := mem_hitsOf h
  obtain ⟨hheld, hlive, -⟩ := mem_findBindings.mp hfound
  exact ⟨hheld, hlive⟩

variable {transport conversationRef : String}

omit [JsonDigest] in
theorem mem_conversationBindings :
    bound ∈ conversationBindings bindings transport conversationRef now ↔
      (∃ key, bindings.get? key = some bound) ∧
        bound.inConversation transport conversationRef now = true := by
  simp only [conversationBindings, List.mem_filter, List.mem_map, Prod.exists,
    mem_byId, exists_eq_right]

omit [JsonDigest] in
theorem Binding.active_iff :
    bound.isActive now = true ↔ bound.revoked = false ∧ bound.isExpired now = false := by
  simp [Binding.isActive]

omit [JsonDigest] in
theorem conversation_active (h : bound.inConversation transport conversationRef now = true) :
    bound.isActive now = true := by
  simp only [Binding.inConversation, decide_eq_true_eq] at h
  exact h.2.2.2

variable {missionId : String}

omit [JsonDigest] in
theorem mem_matchingBindings (h : bound ∈ matchingBindings turn bindings missionId now) :
    (∃ key, bindings.get? key = some bound) ∧ bound.missionId = missionId ∧
      bound.revoked = false := by
  simp only [matchingBindings, List.mem_append, List.mem_filter, List.mem_map,
    Prod.exists, exists_eq_right, decide_eq_true_eq] at h
  rcases h with ⟨⟨tier, hhit⟩, hmission⟩ | ⟨hmember, hmission, -⟩
  · obtain ⟨hheld, hlive⟩ := hitsOf_held hhit
    exact ⟨hheld, hmission, hlive⟩
  · obtain ⟨hheld, hin⟩ := mem_conversationBindings.mp hmember
    exact ⟨hheld, hmission, (Binding.active_iff.mp (conversation_active hin)).1⟩

omit [JsonDigest] in
theorem length_namedTiers (turn : InboundTurn) : (namedTiers turn).length ≤ 7 :=
  List.length_filterMap_le _ _

omit [JsonDigest] in
/-- Each tier that a turn names finds one binding at most. -/
theorem length_hitsOf (h : BindingsValid bindings) (turn : InboundTurn) :
    (hitsOf turn bindings).length ≤ 7 := by
  have hall : ∀ tiers : List (RouteTier × BindingKind × String),
      (tiers.flatMap fun entry => (findBindings bindings
        (lookupIdentity turn entry.2.1 entry.2.2)).map fun bound =>
          (entry.1, bound)).length ≤ tiers.length := by
    intro tiers
    induction tiers with
    | nil => exact Nat.le_refl 0
    | cons entry rest ih =>
        have hone := h.length_find (lookupIdentity turn entry.2.1 entry.2.2)
        rw [List.flatMap_cons, List.length_append, List.length_map, List.length_cons]
        omega
  exact (hall _).trans (length_namedTiers turn)

variable {explicit : String}

omit [JsonDigest] in
theorem otherMissions_asked (h : BindingsValid bindings) {detail : String}
    (hid : isId .mission explicit = true) (htold : detail ≠ "") :
    Clarification .contextDisagrees detail
      (explicit :: otherMissions (hitsOf turn bindings) explicit now) none := by
  have hmem : ∀ missionId, missionId ∈ otherMissions (hitsOf turn bindings) explicit now →
      missionId ≠ explicit ∧ isId .mission missionId = true := by
    intro missionId hmission
    simp only [otherMissions, mem_sortedBy, List.mem_dedup, List.mem_map,
      List.mem_filter, decide_eq_true_eq] at hmission
    obtain ⟨hit, ⟨hhit, -, hother⟩, rfl⟩ := hmission
    obtain ⟨⟨key, hheld⟩, -⟩ := hitsOf_held hhit
    exact ⟨hother, (h.each key _ hheld).1.facts.2.1⟩
  have hlength : (otherMissions (hitsOf turn bindings) explicit now).length ≤ 7 := by
    rw [otherMissions, length_sortedBy]
    refine (List.dedup_sublist _).length_le.trans ?_
    rw [List.length_map]
    exact (List.length_filter_le _ _).trans (length_hitsOf h turn)
  refine ⟨by decide, by decide, htold, ?_, ?_, ?_, by decide, fun _ =>
    List.cons_ne_nil _ _, fun _ hsome => by cases hsome⟩
  · rw [List.length_cons, maxRouteCandidates]
    omega
  · refine List.nodup_cons.mpr ⟨fun hself => (hmem explicit hself).1 rfl, ?_⟩
    rw [otherMissions, nodup_sortedBy]
    exact List.nodup_dedup _
  · intro candidate hcandidate
    rcases List.mem_cons.mp hcandidate with rfl | hcandidate
    · exact hid
    · exact (hmem candidate hcandidate).2

omit [JsonDigest] in
theorem mem_conversationMissions (h : missionId ∈ conversationMissions bindings turn now) :
    ∃ key bound, bindings.get? key = some bound ∧ bound.missionId = missionId := by
  simp only [conversationMissions, mem_sortedBy, List.mem_dedup, List.mem_map,
    mem_conversationBindings] at h
  obtain ⟨bound, ⟨⟨key, hheld⟩, -⟩, rfl⟩ := h
  exact ⟨key, bound, hheld, rfl⟩

theorem ambiguous_asked (h : BindingsValid bindings) {observe}
    {members : List String} (hmembers : conversationMissions bindings turn now = members) :
    Decided turn bindings observe now (ambiguous members) := by
  unfold ambiguous
  split
  · refine .asked (.ofNone (by decide) (by decide) (by decide) ?_)
    repeat apply told_of_start
    decide
  · rename_i hfew
    refine .asked ⟨by decide, by decide, ?_, Nat.not_lt.mp hfew, ?_, ?_, by decide,
      fun hsome => absurd rfl hsome, fun _ hsome => by cases hsome⟩
    · repeat apply told_of_start
      decide
    · rw [← hmembers, conversationMissions, nodup_sortedBy]
      exact List.nodup_dedup _
    · intro candidate hcandidate
      rw [← hmembers] at hcandidate
      obtain ⟨key, bound, hheld, rfl⟩ := mem_conversationMissions hcandidate
      exact (h.each key bound hheld).1.facts.2.1

variable {observe : String → Checks FreshnessResult} {fields : Identified}

theorem contextFree_decided : Decided turn bindings observe now (contextFree turn) := by
  unfold contextFree
  split
  · rename_i digest hdigest hintent
    exact .proposed hdigest
  · refine .asked (.ofNone (by decide) (by decide) (by decide) ?_)
    repeat apply told_of_start
    decide

theorem newMission_decided :
    Decided turn bindings observe now (newMissionOutcome turn) := by
  unfold newMissionOutcome
  split
  · rename_i digest hdigest
    exact .proposed hdigest
  · exact .asked (.ofNone (by decide) (by decide) (by decide) (by decide))

theorem explicit_decided (h : BindingsValid bindings)
    (hnamed : turn.explicitMissionId = some explicit) (hid : isId .mission explicit = true)
    (hfields : explicitOutcome turn bindings explicit observe now = .ok fields) :
    Decided turn bindings observe now fields := by
  have hheld : ∀ bound ∈ matchingBindings turn bindings explicit now,
      1 ≤ bound.boundRevision := by
    intro bound hbound
    obtain ⟨⟨key, hget⟩, -⟩ := mem_matchingBindings hbound
    exact (h.each key bound hget).1.facts.2.2.1
  unfold explicitOutcome at hfields
  simp only at hfields
  split at hfields
  · obtain rfl := Except.ok.inj hfields
    refine .asked (.ofOne (by decide) (by decide) ?_ hid (by decide) fun _ hsome => by
      cases hsome)
    repeat apply told_of_start
    decide
  split at hfields
  · obtain rfl := Except.ok.inj hfields
    refine .asked (otherMissions_asked h hid ?_)
    repeat apply told_of_start
    decide
  rename_i hothers
  rw [ne_eq, not_not] at hothers
  split at hfields
  · rename_i bound hexpired
    obtain rfl := Except.ok.inj hfields
    refine .asked (.ofOne (by decide) (by decide) ?_ hid
      (fun _ => Option.some_ne_none _) fun revision hrevision => ?_)
    · repeat apply told_of_start
      decide
    · rw [← Option.some.inj hrevision]
      exact hheld bound (List.mem_of_find?_eq_some hexpired)
  · rename_i hcurrent
    obtain ⟨result, hresult, hresolved⟩ := resolve_cases hid hheld hfields
    refine .read (.explicit hnamed hothers fun bound hbound => ?_) hresult hresolved
    exact Bool.not_eq_true _ ▸ List.find?_eq_none.mp hcurrent bound hbound

theorem named_decided (h : BindingsValid bindings) {rest : List (RouteTier × Binding)}
    (hnone : turn.explicitMissionId = none)
    (hfirst : hitsOf turn bindings = (tier, bound) :: rest)
    (hfields : namedOutcome tier bound observe now = .ok fields) :
    Decided turn bindings observe now fields := by
  have hhit : (tier, bound) ∈ hitsOf turn bindings := by
    rw [hfirst]
    exact List.mem_cons_self ..
  obtain ⟨⟨key, hheld⟩, -⟩ := hitsOf_held hhit
  obtain ⟨-, hid, hpositive, -⟩ := (h.each key bound hheld).1.facts
  unfold namedOutcome at hfields
  split at hfields
  · obtain rfl := Except.ok.inj hfields
    refine .asked (.ofOne (by decide) (by decide) ?_ hid
      (fun _ => Option.some_ne_none _) fun revision hrevision => ?_)
    · repeat apply told_of_start
      decide
    · rwa [← Option.some.inj hrevision]
  · rename_i hcurrent
    rw [Bool.not_eq_true] at hcurrent
    obtain ⟨result, hresult, hresolved⟩ := resolve_cases hid
      (fun held hmem => by rwa [List.mem_singleton.mp hmem]) hfields
    exact .read (.named hnone hfirst hcurrent) hresult hresolved

theorem conversation_decided (h : BindingsValid bindings)
    (hnone : turn.explicitMissionId = none) (hnohits : hitsOf turn bindings = [])
    (hfields : conversationOutcome turn bindings observe now = .ok fields) :
    Decided turn bindings observe now fields := by
  unfold conversationOutcome at hfields
  split at hfields
  · obtain rfl := Except.ok.inj hfields
    exact contextFree_decided
  · rename_i missionId honly
    have hmember : missionId ∈ conversationMissions bindings turn now := by
      rw [honly]
      exact List.mem_singleton_self _
    obtain ⟨key, bound, hheld, hmission⟩ := mem_conversationMissions hmember
    have hid : isId .mission missionId = true :=
      hmission ▸ (h.each key bound hheld).1.facts.2.1
    obtain ⟨result, hresult, hresolved⟩ := resolve_cases hid (fun held hmem => by
      obtain ⟨⟨other, hother⟩, -⟩ := mem_conversationBindings.mp (List.mem_filter.mp hmem).1
      exact (h.each other held hother).1.facts.2.2.1) hfields
    exact .read (.conversation hnone hnohits honly) hresult hresolved
  · rename_i members hseveral hfew
    obtain rfl := Except.ok.inj hfields
    exact ambiguous_asked h rfl

/-- Every decision asks, proposes, or is what one read of one Mission comes to. -/
theorem identity_decided (h : BindingsValid bindings) (hturn : turn.validate "inbound" = .ok ())
    (hfields : identityOutcome turn bindings observe now = .ok fields) :
    Decided turn bindings observe now fields := by
  unfold identityOutcome at hfields
  split at hfields
  · rename_i explicit hnamed
    simp only [InboundTurn.validate, bind_eq_ok, exists_passed, checkOptional_eq_ok,
      requireId_eq_ok] at hturn
    obtain ⟨-, -, -, hexplicit, -⟩ := hturn
    exact explicit_decided h hnamed (hexplicit explicit hnamed) hfields
  rename_i hnone
  split at hfields
  · obtain rfl := Except.ok.inj hfields
    exact newMission_decided
  split at hfields
  · rename_i tier bound rest hfirst
    exact named_decided h hnone hfirst hfields
  · rename_i hnohits
    exact conversation_decided h hnone hnohits hfields

end

end DodgingInfinity.Coordination
