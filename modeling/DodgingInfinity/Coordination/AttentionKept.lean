import DodgingInfinity.Coordination.AttentionMoves

/-!
# Projection, surfacing and acknowledgment

Each operation is a sequence of moves.  A projection leaves one live record for
every observed condition and none for any other, so that projecting the same
observation again finds nothing to do.
-/

namespace DodgingInfinity.Coordination

open Checked Relation

/-! ## Minting -/

variable {kind : IdPrefix} {rest : Minted} {candidate : String}

theorem freshIdWithin_eq_ok {α : Type} {taken : Dict String α}
    {attempts : Nat} {minted : Minted}
    (h : freshIdWithin kind taken attempts minted = .ok (candidate, rest)) :
    isId kind candidate = true ∧ taken.get? candidate = none := by
  induction attempts generalizing minted with
  | zero => cases h
  | succ attempts ih =>
      cases minted with
      | nil => cases h
      | cons first more =>
          simp only [freshIdWithin, bind_eq_ok, exists_passed, requireId_eq_ok] at h
          obtain ⟨hid, h⟩ := h
          split at h
          · exact ih h
          · rename_i hunused
            simp only [pure_eq_ok, Prod.mk.injEq] at h
            obtain ⟨rfl, -⟩ := h
            rw [Bool.not_eq_true, Dict.contains_eq_false_iff] at hunused
            exact ⟨hid, hunused⟩

theorem freshId_eq_ok {α : Type} {taken : Dict String α}
    {minted : Minted}
    (h : freshId kind taken minted = .ok (candidate, rest)) :
    isId kind candidate = true ∧ taken.get? candidate = none :=
  freshIdWithin_eq_ok h

section

variable [JsonDigest] {observed : MissionObservation}

/-- The point of an observation, for its own Mission. -/
def readOf (observed : MissionObservation) : FreshPoints := fun missionId point =>
  missionId = observed.missionId ∧ observed.validate "observation" = .ok () ∧
    point = pointOf observed

theorem newAttention_agrees (attentionId : String) (condition : ObservedCondition)
    (destination : Destination) (now : Nat) (point : ObservationPoint) :
    disagreement (newAttention attentionId observed condition destination now point)
      observed condition = none := by
  simp [disagreement, newAttention]

variable {attentionId : String} {value : Attention}

theorem newRecord_presents {condition : ObservedCondition}
    {destination : Destination} {now : Nat}
    {records : AttentionRecords} (hunused : records.get? attentionId = none)
    (h : newRecord attentionId observed condition destination now = .ok value) :
    Presents (readOf observed) records value ∧
      value = newAttention attentionId observed condition destination now
        (pointOf observed) := by
  simp only [newRecord, bind_eq_ok, exists_passed, observationPoint_eq_ok,
    validateAttention_eq_ok, pure_eq_ok] at h
  obtain ⟨point, ⟨hobserved, rfl⟩, hvalid, rfl⟩ := h
  refine ⟨⟨hvalid, hunused, rfl, fun point hpoint => ?_⟩, rfl⟩
  obtain rfl : point = pointOf observed := by
    simpa [Attention.points, newAttention, noSurfacing, noAcknowledgment, noClosure] using hpoint
  exact ⟨rfl, hobserved, rfl⟩

variable {reason : ClosedReason}

/-- A live record that a fresh read of its Mission closes goes on as an ended
one. -/
theorem close_continues {closed : Attention}
    {now : Nat} {successor : Option String} (hvalid : AttentionValid value)
    (hlive : value.isTerminal = false) (hmission : value.missionId = observed.missionId)
    (h : close value reason now successor observed = .ok closed) :
    AttentionValid closed ∧ closed.isTerminal = true ∧
      Continues (readOf observed) value closed ∧ closed.supersededBy = successor ∧
      value.createdAt ≤ now := by
  simp only [close, bind_eq_ok, exists_passed, observationPoint_eq_ok,
    validateAttention_eq_ok, pure_eq_ok] at h
  obtain ⟨point, ⟨hobserved, rfl⟩, hclosed, rfl⟩ := h
  have hended : (value.closed reason now successor (pointOf observed)).isTerminal =
      true := by
    unfold Attention.isTerminal Attention.closed
    split <;> rfl
  have hnone := hvalid.facts.closurePoint hlive
  refine ⟨hclosed, hended, ⟨rfl, rfl, rfl, ?_, ?_⟩, rfl, ?_⟩
  · intro point hpoint
    simp only [Attention.points, hnone, Option.toList_none, List.append_nil] at hpoint
    exact List.mem_append_left _ hpoint
  · intro point hpoint
    rcases List.mem_append.mp hpoint with hold | hnew
    · exact .inl (List.mem_append_left _ hold)
    · exact .inr ⟨hmission, hobserved, (Option.some.inj (Option.mem_toList.mp hnew)).symm⟩
  · exact hclosed.facts.closed (hclosed.facts.terminal.trans hended) now rfl

/-! ## Reconciliation -/

/-- The live records that a reconciliation is given. -/
structure LiveOf (records : AttentionRecords) (observed : MissionObservation)
    (destination : Destination) (live : List Attention) : Prop where
  held : ∀ value ∈ live, records.get? value.attentionId = some value
  lasting : ∀ value ∈ live, value.isTerminal = false
  mission : ∀ value ∈ live, value.missionId = observed.missionId
  destination : ∀ value ∈ live, value.destination = destination

variable {other : Attention}

omit [JsonDigest] in
/-- Two records that a reconciliation is given with one id are one. -/
theorem LiveOf.eq_of_id {records : AttentionRecords} {destination : Destination}
    {live : List Attention} (h : LiveOf records observed destination live) (hvalue : value ∈ live)
    (hother : other ∈ live)
    (hid : value.attentionId = other.attentionId) : value = other := by
  have hheld := h.held value hvalue
  rw [hid, h.held other hother] at hheld
  exact (Option.some.inj hheld).symm

/-- How far a reconciliation has come: the conditions that were treated, and the
live records that were looked through for one that is gone. -/
structure Reconciled (records : AttentionRecords) (observed : MissionObservation)
    (destination : Destination) (live : List Attention)
    (treated : List ObservedCondition) (cleared : List Attention)
    (state : Reconciling) : Prop where
  moves : ReflTransGen (AttentionMove (readOf observed)) records state.records
  seen : state.seen = treated.map ObservedCondition.identity
  untouched : ∀ value ∈ live, value ∉ cleared → value.condition ∉ state.seen →
    state.records.get? value.attentionId = some value
  matched : ∀ condition ∈ treated, ∃ key value,
    state.records.get? key = some value ∧ value.isTerminal = false ∧
      value.identity = (observed.missionId, condition.identity, destination) ∧
      disagreement value observed condition = none
  others : ∀ key value, state.records.get? key = some value →
    value.isTerminal = false → value.missionId = observed.missionId →
    value.destination = destination →
    value.condition ∈ state.seen ∨ (records.get? key = some value ∧ value ∉ cleared)

omit [JsonDigest] in
theorem AttentionKept.movedAll {records next : AttentionRecords} {fresh : FreshPoints}
    (h : AttentionKept records) (hmoves : ReflTransGen (AttentionMove fresh) records next) :
    AttentionKept next := by
  induction hmoves with
  | refl => exact h
  | tail _ hmove ih => exact ih.moved hmove

variable {records : AttentionRecords} {destination : Destination}
  {live : List Attention} {treated : List ObservedCondition} {now : Nat}
  {condition : ObservedCondition}

omit [JsonDigest] in
/-- A live record is not treated twice: another condition's is another record. -/
theorem LiveOf.ne_of_condition (h : LiveOf records observed destination live)
    (hvalue : value ∈ live) (hother : other ∈ live)
    (hcondition : value.condition ≠ other.condition) :
    value.attentionId ≠ other.attentionId := by
  intro hid
  exact hcondition (congrArg _ (h.eq_of_id hvalue hother hid))

variable {next : Reconciling}

variable {state : Reconciling} {freshId : String}

/-- What a new presentation leaves. -/
theorem present_eq_ok (h : state.present observed condition destination now = .ok (freshId, next)) :
    ∃ value minted, Presents (readOf observed) state.records value ∧
      value = newAttention freshId observed condition destination now (pointOf observed) ∧
      next = { state with
        records := state.records.set freshId value
        minted := minted
        created := state.created ++ [freshId] } := by
  simp only [Reconciling.present, bind_eq_ok, Prod.exists, pure_eq_ok, Prod.mk.injEq] at h
  obtain ⟨id, minted, hid, value, hvalue, rfl, rfl⟩ := h
  obtain ⟨hpresents, heq⟩ := newRecord_presents (freshId_eq_ok hid).2 hvalue
  exact ⟨value, minted, hpresents, heq, rfl⟩

/-- The step of a condition that no live record carries. -/
theorem Reconciled.presented
    (hfull : ∀ key value, records.get? key = some value → value.isTerminal = false →
      value.identity = (observed.missionId, condition.identity, destination) → value ∈ live)
    (h : Reconciled records observed destination live treated [] state)
    (hnew : condition.identity ∉ treated.map ObservedCondition.identity)
    (hnone : ∀ value ∈ live, value.condition ≠ condition.identity)
    (hstep : { state with seen := state.seen ++ [condition.identity] }.present
      observed condition destination now = .ok (freshId, next)) :
    Reconciled records observed destination live (treated ++ [condition]) [] next := by
  obtain ⟨value, minted, hpresents, heq, rfl⟩ := present_eq_ok hstep
  have hid : value.attentionId = freshId := by rw [heq]; rfl
  have hidentity : value.identity =
      (observed.missionId, condition.identity, destination) := by rw [heq]; rfl
  subst hid
  have hnobody : ∀ key held, state.records.get? key = some held →
      held.isTerminal = false → held.identity ≠ value.identity := by
    intro key held hheld hlive hsame
    rw [hidentity] at hsame
    obtain ⟨hmission, hcondition, hdestination⟩ :
        held.missionId = observed.missionId ∧ held.condition = condition.identity ∧
          held.destination = destination := by
      simpa [Attention.identity] using hsame
    rcases h.others key held hheld hlive hmission hdestination with hseen | ⟨hold, -⟩
    · rw [h.seen, hcondition] at hseen
      exact hnew hseen
    · exact hnone held (hfull key held hold hlive hsame) hcondition
  have hstays : ∀ key held, state.records.get? key = some held →
      (state.records.set value.attentionId value).get? key = some held := by
    intro key held hheld
    rw [Dict.get?_set_of_ne _ _ (hpresents.ne_held hheld), hheld]
  refine {
    moves := h.moves.tail (.presented value hpresents hnobody)
    seen := ?_
    untouched := ?_
    matched := ?_
    others := ?_ }
  · rw [List.map_append, ← h.seen]
    rfl
  · intro held hheld hcleared hseen
    exact hstays _ _ (h.untouched held hheld hcleared fun hmem =>
      hseen (List.mem_append_left _ hmem))
  · intro other hother
    rcases List.mem_append.mp hother with hother | hother
    · obtain ⟨key, held, hheld, hlive, hsame, hagrees⟩ := h.matched other hother
      exact ⟨key, held, hstays key held hheld, hlive, hsame, hagrees⟩
    · obtain rfl := List.mem_singleton.mp hother
      refine ⟨_, value, Dict.get?_set_self .., hpresents.live, hidentity, ?_⟩
      rw [heq]
      exact newAttention_agrees ..
  · intro key held hheld hlive hmission hdestination
    rcases get?_set_cases hheld with ⟨-, rfl⟩ | ⟨-, hold⟩
    · left
      have hcondition : held.condition = condition.identity := by rw [heq]; rfl
      rw [hcondition]
      exact List.mem_append_right _ (List.mem_singleton.mpr rfl)
    · rcases h.others key held hold hlive hmission hdestination with hseen | hothers
      · exact .inl (List.mem_append_left _ hseen)
      · exact .inr hothers

variable {current : Attention}

/-- The step of a condition that a live record carries as it is observed. -/
theorem Reconciled.suppressed (hlive : LiveOf records observed destination live)
    (h : Reconciled records observed destination live treated [] state)
    (hnew : condition.identity ∉ treated.map ObservedCondition.identity)
    (hcurrent : current ∈ live) (hcondition : current.condition = condition.identity)
    (hagrees : disagreement current observed condition = none) :
    Reconciled records observed destination live (treated ++ [condition]) []
      { state with
        seen := state.seen ++ [condition.identity]
        suppressed := state.suppressed ++ [current.attentionId] } := by
  have hseen : current.condition ∉ state.seen := by
    rw [h.seen, hcondition]
    exact hnew
  refine {
    moves := h.moves
    seen := ?_
    untouched := ?_
    matched := ?_
    others := ?_ }
  · rw [List.map_append, ← h.seen]
    rfl
  · intro held hheld hcleared hunseen
    exact h.untouched held hheld hcleared fun hmem =>
      hunseen (List.mem_append_left _ hmem)
  · intro other hother
    rcases List.mem_append.mp hother with hother | hother
    · exact h.matched other hother
    · obtain rfl := List.mem_singleton.mp hother
      refine ⟨_, current, h.untouched current hcurrent List.not_mem_nil hseen,
        hlive.lasting current hcurrent, ?_, hagrees⟩
      rw [Attention.identity, hlive.mission current hcurrent, hcondition,
        hlive.destination current hcurrent]
  · intro key held hheld hstill hmission hdestination
    rcases h.others key held hheld hstill hmission hdestination with hmem | hothers
    · exact .inl (List.mem_append_left _ hmem)
    · exact .inr hothers

/-- The step of a condition that a live record carries otherwise. -/
theorem Reconciled.superseded (hkept : AttentionKept records)
    (hlive : LiveOf records observed destination live)
    (h : Reconciled records observed destination live treated [] state)
    (hnew : condition.identity ∉ treated.map ObservedCondition.identity)
    (hcurrent : current ∈ live) (hcondition : current.condition = condition.identity)
    (hstep : { state with seen := state.seen ++ [condition.identity] }.supersede
      observed condition destination now current reason = .ok next) :
    Reconciled records observed destination live (treated ++ [condition]) [] next := by
  simp only [Reconciling.supersede, bind_eq_ok, Prod.exists, pure_eq_ok] at hstep
  obtain ⟨freshId, middle, hpresent, closed, hclose, rfl⟩ := hstep
  obtain ⟨value, minted, hpresents, heq, rfl⟩ := present_eq_ok hpresent
  have hid : value.attentionId = freshId := by rw [heq]; rfl
  have hidentity : value.identity =
      (observed.missionId, condition.identity, destination) := by rw [heq]; rfl
  subst hid
  have hseen : current.condition ∉ state.seen := by
    rw [h.seen, hcondition]
    exact hnew
  have hheldCurrent := h.untouched current hcurrent List.not_mem_nil hseen
  have hmission := hlive.mission current hcurrent
  have hcurrentLive := hlive.lasting current hcurrent
  have hcurrentIdentity : current.identity =
      (observed.missionId, condition.identity, destination) := by
    rw [Attention.identity, hmission, hcondition, hlive.destination current hcurrent]
  have hvalid := ((hkept.movedAll h.moves).each _ _ hheldCurrent).1
  obtain ⟨hclosed, hended, hcontinues, hsuccessor, hcreated⟩ :=
    close_continues hvalid hcurrentLive hmission hclose
  have hlater : current.createdAt ≤ value.createdAt := by
    rw [heq]
    exact hcreated
  have hstays : ∀ key held, state.records.get? key = some held →
      key ≠ current.attentionId → ((state.records.set value.attentionId value).set
        current.attentionId closed).get? key = some held := by
    intro key held hheld hother
    rw [Dict.get?_set_of_ne _ _ hother, Dict.get?_set_of_ne _ _ (hpresents.ne_held hheld), hheld]
  refine {
    moves := h.moves.tail (.superseded current closed value hpresents hheldCurrent
      hcurrentLive hclosed hended hcontinues hsuccessor
      (hidentity.trans hcurrentIdentity.symm) hlater)
    seen := ?_
    untouched := ?_
    matched := ?_
    others := ?_ }
  · rw [List.map_append, ← h.seen]
    rfl
  · intro held hheld hcleared hunseen
    refine hstays _ _ (h.untouched held hheld hcleared fun hmem =>
      hunseen (List.mem_append_left _ hmem)) (hlive.ne_of_condition hheld hcurrent ?_)
    intro hsame
    refine hunseen (List.mem_append_right _ (List.mem_singleton.mpr ?_))
    exact hsame.trans hcondition
  · intro other hother
    rcases List.mem_append.mp hother with hother | hother
    · obtain ⟨key, held, hheld, hstill, hsame, hagrees⟩ := h.matched other hother
      refine ⟨key, held, hstays key held hheld ?_, hstill, hsame, hagrees⟩
      rintro rfl
      obtain rfl := Option.some.inj (hheldCurrent.symm.trans hheld)
      rw [hcurrentIdentity] at hsame
      have htreated : other.identity = condition.identity := by
        simpa using hsame.symm
      exact hnew (List.mem_map.mpr ⟨other, hother, htreated⟩)
    · obtain rfl := List.mem_singleton.mp hother
      refine ⟨value.attentionId, value, ?_, hpresents.live, hidentity, ?_⟩
      · rw [Dict.get?_set_of_ne _ _ (hpresents.ne_held hheldCurrent).symm, Dict.get?_set_self]
      · rw [heq]
        exact newAttention_agrees ..
  · intro key held hheld hstill hmissionHeld hdestination
    rcases superseded_cases hheld with ⟨-, rfl⟩ | ⟨-, rfl⟩ | ⟨-, -, hold⟩
    · rw [hended] at hstill
      cases hstill
    · left
      have hheldCondition : held.condition = condition.identity := by rw [heq]; rfl
      rw [hheldCondition]
      exact List.mem_append_right _ (List.mem_singleton.mpr rfl)
    · rcases h.others key held hold hstill hmissionHeld hdestination with
        hmem | hothers
      · exact .inl (List.mem_append_left _ hmem)
      · exact .inr hothers

theorem Reconciled.afterCondition (hkept : AttentionKept records)
    (hlive : LiveOf records observed destination live)
    (hfull : ∀ key value, records.get? key = some value → value.isTerminal = false →
      value.identity = (observed.missionId, condition.identity, destination) → value ∈ live)
    (h : Reconciled records observed destination live treated [] state)
    (hnew : condition.identity ∉ treated.map ObservedCondition.identity)
    (hstep : reconcileCondition observed destination live now state condition =
      .ok next) :
    Reconciled records observed destination live (treated ++ [condition]) [] next := by
  unfold reconcileCondition at hstep
  split at hstep
  · rename_i hnone
    obtain ⟨⟨freshId, after⟩, hpresent, rfl⟩ := (map_eq_ok ..).mp hstep
    refine h.presented hfull hnew (fun value hvalue hsame => ?_) hpresent
    simpa [hsame] using List.find?_eq_none.mp hnone value hvalue
  · rename_i current hfound
    have hcurrent := List.mem_of_find?_eq_some hfound
    have hcondition : current.condition = condition.identity := by
      simpa using List.find?_some hfound
    split at hstep
    · rename_i hagrees
      cases hstep
      exact h.suppressed hlive hnew hcurrent hcondition hagrees
    · exact h.superseded hkept hlive hnew hcurrent hcondition hstep

variable {conditions : List ObservedCondition}

theorem Reconciled.afterConditions (hkept : AttentionKept records)
    (hlive : LiveOf records observed destination live)
    (hfull : ∀ condition ∈ conditions, ∀ key value, records.get? key = some value →
      value.isTerminal = false →
      value.identity = (observed.missionId, condition.identity, destination) → value ∈ live)
    (h : Reconciled records observed destination live treated [] state)
    (hdistinct : ((treated ++ conditions).map ObservedCondition.identity).Nodup)
    (hrun : foldChecked (reconcileCondition observed destination live now) state
      conditions = .ok next) :
    Reconciled records observed destination live (treated ++ conditions) [] next := by
  induction conditions generalizing treated state with
  | nil =>
      rw [foldChecked_nil, Except.ok.injEq] at hrun
      rw [List.append_nil, ← hrun]
      exact h
  | cons condition rest ih =>
      rw [foldChecked_cons_eq_ok] at hrun
      obtain ⟨middle, hfirst, hrest⟩ := hrun
      have hnew : condition.identity ∉ treated.map ObservedCondition.identity := by
        rw [List.map_append, List.nodup_append] at hdistinct
        intro hmem
        exact hdistinct.2.2 _ hmem _ (List.mem_cons_self ..) rfl
      have hstep := h.afterCondition hkept hlive
        (hfull condition (List.mem_cons_self ..)) hnew hfirst
      rw [List.append_cons] at hdistinct ⊢
      exact ih (fun other hother => hfull other (List.mem_cons_of_mem _ hother)) hstep
        hdistinct hrest

/-- The step of one live record, when all conditions are treated. -/
theorem Reconciled.cleared {cleared : List Attention} (hkept : AttentionKept records)
    (hlive : LiveOf records observed destination live)
    (h : Reconciled records observed destination live treated cleared state)
    (hcurrent : current ∈ live) (hnew : current ∉ cleared)
    (hstep : resolveCleared observed now state current = .ok next) :
    Reconciled records observed destination live treated (cleared ++ [current])
      next := by
  unfold resolveCleared at hstep
  split at hstep
  · rename_i hseen
    cases hstep
    refine { h with
      untouched := ?_
      others := ?_ }
    · intro held hheld hcleared hunseen
      exact h.untouched held hheld (fun hmem => hcleared (List.mem_append_left _ hmem)) hunseen
    · intro key held hheld hstill hmission hdestination
      rcases h.others key held hheld hstill hmission hdestination with
        hmem | ⟨hold, hcleared⟩
      · exact .inl hmem
      · by_cases hsame : held = current
        · exact .inl (hsame ▸ hseen)
        · refine .inr ⟨hold, fun hmem => ?_⟩
          rcases List.mem_append.mp hmem with hmem | hmem
          · exact hcleared hmem
          · exact hsame (List.mem_singleton.mp hmem)
  · rename_i hseen
    simp only [bind_eq_ok, pure_eq_ok] at hstep
    obtain ⟨closed, hclose, rfl⟩ := hstep
    have hheldCurrent := h.untouched current hcurrent hnew hseen
    have hcurrentLive := hlive.lasting current hcurrent
    have hvalid := ((hkept.movedAll h.moves).each _ _ hheldCurrent).1
    obtain ⟨hclosed, hended, hcontinues, hlast, -⟩ :=
      close_continues hvalid hcurrentLive (hlive.mission current hcurrent) hclose
    have hstays : ∀ key held, state.records.get? key = some held → key ≠ current.attentionId →
        (state.records.set current.attentionId closed).get? key = some held := by
      intro key held hheld hother
      rw [Dict.get?_set_of_ne _ _ hother, hheld]
    refine {
      moves := h.moves.tail (.updated current closed hheldCurrent hcurrentLive hclosed
        hcontinues hlast)
      seen := h.seen
      untouched := ?_
      matched := ?_
      others := ?_ }
    · intro held hheld hcleared hunseen
      refine hstays _ _ (h.untouched held hheld
        (fun hmem => hcleared (List.mem_append_left _ hmem)) hunseen) ?_
      intro hid
      refine hcleared (List.mem_append_right _ (List.mem_singleton.mpr ?_))
      exact hlive.eq_of_id hheld hcurrent hid
    · intro other hother
      obtain ⟨key, held, hheld, hstill, hsame, hagrees⟩ := h.matched other hother
      refine ⟨key, held, hstays key held hheld ?_, hstill, hsame, hagrees⟩
      rintro rfl
      obtain rfl := Option.some.inj (hheldCurrent.symm.trans hheld)
      refine hseen ?_
      have hcondition : current.condition = other.identity := by
        simpa [Attention.identity] using congrArg (fun who => who.2.1) hsame
      rw [h.seen, hcondition]
      exact List.mem_map.mpr ⟨other, hother, rfl⟩
    · intro key held hheld hstill hmission hdestination
      rcases get?_set_cases hheld with ⟨-, rfl⟩ | ⟨hother, hold⟩
      · rw [hended] at hstill
        cases hstill
      · rcases h.others key held hold hstill hmission hdestination with
          hmem | ⟨hbefore, hcleared⟩
        · exact .inl hmem
        · refine .inr ⟨hbefore, fun hmem => ?_⟩
          rcases List.mem_append.mp hmem with hmem | hmem
          · exact hcleared hmem
          · obtain rfl := List.mem_singleton.mp hmem
            exact hother ((hkept.each key held hbefore).2).symm

theorem Reconciled.clearedAll {cleared rest : List Attention} (hkept : AttentionKept records)
    (hlive : LiveOf records observed destination live)
    (h : Reconciled records observed destination live treated cleared state)
    (hrest : ∀ value ∈ rest, value ∈ live) (hdistinct : (cleared ++ rest).Nodup)
    (hrun : foldChecked (resolveCleared observed now) state rest = .ok next) :
    Reconciled records observed destination live treated (cleared ++ rest) next := by
  induction rest generalizing cleared state with
  | nil =>
      rw [foldChecked_nil, Except.ok.injEq] at hrun
      rw [List.append_nil, ← hrun]
      exact h
  | cons current more ih =>
      rw [foldChecked_cons_eq_ok] at hrun
      obtain ⟨middle, hfirst, hmore⟩ := hrun
      have hnew : current ∉ cleared := by
        rw [List.nodup_append] at hdistinct
        intro hmem
        exact hdistinct.2.2 _ hmem _ (List.mem_cons_self ..) rfl
      have hstep := h.cleared hkept hlive (hrest current (List.mem_cons_self ..)) hnew hfirst
      rw [List.append_cons] at hdistinct ⊢
      exact ih hstep (fun value hvalue => hrest value (List.mem_cons_of_mem _ hvalue))
        hdistinct hmore

omit [JsonDigest] in
theorem sortedByCondition_perm {α : Type} (identity : α → AttentionKind × String)
    (items : List α) : (sortedByCondition identity items).Perm items :=
  (sortedBy_perm _ _).trans (sortedBy_perm _ _)

variable {minted : Minted}

/-- A whole reconciliation. -/
theorem reconciled (hkept : AttentionKept records)
    (hlive : LiveOf records observed destination live) (hnodup : live.Nodup)
    (hfull : ∀ condition ∈ conditions, ∀ key value, records.get? key = some value →
      value.isTerminal = false →
      value.identity = (observed.missionId, condition.identity, destination) → value ∈ live)
    (hdistinct : (conditions.map ObservedCondition.identity).Nodup)
    (hrun : reconcile records observed destination live conditions now minted =
      .ok state) : Reconciled records observed destination live conditions
      (sortedByCondition Attention.condition live) state := by
  simp only [reconcile, bind_eq_ok] at hrun
  obtain ⟨middle, hconditions, hclearing⟩ := hrun
  have hstart : Reconciled records observed destination live [] []
      ⟨records, minted, [], [], [], [], []⟩ := {
    moves := .refl
    seen := rfl
    untouched := fun value hvalue _ _ => hlive.held value hvalue
    matched := fun condition hcondition => by cases hcondition
    others := fun key value hvalue _ _ _ => .inr ⟨hvalue, List.not_mem_nil⟩ }
  have hperm := sortedByCondition_perm Attention.condition live
  have htreated := hstart.afterConditions hkept hlive hfull hdistinct hconditions
  exact htreated.clearedAll hkept hlive (fun value hvalue => hperm.mem_iff.mp hvalue)
    (hperm.nodup_iff.mpr hnodup) hclearing

/-! ## The operations -/

/-- A fresh result carries a validated observation. -/
def FreshIsValid (result : FreshnessResult) : Prop :=
  result.freshness = .fresh → ∃ observed, result.observation = some observed ∧
    observed.validate "observation" = .ok ()

variable {result : FreshnessResult} {missionId : String}

variable {fresh : Bool}

omit [JsonDigest] in
theorem requireFreshOf_eq_ok : requireFreshOf result missionId = .ok fresh ↔
      (∀ observed, result.observation = some observed →
        observed.missionId = missionId) ∧ decide (result.freshness = .fresh) = fresh := by
  simp only [requireFreshOf, bind_eq_ok, exists_passed, failAt_eq_ok, pure_eq_ok,
    not_exists, not_and, not_not, ne_eq, Option.mem_def]

omit [JsonDigest] in
theorem mem_liveRecords : value ∈ liveRecords records missionId destination ↔
      (∃ key, records.get? key = some value) ∧ value.missionId = missionId ∧
        value.isTerminal = false ∧ value.destination = destination := by
  simp only [liveRecords, List.mem_filter, List.mem_map, Prod.exists, mem_byId,
    exists_eq_right, decide_eq_true_eq]

omit [JsonDigest] in
/-- The records under their own ids are distinct. -/
theorem nodup_recordValues (hkept : AttentionKept records) :
    ((byId records).map Prod.snd).Nodup := by
  refine (List.nodup_map_iff_inj_on (nodup_byId records)).mpr ?_
  rintro first hfirst second hsecond heq
  have hone := (hkept.each _ _ (mem_byId.mp hfirst)).2
  have htwo := (hkept.each _ _ (mem_byId.mp hsecond)).2
  exact Prod.ext (by rw [← hone, heq, htwo]) heq

omit [JsonDigest] in
theorem liveOf_liveRecords (hkept : AttentionKept records) : LiveOf records observed destination
      (liveRecords records observed.missionId destination) where
  held := by
    intro value hvalue
    obtain ⟨⟨key, hkey⟩, -⟩ := mem_liveRecords.mp hvalue
    rw [(hkept.each key value hkey).2, hkey]
  lasting := fun value hvalue => (mem_liveRecords.mp hvalue).2.2.1
  mission := fun value hvalue => (mem_liveRecords.mp hvalue).2.1
  destination := fun value hvalue => (mem_liveRecords.mp hvalue).2.2.2

omit [JsonDigest] in
/-- Every live record of the Mission at the destination is among those given. -/
theorem mem_liveRecords_of_identity {key : String}
    {who : AttentionKind × String} (hvalue : records.get? key = some value)
    (hlive : value.isTerminal = false)
    (hidentity : value.identity = (observed.missionId, who, destination)) :
    value ∈ liveRecords records observed.missionId destination := by
  obtain ⟨hmission, -, hdestination⟩ : value.missionId = observed.missionId ∧
      value.condition = who ∧ value.destination = destination := by
    simpa [Attention.identity] using hidentity
  exact mem_liveRecords.mpr ⟨⟨key, hvalue⟩, hmission, hlive, hdestination⟩

/-- A projection that is not fresh changes nothing; a fresh one reconciles. -/
theorem project_cases {done : ProjectionOutcome} {next : AttentionRecords}
    (h : project records missionId destination result now minted =
      .ok (done, next)) : (result.freshness ≠ .fresh ∧ next = records) ∨
      ∃ observed state, result.freshness = .fresh ∧
        result.observation = some observed ∧ observed.missionId = missionId ∧
        reconcile records observed destination (liveRecords records missionId destination)
          (sortedByCondition ObservedCondition.identity observed.conditions) now
          minted = .ok state ∧ next = state.records := by
  simp only [project, bind_eq_ok, exists_passed, requireFreshOf_eq_ok] at h
  obtain ⟨-, -, fresh, ⟨hown, hfresh⟩, h⟩ := h
  split at h
  · rename_i hyes
    simp only [bind_eq_ok, orFailAt_eq_ok, pure_eq_ok, Prod.mk.injEq] at h
    obtain ⟨observed, hobserved, state, hstate, -, rfl⟩ := h
    exact .inr ⟨observed, state, of_decide_eq_true (hfresh.trans hyes), hobserved,
      hown observed hobserved, hstate, rfl⟩
  · rename_i hno
    simp only [pure_eq_ok, Prod.mk.injEq] at h
    refine .inl ⟨fun heq => hno ?_, h.2.symm⟩
    rw [← hfresh, heq]
    rfl

/-- What a projection of an observation leaves: each observed condition has a live
record that agrees with it, and no other condition has a live record. -/
structure Projected (observed : MissionObservation) (destination : Destination)
    (records : AttentionRecords) : Prop where
  matched : ∀ condition ∈ observed.conditions, ∃ key value,
    records.get? key = some value ∧ value.isTerminal = false ∧
      value.identity = (observed.missionId, condition.identity, destination) ∧
      disagreement value observed condition = none
  only : ∀ key value, records.get? key = some value → value.isTerminal = false →
    value.missionId = observed.missionId → value.destination = destination →
    ∃ condition ∈ observed.conditions, condition.identity = value.condition

/-- A reconciliation of all live records with all observed conditions. -/
theorem reconcile_projects
    (hkept : AttentionKept records) (hvalid : observed.validate "observation" = .ok ())
    (hrun : reconcile records observed destination
      (liveRecords records observed.missionId destination)
      (sortedByCondition ObservedCondition.identity observed.conditions) now minted =
        .ok state) : ReflTransGen (AttentionMove (readOf observed)) records state.records ∧
      Projected observed destination state.records := by
  have hperm := sortedByCondition_perm ObservedCondition.identity observed.conditions
  have hdistinct : ((sortedByCondition ObservedCondition.identity
      observed.conditions).map ObservedCondition.identity).Nodup :=
    (hperm.map _).nodup_iff.mpr (observationValid hvalid).distinct
  have hdone := reconciled hkept (liveOf_liveRecords hkept) ((nodup_recordValues hkept).filter _)
    (fun condition _ key value hvalue hlive hidentity =>
      mem_liveRecords_of_identity hvalue hlive hidentity) hdistinct hrun
  refine ⟨hdone.moves, ⟨fun condition hcondition =>
    hdone.matched condition (hperm.mem_iff.mpr hcondition), ?_⟩⟩
  intro key value hvalue hlive hmission hdestination
  rcases hdone.others key value hvalue hlive hmission hdestination with
    hseen | ⟨hold, hcleared⟩
  · rw [hdone.seen] at hseen
    obtain ⟨condition, hcondition, hsame⟩ := List.mem_map.mp hseen
    exact ⟨condition, hperm.mem_iff.mp hcondition, hsame⟩
  · exact absurd ((sortedByCondition_perm ..).mem_iff.mpr (mem_liveRecords.mpr
      ⟨⟨key, hold⟩, hmission, hlive, hdestination⟩)) hcleared

/-- Nothing is done to records that are as an observation left them. -/
theorem reconcile_again (now : Nat) (minted : Minted) (hkept : AttentionKept records)
    (hprojected : Projected observed destination records) :
    ∃ state, reconcile records observed destination
      (liveRecords records observed.missionId destination)
      (sortedByCondition ObservedCondition.identity observed.conditions) now minted =
        .ok state ∧ state.records = records ∧ state.created = [] ∧
      state.obsoleted = [] ∧ state.resolved = [] := by
  have hperm := sortedByCondition_perm ObservedCondition.identity observed.conditions
  -- every observed condition is suppressed
  have hconditions : ∀ (conditions : List ObservedCondition)
      (before : Reconciling), (∀ condition ∈ conditions, condition ∈ observed.conditions) → ∃ state,
      foldChecked (reconcileCondition observed destination
        (liveRecords records observed.missionId destination) now) before conditions =
          .ok state ∧ state.records = before.records ∧
        state.created = before.created ∧ state.obsoleted = before.obsoleted ∧
        state.resolved = before.resolved ∧
        state.seen = before.seen ++ conditions.map ObservedCondition.identity := by
    intro conditions
    induction conditions with
    | nil =>
        intro before _
        exact ⟨before, rfl, rfl, rfl, rfl, rfl, by simp⟩
    | cons condition rest ih =>
        intro before hobserved
        obtain ⟨key, value, hvalue, hlive, hidentity, hagrees⟩ :=
          hprojected.matched condition (hobserved _ (List.mem_cons_self ..))
        have hmem := mem_liveRecords_of_identity hvalue hlive hidentity
        have hcondition : value.condition = condition.identity := by
          simpa [Attention.identity] using congrArg (fun who => who.2.1) hidentity
        have hfound : (liveRecords records observed.missionId destination).find?
            (·.condition = condition.identity) = some value := by
          cases hfind : (liveRecords records observed.missionId destination).find?
              (·.condition = condition.identity) with
          | none => simpa [hcondition] using List.find?_eq_none.mp hfind value hmem
          | some other =>
              have hother := List.mem_of_find?_eq_some hfind
              have hsame : other.condition = condition.identity := by
                simpa using List.find?_some hfind
              obtain ⟨⟨place, hplace⟩, hmission, hstill, hdestination⟩ :=
                mem_liveRecords.mp hother
              have heq := hkept.live place other key value hplace hvalue hstill hlive
                (by rw [hidentity, Attention.identity, hmission, hsame, hdestination])
              rw [heq, hvalue] at hplace
              rw [Option.some.inj hplace]
        obtain ⟨state, hstate, hrecords, hcreated, hobsoleted, hresolved, hseen⟩ := ih
          { before with
            seen := before.seen ++ [condition.identity]
            suppressed := before.suppressed ++ [value.attentionId] }
          fun other hother => hobserved other (List.mem_cons_of_mem _ hother)
        refine ⟨state, (foldChecked_cons_eq_ok ..).mpr ⟨_, ?_, hstate⟩, hrecords,
          hcreated, hobsoleted, hresolved, ?_⟩
        · simp only [reconcileCondition, hfound, hagrees]
        · rw [hseen, List.map_cons, List.append_assoc, List.singleton_append]
  -- and the condition of every live record is observed
  have hclearing : ∀ (rest : List Attention) (before : Reconciling),
      (∀ value ∈ rest, value.condition ∈ before.seen) →
      foldChecked (resolveCleared observed now) before rest = .ok before := by
    intro rest
    induction rest with
    | nil =>
        intro before _
        rfl
    | cons value more ih =>
        intro before hseen
        refine (foldChecked_cons_eq_ok ..).mpr ⟨before, ?_, ih before fun other hother =>
          hseen other (List.mem_cons_of_mem _ hother)⟩
        exact if_pos (hseen value (List.mem_cons_self ..))
  obtain ⟨state, hstate, hrecords, hcreated, hobsoleted, hresolved, hseen⟩ :=
    hconditions (sortedByCondition ObservedCondition.identity observed.conditions)
      ⟨records, minted, [], [], [], [], []⟩ fun condition hcondition =>
        hperm.mem_iff.mp hcondition
  refine ⟨state, ?_, hrecords, hcreated, hobsoleted, hresolved⟩
  simp only [reconcile, bind_eq_ok]
  refine ⟨state, hstate, hclearing _ state fun value hvalue => ?_⟩
  obtain ⟨⟨key, hkey⟩, hmission, hlive, hdestination⟩ :=
    mem_liveRecords.mp ((sortedByCondition_perm ..).mem_iff.mp hvalue)
  obtain ⟨condition, hcondition, hsame⟩ :=
    hprojected.only key value hkey hlive hmission hdestination
  rw [hseen, List.nil_append, ← hsame]
  exact List.mem_map.mpr ⟨condition, hperm.mem_iff.mpr hcondition, rfl⟩

omit [JsonDigest] in
theorem requireLive_eq_ok : requireLive records attentionId = .ok value ↔
      isId .attention attentionId = true ∧ records.get? attentionId = some value ∧
        value.isTerminal = false := by
  simp only [requireLive, bind_eq_ok, exists_passed, requireId_eq_ok,
    orFailAt_eq_ok, failAt_eq_ok, pure_eq_ok, Bool.not_eq_true]
  constructor
  · rintro ⟨hid, held, hheld, hlive, rfl⟩
    exact ⟨hid, hheld, hlive⟩
  · rintro ⟨hid, hheld, hlive⟩
    exact ⟨hid, value, hheld, hlive, rfl⟩

variable {outcome : SurfaceOutcome}

/-- A surfacing of a record that a fresh read still shows is one move. -/
theorem presentRecord_moves {receipt : PresentationReceipt} {next : AttentionRecords}
    (hkept : AttentionKept records)
    (hheld : records.get? value.attentionId = some value) (hpending : value.presentation = .pending)
    (hmission : value.missionId = observed.missionId)
    (h : presentRecord records value observed receipt now = .ok (outcome, next)) :
    ReflTransGen (AttentionMove (readOf observed)) records next := by
  unfold presentRecord at h
  split at h
  · simp only [bind_eq_ok, exists_passed, observationPoint_eq_ok,
      validateAttention_eq_ok, pure_eq_ok, Prod.mk.injEq] at h
    obtain ⟨point, ⟨hobserved, rfl⟩, hvalid, -, rfl⟩ := h
    have hlive : value.isTerminal = false := by
      rw [Attention.isTerminal, hpending]
      rfl
    have hfacts := (hkept.each _ _ hheld).1.facts
    have hnone := hfacts.surfacingPoint (hfacts.pending hpending).1
    refine .single (.updated value _ hheld hlive hvalid ⟨rfl, rfl, rfl, ?_, ?_⟩ ?_)
    · intro point hpoint
      simp only [Attention.points, hnone, Option.toList_none, List.append_nil,
        List.mem_append] at hpoint
      simp only [Attention.points, Attention.surfaced, List.mem_append]
      rcases hpoint with (hpoint | hpoint) | hpoint
      · exact .inl (.inl (.inl hpoint))
      · exact .inl (.inr hpoint)
      · exact .inr hpoint
    · intro point hpoint
      simp only [Attention.points, Attention.surfaced, List.mem_append] at hpoint
      simp only [Attention.points, hnone, Option.toList_none, List.append_nil, List.mem_append]
      rcases hpoint with ((hpoint | hpoint) | hpoint) | hpoint
      · exact .inl (.inl (.inl hpoint))
      · exact .inr ⟨hmission, hobserved, (Option.some.inj (Option.mem_toList.mp hpoint)).symm⟩
      · exact .inl (.inl (.inr hpoint))
      · exact .inl (.inr hpoint)
    · exact hfacts.last hlive
  · cases h
    exact .refl

/-- A surfacing that is not fresh changes nothing; a fresh one is a sequence of
moves. -/
theorem surface_cases
    {answer : PresenterAnswer}
    {next : AttentionRecords} (hkept : AttentionKept records) (hfreshValid : FreshIsValid result)
    (h : surface records attentionId result answer now minted =
      .ok (outcome, next)) : (result.freshness ≠ .fresh ∧ next = records) ∨
      ∃ value observed, records.get? attentionId = some value ∧
        result.freshness = .fresh ∧ result.observation = some observed ∧
        value.missionId = observed.missionId ∧
        ReflTransGen (AttentionMove (readOf observed)) records next := by
  simp only [surface, bind_eq_ok, exists_passed, requireLive_eq_ok, failAt_eq_ok,
    requireFreshOf_eq_ok, not_not, ne_eq] at h
  obtain ⟨value, ⟨-, hheld, hlive⟩, hpending, fresh, ⟨hown, hfresh⟩, h⟩ := h
  split at h
  · rename_i hyes
    simp only [bind_eq_ok, orFailAt_eq_ok] at h
    obtain ⟨observed, hobserved, h⟩ := h
    have hfreshness : result.freshness = .fresh :=
      of_decide_eq_true (hfresh.trans hyes)
    have hmission := (hown observed hobserved).symm
    refine .inr ⟨value, observed, hheld, hfreshness, hobserved, hmission, ?_⟩
    obtain ⟨other, hother, hvalid⟩ := hfreshValid hfreshness
    obtain rfl := Option.some.inj (hobserved.symm.trans hother)
    have hid : value.attentionId = attentionId := (hkept.each _ _ hheld).2
    rw [← hid] at hheld
    unfold surfaceFresh at h
    simp only at h
    split at h
    · simp only [contradictRecord, bind_eq_ok, pure_eq_ok, Prod.mk.injEq] at h
      obtain ⟨state, hstate, -, rfl⟩ := h
      have hdistinct : ((observed.conditions.filter
          (·.identity = value.condition)).map ObservedCondition.identity).Nodup :=
        (List.filter_sublist.map _).nodup (observationValid hvalid).distinct
      refine (reconciled hkept ⟨?_, ?_, ?_, ?_⟩ (List.nodup_singleton value) ?_
        hdistinct hstate).moves
      · rintro other hmem
        obtain rfl := List.mem_singleton.mp hmem
        exact hheld
      · rintro other hmem
        obtain rfl := List.mem_singleton.mp hmem
        exact hlive
      · rintro other hmem
        obtain rfl := List.mem_singleton.mp hmem
        exact hmission
      · rintro other hmem
        obtain rfl := List.mem_singleton.mp hmem
        rfl
      · -- the condition is the record's own, which no other live record carries
        rintro condition hcondition key other hother hstill hidentity
        have hsame : condition.identity = value.condition := by
          simpa using (List.mem_filter.mp hcondition).2
        have hkey := hkept.live key other _ value hother hheld hstill hlive
          (by rw [hidentity, hsame, ← hmission]; rfl)
        rw [hkey, hheld] at hother
        exact List.mem_singleton.mpr (Option.some.inj hother).symm
    · exact presentRecord_moves hkept hheld hpending hmission h
  · rename_i hno
    simp only [pure_eq_ok, Prod.mk.injEq] at h
    refine .inl ⟨fun heq => hno ?_, h.2.symm⟩
    rw [← hfresh, heq]
    rfl

/-- The points that an acknowledgment may add: that of a fresh observation. -/
def freshReadOf (result : FreshnessResult) : FreshPoints := fun missionId point =>
  ∃ observed, result.freshness = .fresh ∧ result.observation = some observed ∧
    readOf observed missionId point

theorem acknowledgedPoint_eq_ok
    {point : Option ObservationPoint} (hfresh : decide (result.freshness = .fresh) = fresh)
    (h : acknowledgedPoint result fresh = .ok point) :
    ∀ held, point = some held → ∃ observed, result.freshness = .fresh ∧
      result.observation = some observed ∧
      observed.validate "observation" = .ok () ∧ held = pointOf observed := by
  unfold acknowledgedPoint at h
  split at h
  · rename_i hyes
    simp only [bind_eq_ok, orFailAt_eq_ok, observationPoint_eq_ok, pure_eq_ok] at h
    obtain ⟨observed, hobserved, read, ⟨hvalid, rfl⟩, rfl⟩ := h
    rintro held hheld
    exact ⟨observed, of_decide_eq_true (hfresh.trans hyes), hobserved, hvalid,
      (Option.some.inj hheld).symm⟩
  · cases h
    rintro held hheld
    cases hheld

theorem acknowledge_moves {context : AuthenticatedContext} {acknowledged : Attention}
    {next : AttentionRecords} (hkept : AttentionKept records)
    (h : acknowledge records attentionId context result now =
      .ok (acknowledged, next)) : ∃ value, records.get? attentionId = some value ∧
      AttentionMove (freshReadOf result) records next := by
  simp only [acknowledge, bind_eq_ok, exists_passed, requireLive_eq_ok,
    failAt_eq_ok, requireFreshOf_eq_ok, validateAttention_eq_ok, pure_eq_ok, Prod.mk.injEq] at h
  obtain ⟨-, value, ⟨-, hheld, hlive⟩, hstate, fresh, ⟨hown, hfresh⟩, point, hpoint,
    hvalid, rfl, rfl⟩ := h
  have hfacts := (hkept.each _ _ hheld).1.facts
  have hid : value.attentionId = attentionId := (hkept.each _ _ hheld).2
  refine ⟨value, hheld, ?_⟩
  rw [← hid] at hheld
  have habsent : value.acknowledgment.isPresent = false := by
    cases hpresentation : value.presentation with
    | pending => exact (hfacts.pending hpresentation).2
    | surfaced => exact hfacts.surfaced hpresentation
    | acknowledged => exact absurd hpresentation hstate
    | obsolete =>
        rw [Attention.isTerminal, hpresentation] at hlive
        cases hlive
    | resolved =>
        rw [Attention.isTerminal, hpresentation] at hlive
        cases hlive
  have hnone := hfacts.acknowledgmentPoint habsent
  refine .updated value _ hheld hlive hvalid ⟨rfl, rfl, rfl, ?_, ?_⟩ (hfacts.last hlive)
  · intro read hread
    simp only [Attention.points, hnone, Option.toList_none, List.append_nil,
      List.mem_append] at hread
    simp only [Attention.points, Attention.acknowledged, List.mem_append]
    rcases hread with hread | hread
    · exact .inl (.inl hread)
    · exact .inr hread
  · intro read hread
    simp only [Attention.points, Attention.acknowledged, List.mem_append] at hread
    simp only [Attention.points, hnone, Option.toList_none, List.append_nil, List.mem_append]
    rcases hread with (hread | hread) | hread
    · exact .inl (.inl hread)
    · obtain ⟨observed, hfreshness, hobserved, hobservedValid, rfl⟩ :=
        acknowledgedPoint_eq_ok hfresh hpoint read (Option.mem_toList.mp hread)
      exact .inr ⟨observed, hfreshness, hobserved, (hown observed hobserved).symm,
        hobservedValid, rfl⟩
    · exact .inl (.inr hread)

end

end DodgingInfinity.Coordination
