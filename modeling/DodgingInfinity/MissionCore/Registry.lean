import DodgingInfinity.MissionCore.Consistency
import DodgingInfinity.MissionCore.Runs

/-!
# Every minted id is consumed once, by what it names

A request id is consumed by the one Mission it created, a decision id by the
one decision it recorded, and a state-operation id by the one operation it
applied.
-/

namespace DodgingInfinity.MissionCore

open Checked Relation

/-- The decision ids of a Mission, and the operation ids of a state record. -/
def Mission.decisionIds (mission : Mission) : List String :=
  mission.decisions.map DecisionRecord.decisionId

def StateRecord.operationIds (state : StateRecord) : List String :=
  state.appliedOperations.map AppliedOperation.operationId

/-- What a consumed id of each kind names: the Mission it created, the decision
it recorded, or the operation it applied. -/
def Names (document : Document) (reservedId : String) : ReferenceKind → String → Prop
  | .request, consumedBy => ∃ mission,
      document.missions.get? consumedBy = some mission ∧ mission.requestId = reservedId
  | .decision, consumedBy => consumedBy = reservedId ∧ ∃ missionId mission,
      document.missions.get? missionId = some mission ∧ reservedId ∈ mission.decisionIds
  | .stateOperation, consumedBy =>
      consumedBy = reservedId ∧ ∃ missionId state,
        document.missionState.get? missionId = some state ∧ reservedId ∈ state.operationIds

/-- Every consumed id names what consumed it, and is consumed once. -/
structure Registered (document : Document) : Prop where
  named : ∀ reservedId reservation consumedBy,
    document.reservations.get? reservedId = some reservation →
    reservation.consumedBy = some consumedBy → Names document reservedId reservation.kind consumedBy
  consumed : ∀ missionId state operationId, document.missionState.get? missionId = some state →
    operationId ∈ state.operationIds → ∃ reservation,
      document.reservations.get? operationId = some reservation ∧
        reservation.kind = .stateOperation ∧ reservation.consumedBy = some operationId
  decisionsOnce : (document.missions.values.flatMap Mission.decisionIds).Nodup
  operationsOnce :
    (document.missionState.values.flatMap StateRecord.operationIds).Nodup

variable {document next : Document} {missionId : String}
  {mission changed : Mission}

/-! ## What a reconciled document consumes -/

variable {decision : DecisionRecord}

theorem Stands.reserved_of_decision {replay : Replay} (h : Stands document mission replay)
    (hdecision : decision ∈ mission.decisions) :
    reservationAgrees document decision.decisionId .decision
      decision.decisionId decision.provenance = .ok () := by
  obtain ⟨before, after, hstep⟩ := foldChecked_mem h.replay_eq hdecision
  exact ((replayDecision_eq_ok ..).mp hstep).1

variable {decisionId : String}

/-- A recorded decision has consumed its own id. -/
theorem Consistent.decision_consumed (h : Consistent document)
    (hheld : document.missions.get? missionId = some mission)
    (hid : decisionId ∈ mission.decisionIds) :
    ∃ reservation, document.reservations.get? decisionId = some reservation ∧
      reservation.kind = .decision ∧
      reservation.consumedBy = some decisionId := by
  obtain ⟨decision, hdecision, rfl⟩ := List.mem_map.mp hid
  obtain ⟨replay, hstands⟩ := h.stands hheld
  obtain ⟨reservation, hreserved, hkind, hconsumed, -⟩ :=
    (reservationAgrees_eq_ok ..).mp (hstands.reserved_of_decision hdecision)
  exact ⟨reservation, hreserved, hkind, hconsumed⟩

/-- A Mission has consumed the request id it was created for. -/
theorem Consistent.request_consumed (h : Consistent document) (hwell : AllWellFormed document)
    (hheld : document.missions.get? missionId = some mission) : ∃ reservation,
      document.reservations.get? mission.requestId = some reservation ∧
      reservation.kind = .request ∧
      reservation.consumedBy = some missionId := by
  obtain ⟨replay, hstands⟩ := h.stands hheld
  obtain ⟨first, -, hagrees⟩ := hstands.requested
  obtain ⟨reservation, hreserved, hkind, hconsumed, -⟩ :=
    (reservationAgrees_eq_ok ..).mp hagrees
  exact ⟨reservation, hreserved, hkind, by
    rw [hconsumed, (hwell missionId mission hheld).keyed]⟩

/-- No two Missions were created for one request id. -/
theorem Consistent.request_injective (h : Consistent document)
    (hwell : AllWellFormed document) {other : String}
    (hheld : document.missions.get? missionId = some mission)
    (hother : document.missions.get? other = some changed)
    (hsame : mission.requestId = changed.requestId) : missionId = other := by
  obtain ⟨reservation, hreserved, -, hconsumed⟩ :=
    h.request_consumed hwell hheld
  obtain ⟨second, hsecond, -, hother⟩ := h.request_consumed hwell hother
  rw [hsame] at hreserved
  obtain rfl := Option.some.inj (hreserved.symm.trans hsecond)
  exact Option.some.inj (hconsumed.symm.trans hother)

variable {reservedId : String}

/-- The Mission a request id created is the one found by it. -/
theorem Consistent.find_request (h : Consistent document) (hwell : AllWellFormed document)
    (hheld : document.missions.get? missionId = some mission)
    (hrequest : mission.requestId = reservedId) :
    (document.missions.entries.find? fun held =>
      held.2.requestId = reservedId).map Prod.fst = some missionId := by
  have hmem := (document.missions.mem_entries_iff ..).mpr hheld
  cases hfind : document.missions.entries.find? fun held =>
      held.2.requestId = reservedId with
  | none =>
      have hnot := List.find?_eq_none.mp hfind _ hmem
      simp [hrequest] at hnot
  | some found =>
      obtain ⟨foundId, foundMission⟩ := found
      have hfound := (document.missions.mem_entries_iff ..).mp (List.mem_of_find?_eq_some hfind)
      have hsame : foundMission.requestId = reservedId := by
        simpa using List.find?_some hfind
      rw [Option.map_some, h.request_injective hwell hfound hheld (hsame.trans hrequest.symm)]

/-- A registered document passes the reconciliation of its registry. -/
theorem Registered.reconciled (h : Registered document)
    (hconsistent : Consistent document) (hwell : AllWellFormed document) :
    reconcileRegistry document = .ok () := by
  have hrequests : (document.missions.values.map Mission.requestId).Nodup := by
    have hflat := (document.missions.nodup_flatMap_values fun mission => [mission.requestId]).mpr
      ⟨by simp, fun first second one two item hone htwo hfirst hsecond => by
        rw [List.mem_singleton] at hfirst hsecond
        exact hconsistent.request_injective hwell hone htwo (hfirst.symm.trans hsecond)⟩
    rwa [List.map_eq_flatMap]
  simp only [reconcileRegistry, bind_eq_ok, exists_passed, failIf_eq_ok, checkAll_eq_ok, not_not]
  refine ⟨hrequests, h.decisionsOnce, fun entry hentry => ?_⟩
  obtain ⟨reservedId, reservation⟩ := entry
  have hheld := (document.reservations.mem_entries_iff ..).mp hentry
  unfold reservationConsumed
  cases hconsumed : reservation.consumedBy with
  | none => rfl
  | some consumedBy =>
      have hnamed := h.named reservedId reservation consumedBy hheld hconsumed
      cases hkind : reservation.kind with
      | request =>
          rw [hkind] at hnamed
          obtain ⟨mission, hmission, hrequest⟩ := hnamed
          simp only [failIf_eq_ok, not_not]
          exact hconsistent.find_request hwell hmission hrequest
      | decision =>
          rw [hkind] at hnamed
          obtain ⟨rfl, missionId, mission, hmission, hmem⟩ := hnamed
          simp only [failIf_eq_ok, not_or, not_not, true_and]
          exact (document.missions.mem_flatMap_values ..).mpr ⟨missionId, mission, hmission, hmem⟩
      | stateOperation =>
          rw [hkind] at hnamed
          obtain ⟨rfl, missionId, state, hstate, hmem⟩ := hnamed
          simp only [failIf_eq_ok, not_or, not_not, true_and]
          exact List.count_eq_one_of_mem h.operationsOnce
            ((document.missionState.mem_flatMap_values ..).mpr
              ⟨missionId, state, hstate, hmem⟩)

/-! ## Every change -/

/-- The later document keeps every recorded id. -/
structure SameIds (document next : Document) : Prop where
  missions : ∀ missionId mission, document.missions.get? missionId = some mission → ∃ changed,
      next.missions.get? missionId = some changed ∧ changed.requestId = mission.requestId ∧
        mission.decisionIds ⊆ changed.decisionIds
  states : ∀ missionId state, document.missionState.get? missionId = some state → ∃ changed,
      next.missionState.get? missionId = some changed ∧ state.operationIds ⊆ changed.operationIds

variable {consumedBy : String}

theorem Names.later {kind : ReferenceKind}
    (h : Names document reservedId kind consumedBy) (hsame : SameIds document next) :
    Names next reservedId kind consumedBy := by
  cases kind with
  | request =>
      obtain ⟨mission, hheld, hrequest⟩ := h
      obtain ⟨changed, hchanged, hkept, -⟩ := hsame.missions _ mission hheld
      exact ⟨changed, hchanged, hkept.trans hrequest⟩
  | decision =>
      obtain ⟨hown, missionId, mission, hheld, hid⟩ := h
      obtain ⟨changed, hchanged, -, hkept⟩ := hsame.missions _ mission hheld
      exact ⟨hown, missionId, changed, hchanged, hkept hid⟩
  | stateOperation =>
      obtain ⟨hown, missionId, state, hheld, hid⟩ := h
      obtain ⟨changed, hchanged, hkept⟩ := hsame.states _ state hheld
      exact ⟨hown, missionId, changed, hchanged, hkept hid⟩

/-- A change that keeps every recorded id, and consumes an id for what names
it. -/
theorem Registered.change (h : Registered document) (hsame : SameIds document next)
    (hconsumed : ∀ reservedId reservation,
      document.reservations.get? reservedId = some reservation → reservation.consumedBy ≠ none →
        next.reservations.get? reservedId = some reservation)
    (hnamed : ∀ reservedId reservation consumedBy,
      next.reservations.get? reservedId = some reservation →
      reservation.consumedBy = some consumedBy →
        document.reservations.get? reservedId = some reservation ∨
          Names next reservedId reservation.kind consumedBy)
    (hoperated : ∀ missionId state operationId, next.missionState.get? missionId = some state →
      operationId ∈ state.operationIds →
        (∃ before, document.missionState.get? missionId = some before ∧
          operationId ∈ before.operationIds) ∨ ∃ reservation,
          next.reservations.get? operationId = some reservation ∧
            reservation.kind = .stateOperation ∧ reservation.consumedBy = some operationId)
    (hdecisions : (next.missions.values.flatMap Mission.decisionIds).Nodup) (hoperations :
      (next.missionState.values.flatMap StateRecord.operationIds).Nodup) :
    Registered next where
  named := fun reservedId reservation consumedBy hreserved hby => by
    rcases hnamed reservedId reservation consumedBy hreserved hby with
      hold | hnew
    · exact (h.named reservedId reservation consumedBy hold hby).later hsame
    · exact hnew
  consumed := fun missionId state operationId hstate hid => by
    rcases hoperated missionId state operationId hstate hid with
      ⟨before, hbefore, hold⟩ | hnew
    · obtain ⟨reservation, hreserved, hkind, hby⟩ :=
        h.consumed missionId before operationId hbefore hold
      exact ⟨reservation, hconsumed operationId reservation hreserved
        (by simp [hby]), hkind, hby⟩
    · exact hnew
  decisionsOnce := hdecisions
  operationsOnce := hoperations

/-- Storing one Mission that keeps its recorded ids. -/
theorem Registered.setMission (h : Registered document)
    (hheld : document.missions.get? missionId = some mission)
    (hrequest : changed.requestId = mission.requestId)
    (hdecisions : changed.decisions = mission.decisions) :
    Registered (document.setMission missionId changed) := by
  have hids : changed.decisionIds = mission.decisionIds := by
    rw [Mission.decisionIds, hdecisions]
    rfl
  refine h.change ⟨fun other held hother => ?_,
    fun other state hother => ⟨state, hother, fun _ hid => hid⟩⟩
    (fun _ _ hreserved _ => hreserved) (fun _ _ _ hreserved _ => .inl hreserved)
    (fun _ state _ hstate hid => .inl ⟨state, hstate, hid⟩) ?_ h.operationsOnce
  · simp only [Document.setMission, Dict.get?_set]
    split
    · rename_i heq
      subst heq
      obtain rfl := Option.some.inj (hheld.symm.trans hother)
      exact ⟨changed, rfl, hrequest, fun _ hid => hids ▸ hid⟩
    · exact ⟨held, hother, rfl, fun _ hid => hid⟩
  · have hpointwise := (document.missions.nodup_flatMap_values _).mp h.decisionsOnce
    refine Dict.nodup_flatMap_set h.decisionsOnce ?_ ?_
    · rw [hids]
      exact hpointwise.1 missionId mission hheld
    · intro other held item hne hother hitem hshared
      rw [hids] at hitem
      exact hne (hpointwise.2 other missionId held mission item hother hheld hshared hitem)

variable {reservation : Reservation}

theorem Registered.reserved
    (h : Registered document) (hfresh : document.reservations.get? reservedId = none)
    (hunconsumed : reservation.consumedBy = none) :
    Registered { document with
      reservations := document.reservations.set reservedId reservation } := by
  refine h.change ⟨fun other held hother =>
      ⟨held, hother, rfl, fun _ hid => hid⟩,
    fun other state hother => ⟨state, hother, fun _ hid => hid⟩⟩
    (fun other held hother _ => ?_) (fun other held consumedBy hother hby => ?_)
    (fun _ state _ hstate hid => .inl ⟨state, hstate, hid⟩) h.decisionsOnce
    h.operationsOnce
  · have hne : other ≠ reservedId := by
      rintro rfl
      rw [hfresh] at hother
      cases hother
    exact (Dict.get?_set_of_ne _ _ hne).trans hother
  · simp only [Dict.get?_set] at hother
    split at hother
    · obtain rfl := Option.some.inj hother
      rw [hunconsumed] at hby
      cases hby
    · exact .inl hother

/-- Where one id is consumed, every consumed id was consumed before or is that
one. -/
theorem named_of_consume (hreservations : next.reservations = document.reservations.set reservedId
      { reservation with consumedBy := some consumedBy })
    (hnames : Names next reservedId reservation.kind consumedBy) :
    ∀ other held by_, next.reservations.get? other = some held → held.consumedBy = some by_ →
        document.reservations.get? other = some held ∨
          Names next other held.kind by_ := by
  intro other held by_ hother hby
  rw [hreservations, Dict.get?_set] at hother
  split at hother
  · rename_i heq
    subst heq
    obtain rfl := Option.some.inj hother
    obtain rfl := Option.some.inj hby
    exact .inr hnames
  · exact .inl hother

theorem Registered.created [JsonDigest] {call : ProposeCall} {clean : Proposal}
    {createdAt : Nat} {entry : RevisionEntry} (h : Registered document)
    (hreserved : Reserved document call.requestId .request call.context
      reservation) (hunconsumed : reservation.consumedBy = none)
    (hfresh : document.missions.get? missionId = none)
    (hnew : NewMission missionId call clean createdAt entry mission) :
    Registered ((document.setMission missionId mission).consume
      call.requestId reservation missionId) := by
  have hrequest : mission.requestId = call.requestId := by rw [hnew.record]
  have hnone : mission.decisionIds = [] := by rw [hnew.record]; rfl
  refine h.change ⟨fun other held hother => ?_,
    fun other state hother => ⟨state, hother, fun _ hid => hid⟩⟩
    (fun _ _ hother hconsumed => consumed_of_set hreserved.held hunconsumed
      hother hconsumed) (named_of_consume rfl ?_)
    (fun _ state _ hstate hid => .inl ⟨state, hstate, hid⟩) ?_ h.operationsOnce
  · have hne : other ≠ missionId := by
      rintro rfl
      rw [hfresh] at hother
      cases hother
    exact ⟨held, (Dict.get?_set_of_ne _ _ hne).trans hother, rfl, fun _ hid => hid⟩
  · rw [hreserved.kind_eq]
    exact ⟨mission, Dict.get?_set_self .., hrequest⟩
  · refine Dict.nodup_flatMap_set h.decisionsOnce (by simp [hnone]) ?_
    intro _ _ item _ _ hitem
    simp [hnone] at hitem

/-- An unconsumed id is in no Mission's history. -/
theorem Consistent.decision_fresh (h : Consistent document)
    (hreserved : document.reservations.get? decisionId = some reservation)
    (hunconsumed : reservation.consumedBy = none)
    (hheld : document.missions.get? missionId = some mission) :
    decisionId ∉ mission.decisionIds := by
  intro hid
  obtain ⟨held, hother, -, hconsumed⟩ := h.decision_consumed hheld hid
  obtain rfl := Option.some.inj (hreserved.symm.trans hother)
  rw [hunconsumed] at hconsumed
  cases hconsumed

variable {env : Env}

/-- No decision touches the request of its Mission. -/
theorem DecisionEffected.requestId_eq [JsonDigest]
    {noted effected : Document} (h : DecisionEffected env noted mission decision effected changed) :
    changed.requestId = mission.requestId := by
  cases h <;> rfl

theorem Registered.decided [JsonDigest]
    (h : Registered document) (hconsistent : Consistent document) (hwell : AllWellFormed document)
    (hdecided : Decided env document next missionId mission decision) :
    Registered next := by
  obtain ⟨noted, effected, moved, replay, reservation, hdeciding, hreserved,
    hkind, hunconsumed, hmissions, hreservations, hstates⟩ :=
      hdecided.deciding hwell hconsistent
  have hids : (decidedMission mission moved decision env.now).decisionIds =
      mission.decisionIds ++ [decision.decisionId] := by
    simp [Mission.decisionIds, decidedMission]
  have hstored : next.missions.get? missionId =
      some (decidedMission mission moved decision env.now) := by
    rw [hmissions, Dict.get?_set_self]
  refine h.change ⟨fun other held hother => ?_,
    fun other state hother => ⟨state, hstates ▸ hother, fun _ hid => hid⟩⟩
    hdeciding.consumed (named_of_consume hreservations ?_)
    (fun _ state _ hstate hid => .inl ⟨state, hstates ▸ hstate, hid⟩) ?_
    (hstates ▸ h.operationsOnce)
  · rw [hmissions, Dict.get?_set]
    split
    · rename_i heq
      subst heq
      obtain rfl := Option.some.inj (hdecided.held.symm.trans hother)
      refine ⟨_, rfl, hdeciding.effect.requestId_eq, fun id hid => ?_⟩
      rw [hids]
      exact List.mem_append_left _ hid
    · exact ⟨held, hother, rfl, fun _ hid => hid⟩
  · rw [hkind]
    exact ⟨rfl, missionId, _, hstored, by simp [hids]⟩
  · have hpointwise := (document.missions.nodup_flatMap_values _).mp h.decisionsOnce
    rw [hmissions]
    refine Dict.nodup_flatMap_set h.decisionsOnce ?_ ?_
    · rw [hids, List.nodup_append]
      refine ⟨hpointwise.1 missionId mission hdecided.held, by simp, ?_⟩
      intro id hid other hother
      rw [List.mem_singleton.mp hother]
      rintro rfl
      exact hconsistent.decision_fresh hreserved hunconsumed hdecided.held hid
    · intro other held item hne hother hitem hshared
      rw [hids] at hitem
      rcases List.mem_append.mp hitem with hold | hnew
      · exact hne (hpointwise.2 other missionId held mission item hother hdecided.held hshared hold)
      · rw [List.mem_singleton.mp hnew] at hshared
        exact hconsistent.decision_fresh hreserved hunconsumed hother hshared

/-! ## Applied operations -/

variable [JsonDigest] [ReconciliationPlanner]

variable {call : StateCall} {entry : AppliedOperation} {effected finished : StateRecord}
  {invocation : StateInvocation} {body : OutcomeBody}

theorem Applied.operationIds_eq
    {state : StateRecord}
    (h : Applied env document invocation state entry call effected body
      finished) :
    finished.operationIds = state.operationIds ++ [invocation.operationId] := by
  obtain ⟨outcome, snapshot, contract, -, rfl, -⟩ := h.finish
  simp [StateRecord.operationIds, finishedState, h.entry_id]

omit [JsonDigest] [ReconciliationPlanner] in
theorem operationIds_stateOrNew (held : Option StateRecord) (missionId : String) (now : Nat) :
    (stateOrNew held missionId now).operationIds =
      held.elim [] StateRecord.operationIds := by
  cases held <;> rfl

theorem Registered.applied (h : Registered document)
    (hreserved : Reserved document invocation.operationId .stateOperation
      invocation.context reservation) (hunconsumed : reservation.consumedBy = none)
    (happlied : Applied env document invocation
      (stateOrNew (document.missionState.get? invocation.missionId)
        invocation.missionId env.now) entry call effected body finished) :
    Registered ((document.setState invocation.missionId finished).consume
      invocation.operationId reservation invocation.operationId) := by
  have hids := happlied.operationIds_eq
  rw [operationIds_stateOrNew] at hids
  have hfresh : ∀ missionId state, document.missionState.get? missionId = some state →
        invocation.operationId ∉ state.operationIds := by
    intro missionId state hstate hid
    obtain ⟨held, hheld, -, hconsumed⟩ :=
      h.consumed missionId state _ hstate hid
    obtain rfl := Option.some.inj (hreserved.held.symm.trans hheld)
    rw [hunconsumed] at hconsumed
    cases hconsumed
  have hpointwise := (document.missionState.nodup_flatMap_values _).mp h.operationsOnce
  refine h.change ⟨fun other held hother =>
      ⟨held, hother, rfl, fun _ hid => hid⟩, fun other state hother => ?_⟩
    (fun _ _ hother hconsumed => consumed_of_set hreserved.held hunconsumed
      hother hconsumed) (named_of_consume rfl ?_)
    (fun other state id hother hid => ?_) h.decisionsOnce ?_
  · simp only [Document.consume, Document.setState, Dict.get?_set]
    split
    · rename_i heq
      subst heq
      refine ⟨finished, rfl, fun id hid => ?_⟩
      rw [hids, hother]
      exact List.mem_append_left _ hid
    · exact ⟨state, hother, fun _ hid => hid⟩
  · rw [hreserved.kind_eq]
    exact ⟨rfl, invocation.missionId, finished, Dict.get?_set_self ..,
      by simp [hids]⟩
  · simp only [Document.consume, Document.setState, Dict.get?_set] at hother
    split at hother
    · rename_i heq
      subst heq
      obtain rfl := Option.some.inj hother
      rw [hids] at hid
      rcases List.mem_append.mp hid with hold | hnew
      · cases hbefore : document.missionState.get? invocation.missionId with
        | none => simp [hbefore] at hold
        | some before => exact .inl ⟨before, rfl, by simpa [hbefore] using hold⟩
      · obtain rfl := List.mem_singleton.mp hnew
        exact .inr ⟨_, Dict.get?_set_self .., hreserved.kind_eq, rfl⟩
    · exact .inl ⟨state, hother, hid⟩
  · refine Dict.nodup_flatMap_set h.operationsOnce ?_ ?_
    · rw [hids]
      cases hbefore : document.missionState.get? invocation.missionId with
      | none => simp
      | some before =>
          refine List.nodup_append.mpr
            ⟨hpointwise.1 _ before hbefore, by simp, ?_⟩
          intro id hid other hother
          rw [List.mem_singleton.mp hother]
          rintro rfl
          exact hfresh _ before hbefore hid
    · intro other held item hne hother hitem hshared
      rw [hids] at hitem
      rcases List.mem_append.mp hitem with hold | hnew
      · cases hbefore : document.missionState.get? invocation.missionId with
        | none => simp [hbefore] at hold
        | some before =>
            rw [hbefore] at hold
            exact hne (hpointwise.2 other _ held before item hother hbefore hshared hold)
      · rw [List.mem_singleton.mp hnew] at hshared
        exact hfresh other held hother hshared

theorem Change.registered (h : Change document next)
    (hwell : AllWellFormed document) (hconsistent : Consistent document)
    (hregistered : Registered document) : Registered next := by
  cases h with
  | reserved _ _ _ _ hfresh => exact hregistered.reserved hfresh rfl
  | created _ _ _ _ _ _ _ hreserved hunconsumed hfresh hnew =>
      exact hregistered.created hreserved hunconsumed hfresh hnew
  | withdrawn _ mission withdrawal now hheld =>
      exact hregistered.setMission hheld rfl rfl
  | decided _ _ _ _ _ hdecided =>
      exact hregistered.decided hconsistent hwell hdecided
  | ran missionId mission changed hheld hchange =>
      exact hregistered.setMission hheld hchange.sameHistory.request hchange.sameHistory.decisions
  | applied _ _ _ _ _ _ _ _ _ hreserved hunconsumed _ _ _ happlied =>
      exact hregistered.applied hreserved hunconsumed happlied
  | reclaimed _ mission run reclaimedAt outcome hheld =>
      exact hregistered.setMission hheld rfl rfl

omit [JsonDigest] [ReconciliationPlanner] in
theorem registered_default : Registered defaultDocument where
  named := by simp [defaultDocument]
  consumed := by simp [defaultDocument]
  decisionsOnce := by simp [defaultDocument, Dict.values]
  operationsOnce := by simp [defaultDocument, Dict.values]

theorem Reachable.registered (h : Reachable document) : Registered document :=
  (h.invariant (p := fun document => Consistent document ∧ Registered document)
    ⟨consistent_default, registered_default⟩
    fun _ _ hwell ⟨hconsistent, hregistered⟩ hchange =>
      ⟨hchange.consistent hwell hconsistent, hchange.registered hwell hconsistent hregistered⟩).2.2

/-- Every document the service reaches passes the reconciliation of its
registry and of every history in it. -/
theorem service_agrees_with_replay (document : Document) (h : Reachable document) :
    reconcileRegistry document = .ok () ∧ ∀ missionId mission,
        document.missions.get? missionId = some mission →
          reconcileMissionHistory document mission = .ok () :=
  ⟨h.registered.reconciled h.consistent h.allWellFormed, h.consistent.reconciled⟩

omit [JsonDigest] [ReconciliationPlanner] in
theorem service_agrees_with_replay_sample : letI := sampleRunDigest
    ∃ mission, sampleRun.missions.get? sampleMissionId = some mission ∧
      reconcileRegistry sampleRun = .ok () ∧
      reconcileMissionHistory sampleRun mission = .ok () := by
  obtain ⟨mission, hheld, -⟩ := sampleRun_completed
  obtain ⟨hregistry, hhistory⟩ := @service_agrees_with_replay sampleRunDigest
    samplePlanner sampleRun sampleRun_reachable
  exact ⟨mission, hheld, hregistry, hhistory _ mission hheld⟩

end DodgingInfinity.MissionCore
