import DodgingInfinity.Coordination.AttentionKept
import DodgingInfinity.Coordination.HandoffKept
import Mathlib.Data.Prod.Lex

/-!
# Runs of projections, surfacings and acknowledgments

In every state that such a run reaches, the records pass their validator, an
identity has one live record, chains of successors end, an ended record stays,
and a projected observation has nothing left to do.
-/

namespace DodgingInfinity.Coordination

open Checked Relation

/-- The attention records and the time of the last call. -/
structure AttentionRun where
  records : AttentionRecords
  clock : Nat

def AttentionRun.start : AttentionRun := ⟨Dict.empty, 0⟩

section

variable [JsonDigest] [Wording]

/-- One call under any answer of the observation source, classified against any
floor, at a time that is not before the last one. -/
inductive AttentionStep (run : AttentionRun) : AttentionRun → Prop
  | project {missionId : String} {destination : Destination}
      {outcome : ObservationOutcome} {floor : Option HighWaterMark} {now : Nat}
      {minted : Minted} {done : ProjectionOutcome} {records : AttentionRecords}
      (hclock : run.clock ≤ now) (hcall : Coordination.project run.records missionId destination
        (classifyOutcome now missionId floor outcome) now minted =
          .ok (done, records)) : AttentionStep run ⟨records, now⟩
  | surface {attentionId missionId : String} {outcome : ObservationOutcome}
      {floor : Option HighWaterMark} {answer : PresenterAnswer} {now : Nat}
      {minted : Minted} {done : SurfaceOutcome} {records : AttentionRecords}
      (hclock : run.clock ≤ now) (hcall : Coordination.surface run.records attentionId
        (classifyOutcome now missionId floor outcome) answer now minted =
          .ok (done, records)) : AttentionStep run ⟨records, now⟩
  | acknowledge {attentionId missionId : String} {outcome : ObservationOutcome}
      {floor : Option HighWaterMark} {context : AuthenticatedContext} {now : Nat}
      {done : Attention} {records : AttentionRecords} (hclock : run.clock ≤ now)
      (hcall : Coordination.acknowledge run.records attentionId context
        (classifyOutcome now missionId floor outcome) now = .ok (done, records)) :
      AttentionStep run ⟨records, now⟩

theorem classified_freshIsValid (outcome : ObservationOutcome) (now : Nat)
    (missionId : String) (floor : Option HighWaterMark) :
    FreshIsValid (classifyOutcome now missionId floor outcome) := by
  intro hfresh
  obtain ⟨observed, hobserved, hof⟩ :=
    (classified_outcome outcome now missionId floor).fresh hfresh
  exact ⟨observed, hobserved, hof.valid⟩

variable {result : FreshnessResult}

variable {records next : AttentionRecords}

omit [Wording] in
theorem freshMoves_of_readOf {observed : MissionObservation}
    (hfresh : result.freshness = .fresh) (hobserved : result.observation = some observed)
    (hmoves : ReflTransGen (AttentionMove (readOf observed)) records next) :
    ReflTransGen (AttentionMove (freshReadOf result)) records next := by
  have hle : AttentionMove (readOf observed) ≤ AttentionMove (freshReadOf result) :=
    fun before after hmove => hmove.mono fun missionId point hread =>
      ⟨observed, hfresh, hobserved, hread⟩
  exact ReflTransGen.mono hle records next hmoves

variable {now : Nat} {minted : Minted}

omit [Wording] in
/-- A classified projection is a sequence of moves, and a fresh one leaves the
records as its observation has them. -/
theorem project_moves {missionId : String}
    {destination : Destination} {done : ProjectionOutcome} (hkept : AttentionKept records)
    (hfreshValid : FreshIsValid result)
    (h : project records missionId destination result now minted =
      .ok (done, next)) : ReflTransGen (AttentionMove (freshReadOf result)) records next ∧
      ∀ observed, result.freshness = .fresh → result.observation = some observed →
        Projected observed destination next := by
  rcases project_cases h with ⟨hstale, rfl⟩ | ⟨observed, state, hfresh, hobserved, rfl, hstate, rfl⟩
  · exact ⟨.refl, fun observed hfresh => absurd hfresh hstale⟩
  · obtain ⟨other, hother, hvalid⟩ := hfreshValid hfresh
    obtain rfl := Option.some.inj (hobserved.symm.trans hother)
    obtain ⟨hmoves, hprojected⟩ := reconcile_projects hkept hvalid hstate
    refine ⟨freshMoves_of_readOf hfresh hobserved hmoves, ?_⟩
    intro held _ hheld
    obtain rfl := Option.some.inj (hobserved.symm.trans hheld)
    exact hprojected

omit [Wording] in
theorem surface_moves {attentionId : String}
    {answer : PresenterAnswer} {outcome : SurfaceOutcome} (hkept : AttentionKept records)
    (hfreshValid : FreshIsValid result) (h : surface records attentionId result answer now minted =
      .ok (outcome, next)) :
    ReflTransGen (AttentionMove (freshReadOf result)) records next := by
  rcases surface_cases hkept hfreshValid h with ⟨-, rfl⟩ |
    ⟨value, observed, -, hfresh, hobserved, -, hmoves⟩
  · exact .refl
  · exact freshMoves_of_readOf hfresh hobserved hmoves

end

section

variable [JsonDigest] [Wording] {run next : AttentionRun}

theorem AttentionStep.moves (hkept : AttentionKept run.records) (h : AttentionStep run next) :
    ∃ fresh, ReflTransGen (AttentionMove fresh) run.records next.records := by
  cases h with
  | project hclock hcall =>
      exact ⟨_, (project_moves hkept (classified_freshIsValid _ _ _ _) hcall).1⟩
  | surface hclock hcall =>
      exact ⟨_, surface_moves hkept (classified_freshIsValid _ _ _ _) hcall⟩
  | acknowledge hclock hcall =>
      obtain ⟨value, -, hmove⟩ := acknowledge_moves hkept hcall
      exact ⟨_, .single hmove⟩

variable {records later : AttentionRecords} {fresh : FreshPoints}

omit [JsonDigest] [Wording] in
theorem RecordsValid.movedAll
    (h : RecordsValid records) (hmoves : ReflTransGen (AttentionMove fresh) records later) :
    RecordsValid later := by
  induction hmoves with
  | refl => exact h
  | tail _ hmove ih => exact ih.moved hmove

omit [JsonDigest] [Wording] in
/-- An ended record is what it was after any number of moves. -/
theorem ended_of_moves (hmoves : ReflTransGen (AttentionMove fresh) records later) {key : String}
    {value : Attention} (hheld : records.get? key = some value)
    (hended : value.isTerminal = true) : later.get? key = some value := by
  induction hmoves with
  | refl => exact hheld
  | tail _ hmove ih =>
      obtain ⟨after, hafter, -, hsame⟩ := hmove.carries ih
      rw [hafter, hsame hended]

theorem recordsValid_of_reachable (h : Transition.Reachable AttentionStep AttentionRun.start run) :
    RecordsValid run.records := by
  refine h.invariant (p := fun state => RecordsValid state.records)
    recordsValid_empty fun before after hbefore hstep => ?_
  obtain ⟨fresh, hmoves⟩ := hstep.moves hbefore.toAttentionKept
  exact hbefore.movedAll hmoves

/-- What holds in every state of a run. -/
structure AttentionHolds (run : AttentionRun) : Prop where
  accepted : validateAttentionRecords run.records = .ok ()
  single : ∀ key value other held, run.records.get? key = some value →
    run.records.get? other = some held → value.isTerminal = false →
    held.isTerminal = false → value.identity = held.identity → key = other
  predecessor : ∀ key value other held after, run.records.get? key = some value →
    run.records.get? other = some held → value.supersededBy = some after →
    held.supersededBy = some after → key = other
  acyclic : ∀ key value, run.records.get? key = some value →
    ∃ path, ChainFrom run.records key path ∧ path.Nodup
  ended : ∀ later, ReflTransGen AttentionStep run later → ∀ key value,
    run.records.get? key = some value → value.isTerminal = true →
    later.records.get? key = some value
  projectStale : ∀ missionId destination result now minted done records, result.freshness ≠ .fresh →
    project run.records missionId destination result now minted = .ok (done, records) →
    records = run.records
  surfaceStale : ∀ attentionId result answer now minted done records, result.freshness ≠ .fresh →
    surface run.records attentionId result answer now minted = .ok (done, records) →
    records = run.records
  again : ∀ missionId destination result now minted done records, FreshIsValid result →
    project run.records missionId destination result now minted = .ok (done, records) →
    ∀ later moreMinted, ∃ more, project records missionId destination result later moreMinted =
        .ok (more, records) ∧ more.created = [] ∧ more.obsoleted = [] ∧ more.resolved = []

omit [Wording] in
/-- Projecting the same observation again succeeds and changes nothing. -/
theorem project_again {next : AttentionRecords} {missionId : String}
    {destination : Destination} {result : FreshnessResult} {now : Nat}
    {minted : Minted} {done : ProjectionOutcome} (hkept : AttentionKept records)
    (hfreshValid : FreshIsValid result)
    (h : project records missionId destination result now minted = .ok (done, next))
    (later : Nat) (moreMinted : Minted) :
    ∃ more, project next missionId destination result later moreMinted = .ok (more, next) ∧
      more.created = [] ∧ more.obsoleted = [] ∧ more.resolved = [] := by
  obtain ⟨hmoves, hprojected⟩ := project_moves hkept hfreshValid h
  have hchecks := h
  simp only [project, bind_eq_ok, exists_passed, requireFreshOf_eq_ok] at hchecks
  obtain ⟨hid, hdestination, fresh, hfreshOf, -⟩ := hchecks
  simp only [project, bind_eq_ok, exists_passed, requireFreshOf_eq_ok]
  by_cases hfresh : result.freshness = .fresh
  · obtain ⟨observed, hobserved, -⟩ := hfreshValid hfresh
    have hmission := hfreshOf.1 observed hobserved
    obtain ⟨state, hstate, hrecords, hcreated, hobsoleted, hresolved⟩ :=
      reconcile_again later moreMinted (hkept.movedAll hmoves)
        (hprojected observed hfresh hobserved)
    rw [hmission] at hstate
    refine ⟨⟨.fresh, none, state.created, state.suppressed, state.obsoleted,
      state.resolved⟩, ⟨hid, hdestination, fresh, hfreshOf, ?_⟩, hcreated, hobsoleted, hresolved⟩
    rw [← hfreshOf.2, if_pos (decide_eq_true hfresh)]
    simp only [bind_eq_ok, orFailAt_eq_ok, pure_eq_ok, Prod.mk.injEq]
    exact ⟨observed, hobserved, state, hstate, rfl, hrecords⟩
  · refine ⟨⟨result.freshness, result.problem, [], [], [], []⟩,
      ⟨hid, hdestination, fresh, hfreshOf, ?_⟩, rfl, rfl, rfl⟩
    rw [← hfreshOf.2, if_neg (by rw [decide_eq_true_eq]; exact hfresh)]
    rfl

/-- In every state that projections, surfacings and acknowledgments reach, the
records pass their validator, one record of an identity is live, successor chains
end and do not merge, ended records stay, only a fresh observation changes
anything but an acknowledgment, and a second projection changes nothing. -/
theorem attention_holds (h : Transition.Reachable AttentionStep AttentionRun.start run) :
    AttentionHolds run := by
  have hrecords := recordsValid_of_reachable h
  exact {
    accepted := hrecords.accepted
    single := hrecords.live
    predecessor := hrecords.apart
    acyclic := fun key value hheld => by
      obtain ⟨path, hpath⟩ := hrecords.chained key value hheld
      exact ⟨path, hpath, hpath.nodup⟩
    ended := fun later hrun key value hheld hended => by
      induction hrun with
      | refl => exact hheld
      | tail hleading hlast ih =>
          obtain ⟨fresh, hmoves⟩ := hlast.moves
            (recordsValid_of_reachable (h.run hleading)).toAttentionKept
          exact ended_of_moves hmoves ih hended
    projectStale := fun missionId destination result now minted done records hstale
        hcall => by
      rcases project_cases hcall with ⟨-, hsame⟩ | ⟨observed, state, hfresh, -⟩
      · exact hsame
      · exact absurd hfresh hstale
    surfaceStale := fun attentionId result answer now minted done records hstale
        hcall => by
      rcases surface_cases hrecords.toAttentionKept (fun hfresh => absurd hfresh hstale)
        hcall with ⟨-, hsame⟩ | ⟨value, observed, -, hfresh, -⟩
      · exact hsame
      · exact absurd hfresh hstale
    again := fun missionId destination result now minted done records hvalid hcall =>
      project_again hrecords.toAttentionKept hvalid hcall }

end

/-! ## A sample run -/

@[reducible] def sampleWording : Wording := ⟨fun refusal => refusal.problem.code⟩

def sampleBlocked : MissionObservation :=
  { sampleObservation with
    conditions := [⟨.blocked, "a", 1, "stuck", [], []⟩] }

def sampleDestination : Destination := ⟨"cli", "room"⟩

set_option maxRecDepth 100000 in
/-- A blocked Mission is projected as one record. -/
theorem sampleProjection : letI := sampleHexDigest
    letI := sampleWording
    ∃ call ∈ (project Dict.empty sampleMissionId sampleDestination
      (classifyOutcome 5 sampleMissionId none (.observed sampleBlocked)) 5
      ["ca-00000000000000000000000000000000"]).toOption,
      call.2.entries.length = 1 := by
  decide +kernel

/-- The general theorem after that projection. -/
theorem attention_holds_projected : letI := sampleHexDigest
    letI := sampleWording
    ∃ run, AttentionHolds run ∧ run.records.entries.length = 1 := by
  let _ := sampleHexDigest
  let _ := sampleWording
  obtain ⟨call, hcall, hone⟩ := sampleProjection
  have hrun := ok_of_mem_toOption hcall
  have hstep : AttentionStep AttentionRun.start ⟨call.2, 5⟩ :=
    .project (Nat.zero_le 5) hrun
  exact ⟨_, attention_holds (Transition.Reachable.start.tail hstep), hone⟩

end DodgingInfinity.Coordination

/-!
## The observation floor

The points that a document holds for a Mission, and how they change.  An
operation loses no point unless it records a fresh one, and records fresh points
only; a fresh point is not behind the floor and agrees with what is recorded at
its own pair.
-/

namespace DodgingInfinity.Coordination

open Checked Relation

/-! ## The order of pairs -/

theorem isBehind_iff (pair floor : Nat × Nat) :
    isBehind pair floor = true ↔ toLex pair < toLex floor := by
  rw [isBehind, decide_eq_true_eq, Prod.Lex.toLex_lt_toLex]

theorem isBehind_eq_false (pair floor : Nat × Nat) :
    isBehind pair floor = false ↔ toLex floor ≤ toLex pair := by
  rw [← Bool.not_eq_true, isBehind_iff, not_lt]

/-- Two points at one pair are one point. -/
def PointsAgree (held : List ObservationPoint) : Prop :=
  ∀ first ∈ held, ∀ second ∈ held, first.pair = second.pair → first = second

/-- The greatest point of points that agree is found. -/
theorem foldMark (best : Option ObservationPoint) (rest : List ObservationPoint)
    (hagree : PointsAgree (best.toList ++ rest)) :
    ∃ result, foldChecked raiseMark best rest = .ok result ∧
      (∀ point ∈ best.toList ++ rest, ∃ held, result = some held ∧
        isBehind held.pair point.pair = false) ∧
      ∀ held, result = some held → held ∈ best.toList ++ rest := by
  induction rest generalizing best with
  | nil =>
      refine ⟨best, rfl, fun point hpoint => ?_, fun held hheld => ?_⟩
      · rw [List.append_nil, Option.mem_toList] at hpoint
        exact ⟨point, hpoint, (isBehind_eq_false ..).mpr (le_refl _)⟩
      · rw [List.append_nil, hheld]
        exact List.mem_singleton.mpr rfl
  | cons point rest ih =>
      cases best with
      | none =>
          obtain ⟨result, hresult, hall, hmem⟩ := ih (some point) hagree
          exact ⟨result, (foldChecked_cons_eq_ok ..).mpr ⟨_, rfl, hresult⟩, hall, hmem⟩
      | some held =>
          by_cases hbehind : isBehind held.pair point.pair = true
          · have hnext : PointsAgree ((some point).toList ++ rest) :=
              fun first hfirst second hsecond => hagree first
                (List.mem_cons_of_mem _ hfirst) second (List.mem_cons_of_mem _ hsecond)
            obtain ⟨result, hresult, hall, hmem⟩ := ih _ hnext
            refine ⟨result, (foldChecked_cons_eq_ok ..).mpr ⟨_, if_pos hbehind, hresult⟩,
              fun other hother => ?_, fun found hfound =>
                List.mem_cons_of_mem _ (hmem found hfound)⟩
            rcases List.mem_cons.mp hother with rfl | hother
            · obtain ⟨found, hfound, hle⟩ := hall point (List.mem_cons_self ..)
              refine ⟨found, hfound, ?_⟩
              rw [isBehind_eq_false] at hle ⊢
              rw [isBehind_iff] at hbehind
              exact hbehind.le.trans hle
            · exact hall other hother
          · have hnext : PointsAgree ((some held).toList ++ rest) := by
              intro first hfirst second hsecond
              have hkeep : ∀ other ∈ (some held).toList ++ rest,
                  other ∈ (some held).toList ++ point :: rest := by
                intro other hother
                rcases List.mem_cons.mp hother with rfl | hother
                · exact List.mem_cons_self ..
                · exact List.mem_cons_of_mem _ (List.mem_cons_of_mem _ hother)
              exact hagree first (hkeep first hfirst) second (hkeep second hsecond)
            obtain ⟨result, hresult, hall, hmem⟩ := ih _ hnext
            have hsame : ¬ (point.pair = held.pair ∧ point ≠ held) := by
              rintro ⟨hpair, hne⟩
              exact hne (hagree point (List.mem_cons_of_mem _ (List.mem_cons_self ..))
                held (List.mem_cons_self ..) hpair)
            have hstep : raiseMark (some held) point = .ok (some held) := by
              simp only [raiseMark, if_neg hbehind, bind_eq_ok, exists_passed,
                failAt_eq_ok, pure_eq_ok]
              exact ⟨hsame, trivial⟩
            refine ⟨result, (foldChecked_cons_eq_ok ..).mpr ⟨_, hstep, hresult⟩,
              fun other hother => ?_, fun found hfound => ?_⟩
            · rcases List.mem_cons.mp hother with rfl | hother
              · exact hall other (List.mem_cons_self ..)
              · rcases List.mem_cons.mp hother with rfl | hother
                · obtain ⟨found, hfound, hle⟩ := hall held (List.mem_cons_self ..)
                  refine ⟨found, hfound, ?_⟩
                  rw [Bool.not_eq_true, isBehind_eq_false] at hbehind
                  rw [isBehind_eq_false] at hle ⊢
                  exact hbehind.trans hle
                · exact hall other (List.mem_cons_of_mem _ hother)
            · rcases List.mem_cons.mp (hmem found hfound) with rfl | hfound
              · exact List.mem_cons_self ..
              · exact List.mem_cons_of_mem _ (List.mem_cons_of_mem _ hfound)

variable {document : Document} {missionId : String}

/-- The floor of points that agree is one of them, and none is ahead of it. -/
theorem highWaterMark_eq_ok
    (hid : isId .mission missionId = true) (hagree : PointsAgree (points document missionId)) :
    ∃ mark, highWaterMark document missionId = .ok mark ∧
      (∀ point ∈ points document missionId, ∃ held, mark = some (markOf held) ∧
        held ∈ points document missionId ∧ isBehind held.pair point.pair = false) ∧
      (mark ≠ none → ∃ held ∈ points document missionId,
        mark = some (markOf held)) := by
  obtain ⟨result, hresult, hall, hmem⟩ :=
    foldMark none (points document missionId) hagree
  refine ⟨result.map markOf, ?_, fun point hpoint => ?_, fun hsome => ?_⟩
  · simp only [highWaterMark, bind_eq_ok, exists_passed, requireId_eq_ok, pure_eq_ok]
    exact ⟨hid, result, hresult, rfl⟩
  · obtain ⟨held, hheld, hle⟩ := hall point hpoint
    exact ⟨held, by rw [hheld]; rfl, hmem held hheld, hle⟩
  · cases hheld : result with
    | none =>
        rw [hheld] at hsome
        exact absurd rfl hsome
    | some held => exact ⟨held, hmem held hheld, rfl⟩

@[simp] theorem markOf_pair (point : ObservationPoint) :
    (markOf point).pair = point.pair := rfl

/-! ## How the points change -/

/-- Every point that is new is fresh, and a point that is gone has given way to a
fresh one of its Mission. -/
structure Advances (fresh before after : FreshPoints) : Prop where
  grown : ∀ missionId point, after missionId point → before missionId point ∨ fresh missionId point
  kept : ∀ missionId point, before missionId point → after missionId point ∨
    ∃ later, after missionId later ∧ fresh missionId later

namespace Advances

variable {fresh before middle after : FreshPoints}

theorem refl : Advances fresh before before :=
  ⟨fun _ _ => .inl, fun _ _ => .inl⟩

theorem trans (h : Advances fresh before middle) (hnext : Advances fresh middle after) :
    Advances fresh before after where
  grown := by
    intro missionId point hafter
    rcases hnext.grown missionId point hafter with hmiddle | hfresh
    · exact h.grown missionId point hmiddle
    · exact .inr hfresh
  kept := by
    intro missionId point hbefore
    rcases h.kept missionId point hbefore with hmiddle | ⟨later, hlater, hfresh⟩
    · exact hnext.kept missionId point hmiddle
    · rcases hnext.kept missionId later hlater with hafter | hgone
      · exact .inr ⟨later, hafter, hfresh⟩
      · exact .inr hgone

/-- Two kinds of points that change side by side. -/
theorem either {others changed : FreshPoints} (h : Advances fresh before after)
    (hothers : Advances fresh others changed) : Advances fresh
      (fun missionId point => before missionId point ∨ others missionId point)
      fun missionId point => after missionId point ∨ changed missionId point where
  grown := by
    rintro missionId point (hafter | hchanged)
    · exact (h.grown missionId point hafter).imp_left .inl
    · exact (hothers.grown missionId point hchanged).imp_left .inr
  kept := by
    rintro missionId point (hbefore | hother)
    · rcases h.kept missionId point hbefore with hafter | ⟨later, hlater, hfresh⟩
      · exact .inl (.inl hafter)
      · exact .inr ⟨later, .inl hlater, hfresh⟩
    · rcases hothers.kept missionId point hother with hafter | ⟨later, hlater, hfresh⟩
      · exact .inl (.inr hafter)
      · exact .inr ⟨later, .inr hlater, hfresh⟩

theorem mono {more : FreshPoints} (h : Advances fresh before after)
    (hmono : ∀ missionId point, fresh missionId point → more missionId point) :
    Advances more before after where
  grown := by
    intro missionId point hafter
    exact (h.grown missionId point hafter).imp_right (hmono missionId point)
  kept := by
    intro missionId point hbefore
    rcases h.kept missionId point hbefore with hafter | ⟨later, hlater, hfresh⟩
    · exact .inl hafter
    · exact .inr ⟨later, hlater, hmono missionId later hfresh⟩

end Advances

/-- The points of a family of records, each of which attributes its own. -/
def familyPoints {α : Type} (family : Dict String α)
    (attributed : α → FreshPoints) : FreshPoints := fun missionId point =>
  ∃ key value, family.get? key = some value ∧ attributed value missionId point

variable {fresh : FreshPoints}

/-- One record of a family is replaced by one that has its points and fresh ones,
or is added with fresh ones only. -/
theorem advances_set {α : Type} {family : Dict String α}
    {attributed : α → FreshPoints} {key : String} {value : α}
    (hkept : ∀ old, family.get? key = some old → ∀ missionId point,
      attributed old missionId point → attributed value missionId point)
    (hgrown : ∀ missionId point, attributed value missionId point →
      (∃ old, family.get? key = some old ∧ attributed old missionId point) ∨
        fresh missionId point) : Advances fresh (familyPoints family attributed)
      (familyPoints (family.set key value) attributed) where
  grown := by
    rintro missionId point ⟨other, held, hheld, hpoint⟩
    rw [Dict.get?_set] at hheld
    split at hheld
    · obtain rfl := Option.some.inj hheld
      rcases hgrown missionId point hpoint with ⟨old, hold, hbefore⟩ | hfresh
      · exact .inl ⟨key, old, hold, hbefore⟩
      · exact .inr hfresh
    · exact .inl ⟨other, held, hheld, hpoint⟩
  kept := by
    rintro missionId point ⟨other, held, hheld, hpoint⟩
    by_cases hsame : other = key
    · subst hsame
      exact .inl ⟨other, value, Dict.get?_set_self .., hkept held hheld _ _ hpoint⟩
    · refine .inl ⟨other, held, ?_, hpoint⟩
      rw [Dict.get?_set_of_ne _ _ hsame, hheld]

def Binding.attributed (bound : Binding) : FreshPoints := fun missionId point =>
  bound.missionId = missionId ∧ bound.observationPoint = point

def RouteRecord.attributed (route : RouteRecord) : FreshPoints :=
  fun missionId point => route.subject = some missionId ∧
    route.derivation.observationPoint = some point

def Attention.attributed (value : Attention) : FreshPoints :=
  fun missionId point => value.missionId = missionId ∧ point ∈ value.points

def Handoff.attributed (value : Handoff) : FreshPoints := fun missionId point =>
  value.request.missionId = missionId ∧ (point = value.observationPoint ∨
      ∃ entry ∈ value.transitions, entry.observationPoint = point)

/-- The points that a document holds. -/
def Document.holds (document : Document) : FreshPoints := fun missionId point =>
  point ∈ points document missionId

variable {point : ObservationPoint}

theorem mem_bindingPoints {bindings : Bindings} : point ∈ bindingPoints bindings missionId ↔
      familyPoints bindings Binding.attributed missionId point := by
  simp only [bindingPoints, List.mem_map, List.mem_filter, decide_eq_true_eq,
    Dict.mem_values_iff, familyPoints, Binding.attributed]
  constructor
  · rintro ⟨bound, ⟨⟨key, hkey⟩, hmission⟩, hpoint⟩
    exact ⟨key, bound, hkey, hmission, hpoint⟩
  · rintro ⟨key, bound, hkey, hmission, hpoint⟩
    exact ⟨bound, ⟨⟨key, hkey⟩, hmission⟩, hpoint⟩

theorem mem_routePoints {routes : Dict String RouteRecord} : point ∈ routePoints routes missionId ↔
      familyPoints routes RouteRecord.attributed missionId point := by
  simp only [routePoints, List.mem_flatMap, List.mem_filter, decide_eq_true_eq,
    Dict.mem_values_iff, familyPoints, RouteRecord.attributed, Option.mem_toList]
  constructor
  · rintro ⟨route, ⟨⟨key, hkey⟩, hsubject⟩, hpoint⟩
    exact ⟨key, route, hkey, hsubject, hpoint⟩
  · rintro ⟨key, route, hkey, hsubject, hpoint⟩
    exact ⟨route, ⟨⟨key, hkey⟩, hsubject⟩, hpoint⟩

theorem mem_attentionPoints {records : AttentionRecords} :
    point ∈ attentionPoints records missionId ↔
      familyPoints records Attention.attributed missionId point := by
  simp only [attentionPoints, List.mem_flatMap, List.mem_filter, decide_eq_true_eq,
    Dict.mem_values_iff, familyPoints, Attention.attributed]
  constructor
  · rintro ⟨value, ⟨⟨key, hkey⟩, hmission⟩, hpoint⟩
    exact ⟨key, value, hkey, hmission, hpoint⟩
  · rintro ⟨key, value, hkey, hmission, hpoint⟩
    exact ⟨value, ⟨⟨key, hkey⟩, hmission⟩, hpoint⟩

theorem mem_handoffPoints {handoffs : Dict String Handoff} :
    point ∈ handoffPoints handoffs missionId ↔
      familyPoints handoffs Handoff.attributed missionId point := by
  simp only [handoffPoints, List.mem_flatMap, List.mem_filter, decide_eq_true_eq,
    Dict.mem_values_iff, familyPoints, Handoff.attributed, List.mem_cons, List.mem_map]
  constructor
  · rintro ⟨value, ⟨⟨key, hkey⟩, hmission⟩, hpoint⟩
    exact ⟨key, value, hkey, hmission, hpoint⟩
  · rintro ⟨key, value, hkey, hmission, hpoint⟩
    exact ⟨value, ⟨⟨key, hkey⟩, hmission⟩, hpoint⟩

/-- The points of a Mission's roster. -/
def rosterHolds (participants : Dict String Roster) : FreshPoints :=
  fun missionId point => ∃ roster, participants.get? missionId = some roster ∧
    roster.observationPoint = point

theorem mem_rosterPoints {participants : Dict String Roster} :
    point ∈ rosterPoints participants missionId ↔
      rosterHolds participants missionId point := by
  simp only [rosterPoints, Option.mem_toList, Option.map_eq_some_iff, rosterHolds]

/-- A document holds the points of its five families. -/
theorem holds_eq (document : Document) : document.holds = fun missionId point =>
    familyPoints document.bindings Binding.attributed missionId point ∨
    familyPoints document.routeDecisions RouteRecord.attributed missionId point ∨
    familyPoints document.attention Attention.attributed missionId point ∨
    familyPoints document.book.handoffs Handoff.attributed missionId point ∨
    rosterHolds document.book.participants missionId point := by
  funext missionId point
  apply propext
  simp only [Document.holds, points, List.mem_append, mem_bindingPoints,
    mem_routePoints, mem_attentionPoints, mem_handoffPoints, mem_rosterPoints, or_assoc]

/-- A document advances as its families do. -/
theorem advances_of_families {next : Document}
    (hbindings : Advances fresh (familyPoints document.bindings Binding.attributed)
      (familyPoints next.bindings Binding.attributed)) (hroutes : Advances fresh
      (familyPoints document.routeDecisions RouteRecord.attributed)
      (familyPoints next.routeDecisions RouteRecord.attributed)) (hattention : Advances fresh
      (familyPoints document.attention Attention.attributed)
      (familyPoints next.attention Attention.attributed)) (hhandoffs : Advances fresh
      (familyPoints document.book.handoffs Handoff.attributed)
      (familyPoints next.book.handoffs Handoff.attributed))
    (hrosters : Advances fresh (rosterHolds document.book.participants)
      (rosterHolds next.book.participants)) :
    Advances fresh document.holds next.holds := by
  rw [holds_eq, holds_eq]
  exact hbindings.either (hroutes.either (hattention.either (hhandoffs.either hrosters)))

end DodgingInfinity.Coordination
