import DodgingInfinity.Coordination.Validity
import DodgingInfinity.Library.Transition

/-!
# Moves of the attention records

Whatever an operation does to the records is a sequence of three moves: a record
is presented, a live one gives way to a successor, or a live one enters a later
state of its own.  Each move keeps one live record for each identity, the
successor chains, every ended record and every retained point.
-/

namespace DodgingInfinity.Coordination

open Checked

/-- The points of each Mission that a read has proven. -/
abbrev FreshPoints : Type := String → ObservationPoint → Prop

/-- A later state of one record: it retains its points, and gains fresh ones
only. -/
structure Continues (fresh : FreshPoints) (value later : Attention) : Prop where
  attentionId : later.attentionId = value.attentionId
  identity : later.identity = value.identity
  createdAt : later.createdAt = value.createdAt
  kept : ∀ point ∈ value.points, point ∈ later.points
  grown : ∀ point ∈ later.points, point ∈ value.points ∨ fresh value.missionId point

/-- A new live record of an identity. -/
structure Presents (fresh : FreshPoints) (records : AttentionRecords)
    (value : Attention) : Prop where
  valid : AttentionValid value
  unused : records.get? value.attentionId = none
  live : value.isTerminal = false
  fresh : ∀ point ∈ value.points, fresh value.missionId point

inductive AttentionMove (fresh : FreshPoints) (records : AttentionRecords) : AttentionRecords → Prop
  | presented (value : Attention) (hpresents : Presents fresh records value)
      (hnone : ∀ key held, records.get? key = some held →
        held.isTerminal = false → held.identity ≠ value.identity) :
      AttentionMove fresh records (records.set value.attentionId value)
  | superseded (current closed value : Attention)
      (hpresents : Presents fresh records value)
      (hheld : records.get? current.attentionId = some current)
      (hlive : current.isTerminal = false) (hvalid : AttentionValid closed)
      (hended : closed.isTerminal = true) (hcontinues : Continues fresh current closed)
      (hsuccessor : closed.supersededBy = some value.attentionId)
      (hidentity : value.identity = current.identity)
      (hlater : current.createdAt ≤ value.createdAt) : AttentionMove fresh records
        ((records.set value.attentionId value).set current.attentionId closed)
  | updated (value later : Attention)
      (hheld : records.get? value.attentionId = some value)
      (hlive : value.isTerminal = false) (hvalid : AttentionValid later)
      (hcontinues : Continues fresh value later) (hlast : later.supersededBy = none) :
      AttentionMove fresh records (records.set value.attentionId later)

variable {fresh more : FreshPoints} {value : Attention}

theorem Continues.mono {later : Attention} (h : Continues fresh value later)
    (hmono : ∀ missionId point, fresh missionId point → more missionId point) :
    Continues more value later where
  attentionId := h.attentionId
  identity := h.identity
  createdAt := h.createdAt
  kept := h.kept
  grown := fun point hpoint => (h.grown point hpoint).imp_right (hmono _ point)

variable {records : AttentionRecords}

theorem Presents.mono (h : Presents fresh records value)
    (hmono : ∀ missionId point, fresh missionId point → more missionId point) :
    Presents more records value where
  valid := h.valid
  unused := h.unused
  live := h.live
  fresh := fun point hpoint => hmono _ point (h.fresh point hpoint)

/-- A move under some reads is one under more. -/
theorem AttentionMove.mono
    {next : AttentionRecords} (h : AttentionMove fresh records next)
    (hmono : ∀ missionId point, fresh missionId point → more missionId point) :
    AttentionMove more records next := by
  cases h with
  | presented value hpresents hnone =>
      exact .presented value (hpresents.mono hmono) hnone
  | superseded current closed value hpresents hheld hlive hvalid hended hcontinues
      hsuccessor hidentity hlater =>
      exact .superseded current closed value (hpresents.mono hmono) hheld hlive hvalid
        hended (hcontinues.mono hmono) hsuccessor hidentity hlater
  | updated value later hheld hlive hvalid hcontinues hlast =>
      exact .updated value later hheld hlive hvalid (hcontinues.mono hmono) hlast

/-! ## Successor chains -/

/-- The ids from a record along its successors to the last one. -/
inductive ChainFrom (records : AttentionRecords) : String → List String → Prop
  | last {key : String} {value : Attention} (hheld : records.get? key = some value)
      (hlast : value.supersededBy = none) : ChainFrom records key [key]
  | link {key successor : String} {value : Attention} {path : List String}
      (hheld : records.get? key = some value) (hsuccessor : value.supersededBy = some successor)
      (hrest : ChainFrom records successor path) : ChainFrom records key (key :: path)

variable {key : String} {path : List String}

/-- Every id on a chain begins one of its ends. -/
theorem ChainFrom.from_mem {other : String} (h : ChainFrom records key path) (hmem : other ∈ path) :
    ∃ rest, ChainFrom records other rest ∧ rest.length ≤ path.length ∧
      (other = key ∨ rest.length < path.length) := by
  induction h with
  | last hheld hlast =>
      obtain rfl := List.mem_singleton.mp hmem
      exact ⟨_, .last hheld hlast, le_refl _, .inl rfl⟩
  | @link key successor value path hheld hsuccessor hrest ih =>
      rcases List.mem_cons.mp hmem with rfl | hmem
      · exact ⟨_, .link hheld hsuccessor hrest, le_refl _, .inl rfl⟩
      · obtain ⟨rest, hchain, hle, -⟩ := ih hmem
        refine ⟨rest, hchain, ?_, .inr ?_⟩
        · exact hle.trans (Nat.le_succ _)
        · exact Nat.lt_succ_of_le hle

/-- A record has one chain. -/
theorem ChainFrom.unique
    {first second : List String} (hfirst : ChainFrom records key first)
    (hsecond : ChainFrom records key second) : first = second := by
  induction hfirst generalizing second with
  | last hheld hlast =>
      cases hsecond with
      | last => rfl
      | link hagain hsuccessor =>
          obtain rfl := Option.some.inj (hheld.symm.trans hagain)
          rw [hlast] at hsuccessor
          cases hsuccessor
  | link hheld hsuccessor hrest ih =>
      cases hsecond with
      | last hagain hlast =>
          obtain rfl := Option.some.inj (hheld.symm.trans hagain)
          rw [hlast] at hsuccessor
          cases hsuccessor
      | link hagain hother hmore =>
          obtain rfl := Option.some.inj (hheld.symm.trans hagain)
          obtain rfl := Option.some.inj (hsuccessor.symm.trans hother)
          rw [ih hmore]

/-- A chain that ends never returns to a record it has passed. -/
theorem ChainFrom.nodup (h : ChainFrom records key path) : path.Nodup := by
  induction h with
  | last => exact List.nodup_singleton _
  | @link key successor value path hheld hsuccessor hrest ih =>
      refine List.nodup_cons.mpr ⟨fun hmem => ?_, ih⟩
      obtain ⟨rest, hchain, hle, -⟩ := hrest.from_mem hmem
      rw [hchain.unique (.link hheld hsuccessor hrest)] at hle
      exact absurd hle (Nat.not_succ_le_self _)

theorem ChainFrom.held (h : ChainFrom records key path) :
    ∀ other ∈ path, other ∈ records.keys := by
  have hkeys : ∀ {other : String} {value : Attention},
      records.get? other = some value → other ∈ records.keys := by
    intro other value hheld
    exact (Dict.mem_keys_iff records other).mpr
      ((Dict.contains_eq_true_iff records other).mpr ⟨value, hheld⟩)
  induction h with
  | last hheld hlast =>
      rintro other hother
      obtain rfl := List.mem_singleton.mp hother
      exact hkeys hheld
  | link hheld hsuccessor hrest ih =>
      rintro other hother
      rcases List.mem_cons.mp hother with rfl | hother
      · exact hkeys hheld
      · exact ih other hother

/-- The walk along a chain succeeds with room for its records. -/
theorem followChain_of_chainFrom {location : String}
    {seen : List String} {room : Nat} (h : ChainFrom records key path)
    (hroom : path.length ≤ room) (happart : ∀ other ∈ path, other ∉ seen) :
    followChain records location room seen (some key) = .ok () := by
  induction h generalizing room seen with
  | @last key value hheld hlast =>
      obtain ⟨left, rfl⟩ := Nat.exists_eq_add_of_le' hroom
      have hnew : key ∉ seen := happart key (List.mem_singleton.mpr rfl)
      simp only [followChain, List.length_singleton, bind_eq_ok, exists_passed,
        failAt_eq_ok, orFailAt_eq_ok]
      refine ⟨hnew, value, hheld, ?_⟩
      rw [hlast]
      cases left <;> rfl
  | @link key successor value path hheld hsuccessor hrest ih =>
      rw [List.length_cons] at hroom
      obtain ⟨left, rfl⟩ : ∃ left, room = left + 1 := ⟨room - 1, by omega⟩
      have hnew : key ∉ seen := happart key (List.mem_cons_self ..)
      have hnodup := (ChainFrom.link hheld hsuccessor hrest).nodup
      simp only [followChain, bind_eq_ok, exists_passed, failAt_eq_ok, orFailAt_eq_ok]
      refine ⟨hnew, value, hheld, ?_⟩
      rw [hsuccessor]
      refine ih (by omega) fun other hother hmem => ?_
      rcases List.mem_cons.mp hmem with rfl | hmem
      · exact (List.nodup_cons.mp hnodup).1 hother
      · exact happart other (List.mem_cons_of_mem _ hother) hmem

/-! ## What a move leaves under a key -/

section

variable {fresh : FreshPoints} {records next : AttentionRecords}

variable {key other : String} {value held : Attention}

theorem get?_set_cases (h : (records.set key value).get? other = some held) :
    (other = key ∧ held = value) ∨ (other ≠ key ∧ records.get? other = some held) := by
  rw [Dict.get?_set] at h
  split at h
  · exact .inl ⟨‹_›, (Option.some.inj h).symm⟩
  · exact .inr ⟨‹_›, h⟩

theorem Presents.ne_held (h : Presents fresh records value) (hheld : records.get? key = some held) :
    key ≠ value.attentionId := by
  rintro rfl
  rw [h.unused] at hheld
  cases hheld

variable {current closed : Attention}

/-- Under a key after a supersession: the successor, the ended record, or what
was there. -/
theorem superseded_cases (h : ((records.set value.attentionId value).set current.attentionId
      closed).get? other = some held) : (other = current.attentionId ∧ held = closed) ∨
      (other = value.attentionId ∧ held = value) ∨
      (other ≠ current.attentionId ∧ other ≠ value.attentionId ∧
        records.get? other = some held) := by
  rcases get?_set_cases h with hcurrent | ⟨hother, hset⟩
  · exact .inl hcurrent
  · rcases get?_set_cases hset with hvalue | ⟨hnew, hold⟩
    · exact .inr (.inl hvalue)
    · exact .inr (.inr ⟨hother, hnew, hold⟩)

/-- No record is lost by a move: it stays, or goes on in a later state, and an
ended one stays. -/
theorem AttentionMove.carries (hmove : AttentionMove fresh records next)
    (hheld : records.get? key = some value) :
    ∃ later, next.get? key = some later ∧ Continues fresh value later ∧
      (value.isTerminal = true → later = value) := by
  have hself : Continues fresh value value :=
    ⟨rfl, rfl, rfl, fun _ => id, fun _ => .inl⟩
  cases hmove with
  | presented added hpresents hnone =>
      refine ⟨value, ?_, hself, fun _ => rfl⟩
      rw [Dict.get?_set_of_ne _ _ (hpresents.ne_held hheld), hheld]
  | superseded current closed added hpresents hcurrent hlive hvalid hended
      hcontinues hsuccessor hidentity hlater =>
      by_cases hsame : key = current.attentionId
      · subst hsame
        obtain rfl := Option.some.inj (hcurrent.symm.trans hheld)
        refine ⟨closed, Dict.get?_set_self .., hcontinues, fun hterminal => ?_⟩
        rw [hlive] at hterminal
        cases hterminal
      · refine ⟨value, ?_, hself, fun _ => rfl⟩
        rw [Dict.get?_set_of_ne _ _ hsame, Dict.get?_set_of_ne _ _ (hpresents.ne_held hheld), hheld]
  | updated current later hcurrent hlive hvalid hcontinues hlast =>
      by_cases hsame : key = current.attentionId
      · subst hsame
        obtain rfl := Option.some.inj (hcurrent.symm.trans hheld)
        refine ⟨later, Dict.get?_set_self .., hcontinues, fun hterminal => ?_⟩
        rw [hlive] at hterminal
        cases hterminal
      · refine ⟨value, ?_, hself, fun _ => rfl⟩
        rw [Dict.get?_set_of_ne _ _ hsame, hheld]

variable {later : Attention}

/-- Every point after a move was there before, or is fresh. -/
theorem AttentionMove.points_grow (hmove : AttentionMove fresh records next)
    (hlater : next.get? key = some later)
    {point : ObservationPoint} (hpoint : point ∈ later.points) :
    fresh later.missionId point ∨ ∃ value, records.get? key = some value ∧
      value.missionId = later.missionId ∧ point ∈ value.points := by
  have hgrown : ∀ {value after : Attention}, Continues fresh value after →
      records.get? key = some value → point ∈ after.points →
      fresh after.missionId point ∨ ∃ value, records.get? key = some value ∧
        value.missionId = after.missionId ∧ point ∈ value.points := by
    intro value after hcontinues hheld hmem
    have hmission : after.missionId = value.missionId :=
      congrArg Prod.fst hcontinues.identity
    rcases hcontinues.grown point hmem with hold | hfresh
    · exact .inr ⟨value, hheld, hmission.symm, hold⟩
    · exact .inl (hmission ▸ hfresh)
  cases hmove with
  | presented added hpresents hnone =>
      rcases get?_set_cases hlater with ⟨-, rfl⟩ | ⟨-, hold⟩
      · exact .inl (hpresents.fresh point hpoint)
      · exact .inr ⟨later, hold, rfl, hpoint⟩
  | superseded current closed added hpresents hcurrent hlive hvalid hended
      hcontinues hsuccessor hidentity hcreated =>
      rcases superseded_cases hlater with ⟨rfl, rfl⟩ | ⟨-, rfl⟩ | ⟨-, -, hold⟩
      · exact hgrown hcontinues hcurrent hpoint
      · exact .inl (hpresents.fresh point hpoint)
      · exact .inr ⟨later, hold, rfl, hpoint⟩
  | updated current after hcurrent hlive hvalid hcontinues hlast =>
      rcases get?_set_cases hlater with ⟨rfl, rfl⟩ | ⟨-, hold⟩
      · exact hgrown hcontinues hcurrent hpoint
      · exact .inr ⟨later, hold, rfl, hpoint⟩

/-! ## What every move keeps -/

theorem AttentionKept.moved (h : AttentionKept records)
    (hmove : AttentionMove fresh records next) : AttentionKept next := by
  cases hmove with
  | presented value hpresents hnone =>
      refine ⟨fun key held hheld => ?_, ?_⟩
      · rcases get?_set_cases hheld with ⟨rfl, rfl⟩ | ⟨-, hold⟩
        · exact ⟨hpresents.valid, rfl⟩
        · exact h.each key held hold
      · intro key held other after hheld hafter hlive hagain hidentity
        rcases get?_set_cases hheld with ⟨hkey, hnew⟩ | ⟨-, hold⟩ <;>
          rcases get?_set_cases hafter with ⟨hother, hnewer⟩ | ⟨-, holder⟩
        · rw [hkey, hother]
        · exact absurd (hidentity.symm.trans (congrArg _ hnew)) (hnone other after holder hagain)
        · exact absurd (hidentity.trans (congrArg _ hnewer)) (hnone key held hold hlive)
        · exact h.live key held other after hold holder hlive hagain hidentity
  | superseded current closed value hpresents hcurrent hlive hvalid hended
      hcontinues hsuccessor hidentity hlater =>
      have honly : ∀ key held, key ≠ current.attentionId →
          records.get? key = some held → held.isTerminal = false →
          held.identity ≠ value.identity := by
        intro key held hkey hheld hagain hsame
        exact hkey (h.live key held _ current hheld hcurrent hagain hlive (hsame.trans hidentity))
      refine ⟨fun key held hheld => ?_, ?_⟩
      · rcases superseded_cases hheld with ⟨rfl, rfl⟩ | ⟨rfl, rfl⟩ | ⟨-, -, hold⟩
        · exact ⟨hvalid, hcontinues.attentionId⟩
        · exact ⟨hpresents.valid, rfl⟩
        · exact h.each key held hold
      · intro key held other after hheld hafter hstill hagain hsame
        rcases superseded_cases hheld with ⟨-, hended'⟩ | ⟨hkey, hnew⟩ | ⟨hkey, -, hold⟩
        · rw [hended', hended] at hstill
          cases hstill
        · rcases superseded_cases hafter with ⟨-, hended'⟩ | ⟨hother, -⟩ | ⟨hother, -, holder⟩
          · rw [hended', hended] at hagain
            cases hagain
          · rw [hkey, hother]
          · exact absurd (hsame.symm.trans (congrArg _ hnew))
              (honly other after hother holder hagain)
        · rcases superseded_cases hafter with ⟨-, hended'⟩ | ⟨-, hnewer⟩ | ⟨-, -, holder⟩
          · rw [hended', hended] at hagain
            cases hagain
          · exact absurd (hsame.trans (congrArg _ hnewer)) (honly key held hkey hold hstill)
          · exact h.live key held other after hold holder hstill hagain hsame
  | updated value later hheld hlive hvalid hcontinues hlast =>
      have honly : ∀ key held, records.get? key = some held →
          held.isTerminal = false → held.identity = later.identity →
          key = value.attentionId := by
        intro key held hold hagain hsame
        exact h.live key held _ value hold hheld hagain hlive (hsame.trans hcontinues.identity)
      refine ⟨fun key held hafter => ?_, ?_⟩
      · rcases get?_set_cases hafter with ⟨rfl, rfl⟩ | ⟨-, hold⟩
        · exact ⟨hvalid, hcontinues.attentionId⟩
        · exact h.each key held hold
      · intro key held other after hfirst hsecond hstill hagain hsame
        rcases get?_set_cases hfirst with ⟨hkey, hnew⟩ | ⟨-, hold⟩ <;>
          rcases get?_set_cases hsecond with ⟨hother, hnewer⟩ | ⟨-, holder⟩
        · rw [hkey, hother]
        · rw [hkey, honly other after holder hagain (hsame.symm.trans (congrArg _ hnew))]
        · rw [hother, honly key held hold hstill (hsame.trans (congrArg _ hnewer))]
        · exact h.live key held other after hold holder hstill hagain hsame

/-- What the records of every reachable document keep. -/
structure RecordsValid (records : AttentionRecords) : Prop
    extends AttentionKept records where
  successor : ∀ key value after, records.get? key = some value →
    value.supersededBy = some after → ∃ other, records.get? after = some other ∧
      other.identity = value.identity ∧ value.createdAt ≤ other.createdAt
  apart : ∀ key value other held after, records.get? key = some value →
    records.get? other = some held → value.supersededBy = some after →
    held.supersededBy = some after → key = other
  chained : ∀ key value, records.get? key = some value → ∃ path, ChainFrom records key path

theorem recordsValid_empty : RecordsValid Dict.empty where
  each := by
    intro key value h
    cases h
  live := by
    intro key value other held h
    cases h
  successor := by
    intro key value after h
    cases h
  apart := by
    intro key value other held after h
    cases h
  chained := by
    intro key value h
    cases h

variable {path : List String}

/-- Chains outlive a change that keeps every successor. -/
theorem ChainFrom.carried (h : ChainFrom records key path)
    (hkept : ∀ other value, records.get? other = some value → ∃ later,
      next.get? other = some later ∧ later.supersededBy = value.supersededBy) :
    ChainFrom next key path := by
  induction h with
  | last hheld hlast =>
      obtain ⟨later, hlater, hsame⟩ := hkept _ _ hheld
      exact .last hlater (hsame.trans hlast)
  | link hheld hsuccessor hrest ih =>
      obtain ⟨later, hlater, hsame⟩ := hkept _ _ hheld
      exact .link hlater (hsame.trans hsuccessor) ih

/-- A chain that ended at the superseded record goes on to its successor. -/
theorem ChainFrom.extended (h : ChainFrom records key path)
    (hpresents : Presents fresh records value)
    (hcurrent : records.get? current.attentionId = some current)
    (hsuccessor : closed.supersededBy = some value.attentionId)
    (hlast : value.supersededBy = none) (hcurrentLast : current.supersededBy = none) :
    ∃ path, ChainFrom ((records.set value.attentionId value).set
      current.attentionId closed) key path := by
  have hne := hpresents.ne_held hcurrent
  have hnew : ((records.set value.attentionId value).set current.attentionId
      closed).get? value.attentionId = some value := by
    rw [Dict.get?_set_of_ne _ _ hne.symm, Dict.get?_set_self]
  have hold : ∀ {other : String} {held : Attention}, other ≠ current.attentionId →
      records.get? other = some held → ((records.set value.attentionId value).set
        current.attentionId closed).get? other = some held := by
    intro other held hother hheld
    rw [Dict.get?_set_of_ne _ _ hother, Dict.get?_set_of_ne _ _ (hpresents.ne_held hheld), hheld]
  induction h with
  | @last key held hheld hend =>
      by_cases hsame : key = current.attentionId
      · subst hsame
        exact ⟨_, .link (Dict.get?_set_self ..) hsuccessor (.last hnew hlast)⟩
      · exact ⟨_, .last (hold hsame hheld) hend⟩
  | @link key after held path hheld hafter hrest ih =>
      obtain ⟨more, hmore⟩ := ih
      have hsame : key ≠ current.attentionId := by
        rintro rfl
        obtain rfl := Option.some.inj (hcurrent.symm.trans hheld)
        rw [hcurrentLast] at hafter
        cases hafter
      exact ⟨_, .link (hold hsame hheld) hafter hmore⟩

/-- A successor relation after a move, from what each record of it had before. -/
theorem RecordsValid.successor_carried (h : RecordsValid records)
    (hmove : AttentionMove fresh records next) {after : String}
    (hheld : records.get? key = some value)
    (hafter : value.supersededBy = some after) (hidentity : later.identity = value.identity)
    (hcreated : later.createdAt = value.createdAt) :
    ∃ other, next.get? after = some other ∧ other.identity = later.identity ∧
      later.createdAt ≤ other.createdAt := by
  obtain ⟨other, hother, hsame, hle⟩ := h.successor key value after hheld hafter
  obtain ⟨held, hnext, hcontinues, -⟩ := hmove.carries hother
  refine ⟨held, hnext, ?_, ?_⟩
  · rw [hcontinues.identity, hsame, hidentity]
  · rw [hcontinues.createdAt, hcreated]
    exact hle

theorem RecordsValid.moved (h : RecordsValid records)
    (hmove : AttentionMove fresh records next) : RecordsValid next := by
  have hkept := h.toAttentionKept.moved hmove
  have hpresented : ∀ {value : Attention}, Presents fresh records value →
      value.supersededBy = none := fun hpresents =>
    hpresents.valid.facts.last hpresents.live
  cases hmove with
  | presented value hpresents hnone =>
      have hlast := hpresented hpresents
      have hstays : ∀ other held, records.get? other = some held → ∃ later,
          (records.set value.attentionId value).get? other = some later ∧
            later.supersededBy = held.supersededBy := by
        intro other held hheld
        exact ⟨held, by rw [Dict.get?_set_of_ne _ _ (hpresents.ne_held hheld), hheld], rfl⟩
      refine { hkept with
        successor := ?_
        apart := ?_
        chained := ?_ }
      · intro key held after hheld hafter
        rcases get?_set_cases hheld with ⟨-, rfl⟩ | ⟨-, hold⟩
        · rw [hlast] at hafter
          cases hafter
        · exact h.successor_carried (.presented value hpresents hnone) hold hafter rfl rfl
      · intro key held other later after hheld hlater hafter hagain
        rcases get?_set_cases hheld with ⟨-, rfl⟩ | ⟨-, hold⟩
        · rw [hlast] at hafter
          cases hafter
        · rcases get?_set_cases hlater with ⟨-, rfl⟩ | ⟨-, holder⟩
          · rw [hlast] at hagain
            cases hagain
          · exact h.apart key held other later after hold holder hafter hagain
      · intro key held hheld
        rcases get?_set_cases hheld with ⟨rfl, rfl⟩ | ⟨-, hold⟩
        · exact ⟨_, .last hheld hlast⟩
        · obtain ⟨path, hpath⟩ := h.chained key held hold
          exact ⟨path, hpath.carried hstays⟩
  | superseded current closed value hpresents hcurrent hlive hvalid hended
      hcontinues hsuccessor hidentity hlater =>
      have hlast := hpresented hpresents
      have hcurrentLast := (h.each _ _ hcurrent).1.facts.last hlive
      have hne := hpresents.ne_held hcurrent
      refine { hkept with
        successor := ?_
        apart := ?_
        chained := ?_ }
      · intro key held after hheld hafter
        rcases superseded_cases hheld with ⟨-, rfl⟩ | ⟨-, rfl⟩ | ⟨-, -, hold⟩
        · obtain rfl := Option.some.inj (hsuccessor.symm.trans hafter)
          refine ⟨value, ?_, ?_, ?_⟩
          · rw [Dict.get?_set_of_ne _ _ hne.symm, Dict.get?_set_self]
          · rw [hidentity, hcontinues.identity]
          · rw [hcontinues.createdAt]
            exact hlater
        · rw [hlast] at hafter
          cases hafter
        · exact h.successor_carried (.superseded current closed value hpresents
            hcurrent hlive hvalid hended hcontinues hsuccessor hidentity hlater) hold
            hafter rfl rfl
      · have hnobody : ∀ key held, records.get? key = some held →
            held.supersededBy ≠ some value.attentionId := by
          intro key held hheld hafter
          obtain ⟨other, hother, -⟩ := h.successor key held _ hheld hafter
          rw [hpresents.unused] at hother
          cases hother
        intro key held other later after hfirst hsecond hafter hagain
        rcases superseded_cases hfirst with ⟨hkey, rfl⟩ | ⟨-, rfl⟩ | ⟨-, -, hold⟩
        · obtain rfl := Option.some.inj (hsuccessor.symm.trans hafter)
          rcases superseded_cases hsecond with ⟨hother, -⟩ | ⟨-, rfl⟩ | ⟨-, -, holder⟩
          · rw [hkey, hother]
          · rw [hlast] at hagain
            cases hagain
          · exact absurd hagain (hnobody other later holder)
        · rw [hlast] at hafter
          cases hafter
        · rcases superseded_cases hsecond with ⟨-, rfl⟩ | ⟨-, rfl⟩ | ⟨-, -, holder⟩
          · obtain rfl := Option.some.inj (hsuccessor.symm.trans hagain)
            exact absurd hafter (hnobody key held hold)
          · rw [hlast] at hagain
            cases hagain
          · exact h.apart key held other later after hold holder hafter hagain
      · intro key held hheld
        rcases superseded_cases hheld with ⟨rfl, -⟩ | ⟨rfl, rfl⟩ | ⟨-, -, hold⟩
        · exact (ChainFrom.last hcurrent hcurrentLast).extended hpresents hcurrent
            hsuccessor hlast hcurrentLast
        · exact ⟨_, .last hheld hlast⟩
        · obtain ⟨path, hpath⟩ := h.chained key held hold
          exact hpath.extended hpresents hcurrent hsuccessor hlast hcurrentLast
  | updated value later hheld hlive hvalid hcontinues hlast =>
      have hvalueLast := (h.each _ _ hheld).1.facts.last hlive
      have hstays : ∀ other held, records.get? other = some held → ∃ after,
          (records.set value.attentionId later).get? other = some after ∧
            after.supersededBy = held.supersededBy := by
        intro other held hold
        by_cases hsame : other = value.attentionId
        · subst hsame
          obtain rfl := Option.some.inj (hheld.symm.trans hold)
          exact ⟨later, Dict.get?_set_self .., hlast.trans hvalueLast.symm⟩
        · exact ⟨held, by rw [Dict.get?_set_of_ne _ _ hsame, hold], rfl⟩
      refine { hkept with
        successor := ?_
        apart := ?_
        chained := ?_ }
      · intro key held after hafterHeld hafter
        rcases get?_set_cases hafterHeld with ⟨-, rfl⟩ | ⟨-, hold⟩
        · rw [hlast] at hafter
          cases hafter
        · exact h.successor_carried (.updated value later hheld hlive hvalid
            hcontinues hlast) hold hafter rfl rfl
      · intro key held other more after hfirst hsecond hafter hagain
        rcases get?_set_cases hfirst with ⟨-, rfl⟩ | ⟨-, hold⟩
        · rw [hlast] at hafter
          cases hafter
        · rcases get?_set_cases hsecond with ⟨-, rfl⟩ | ⟨-, holder⟩
          · rw [hlast] at hagain
            cases hagain
          · exact h.apart key held other more after hold holder hafter hagain
      · intro key held hafterHeld
        rcases get?_set_cases hafterHeld with ⟨rfl, rfl⟩ | ⟨-, hold⟩
        · exact ⟨_, .last hafterHeld hlast⟩
        · obtain ⟨path, hpath⟩ := h.chained key held hold
          exact ⟨path, hpath.carried hstays⟩

/-! ## The validator accepts -/

/-- The walk over records that keep the rules among one another succeeds. -/
theorem RecordsValid.walk (h : RecordsValid records)
    {items : List (String × Attention)} {walked : Walked}
    (hheld : ∀ entry ∈ items, records.get? entry.1 = some entry.2)
    (hkeys : (items.map Prod.fst).Nodup) (hlive : ∀ entry ∈ items, entry.2.isTerminal = false →
      entry.2.identity ∉ walked.live)
    (hsuccessors : ∀ entry ∈ items, ∀ after, entry.2.supersededBy = some after →
      after ∉ walked.successors) :
    ∃ result, foldChecked (validateHeldAttention records) walked items =
      .ok result := by
  induction items generalizing walked with
  | nil => exact ⟨walked, rfl⟩
  | cons entry rest ih =>
      obtain ⟨key, value⟩ := entry
      have hentry := hheld _ (List.mem_cons_self ..)
      obtain ⟨hvalid, hid⟩ := h.each key value hentry
      rw [List.map_cons, List.nodup_cons] at hkeys
      have hapart : ∀ other ∈ rest, key ≠ other.1 := by
        rintro other hother rfl
        exact hkeys.1 (List.mem_map.mpr ⟨other, hother, rfl⟩)
      have hstep : ∃ next, validateHeldAttention records walked (key, value) =
          .ok next ∧ next.live = (if value.isTerminal then walked.live
            else walked.live ++ [value.identity]) ∧
          next.successors = walked.successors ++ value.supersededBy.toList := by
        simp only [validateHeldAttention, bind_eq_ok, exists_passed,
          validateAttention_eq_ok, failAt_eq_ok, checkOptional_eq_ok, pure_eq_ok,
          not_not, ne_eq, not_and]
        refine ⟨_, ⟨hvalid, hid, hlive _ (List.mem_cons_self ..), ?_, rfl⟩, rfl, rfl⟩
        intro after hafter
        obtain ⟨other, hother, hsame, hle⟩ := h.successor key value after hentry hafter
        simp only [validateSuccessor, bind_eq_ok, exists_passed, orFailAt_eq_ok,
          failAt_eq_ok, not_or, not_not, ne_eq, not_lt]
        exact ⟨other, hother, ⟨hsame, hle⟩, hsuccessors _ (List.mem_cons_self ..) after hafter⟩
      obtain ⟨next, hnext, hnextLive, hnextSuccessors⟩ := hstep
      have hrest := fun other (hother : other ∈ rest) =>
        hheld other (List.mem_cons_of_mem _ hother)
      have hrestLive : ∀ other ∈ rest, other.2.isTerminal = false →
          other.2.identity ∉ next.live := by
        intro other hother hterminal hmem
        rw [hnextLive] at hmem
        have hbefore := hlive other (List.mem_cons_of_mem _ hother) hterminal
        cases hvalue : value.isTerminal with
        | true =>
            rw [hvalue, if_pos rfl] at hmem
            exact hbefore hmem
        | false =>
            rw [hvalue, if_neg Bool.false_ne_true] at hmem
            rcases List.mem_append.mp hmem with hmem | hmem
            · exact hbefore hmem
            · have hsame := List.mem_singleton.mp hmem
              exact hapart other hother (h.live key value other.1 other.2 hentry
                (hrest other hother) hvalue hterminal hsame.symm)
      have hrestSuccessors : ∀ other ∈ rest, ∀ after,
          other.2.supersededBy = some after → after ∉ next.successors := by
        intro other hother after hafter hmem
        rw [hnextSuccessors] at hmem
        rcases List.mem_append.mp hmem with hmem | hmem
        · exact hsuccessors other (List.mem_cons_of_mem _ hother) after hafter hmem
        · rw [Option.mem_toList] at hmem
          exact hapart other hother (h.apart key value other.1 other.2 after hentry
            (hrest other hother) hmem hafter)
      obtain ⟨result, hresult⟩ := ih hrest hkeys.2 hrestLive hrestSuccessors
      exact ⟨result, (foldChecked_cons_eq_ok ..).mpr ⟨next, hnext, hresult⟩⟩

theorem RecordsValid.accepted (h : RecordsValid records) :
    validateAttentionRecords records = .ok () := by
  have hkeys : ((byId records).map Prod.fst).Nodup :=
    ((sortedBy_perm Prod.fst records.entries).map Prod.fst).nodup_iff.mpr records.nodup
  obtain ⟨walked, hwalked⟩ : ∃ walked,
      foldChecked (validateHeldAttention records) ⟨[], []⟩ (byId records) = .ok walked :=
    h.walk (fun entry hentry => mem_byId.mp hentry) hkeys
    (fun _ _ _ => List.not_mem_nil) (fun _ _ _ _ => List.not_mem_nil)
  simp only [validateAttentionRecords, bind_eq_ok, checkAll_eq_ok]
  refine ⟨walked, hwalked, fun entry hentry => ?_⟩
  obtain ⟨path, hpath⟩ := h.chained entry.1 entry.2 (mem_byId.mp hentry)
  refine followChain_of_chainFrom hpath ?_ fun _ _ => List.not_mem_nil
  have hle := (List.subperm_of_subset hpath.nodup hpath.held).length_le
  rw [Dict.keys, List.length_map] at hle
  exact hle.trans (Nat.le_succ _)

end

end DodgingInfinity.Coordination
