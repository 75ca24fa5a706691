import DodgingInfinity.Coordination.HandoffValid
import DodgingInfinity.Library.Transition

/-!
# Handoff chains and replays

Every operation keeps the book of handoffs valid, so that every forward chain is
short and visits no participant twice.  A retried creation returns the stored
record as long as its parent may still be forwarded.
-/

namespace DodgingInfinity.Coordination

open Checked

/-! ## The fixed part of a handoff -/

/-- Two states of one handoff: all but the status and its history agree. -/
structure SameHandoff (value later : Handoff) : Prop where
  handoffId : later.handoffId = value.handoffId
  request : later.request = value.request
  revision : later.revision = value.revision
  proposal : later.proposalDigestSha256 = value.proposalDigestSha256
  content : later.contentDigestSha256 = value.contentDigestSha256
  parentContent : later.parentContentDigestSha256 = value.parentContentDigestSha256
  depth : later.forwardDepth = value.forwardDepth
  provenance : later.provenance = value.provenance

theorem SameHandoff.refl (value : Handoff) : SameHandoff value value :=
  ⟨rfl, rfl, rfl, rfl, rfl, rfl, rfl, rfl⟩

theorem Handoff.same_entered (value : Handoff) (entry : TransitionEntry) :
    SameHandoff value (value.entered entry) :=
  ⟨rfl, rfl, rfl, rfl, rfl, rfl, rfl, rfl⟩

/-- No handoff is lost, and each keeps its fixed part. -/
def Carries (handoffs later : Dict String Handoff) : Prop :=
  ∀ key value, handoffs.get? key = some value →
    ∃ held, later.get? key = some held ∧ SameHandoff value held

variable {handoffs : Dict String Handoff} {key : String}

theorem carries_set_fresh (hfresh : handoffs.get? key = none) (value : Handoff) :
    Carries handoffs (handoffs.set key value) := by
  intro other held hheld
  refine ⟨held, ?_, .refl held⟩
  rw [Dict.get?_set_of_ne _ _ (fun heq => ?_), hheld]
  subst heq
  rw [hheld] at hfresh
  cases hfresh

variable {value : Handoff}

theorem carries_set_entered (hheld : handoffs.get? key = some value) (entry : TransitionEntry) :
    Carries handoffs (handoffs.set key (value.entered entry)) := by
  intro other held hother
  by_cases hsame : other = key
  · subst hsame
    obtain rfl := Option.some.inj (hheld.symm.trans hother)
    exact ⟨_, Dict.get?_set_self .., value.same_entered entry⟩
  · exact ⟨held, by rw [Dict.get?_set_of_ne _ _ hsame, hother], .refl held⟩

/-! ## Chains -/

/-- The path from the root to a handoff, root first. -/
inductive ChainTo (handoffs : Dict String Handoff) : String → List String → Prop
  | root {key : String} {value : Handoff} (hheld : handoffs.get? key = some value)
      (hroot : value.request.parentHandoffId = none) : ChainTo handoffs key [key]
  | link {key parentId : String} {value : Handoff} {up : List String}
      (hheld : handoffs.get? key = some value)
      (hparent : value.request.parentHandoffId = some parentId)
      (hup : ChainTo handoffs parentId up) : ChainTo handoffs key (up ++ [key])

variable {room : Nat} {tail : List String}

theorem chainAbove_step (hheld : handoffs.get? key = some value) (hnew : key ∉ tail) :
    chainAbove handoffs (room + 1) (some key) tail =
      chainAbove handoffs room value.request.parentHandoffId (key :: tail) := by
  rw [chainAbove, failAt, failIf, if_neg hnew, hheld]
  rfl

variable {up : List String}

theorem chainAbove_of_chainTo (h : ChainTo handoffs key up)
    (hroom : up.length ≤ room) (hnodup : (up ++ tail).Nodup) :
    chainAbove handoffs room (some key) tail = .ok (up ++ tail) := by
  induction h generalizing room tail with
  | @root key value hheld hroot =>
      obtain ⟨left, rfl⟩ := Nat.exists_eq_add_of_le' hroom
      have hnew : key ∉ tail := (List.nodup_cons.mp hnodup).1
      rw [List.length_singleton, chainAbove_step hheld hnew, hroot]
      cases left <;> rfl
  | @link key parentId value up hheld hparent hup ih =>
      rw [List.length_append, List.length_singleton] at hroom
      obtain ⟨left, rfl⟩ : ∃ left, room = left + 1 := ⟨room - 1, by omega⟩
      have hsplit : up ++ [key] ++ tail = up ++ key :: tail := by simp
      rw [hsplit] at hnodup ⊢
      have hnew : key ∉ tail :=
        (List.nodup_cons.mp (List.nodup_append.mp hnodup).2.1).1
      rw [chainAbove_step hheld hnew, hparent]
      exact ih (by omega) hnodup

/-- Every handoff on a chain is in the book. -/
theorem ChainTo.held (h : ChainTo handoffs key up) :
    ∀ other ∈ up, ∃ value, handoffs.get? other = some value := by
  induction h with
  | root hheld hroot =>
      rintro other hother
      obtain rfl := List.mem_singleton.mp hother
      exact ⟨_, hheld⟩
  | link hheld hparent hup ih =>
      rintro other hother
      rcases List.mem_append.mp hother with hother | hother
      · exact ih other hother
      · obtain rfl := List.mem_singleton.mp hother
        exact ⟨_, hheld⟩

variable {later : Dict String Handoff}

theorem ChainTo.carried (hcarries : Carries handoffs later)
    (h : ChainTo handoffs key up) : ChainTo later key up := by
  induction h with
  | root hheld hroot =>
      obtain ⟨held, hlater, hsame⟩ := hcarries _ _ hheld
      exact .root hlater (hsame.request ▸ hroot)
  | link hheld hparent hup ih =>
      obtain ⟨held, hlater, hsame⟩ := hcarries _ _ hheld
      exact .link hlater (hsame.request ▸ hparent) ih

theorem requestsOn_carried
    {path : List String} (hcarries : Carries handoffs later)
    (hheld : ∀ key ∈ path, ∃ value, handoffs.get? key = some value) :
    requestsOn later path = requestsOn handoffs path := by
  refine List.filterMap_congr fun key hkey => ?_
  obtain ⟨value, hvalue⟩ := hheld key hkey
  obtain ⟨held, hlater, hsame⟩ := hcarries key value hvalue
  rw [hvalue, hlater, Option.map_some, Option.map_some, hsame.request]

theorem participantsAlong_snoc {links : List HandoffRequest} (hsome : links ≠ [])
    (last : HandoffRequest) : participantsAlong (links ++ [last]) =
      participantsAlong links ++ [last.destination] := by
  cases links with
  | nil => exact absurd rfl hsome
  | cons first rest => simp [participantsAlong]

/-- A forward chain as every reachable book has it: short, without repetition,
and through participants of whom none occurs twice, the root source included. -/
structure ChainWellFormed (handoffs : Dict String Handoff) (key : String)
    (depth : Nat) (up : List String) : Prop where
  path : ChainTo handoffs key up
  length : up.length = depth + 1
  nodup : up.Nodup
  below : ∀ other ∈ up, ∃ held, handoffs.get? other = some held ∧ held.forwardDepth ≤ depth
  participants : (participantsAlong (requestsOn handoffs up)).Nodup

variable {depth : Nat}

/-- The chain is found in every book that has its path. -/
theorem ChainWellFormed.chain_eq (h : ChainWellFormed handoffs key depth up)
    (hdepth : depth ≤ maxHandoffForwardDepth) (hpath : ChainTo later key up) :
    chain later key = .ok up := by
  have hroom : up.length ≤ maxHandoffForwardDepth + 1 := by
    rw [h.length]
    exact Nat.succ_le_succ hdepth
  have hnodup : (up ++ []).Nodup := by
    rw [List.append_nil]
    exact h.nodup
  rw [chain, chainAbove_of_chainTo hpath hroom hnodup, List.append_nil]

theorem ChainWellFormed.participants_eq (h : ChainWellFormed handoffs key depth up)
    (hdepth : depth ≤ maxHandoffForwardDepth) : chainParticipants handoffs key =
      .ok (participantsAlong (requestsOn handoffs up)) := by
  rw [chainParticipants, h.chain_eq hdepth h.path]
  rfl

section

variable [JsonDigest] {book : HandoffBook}

variable {key : String} {value : Handoff}

/-- Every handoff of a valid book ends a well-formed chain. -/
theorem BookValid.wellFormed (h : BookValid book) {depth : Nat}
    (hheld : book.handoffs.get? key = some value)
    (hdepth : value.forwardDepth = depth) :
    ∃ up, ChainWellFormed book.handoffs key depth up := by
  induction depth generalizing key value with
  | zero =>
      have hvalid := (h.each key value hheld).1
      have hroot : value.request.parentHandoffId = none := by
        have hforwarded := hvalid.content.forwarded
        rw [hdepth] at hforwarded
        simpa using hforwarded
      refine ⟨[key], .root hheld hroot, rfl, List.nodup_singleton key, ?_, ?_⟩
      · rintro other hother
        obtain rfl := List.mem_singleton.mp hother
        exact ⟨value, hheld, hdepth.le⟩
      · have hapart := hvalid.content.request.apart
        simpa [requestsOn, hheld, participantsAlong] using hapart
  | succ depth ih =>
      have hvalid := (h.each key value hheld).1
      have hforwarded := hvalid.content.forwarded
      rw [hdepth] at hforwarded
      obtain ⟨parentId, hparent⟩ := Option.isSome_iff_exists.mp
        (by simpa using hforwarded)
      obtain ⟨parent, hlink⟩ := h.linked key value hheld parentId hparent
      have hless : parent.forwardDepth = depth := by
        have := hlink.depth
        omega
      obtain ⟨up, hup⟩ := ih hlink.held hless
      have hnew : key ∉ up := by
        intro hmem
        obtain ⟨held, hagain, hbelow⟩ := hup.below key hmem
        obtain rfl := Option.some.inj (hheld.symm.trans hagain)
        omega
      obtain ⟨upstream, hupstream, honward⟩ := hlink.onward
      have hbound : depth ≤ maxHandoffForwardDepth := by
        have := hvalid.content.depth
        omega
      rw [hup.participants_eq hbound] at hupstream
      obtain rfl := Except.ok.inj hupstream
      have hrequests : requestsOn book.handoffs (up ++ [key]) =
          requestsOn book.handoffs up ++ [value.request] := by
        simp [requestsOn, hheld]
      have hsome : requestsOn book.handoffs up ≠ [] := by
        intro hempty
        rw [requestsOn, List.filterMap_eq_nil_iff] at hempty
        have hpos : up ≠ [] := List.ne_nil_of_length_eq_add_one hup.length
        obtain ⟨other, hother⟩ := List.exists_mem_of_ne_nil up hpos
        obtain ⟨held, hagain, -⟩ := hup.below other hother
        simpa [hagain] using hempty other hother
      refine ⟨up ++ [key], .link hheld hparent hup.path, ?_, ?_, ?_, ?_⟩
      · rw [List.length_append, hup.length, List.length_singleton]
      · rw [← List.concat_eq_append, List.nodup_concat]
        exact ⟨hnew, hup.nodup⟩
      · rintro other hother
        rcases List.mem_append.mp hother with hother | hother
        · obtain ⟨held, hagain, hbelow⟩ := hup.below other hother
          exact ⟨held, hagain, hbelow.trans (Nat.le_succ depth)⟩
        · obtain rfl := List.mem_singleton.mp hother
          exact ⟨value, hheld, hdepth.le⟩
      · rw [hrequests, participantsAlong_snoc hsome, ← List.concat_eq_append, List.nodup_concat]
        exact ⟨honward, hup.participants⟩

variable {later : Dict String Handoff}

/-- The chain of a parent is the same in a later state of the book. -/
theorem chainParticipants_carried (h : BookValid book) (hcarries : Carries book.handoffs later)
    (hheld : book.handoffs.get? key = some value) :
    chainParticipants later key = chainParticipants book.handoffs key := by
  obtain ⟨up, hup⟩ := h.wellFormed hheld rfl
  have hbound := (h.each key value hheld).1.content.depth
  rw [hup.participants_eq hbound, chainParticipants,
    hup.chain_eq hbound (hup.path.carried hcarries)]
  change Except.ok _ = Except.ok _
  rw [requestsOn_carried hcarries hup.path.held]

/-- A link holds between the later states of a handoff and its parent. -/
theorem LinkValid.carried (h : BookValid book)
    (hcarries : Carries book.handoffs later) {held parent : Handoff}
    {parentId : String} (hsame : SameHandoff value held)
    (hlink : LinkValid book.handoffs value parent parentId) :
    ∃ parent, LinkValid later held parent parentId := by
  obtain ⟨next, hnext, hparent⟩ := hcarries parentId parent hlink.held
  refine ⟨next, {
    held := hnext
    mission := ?_
    content := ?_
    continuity := ?_
    revision := ?_
    proposal := ?_
    depth := ?_
    onward := ?_ }⟩
  · rw [hparent.request, hsame.request, hlink.mission]
  · rw [hsame.parentContent, hparent.content, hlink.content]
  · rw [hparent.request, hsame.request, hlink.continuity]
  · rw [hparent.revision, hsame.revision, hlink.revision]
  · rw [hparent.proposal, hsame.proposal, hlink.proposal]
  · rw [hparent.depth, hsame.depth, hlink.depth]
  · rw [chainParticipants_carried h hcarries hlink.held, hsame.request]
    exact hlink.onward

/-! ## Operations -/

/-- One operation on the handoffs and rosters. -/
inductive HandoffOperation where
  | setRoster (missionId : String) (participants : List Participant)
      (context : AuthenticatedContext)
  | createHandoff (handoffId : String) (request : HandoffRequest)
      (context : AuthenticatedContext)
  | transition (handoffId : String) (status : HandoffStatus) (actor : Participant)
      (context : AuthenticatedContext)

/-- The book an operation leaves, under a classified observation. -/
def HandoffOperation.perform (book : HandoffBook) (result : FreshnessResult)
    (now : Nat) : HandoffOperation → Checks HandoffBook
  | setRoster missionId participants context =>
      (Coordination.setRoster book missionId participants result now context).map
        Prod.snd
  | createHandoff handoffId request context =>
      (Coordination.createHandoff book handoffId request result now context).map
        Prod.snd
  | transition handoffId status actor context =>
      (Coordination.transition book handoffId status actor result now context).map
        Prod.snd

/-- A candidate that may be stored. -/
structure Admissible (book : HandoffBook) (candidate : Handoff) : Prop where
  valid : HandoffValid candidate
  source : Eligible book candidate.request.missionId candidate.request.source
  destination : Eligible book candidate.request.missionId
    candidate.request.destination
  fresh : book.handoffs.get? candidate.handoffId = none
  unkeyed : ∀ key value, book.handoffs.get? key = some value →
    value.request.missionId = candidate.request.missionId →
    value.request.idempotencyKey ≠ candidate.request.idempotencyKey
  single : ∀ key value, book.handoffs.get? key = some value →
    value.isLive = true → value.request.missionId = candidate.request.missionId →
    value.contentDigestSha256 ≠ candidate.contentDigestSha256
  linked : ∀ parentId, candidate.request.parentHandoffId = some parentId →
    ∃ parent, LinkValid book.handoffs candidate parent parentId

/-- What one operation does to the book. -/
inductive HandoffChange (book : HandoffBook) : HandoffBook → Prop
  | replayed : HandoffChange book book
  | registered (roster : Roster) (hvalid : RosterValid roster)
      (hkept : ∀ key value, book.handoffs.get? key = some value →
        value.request.missionId = roster.missionId → value.request.source ∈ roster.participants ∧
          value.request.destination ∈ roster.participants) :
      HandoffChange book { book with
        participants := book.participants.set roster.missionId roster }
  | stored (candidate : Handoff) (hadmissible : Admissible book candidate) :
      HandoffChange book { book with
        handoffs := book.handoffs.set candidate.handoffId candidate }
  | entered {key : String} {value : Handoff} (entry : TransitionEntry)
      (hheld : book.handoffs.get? key = some value)
      (hwired : entry.status ∈ value.status.transitions)
      (hvalid : HandoffValid (value.entered entry)) :
      HandoffChange book { book with
        handoffs := book.handoffs.set key (value.entered entry) }

variable {result : FreshnessResult}

variable {missionId : String}

omit [JsonDigest] in
theorem requireFresh_eq_ok {what : String}
    {observed : MissionObservation} : requireFresh result missionId what = .ok observed ↔
      result.freshness = .fresh ∧ result.observation = some observed ∧
        observed.missionId = missionId := by
  simp only [requireFresh, bind_eq_ok, exists_passed, failAt_eq_ok,
    orFailAt_eq_ok, not_not, ne_eq, pure_eq_ok]
  constructor
  · rintro ⟨hfresh, held, hheld, hmission, rfl⟩
    exact ⟨hfresh, hheld, hmission⟩
  · rintro ⟨hfresh, hheld, hmission⟩
    exact ⟨hfresh, observed, hheld, hmission, rfl⟩

variable {now : Nat} {next : HandoffBook}

variable {context : AuthenticatedContext} {roster : Roster}

theorem change_of_setRoster
    {participants : List Participant}
    (h : setRoster book missionId participants result now context =
      .ok (roster, next)) : HandoffChange book next := by
  simp only [setRoster, bind_eq_ok, exists_passed, validateRoster_eq_ok,
    checkAll_eq_ok, pure_eq_ok, Prod.mk.injEq] at h
  obtain ⟨-, -, observed, -, point, -, hvalid, hkept, rfl, rfl⟩ := h
  refine .registered _ hvalid fun key value hvalue hmission => ?_
  have hheld := hkept (key, value) (mem_byId.mpr hvalue)
  simp only [requireKept, bind_eq_ok, exists_passed, failAt_eq_ok, not_and, not_not] at hheld
  exact ⟨hheld.1 hmission, hheld.2 hmission⟩

variable {request : HandoffRequest}

omit [JsonDigest] in
theorem keyHolder_eq_none {handoffs : Dict String Handoff} (h : keyHolder handoffs request = none) :
    ∀ key value, handoffs.get? key = some value → value.request.missionId = request.missionId →
      value.request.idempotencyKey ≠ request.idempotencyKey := by
  intro key value hvalue hmission hkey
  have hmem : value ∈ (byId handoffs).map Prod.snd :=
    List.mem_map.mpr ⟨(key, value), mem_byId.mpr hvalue, rfl⟩
  have hnot := List.find?_eq_none.mp h value hmem
  simp [hmission, hkey] at hnot

variable {handoffId : String}

theorem change_of_createHandoff
    {stored : Handoff} (h : createHandoff book handoffId request result now context =
      .ok (stored, next)) : HandoffChange book next := by
  simp only [createHandoff, bind_eq_ok, exists_passed, requireEligible_eq_ok,
    validateHandoff_eq_ok] at h
  obtain ⟨-, -, -, -, observed, -, hsource, hdestination, point, -, provenance, -,
    forward, -, hvalid, -, hstore⟩ := h
  unfold storeHandoff at hstore
  split at hstore
  · simp only [bind_eq_ok, exists_passed, pure_eq_ok, Prod.mk.injEq] at hstore
    obtain ⟨-, -, rfl⟩ := hstore
    exact .replayed
  · rename_i hnone
    simp only [bind_eq_ok, exists_passed, failAt_eq_ok, requireLink_eq_ok,
      pure_eq_ok, Prod.mk.injEq, Bool.not_eq_true, Dict.contains_eq_false_iff,
      not_exists, not_and] at hstore
    obtain ⟨hfresh, hsingle, hlinked, -, rfl⟩ := hstore
    exact .stored _ {
      valid := hvalid
      source := hsource
      destination := hdestination
      fresh := hfresh
      unkeyed := keyHolder_eq_none hnone
      single := fun key value hvalue hlive hmission hdigest => by
        have hnot := hsingle value ((Dict.mem_values_iff _ _).mpr ⟨key, hvalue⟩)
        exact absurd ⟨hmission, hlive, hdigest⟩ (of_decide_eq_false hnot)
      linked := hlinked }

variable {status : HandoffStatus}

theorem change_of_transition
    {actor : Participant} {updated : Handoff}
    (h : transition book handoffId status actor result now context =
      .ok (updated, next)) : HandoffChange book next := by
  simp only [transition, bind_eq_ok, exists_passed, orFailAt_eq_ok,
    failAt_eq_ok, validateHandoff_eq_ok, pure_eq_ok, Prod.mk.injEq, not_not] at h
  obtain ⟨-, -, value, hheld, hwired, -, observed, -, -, -, last, -, current, -,
    before, -, -, -, point, -, hvalid, rfl, rfl⟩ := h
  exact .entered (transitionEntry status now actor context point) hheld hwired hvalid

theorem HandoffOperation.changes {operation : HandoffOperation}
    (h : operation.perform book result now = .ok next) :
    HandoffChange book next := by
  cases operation with
  | setRoster missionId participants context =>
      obtain ⟨⟨roster, after⟩, hafter, rfl⟩ := (map_eq_ok ..).mp h
      exact change_of_setRoster hafter
  | createHandoff handoffId request context =>
      obtain ⟨⟨stored, after⟩, hafter, rfl⟩ := (map_eq_ok ..).mp h
      exact change_of_createHandoff hafter
  | transition handoffId status actor context =>
      obtain ⟨⟨updated, after⟩, hafter, rfl⟩ := (map_eq_ok ..).mp h
      exact change_of_transition hafter

/-! ## The book stays valid -/

omit [JsonDigest] in
theorem Eligible.registered {participant : Participant} (h : Eligible book missionId participant)
    (hkept : missionId = roster.missionId → participant ∈ roster.participants) :
    Eligible { book with
      participants := book.participants.set roster.missionId roster }
        missionId participant := by
  obtain ⟨held, hheld, hmem⟩ := h
  by_cases hsame : missionId = roster.missionId
  · exact ⟨roster, by rw [hsame, Dict.get?_set_self], hkept hsame⟩
  · exact ⟨held, by rw [Dict.get?_set_of_ne _ _ hsame, hheld], hmem⟩

theorem BookValid.registered (h : BookValid book) (hvalid : RosterValid roster)
    (hkept : ∀ key value, book.handoffs.get? key = some value →
      value.request.missionId = roster.missionId → value.request.source ∈ roster.participants ∧
        value.request.destination ∈ roster.participants) :
    BookValid { book with
      participants := book.participants.set roster.missionId roster } where
  rosters := by
    intro key held hheld
    by_cases hsame : key = roster.missionId
    · rw [hsame, Dict.get?_set_self] at hheld
      obtain rfl := Option.some.inj hheld
      exact ⟨hvalid, hsame.symm⟩
    · rw [Dict.get?_set_of_ne _ _ hsame] at hheld
      exact h.rosters key held hheld
  each := by
    intro key value hvalue
    obtain ⟨hhandoff, hid, hsource, hdestination⟩ := h.each key value hvalue
    exact ⟨hhandoff, hid, hsource.registered fun hmission => (hkept key value hvalue hmission).1,
      hdestination.registered fun hmission => (hkept key value hvalue hmission).2⟩
  keyed := h.keyed
  live := h.live
  linked := h.linked

theorem BookValid.stored (h : BookValid book) {candidate : Handoff}
    (hadmissible : Admissible book candidate) :
    BookValid { book with
      handoffs := book.handoffs.set candidate.handoffId candidate } := by
  have hcarries := carries_set_fresh hadmissible.fresh candidate
  have hcases : ∀ {key value},
      (book.handoffs.set candidate.handoffId candidate).get? key = some value →
      (key = candidate.handoffId ∧ value = candidate) ∨
        book.handoffs.get? key = some value := by
    intro key value hvalue
    rw [Dict.get?_set] at hvalue
    split at hvalue
    · exact .inl ⟨‹_›, (Option.some.inj hvalue).symm⟩
    · exact .inr hvalue
  refine {
    rosters := h.rosters
    each := ?_
    keyed := ?_
    live := ?_
    linked := ?_ }
  · intro key value hvalue
    rcases hcases hvalue with ⟨hkey, hnew⟩ | hold
    · subst hkey hnew
      exact ⟨hadmissible.valid, rfl, hadmissible.source, hadmissible.destination⟩
    · exact h.each key value hold
  · intro key value other held hvalue hheld hmission hkey
    rcases hcases hvalue with ⟨hfirst, hnew⟩ | hold <;>
      rcases hcases hheld with ⟨hsecond, hnewer⟩ | holder
    · rw [hfirst, hsecond]
    · rw [hnew] at hmission hkey
      exact absurd hkey.symm (hadmissible.unkeyed other held holder hmission.symm)
    · rw [hnewer] at hmission hkey
      exact absurd hkey (hadmissible.unkeyed key value hold hmission)
    · exact h.keyed key value other held hold holder hmission hkey
  · intro key value other held hvalue hheld hlive hheldLive hmission hdigest
    rcases hcases hvalue with ⟨hfirst, hnew⟩ | hold <;>
      rcases hcases hheld with ⟨hsecond, hnewer⟩ | holder
    · rw [hfirst, hsecond]
    · rw [hnew] at hmission hdigest
      exact absurd hdigest.symm (hadmissible.single other held holder hheldLive hmission.symm)
    · rw [hnewer] at hmission hdigest
      exact absurd hdigest (hadmissible.single key value hold hlive hmission)
    · exact h.live key value other held hold holder hlive hheldLive hmission hdigest
  · intro key value hvalue parentId hparent
    rcases hcases hvalue with ⟨-, hnew⟩ | hold
    · subst hnew
      obtain ⟨parent, hlink⟩ := hadmissible.linked parentId hparent
      exact hlink.carried h hcarries (.refl _)
    · obtain ⟨parent, hlink⟩ := h.linked key value hold parentId hparent
      exact hlink.carried h hcarries (.refl _)

omit [JsonDigest] in
/-- A handoff that a status change is wired from is live. -/
theorem isLive_of_wired
    (h : status ∈ value.status.transitions) : value.isLive = true := by
  unfold Handoff.isLive
  cases hstatus : value.status <;> rw [hstatus] at h <;>
    simp_all [HandoffStatus.transitions, HandoffStatus.terminal]

theorem BookValid.entered (h : BookValid book)
    {entry : TransitionEntry} (hheld : book.handoffs.get? key = some value)
    (hwired : entry.status ∈ value.status.transitions)
    (hvalid : HandoffValid (value.entered entry)) :
    BookValid { book with
      handoffs := book.handoffs.set key (value.entered entry) } := by
  have hcarries := carries_set_entered hheld entry
  have hlive := isLive_of_wired hwired
  -- what is held under a key is the earlier handoff in its fixed part, and was
  -- live if it is
  have hbefore : ∀ {other held},
      (book.handoffs.set key (value.entered entry)).get? other = some held →
      ∃ old, book.handoffs.get? other = some old ∧ SameHandoff old held ∧
        (held.isLive = true → old.isLive = true) ∧ HandoffValid held := by
    intro other held hother
    rw [Dict.get?_set] at hother
    split at hother
    · obtain rfl := Option.some.inj hother
      rename_i hsame
      exact ⟨value, hsame ▸ hheld, value.same_entered entry, fun _ => hlive, hvalid⟩
    · exact ⟨held, hother, .refl held, id, (h.each other held hother).1⟩
  refine {
    rosters := h.rosters
    each := ?_
    keyed := ?_
    live := ?_
    linked := ?_ }
  · intro other held hother
    obtain ⟨old, hold, hsame, -, hheldValid⟩ := hbefore hother
    obtain ⟨-, hid, hsource, hdestination⟩ := h.each other old hold
    rw [← hsame.request] at hsource hdestination
    exact ⟨hheldValid, hsame.handoffId.trans hid, hsource, hdestination⟩
  · intro first held second there hfirst hsecond hmission hkey
    obtain ⟨old, hold, hsame, -⟩ := hbefore hfirst
    obtain ⟨older, holder, hsamer, -⟩ := hbefore hsecond
    rw [hsame.request, hsamer.request] at hmission hkey
    exact h.keyed first old second older hold holder hmission hkey
  · intro first held second there hfirst hsecond hfirstLive hsecondLive hmission hdigest
    obtain ⟨old, hold, hsame, holdLive, -⟩ := hbefore hfirst
    obtain ⟨older, holder, hsamer, holderLive, -⟩ := hbefore hsecond
    rw [hsame.request, hsamer.request] at hmission
    rw [hsame.content, hsamer.content] at hdigest
    exact h.live first old second older hold holder (holdLive hfirstLive)
      (holderLive hsecondLive) hmission hdigest
  · intro other held hother parentId hparent
    obtain ⟨old, hold, hsame, -⟩ := hbefore hother
    rw [hsame.request] at hparent
    obtain ⟨parent, hlink⟩ := h.linked other old hold parentId hparent
    exact hlink.carried h hcarries hsame

theorem BookValid.changed (h : BookValid book)
    (hchange : HandoffChange book next) : BookValid next := by
  cases hchange with
  | replayed => exact h
  | registered roster hvalid hkept => exact h.registered hvalid hkept
  | stored candidate hadmissible => exact h.stored hadmissible
  | entered entry hheld hwired hvalid => exact h.entered hheld hwired hvalid

theorem bookValid_empty : BookValid HandoffBook.empty := by
  constructor <;> simp [HandoffBook.empty]

end

end DodgingInfinity.Coordination
