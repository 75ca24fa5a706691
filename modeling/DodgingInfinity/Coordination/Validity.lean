import DodgingInfinity.Coordination.HandoffValid
import DodgingInfinity.Coordination.Service

/-!
# What a loaded document keeps

The validators of bindings, routes and attention records, and what a document
that passes all of them says: each record is valid and stored under its own id,
an unrevoked identity is held once, and a turn is decided once.
-/

namespace DodgingInfinity.Coordination

open Checked

/-! ## Bindings -/

/-- The binding passes its own validator, which tells the place and nothing else
apart. -/
def BindingValid (value : Binding) : Prop := validateBinding value "binding" = .ok ()

theorem splitIssueSelector_eq_ok {value : String} (location : String)
    {parts : String × Nat} : splitIssueSelector value location = .ok parts ↔
      splitIssueSelector value "selector" = .ok parts := by
  simp only [splitIssueSelector, bind_eq_ok, exists_passed, requireStr_eq_ok,
    orFailAt_eq_ok, failAt_eq_ok, requireRepositoryUrl_eq_ok]

variable {passed : Unit}

theorem validateSelector_eq_ok {kind : BindingKind} {selector : String} (location : String) :
    validateSelector kind selector location = .ok passed ↔
      validateSelector kind selector "selector" = .ok () := by
  have hsplit : ∀ place, (splitIssueSelector selector place).map (fun _ => ()) =
      .ok () ↔ ∃ parts, splitIssueSelector selector "selector" = .ok parts := by
    intro place
    change (fun _ => ()) <$> splitIssueSelector selector place = _ ↔ _
    simp only [map_eq_ok, splitIssueSelector_eq_ok place, and_true]
  cases kind <;> simp only [validateSelector, hsplit, bind_eq_ok, exists_passed,
    requireStr_eq_ok, failAt_eq_ok, requireRepositoryUrl_eq_ok, requireKey_eq_ok]

theorem validateConversation_eq_ok {kind : BindingKind}
    {conversationRef : Option String} (location : String) :
    validateConversation kind conversationRef location = .ok passed ↔
      validateConversation kind conversationRef "conversation_ref" = .ok () := by
  unfold validateConversation
  split
  · simp only [bind_eq_ok, orFailAt_eq_ok, requireStr_eq_ok]
  · simp only [failAt_eq_ok]

theorem validateBinding_eq_ok {value : Binding} {location : String} :
    validateBinding value location = .ok passed ↔ BindingValid value := by
  simp only [BindingValid, validateBinding, bind_eq_ok, exists_passed,
    requireId_eq_ok, requireTransport_eq_ok, requireAtLeast_eq_ok,
    checkOptional_eq_ok, failAt_eq_ok, requireContext_eq_ok,
    validateObservationPoint_eq_ok, requireAuthority_eq_ok]
  rw [validateConversation_eq_ok, validateSelector_eq_ok,
    validateConversation_eq_ok ("binding" ++ _), validateSelector_eq_ok ("binding" ++ _)]

/-- The facts of a valid binding that routing relies on. -/
theorem BindingValid.facts {value : Binding} (h : BindingValid value) :
    isId .binding value.bindingId = true ∧ isId .mission value.missionId = true ∧
      1 ≤ value.boundRevision ∧ PointValid value.observationPoint := by
  simp only [BindingValid, validateBinding, bind_eq_ok, exists_passed,
    requireId_eq_ok, requireAtLeast_eq_ok, validateObservationPoint_eq_ok] at h
  obtain ⟨hid, -, -, -, hmission, hrevision, -, -, -, -, hpoint, -⟩ := h
  exact ⟨hid, hmission, hrevision, hpoint⟩

/-- What the bindings of a document keep. -/
structure BindingsValid (bindings : Bindings) : Prop where
  each : ∀ key value, bindings.get? key = some value → BindingValid value ∧ value.bindingId = key
  unique : ∀ key value other held, bindings.get? key = some value →
    bindings.get? other = some held → value.revoked = false →
    held.revoked = false → value.identity = held.identity → key = other

theorem validateHeldBinding_distinguishes : Distinguishes validateHeldBinding
      (fun entry => BindingValid entry.2 ∧ entry.2.bindingId = entry.1)
      (fun entry => !entry.2.revoked) fun entry => entry.2.identity := by
  intro held entry next
  simp only [validateHeldBinding, bind_eq_ok, exists_passed,
    validateBinding_eq_ok, failAt_eq_ok, pure_eq_ok, not_not, ne_eq, not_and, Bool.not_eq_true']
  constructor
  · rintro ⟨hvalid, hid, hnew, rfl⟩
    refine ⟨⟨hvalid, hid⟩, hnew, ?_⟩
    cases entry.2.revoked <;> rfl
  · rintro ⟨⟨hvalid, hid⟩, hnew, rfl⟩
    refine ⟨hvalid, hid, hnew, ?_⟩
    cases entry.2.revoked <;> rfl

variable {bindings : Bindings}

theorem bindingsValid
    (h : validateBindings bindings = .ok passed) : BindingsValid bindings := by
  simp only [validateBindings, bind_eq_ok, exists_passed] at h
  obtain ⟨held, hwalk, -⟩ := h
  have hwalked := (walkDistinct_eq_ok validateHeldBinding_distinguishes
    (nodup_byId bindings)).mp ⟨held, hwalk⟩
  simp only [Prod.forall, mem_byId, Bool.not_eq_true', Prod.mk.injEq] at hwalked
  exact {
    each := hwalked.1
    unique := fun key value other held hvalue hheld hrevoked hagain hidentity =>
      (hwalked.2 key value hvalue other held hheld hrevoked hagain hidentity).1 }

/-- An unrevoked binding is found under its identity, and only such a one is. -/
theorem mem_findBindings {bound : Binding}
    {identity : BindingKind × String × Option String × String} :
    bound ∈ findBindings bindings identity ↔
      (∃ key, bindings.get? key = some bound) ∧ bound.revoked = false ∧
        bound.identity = identity := by
  simp only [findBindings, List.mem_filter, List.mem_map, Prod.exists, mem_byId,
    exists_eq_right, decide_eq_true_eq]

/-- At most one binding is found under an identity. -/
theorem BindingsValid.length_find (h : BindingsValid bindings)
    (identity : BindingKind × String × Option String × String) :
    (findBindings bindings identity).length ≤ 1 := by
  have hnodup : ((byId bindings).map Prod.snd).Nodup := by
    refine (List.nodup_map_iff_inj_on (nodup_byId bindings)).mpr ?_
    rintro first hfirst second hsecond heq
    obtain ⟨key, value⟩ := first
    obtain ⟨other, held⟩ := second
    rw [mem_byId] at hfirst hsecond
    simp only at heq
    subst heq
    rw [← (h.each key value hfirst).2, ← (h.each other value hsecond).2]
  have hfound : (findBindings bindings identity).Nodup := hnodup.filter _
  by_contra hlong
  obtain ⟨first, rest, hrest⟩ := List.exists_cons_of_ne_nil
    (l := findBindings bindings identity) (by rintro hnil; simp [hnil] at hlong)
  obtain ⟨second, more, hmore⟩ := List.exists_cons_of_ne_nil (l := rest)
    (by rintro hnil; simp [hrest, hnil] at hlong)
  have hfirst : first ∈ findBindings bindings identity := by simp [hrest]
  have hsecond : second ∈ findBindings bindings identity := by simp [hrest, hmore]
  obtain ⟨⟨key, hkey⟩, hlive, hidentity⟩ := mem_findBindings.mp hfirst
  obtain ⟨⟨other, hother⟩, hagain, hsame⟩ := mem_findBindings.mp hsecond
  have heq := h.unique key first other second hkey hother hlive hagain (hidentity.trans hsame.symm)
  rw [heq, hother] at hkey
  obtain rfl := Option.some.inj hkey
  rw [hrest, hmore] at hfound
  exact (List.nodup_cons.mp hfound).1 (List.mem_cons_self ..)

/-! ## Routes -/

section

variable [JsonDigest]

def RouteValid (value : RouteRecord) : Prop := validateRoute value "route" = .ok ()

variable {passed : Unit}

omit [JsonDigest] in
theorem InboundTurn.validate_eq_ok {turn : InboundTurn} (location : String) :
    turn.validate location = .ok passed ↔ turn.validate "inbound" = .ok () := by
  have hissue : ∀ held place, (splitIssueSelector held place).map (fun _ => ()) =
      .ok () ↔ ∃ parts, splitIssueSelector held "selector" = .ok parts := by
    intro held place
    change (fun _ => ()) <$> splitIssueSelector held place = _ ↔ _
    simp only [map_eq_ok, splitIssueSelector_eq_ok place, and_true]
  simp only [InboundTurn.validate, bind_eq_ok, exists_passed,
    requireTransport_eq_ok, requireStr_eq_ok, checkOptional_eq_ok,
    requireId_eq_ok, requireRepositoryUrl_eq_ok, hissue, requireKey_eq_ok, requireOptionalHex_eq_ok]

omit [JsonDigest] in
theorem requireCandidates_eq_ok {candidates : List String} {location : String} :
    requireEach candidates location maxRouteCandidates (requireId · .mission ·) =
        .ok passed ↔ candidates.length ≤ maxRouteCandidates ∧
        ∀ candidate ∈ candidates, isId .mission candidate = true :=
  requireEach_eq_ok fun _ _ => requireId_eq_ok

omit [JsonDigest] in
theorem validateCoherence_eq_ok {value : RouteDerivation} (location : String) :
    validateCoherence value location = .ok passed ↔
      validateCoherence value "route" = .ok () := by
  simp only [validateCoherence, bind_eq_ok, exists_passed, failAt_eq_ok]

omit [JsonDigest] in
theorem validateLane_eq_ok {value : RouteDerivation} {domain : Option String} (location : String) :
    validateLane value domain location = .ok passed ↔
      validateLane value domain "route" = .ok () := by
  simp only [validateLane, bind_eq_ok, exists_passed, failAt_eq_ok]

theorem validateRoute_eq_ok {value : RouteRecord} {location : String} :
    validateRoute value location = .ok passed ↔ RouteValid value := by
  simp only [RouteValid, validateRoute, bind_eq_ok, exists_passed,
    requireId_eq_ok, requireHex_eq_ok, failAt_eq_ok, checkOptional_eq_ok,
    requireCandidates_eq_ok, requireSorted_eq_ok, requireStr_eq_ok,
    requireOptionalHex_eq_ok, requireAtLeast_eq_ok,
    validateObservationPoint_eq_ok, validateProvenance_eq_ok,
    requireAuthority_eq_ok, InboundTurn.validate_eq_ok (location ++ _),
    InboundTurn.validate_eq_ok ("route" ++ _), validateCoherence_eq_ok location,
    validateLane_eq_ok location]

theorem RouteValid.point {value : RouteRecord} (h : RouteValid value)
    {point : ObservationPoint} (hpoint : value.derivation.observationPoint = some point) :
    PointValid point := by
  simp only [RouteValid, validateRoute, bind_eq_ok, exists_passed,
    checkOptional_eq_ok, validateObservationPoint_eq_ok] at h
  obtain ⟨-, -, -, -, -, -, -, -, -, -, -, hpoints, -⟩ := h
  exact hpoints point hpoint

theorem validateHeldRoute_distinguishes : Distinguishes validateHeldRoute
      (fun entry => RouteValid entry.2 ∧ entry.2.routeId = entry.1)
      (fun _ => true) fun entry => entry.2.inbound.identity := by
  intro held entry next
  simp only [validateHeldRoute, bind_eq_ok, exists_passed, validateRoute_eq_ok,
    failAt_eq_ok, pure_eq_ok, not_not, ne_eq, true_implies, if_true]
  constructor
  · rintro ⟨hvalid, hid, hnew, rfl⟩
    exact ⟨⟨hvalid, hid⟩, hnew, rfl⟩
  · rintro ⟨⟨hvalid, hid⟩, hnew, rfl⟩
    exact ⟨hvalid, hid, hnew, rfl⟩

theorem routesValid {routes : Dict String RouteRecord}
    (h : validateRouteDecisions routes = .ok passed) : ∀ key value, routes.get? key = some value →
      RouteValid value ∧ value.routeId = key := by
  simp only [validateRouteDecisions, bind_eq_ok] at h
  obtain ⟨held, hwalk, -⟩ := h
  have hwalked := (walkDistinct_eq_ok validateHeldRoute_distinguishes
    (nodup_byId routes)).mp ⟨held, hwalk⟩
  simpa only [Prod.forall, mem_byId] using hwalked.1

end

/-! ## Attention records -/

def AttentionValid (value : Attention) : Prop :=
  validateAttention value "attention" = .ok ()

variable {value : Attention}

theorem validateAttention_eq_ok {location : String} :
    validateAttention value location = .ok passed ↔ AttentionValid value := by
  simp only [AttentionValid, validateAttention, validateAttentionBinding,
    validateSurfacing, validateAcknowledgment, validateClosure, validateState,
    bind_eq_ok, exists_passed, requireId_eq_ok, requireAtLeast_eq_ok,
    requireKey_eq_ok, requireHex_eq_ok, requireOptionalHex_eq_ok,
    requireDestination_eq_ok, failAt_eq_ok, validateObservationPoint_eq_ok,
    checkOptional_eq_ok, requireStr_eq_ok, requireContext_eq_ok,
    requireCursor_eq_ok, requireAuthority_eq_ok]

/-- The facts of a valid record that its later states rely on. -/
structure AttentionFacts (value : Attention) : Prop where
  points : ∀ point ∈ value.points, PointValid point
  pending : value.presentation = .pending →
    value.surfacing.isPresent = false ∧ value.acknowledgment.isPresent = false
  surfaced : value.presentation = .surfaced → value.acknowledgment.isPresent = false
  surfacing : isPartial value.surfacing.present = false
  acknowledgment : value.acknowledgment.observationPoint.isSome = value.acknowledgment.isFresh
  closure : isPartial value.closure.present = false
  terminal : value.closure.isPresent = value.isTerminal
  closed : value.closure.isPresent = true → ∀ closedAt ∈ value.closure.closedAt,
    value.createdAt ≤ closedAt
  last : value.isTerminal = false → value.supersededBy = none

theorem AttentionValid.facts (h : AttentionValid value) :
    AttentionFacts value := by
  simp only [AttentionValid, validateAttention, validateAttentionBinding,
    validateSurfacing, validateAcknowledgment, validateClosure, validateState,
    bind_eq_ok, exists_passed, failAt_eq_ok, validateObservationPoint_eq_ok,
    checkOptional_eq_ok, not_and, not_or, not_not, ne_eq, not_exists,
    Bool.not_eq_true, Bool.not_eq_false, not_lt] at h
  obtain ⟨⟨-, -, -, -, -, -, -, -, hpoint, -⟩, ⟨-, -, hsurfacedPoint, hsurfacing, -⟩,
    ⟨-, -, -, ⟨-, hfresh⟩, hacknowledged, -⟩, ⟨-, hclosedPoint, hclosure, hclosed⟩,
    hterminal, hpending, hsurfaced, -, -, -, hlast, -⟩ := h
  refine {
    points := ?_
    pending := hpending
    surfaced := fun hpresentation => (hsurfaced hpresentation).2
    surfacing := hsurfacing
    acknowledgment := hfresh
    closure := hclosure
    terminal := hterminal
    closed := hclosed
    last := hlast }
  intro point hmem
  simp only [Attention.points, List.mem_append, List.mem_singleton, Option.mem_toList] at hmem
  rcases hmem with ((rfl | hmem) | hmem) | hmem
  · exact hpoint
  · exact (hsurfacedPoint point hmem).1
  · exact (hacknowledged point hmem).1
  · exact hclosedPoint point hmem

theorem AttentionFacts.surfacingPoint (h : AttentionFacts value)
    (habsent : value.surfacing.isPresent = false) :
    value.surfacing.observationPoint = none := by
  have hpart := h.surfacing
  unfold Surfacing.isPresent at habsent
  rw [isPartial, habsent] at hpart
  simp only [Surfacing.present, List.any_cons, List.any_nil, id, Bool.not_false,
    Bool.and_true, Bool.or_false, Bool.or_eq_false_iff] at hpart
  exact Option.isNone_iff_eq_none.mp (Option.isSome_eq_false_iff.mp hpart.2.2.2)

theorem AttentionFacts.acknowledgmentPoint
    (h : AttentionFacts value) (habsent : value.acknowledgment.isPresent = false) :
    value.acknowledgment.observationPoint = none := by
  have hfresh := h.acknowledgment
  rw [Acknowledgment.isFresh, habsent, Bool.false_and] at hfresh
  simpa using hfresh

theorem AttentionFacts.closurePoint (h : AttentionFacts value) (hlive : value.isTerminal = false) :
    value.closure.observationPoint = none := by
  have hpart := h.closure
  have habsent := h.terminal.trans hlive
  unfold Closure.isPresent at habsent
  rw [isPartial, habsent] at hpart
  simp only [Closure.present, List.any_cons, List.any_nil, id, Bool.not_false,
    Bool.and_true, Bool.or_false, Bool.or_eq_false_iff] at hpart
  exact Option.isNone_iff_eq_none.mp (Option.isSome_eq_false_iff.mp hpart.2.2)

/-- What every document's attention records keep, one record and one identity at
a time. -/
structure AttentionKept (records : AttentionRecords) : Prop where
  each : ∀ key value, records.get? key = some value → AttentionValid value ∧ value.attentionId = key
  live : ∀ key value other held, records.get? key = some value →
    records.get? other = some held → value.isTerminal = false →
    held.isTerminal = false → value.identity = held.identity → key = other

variable {records : AttentionRecords}

theorem validateHeldAttention_eq_ok
    {walked next : Walked} {entry : String × Attention}
    (h : validateHeldAttention records walked entry = .ok next) :
    AttentionValid entry.2 ∧ entry.2.attentionId = entry.1 ∧
      (entry.2.isTerminal = false → entry.2.identity ∉ walked.live) ∧
      next.live = if entry.2.isTerminal then walked.live
        else walked.live ++ [entry.2.identity] := by
  simp only [validateHeldAttention, bind_eq_ok, exists_passed,
    validateAttention_eq_ok, failAt_eq_ok, pure_eq_ok, not_not, ne_eq, not_and] at h
  obtain ⟨hvalid, hid, hnew, -, rfl⟩ := h
  exact ⟨hvalid, hid, hnew, rfl⟩

/-- The walk over the records holds the identity of each live record it met. -/
theorem liveDistinct_of_walk
    {items : List (String × Attention)} {walked result : Walked}
    (h : foldChecked (validateHeldAttention records) walked items = .ok result) :
    (∀ entry ∈ items, AttentionValid entry.2 ∧ entry.2.attentionId = entry.1) ∧
      (∀ entry ∈ items, entry.2.isTerminal = false → entry.2.identity ∉ walked.live) ∧
      items.Pairwise fun first second => first.2.isTerminal = false →
        second.2.isTerminal = false → first.2.identity ≠ second.2.identity := by
  induction items generalizing walked with
  | nil => simp
  | cons item rest ih =>
      rw [foldChecked_cons_eq_ok] at h
      obtain ⟨next, hnext, hrest⟩ := h
      obtain ⟨hvalid, hid, hnew, hlive⟩ := validateHeldAttention_eq_ok hnext
      obtain ⟨heach, happart, hpairwise⟩ := ih hrest
      have hkept : ∀ who ∈ walked.live, who ∈ next.live := by
        intro who hwho
        rw [hlive]
        split
        · exact hwho
        · exact List.mem_append_left _ hwho
      refine ⟨?_, ?_, List.pairwise_cons.mpr ⟨?_, hpairwise⟩⟩
      · rintro entry hentry
        rcases List.mem_cons.mp hentry with rfl | hentry
        · exact ⟨hvalid, hid⟩
        · exact heach entry hentry
      · rintro entry hentry hterminal
        rcases List.mem_cons.mp hentry with rfl | hentry
        · exact hnew hterminal
        · exact fun hmem => happart entry hentry hterminal (hkept _ hmem)
      · intro entry hentry hitem hterminal heq
        refine happart entry hentry hterminal ?_
        rw [hlive, if_neg (by rw [hitem]; decide), ← heq]
        exact List.mem_append_right _ (List.mem_singleton.mpr rfl)

theorem attentionKept (h : validateAttentionRecords records = .ok passed) :
    AttentionKept records := by
  simp only [validateAttentionRecords, bind_eq_ok] at h
  obtain ⟨walked, hwalk, -⟩ := h
  obtain ⟨heach, -, hpairwise⟩ := liveDistinct_of_walk hwalk
  refine ⟨fun key value hvalue => heach (key, value) (mem_byId.mpr hvalue), ?_⟩
  intro key value other held hvalue hheld hlive hagain hidentity
  have hpairs : (byId records).Pairwise fun first second =>
      first.2.isTerminal = false → second.2.isTerminal = false →
        first.2.identity = second.2.identity → first = second :=
    hpairwise.imp fun hpair hfirst hsecond heq => absurd heq (hpair hfirst hsecond)
  have hsymm : Std.Symm fun first second : String × Attention =>
      first.2.isTerminal = false → second.2.isTerminal = false →
        first.2.identity = second.2.identity → first = second :=
    ⟨fun first second hpair hsecond hfirst heq => (hpair hfirst hsecond heq.symm).symm⟩
  have hall := hpairs.forall_of_forall (fun _ _ _ _ _ => rfl)
    (mem_byId.mpr hvalue) (mem_byId.mpr hheld)
  exact congrArg Prod.fst (hall hlive hagain hidentity)

end DodgingInfinity.Coordination
