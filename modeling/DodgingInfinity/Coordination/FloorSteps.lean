import DodgingInfinity.Coordination.Derivation
import DodgingInfinity.Coordination.Floor

/-!
# The floor over the runs of the service

What each operation does to the points of a document, and what follows for every
document that a run of operations reaches: two points at one pair are one point,
the floor is always found, and it never moves back.
-/

namespace DodgingInfinity.Coordination

open Checked Relation

section

variable [JsonDigest]

/-! ## Valid documents -/

/-- What the records of a valid document keep. -/
structure DocumentKept (document : Document) : Prop where
  bindings : BindingsValid document.bindings
  routes : ∀ key value, document.routeDecisions.get? key = some value →
    RouteValid value ∧ value.routeId = key
  attention : AttentionKept document.attention
  book : BookValid document.book

theorem documentKept {document : Document} {passed : Unit}
    (h : validateDocument document = .ok passed) : DocumentKept document := by
  simp only [validateDocument, bind_eq_ok, exists_passed, validateHandoffs_eq_ok] at h
  obtain ⟨-, hbindings, hroutes, hattention, hbook⟩ := h
  exact {
    bindings := bindingsValid hbindings
    routes := routesValid hroutes
    attention := attentionKept hattention
    book := hbook }

omit [JsonDigest] in
theorem EntriesFollow.point {value : Handoff} {entries : List TransitionEntry}
    {previous : Option TransitionEntry} (h : EntriesFollow value previous entries)
    {entry : TransitionEntry} (hentry : entry ∈ entries) :
    PointValid entry.observationPoint := by
  induction entries generalizing previous with
  | nil => cases hentry
  | cons first rest ih =>
      rcases List.mem_cons.mp hentry with rfl | hentry
      · exact h.1.point
      · exact ih h.2 hentry

variable {missionId : String}

/-- Every point of a valid document is valid. -/
theorem DocumentKept.point {document : Document} (h : DocumentKept document)
    {point : ObservationPoint}
    (hpoint : document.holds missionId point) : PointValid point := by
  rw [holds_eq] at hpoint
  rcases hpoint with ⟨key, bound, hheld, -, rfl⟩ | ⟨key, route, hheld, -, hroute⟩ |
    ⟨key, value, hheld, -, hvalue⟩ | ⟨key, value, hheld, -, hvalue⟩ |
    ⟨roster, hheld, rfl⟩
  · exact (h.bindings.each key bound hheld).1.facts.2.2.2
  · exact (h.routes key route hheld).1.point hroute
  · exact (h.attention.each key value hheld).1.facts.points point hvalue
  · have hhistory := (h.book.each key value hheld).1.history
    rcases hvalue with rfl | ⟨entry, hentry, rfl⟩
    · exact hhistory.point
    · exact hhistory.follow.point hentry
  · exact (h.book.rosters _ roster hheld).1.point

/-! ## Fresh reads -/

variable [Wording] {document next : Document} {around : Surroundings}

variable {result : FreshnessResult}

theorem observe_classified (h : observe document around missionId = .ok result) :
    ∃ floor, highWaterMark document missionId = .ok floor ∧ isId .mission missionId = true ∧
      Classified missionId around.now floor
        (observeSafely (around.answer missionId)) result := by
  simp only [observe, bind_eq_ok] at h
  obtain ⟨floor, hfloor, hresult⟩ := h
  obtain ⟨hid, hclassified⟩ := classify_eq_ok hresult
  exact ⟨floor, hfloor, hid, hclassified⟩

theorem observe_freshIsValid
    (h : observe document around missionId = .ok result) : FreshIsValid result := by
  obtain ⟨floor, -, -, hclassified⟩ := observe_classified h
  intro hfresh
  obtain ⟨observed, hobserved, hof⟩ := hclassified.fresh hfresh
  exact ⟨observed, hobserved, hof.valid⟩

/-- The points that a fresh read of the surroundings proves for a document. -/
def freshRead (document : Document) (around : Surroundings) : FreshPoints :=
  fun missionId point => ∃ result observed,
    observe document around missionId = .ok result ∧ result.freshness = .fresh ∧
      result.observation = some observed ∧ point = pointOf observed

theorem freshRead_of_readOf (hresult : observe document around missionId = .ok result) :
    ∀ other point, freshReadOf result other point →
      freshRead document around other point := by
  rintro other point ⟨observed, hfresh, hobserved, hother, -, rfl⟩
  obtain ⟨floor, -, -, hclassified⟩ := observe_classified hresult
  obtain ⟨hown, -⟩ := hclassified.own observed hobserved
  rw [hother, hown]
  exact ⟨result, observed, hresult, hfresh, hobserved, rfl⟩

variable {observed : MissionObservation}

variable {what : String}

theorem freshRead_of_requireFresh (hresult : observe document around missionId = .ok result)
    (h : requireFresh result missionId what = .ok observed) :
    freshRead document around missionId (pointOf observed) := by
  obtain ⟨hfresh, hobserved, -⟩ := requireFresh_eq_ok.mp h
  exact ⟨result, observed, hresult, hfresh, hobserved, rfl⟩

theorem observeFresh_eq_ok (h : observeFresh document around missionId what = .ok observed) :
    freshRead document around missionId (pointOf observed) := by
  simp only [observeFresh, bind_eq_ok] at h
  obtain ⟨result, hresult, hrequired⟩ := h
  exact freshRead_of_requireFresh hresult hrequired

/-! ## Routes -/

omit [JsonDigest] [Wording] in
theorem RouteRecord.subject_eq_some {route : RouteRecord} : route.subject = some missionId ↔
      route.derivation.missionId = some missionId ∨ (route.derivation.missionId = none ∧
          route.derivation.candidates = [missionId]) := by
  unfold RouteRecord.subject
  split
  · rename_i held candidates hheld
    simp [hheld]
  · rename_i candidate hnone hcandidate
    simp [hnone, hcandidate]
  · rename_i candidates hnone hmany
    simp only [reduceCtorEq, hnone, false_or, true_and, false_iff]
    exact hmany missionId

variable {turn : InboundTurn} {now : Nat}

omit [Wording] in
/-- The point that a decision records is that of a fresh read of its subject. -/
theorem Decided.read_of_point {bindings : Bindings}
    {lookup : String → Checks FreshnessResult} {fields : Identified}
    (h : Decided turn bindings lookup now fields)
    {point : ObservationPoint} (hsubject : fields.missionId = some missionId ∨
      (fields.missionId = none ∧ fields.candidates = [missionId]))
    (hpoint : fields.observationPoint = some point) :
    ∃ result observed, lookup missionId = .ok result ∧ result.freshness = .fresh ∧
      result.observation = some observed ∧ point = pointOf observed := by
  cases h with
  | asked hasks => cases hpoint
  | proposed hdigest => cases hpoint
  | read hreached hresult hresolved =>
      cases hresolved with
      | unread hstale hasks => cases hpoint
      | stale hfresh hobserved hvalid hbound htold =>
          rcases hsubject with hsome | ⟨-, honly⟩
          · cases hsome
          · obtain rfl := (List.cons.inj honly).1
            exact ⟨_, _, hresult, hfresh, hobserved, (Option.some.inj hpoint).symm⟩
      | resolved hfresh hobserved hvalid hstands =>
          rcases hsubject with hsome | ⟨hnone, -⟩
          · obtain rfl := Option.some.inj hsome
            exact ⟨_, _, hresult, hfresh, hobserved, (Option.some.inj hpoint).symm⟩
          · cases hnone

variable {context : AuthenticatedContext}

theorem routeAnew_advances
    (hkept : DocumentKept document) (h : routeAnew document around turn context = .ok (some next)) :
    Advances (freshRead document around) document.holds next.holds := by
  simp only [routeAnew, deriveRoute, newRouteRecord, bind_eq_ok, exists_passed,
    pure_eq_ok, Option.some.injEq] at h
  obtain ⟨derivation, ⟨hturn, fields, hfields, rfl⟩, ⟨routeId, rest⟩, hid, route,
    ⟨provenance, -, -, rfl⟩, rfl⟩ := h
  have hunused := (freshId_eq_ok hid).2
  refine advances_of_families .refl (advances_set (fun old hold => ?_) ?_) .refl .refl .refl
  · rw [hunused] at hold
    cases hold
  · rintro missionId point ⟨hsubject, hpoint⟩
    exact .inr ((identity_decided hkept.bindings hturn hfields).read_of_point
      (RouteRecord.subject_eq_some.mp hsubject) hpoint)

theorem performRoute_advances (hkept : DocumentKept document)
    (h : performRoute document around turn context = .ok (some next)) :
    Advances (freshRead document around) document.holds next.holds := by
  simp only [performRoute, bind_eq_ok, exists_passed] at h
  obtain ⟨-, found, -, h⟩ := h
  split at h
  · cases h
  · exact routeAnew_advances hkept h

/-! ## Bindings -/

variable {fresh : FreshPoints} {expiresAt : Option Nat}

variable {kind : BindingKind} {transport selector : String} {conversationRef : Option String}

omit [Wording] in
theorem bindAs_advances (hfresh : fresh missionId (pointOf observed))
    (h : bindAs document around kind transport conversationRef selector missionId
      observed expiresAt context = .ok (some next)) :
    Advances fresh document.holds next.holds := by
  simp only [bindAs, newBinding, bind_eq_ok, exists_passed, pure_eq_ok, Option.some.injEq] at h
  obtain ⟨-, ⟨bindingId, rest⟩, hid, bound, ⟨-, -, -, -, -, rfl⟩, -, rfl⟩ := h
  have hunused := (freshId_eq_ok hid).2
  refine advances_of_families (advances_set (fun old hold => ?_) ?_) .refl .refl .refl .refl
  · rw [hunused] at hold
    cases hold
  · rintro other point ⟨rfl, rfl⟩
    exact .inr hfresh

variable {bindingId : String}

variable {bound : Binding}

omit [JsonDigest] [Wording] in
theorem heldBinding_eq_ok (h : heldBinding document bindingId = .ok bound) :
    document.bindings.get? bindingId = some bound := by
  simp only [heldBinding, bind_eq_ok, exists_passed, orFailAt_eq_ok] at h
  exact h.2

omit [JsonDigest] [Wording] in
/-- A revoked binding keeps its point. -/
theorem revoke_advances
    {revoked : Binding} (hheld : document.bindings.get? bindingId = some bound)
    (h : bound.revoke now = .ok revoked) : Advances fresh document.holds
      { document with bindings := document.bindings.set bindingId revoked }.holds := by
  simp only [Binding.revoke, bind_eq_ok, exists_passed, pure_eq_ok] at h
  obtain ⟨-, -, -, -, rfl⟩ := h
  refine advances_of_families (advances_set (fun old hold => ?_) ?_) .refl .refl .refl .refl
  · obtain rfl := Option.some.inj (hheld.symm.trans hold)
    exact fun _ _ => id
  · exact fun _ _ hpoint => .inl ⟨bound, hheld, hpoint⟩

theorem performBind_advances
    (h : performBind document around kind transport conversationRef selector missionId
      context expiresAt = .ok (some next)) :
    Advances (freshRead document around) document.holds next.holds := by
  simp only [performBind, bind_eq_ok, exists_passed] at h
  obtain ⟨-, observed, hobserved, h⟩ := h
  exact bindAs_advances (observeFresh_eq_ok hobserved) h

omit [JsonDigest] [Wording] in
theorem performRevoke_advances
    (h : performRevoke document around bindingId context = .ok (some next)) :
    Advances fresh document.holds next.holds := by
  simp only [performRevoke, bind_eq_ok, exists_passed, pure_eq_ok, Option.some.injEq] at h
  obtain ⟨-, bound, hheld, revoked, hrevoked, rfl⟩ := h
  exact revoke_advances (heldBinding_eq_ok hheld) hrevoked

theorem performRebind_advances
    (h : performRebind document around bindingId context expiresAt = .ok (some next)) :
    Advances (freshRead document around) document.holds next.holds := by
  simp only [performRebind, bind_eq_ok, exists_passed] at h
  obtain ⟨-, old, hheld, observed, hobserved, revoked, hrevoked, h⟩ := h
  exact (revoke_advances (heldBinding_eq_ok hheld) hrevoked).trans
    (bindAs_advances (observeFresh_eq_ok hobserved) h)

/-! ## Attention -/

variable {records : AttentionRecords}

omit [JsonDigest] [Wording] in
theorem attentionMove_advances {later : AttentionRecords}
    (hmove : AttentionMove fresh records later) :
    Advances fresh (familyPoints records Attention.attributed)
      (familyPoints later Attention.attributed) where
  grown := by
    rintro missionId point ⟨key, value, hvalue, rfl, hpoint⟩
    rcases hmove.points_grow hvalue hpoint with hfresh | ⟨before, hbefore, hsame, hheld⟩
    · exact .inr hfresh
    · exact .inl ⟨key, before, hbefore, hsame, hheld⟩
  kept := by
    rintro missionId point ⟨key, value, hvalue, rfl, hpoint⟩
    obtain ⟨after, hafter, hcontinues, -⟩ := hmove.carries hvalue
    exact .inl ⟨key, after, hafter, congrArg Prod.fst hcontinues.identity,
      hcontinues.kept point hpoint⟩

omit [JsonDigest] [Wording] in
theorem attentionMoves_advance {later : AttentionRecords}
    (hmoves : ReflTransGen (AttentionMove fresh) records later) :
    Advances fresh (familyPoints records Attention.attributed)
      (familyPoints later Attention.attributed) := by
  induction hmoves with
  | refl => exact .refl
  | tail _ hmove ih => exact ih.trans (attentionMove_advances hmove)

/-- Records that move by a read of the surroundings advance the document. -/
theorem moved_advances (hresult : observe document around missionId = .ok result)
    (hmoves : ReflTransGen (AttentionMove (freshReadOf result)) document.attention
      records) : Advances (freshRead document around) document.holds
      { document with attention := records }.holds :=
  advances_of_families .refl .refl
    ((attentionMoves_advance hmoves).mono (freshRead_of_readOf hresult)) .refl .refl

theorem performProject_advances {destination : Destination} (hkept : DocumentKept document)
    (h : performProject document around missionId destination = .ok (some next)) :
    Advances (freshRead document around) document.holds next.holds := by
  simp only [performProject, bind_eq_ok, pure_eq_ok] at h
  obtain ⟨result, hresult, ⟨done, records⟩, hproject, hnext⟩ := h
  unfold projected at hnext
  split at hnext
  · obtain rfl := Option.some.inj hnext
    exact moved_advances hresult
      (project_moves hkept.attention (observe_freshIsValid hresult) hproject).1
  · cases hnext

variable {attentionId : String}

theorem performSurface_advances (hkept : DocumentKept document)
    (h : performSurface document around attentionId = .ok (some next)) :
    Advances (freshRead document around) document.holds next.holds := by
  simp only [performSurface, bind_eq_ok, pure_eq_ok] at h
  obtain ⟨value, -, result, hresult, ⟨done, records⟩, hsurface, hnext⟩ := h
  unfold surfacedDocument at hnext
  split at hnext
  · obtain rfl := Option.some.inj hnext
    exact moved_advances hresult
      (surface_moves hkept.attention (observe_freshIsValid hresult) hsurface)
  · cases hnext

theorem performAcknowledge_advances (hkept : DocumentKept document)
    (h : performAcknowledge document around attentionId context = .ok (some next)) :
    Advances (freshRead document around) document.holds next.holds := by
  simp only [performAcknowledge, bind_eq_ok, exists_passed, pure_eq_ok, Option.some.injEq] at h
  obtain ⟨-, value, -, result, hresult, ⟨done, records⟩, hacknowledge, rfl⟩ := h
  obtain ⟨held, -, hmove⟩ := acknowledge_moves hkept.attention hacknowledge
  exact moved_advances hresult (.single hmove)

/-! ## Rosters and handoffs -/

theorem performSetRoster_advances
    {participants : List Participant}
    (h : performSetRoster document around missionId participants context =
      .ok (some next)) :
    Advances (freshRead document around) document.holds next.holds := by
  simp only [performSetRoster, setRoster, bind_eq_ok, exists_passed,
    observationPoint_eq_ok, pure_eq_ok, Option.some.injEq] at h
  obtain ⟨-, result, hresult, ⟨roster, book⟩, ⟨-, -, observed, hobserved, point,
    ⟨-, rfl⟩, -, -, hpair⟩, rfl⟩ := h
  simp only [Prod.mk.injEq] at hpair
  obtain ⟨rfl, rfl⟩ := hpair
  have hfresh := freshRead_of_requireFresh hresult hobserved
  refine advances_of_families .refl .refl .refl .refl ⟨?_, ?_⟩
  · rintro other point ⟨held, hheld, rfl⟩
    simp only [Dict.get?_set] at hheld
    split at hheld
    · rename_i hsame
      obtain rfl := Option.some.inj hheld
      exact .inr (hsame ▸ hfresh)
    · exact .inl ⟨held, hheld, rfl⟩
  · -- the roster that is replaced gives way to the fresh point of the new one
    rintro other point ⟨held, hheld, rfl⟩
    by_cases hsame : other = missionId
    · subst hsame
      exact .inr ⟨_, ⟨_, Dict.get?_set_self .., rfl⟩, hfresh⟩
    · refine .inl ⟨held, ?_, rfl⟩
      simp only [Dict.get?_set_of_ne _ _ hsame, hheld]

variable {handoffId : String} {request : HandoffRequest}

omit [Wording] in
/-- A created handoff is a stored one, or a new one under the fresh read. -/
theorem created_cases {book later : HandoffBook} {created : Handoff}
    (h : createHandoff book handoffId request result now context =
      .ok (created, later)) : (later = book ∧ ∃ key, book.handoffs.get? key = some created) ∨
      ∃ observed, requireFresh result request.missionId "handoff creation" =
          .ok observed ∧ (∀ missionId point, created.attributed missionId point →
          missionId = request.missionId ∧ point = pointOf observed) ∧
        book.handoffs.get? created.handoffId = none ∧
        later = { book with
          handoffs := book.handoffs.set created.handoffId created } := by
  simp only [createHandoff, bind_eq_ok, exists_passed, observationPoint_eq_ok] at h
  obtain ⟨-, -, -, -, observed, hobserved, -, -, point, ⟨-, rfl⟩, provenance, -,
    forward, -, -, -, hstore⟩ := h
  unfold storeHandoff at hstore
  split at hstore
  · rename_i existing hexisting
    simp only [bind_eq_ok, exists_passed, pure_eq_ok, Prod.mk.injEq] at hstore
    obtain ⟨-, rfl, rfl⟩ := hstore
    have hmem := List.mem_of_find?_eq_some hexisting
    simp only [List.mem_map, Prod.exists, mem_byId, exists_eq_right] at hmem
    exact .inl ⟨rfl, hmem⟩
  · simp only [bind_eq_ok, exists_passed, failAt_eq_ok, pure_eq_ok, Prod.mk.injEq,
      Bool.not_eq_true, Dict.contains_eq_false_iff] at hstore
    obtain ⟨hunused, -, -, rfl, rfl⟩ := hstore
    refine .inr ⟨observed, hobserved, ?_, hunused, rfl⟩
    rintro missionId point ⟨rfl, rfl | ⟨entry, hentry, rfl⟩⟩
    · exact ⟨rfl, rfl⟩
    · obtain rfl := List.mem_singleton.mp hentry
      exact ⟨rfl, rfl⟩

theorem performCreateHandoff_advances (hkept : DocumentKept document)
    (h : performCreateHandoff document around request context = .ok (some next)) :
    Advances (freshRead document around) document.holds next.holds := by
  simp only [performCreateHandoff, bind_eq_ok, exists_passed, pure_eq_ok] at h
  obtain ⟨-, ⟨handoffId, rest⟩, -, result, hresult, ⟨created, book⟩, hcreated, hnext⟩ := h
  unfold createdDocument at hnext
  split at hnext
  · cases hnext
  rename_i habsent
  obtain rfl := Option.some.inj hnext
  rcases created_cases hcreated with ⟨-, key, hheld⟩ | ⟨observed, hobserved, honly, hunused, rfl⟩
  · obtain ⟨-, rfl, -⟩ := hkept.book.each key created hheld
    rw [Bool.not_eq_true, Dict.contains_eq_false_iff] at habsent
    rw [habsent] at hheld
    cases hheld
  · refine advances_of_families .refl .refl .refl (advances_set (fun old hold => ?_) ?_) .refl
    · rw [hunused] at hold
      cases hold
    · intro missionId point hpoint
      obtain ⟨rfl, rfl⟩ := honly missionId point hpoint
      exact .inr (freshRead_of_requireFresh hresult hobserved)

theorem performTransition_advances {status : HandoffStatus}
    {actor : Participant} (h : performTransition document around handoffId status actor context =
      .ok (some next)) :
    Advances (freshRead document around) document.holds next.holds := by
  simp only [performTransition, transition, bind_eq_ok, exists_passed,
    orFailAt_eq_ok, observationPoint_eq_ok, pure_eq_ok, Option.some.injEq] at h
  obtain ⟨-, -, value, hheld, result, hresult, ⟨updated, book⟩, ⟨-, -, held, hagain, -,
    -, observed, hobserved, -, -, last, -, current, -, before, -, -, -, point, ⟨-, rfl⟩,
    -, hpair⟩, rfl⟩ := h
  simp only [Prod.mk.injEq] at hpair
  obtain ⟨rfl, rfl⟩ := hpair
  obtain rfl := Option.some.inj (hheld.symm.trans hagain)
  refine advances_of_families .refl .refl .refl (advances_set (fun old hold => ?_) ?_) .refl
  · obtain rfl := Option.some.inj (hheld.symm.trans hold)
    rintro missionId point ⟨hmission, rfl | ⟨entry, hentry, rfl⟩⟩
    · exact ⟨hmission, .inl rfl⟩
    · exact ⟨hmission, .inr ⟨entry, List.mem_append_left _ hentry, rfl⟩⟩
  · rintro missionId point ⟨hmission, rfl | ⟨entry, hentry, rfl⟩⟩
    · exact .inl ⟨value, hheld, hmission, .inl rfl⟩
    · rcases List.mem_append.mp hentry with hentry | hentry
      · exact .inl ⟨value, hheld, hmission, .inr ⟨entry, hentry, rfl⟩⟩
      · obtain rfl := List.mem_singleton.mp hentry
        exact .inr (hmission ▸ freshRead_of_requireFresh hresult hobserved)

variable {operation : Operation}

/-- Every operation that saves a document advances its points by fresh reads. -/
theorem Operation.advances (hkept : DocumentKept document)
    (h : operation.apply document around = .ok (some next)) :
    Advances (freshRead document around) document.holds next.holds := by
  cases operation with
  | route turn context => exact performRoute_advances hkept h
  | bind kind transport conversationRef selector missionId context expiresAt =>
      exact performBind_advances h
  | revokeBinding bindingId context => exact performRevoke_advances h
  | rebind bindingId context expiresAt => exact performRebind_advances h
  | projectAttention missionId destination => exact performProject_advances hkept h
  | surfaceAttention attentionId => exact performSurface_advances hkept h
  | acknowledgeAttention attentionId context =>
      exact performAcknowledge_advances hkept h
  | setRoster missionId participants context => exact performSetRoster_advances h
  | createHandoff request context => exact performCreateHandoff_advances hkept h
  | transitionHandoff handoffId status actor context =>
      exact performTransition_advances h

/-! ## Steps -/

/-- The document that a load finds. -/
def documentOf (stored : Option Document) : Document := stored.getD defaultDocument

omit [Wording] in
theorem load_eq_ok {stored : Option Document} {loaded : Document}
    (h : load stored = .ok loaded) : documentOf stored = loaded := by
  cases stored with
  | none => exact Except.ok.inj h
  | some document =>
      simp only [load, bind_eq_ok, exists_passed, pure_eq_ok] at h
      exact h.2

/-- What one cycle leaves: the file as it was, or a valid document whose points
have advanced. -/
theorem cycle_cases {stored later : Option Document}
    (hkept : DocumentKept (documentOf stored)) (h : operation.cycle stored around = .ok later) :
    later = stored ∨ (DocumentKept (documentOf later) ∧
      Advances (freshRead (documentOf stored) around) (documentOf stored).holds
        (documentOf later).holds) := by
  simp only [Operation.cycle, bind_eq_ok] at h
  obtain ⟨loaded, hload, formed, hformed, hsaved⟩ := h
  obtain rfl := load_eq_ok hload
  cases formed with
  | none =>
      obtain rfl := Except.ok.inj hsaved
      exact .inl rfl
  | some document =>
      obtain ⟨written, hwritten, rfl⟩ := (map_eq_ok ..).mp hsaved
      simp only [save, bind_eq_ok, exists_passed, pure_eq_ok] at hwritten
      obtain ⟨hvalid, -, -, -, -, rfl⟩ := hwritten
      have hsame := documentKept hvalid
      have hadvances := operation.advances hkept hformed
      exact .inr ⟨⟨hsame.bindings, hsame.routes, hsame.attention, hsame.book⟩, hadvances⟩

/-! ## Agreement -/

/-- Every Mission's points agree. -/
def DocumentAgrees (document : Document) : Prop :=
  ∀ missionId, PointsAgree (points document missionId)

/-- A fresh point at the pair of a held one is that one. -/
theorem freshRead_agrees (hkept : DocumentKept document) (hagrees : DocumentAgrees document)
    {fresh held : ObservationPoint} (hfresh : freshRead document around missionId fresh)
    (hheld : document.holds missionId held) (hpair : fresh.pair = held.pair) :
    fresh = held := by
  obtain ⟨result, observed, hresult, hfreshness, hobserved, rfl⟩ := hfresh
  obtain ⟨floor, hfloor, hid, hclassified⟩ := observe_classified hresult
  obtain ⟨other, hother, hof⟩ := hclassified.fresh hfreshness
  obtain rfl := Option.some.inj (hobserved.symm.trans hother)
  obtain ⟨mark, hmark, hbelow, -⟩ := highWaterMark_eq_ok hid (hagrees missionId)
  obtain rfl := Except.ok.inj (hfloor.symm.trans hmark)
  obtain ⟨greatest, hgreatest, hmem, hle⟩ := hbelow held hheld
  have hahead := hof.ahead _ hgreatest
  rw [isBehind_eq_false] at hle hahead
  have hsame : observed.pair = held.pair := hpair
  rw [markOf_pair, hsame] at hahead
  have htop : greatest.pair = held.pair := toLex_inj.mp (le_antisymm hahead hle)
  obtain rfl := hagrees missionId greatest hmem held hheld htop
  have hnone := hof.agrees _ greatest hgreatest rfl hsame
  have hcursor : observed.stateCursor = greatest.cursor :=
    cursor_ext (observationValid hof.valid).cursor (hkept.point hmem).cursor
      (congrArg Prod.snd hsame)
  exact samePointDisagreement_eq_none hnone (congrArg Prod.fst hsame) hcursor

theorem freshRead_unique {first second : ObservationPoint}
    (hfirst : freshRead document around missionId first)
    (hsecond : freshRead document around missionId second) : first = second := by
  obtain ⟨result, observed, hresult, -, hobserved, rfl⟩ := hfirst
  obtain ⟨again, other, hagain, -, hother, rfl⟩ := hsecond
  obtain rfl := Except.ok.inj (hresult.symm.trans hagain)
  obtain rfl := Option.some.inj (hobserved.symm.trans hother)
  rfl

/-- Points that advance by fresh reads still agree. -/
theorem agrees_of_advances (hkept : DocumentKept document) (hagrees : DocumentAgrees document)
    (h : Advances (freshRead document around) document.holds next.holds) :
    DocumentAgrees next := by
  intro missionId first hfirst second hsecond hpair
  rcases h.grown missionId first hfirst with hold | hfresh
  · rcases h.grown missionId second hsecond with hother | hagain
    · exact hagrees missionId first hold second hother hpair
    · exact (freshRead_agrees hkept hagrees hagain hold hpair.symm).symm
  · rcases h.grown missionId second hsecond with hother | hagain
    · exact freshRead_agrees hkept hagrees hfresh hother hpair
    · exact freshRead_unique hfresh hagain

/-- A floor does not move back when the points advance by fresh reads. -/
theorem floor_rises (hagrees : DocumentAgrees document) (hnext : DocumentAgrees next)
    (h : Advances (freshRead document around) document.holds next.holds) {mark : HighWaterMark}
    (hmark : highWaterMark document missionId = .ok (some mark)) :
    ∃ after, highWaterMark next missionId = .ok (some after) ∧
      isBehind after.pair mark.pair = false := by
  have hid : isId .mission missionId = true := by
    simp only [highWaterMark, bind_eq_ok, exists_passed, requireId_eq_ok] at hmark
    exact hmark.1
  obtain ⟨floor, hfloor, -, hfound⟩ := highWaterMark_eq_ok hid (hagrees missionId)
  obtain rfl := Except.ok.inj (hmark.symm.trans hfloor)
  obtain ⟨held, hheld, hsome⟩ := hfound (Option.some_ne_none _)
  obtain rfl := Option.some.inj hsome
  obtain ⟨after, hafter, hbelow, -⟩ := highWaterMark_eq_ok hid (hnext missionId)
  rcases h.kept missionId held hheld with hstays | ⟨later, hlater, hfresh⟩
  · obtain ⟨greatest, rfl, -, hle⟩ := hbelow held hstays
    exact ⟨_, hafter, hle⟩
  · -- the point that is gone was no further than the fresh one in its place
    obtain ⟨greatest, rfl, -, hle⟩ := hbelow later hlater
    obtain ⟨result, observed, hresult, hfreshness, hobserved, rfl⟩ := hfresh
    obtain ⟨floor, hfloor, -, hclassified⟩ := observe_classified hresult
    obtain ⟨other, hother, hof⟩ := hclassified.fresh hfreshness
    obtain rfl := Option.some.inj (hobserved.symm.trans hother)
    obtain rfl := Except.ok.inj (hfloor.symm.trans hmark)
    have hahead := hof.ahead _ rfl
    refine ⟨_, hafter, ?_⟩
    rw [isBehind_eq_false] at hle hahead ⊢
    exact hahead.trans hle

/-! ## Runs -/

/-- The invariant of every stored document. -/
structure StoredKept (stored : Option Document) : Prop where
  records : DocumentKept (documentOf stored)
  agrees : DocumentAgrees (documentOf stored)

omit [Wording] in
theorem storedKept_none : StoredKept none := by
  have hbook := bookValid_empty
  refine ⟨⟨⟨?_, ?_⟩, ?_, ⟨?_, ?_⟩, hbook⟩, ?_⟩
  · intro key value hheld
    cases hheld
  · intro key value other held hheld
    cases hheld
  · intro key value hheld
    cases hheld
  · intro key value hheld
    cases hheld
  · intro key value other held hheld
    cases hheld
  · intro missionId point hpoint
    change (defaultDocument).holds missionId point at hpoint
    rw [holds_eq] at hpoint
    rcases hpoint with ⟨key, value, hheld, -⟩ | ⟨key, value, hheld, -⟩ |
      ⟨key, value, hheld, -⟩ | ⟨key, value, hheld, -⟩ | ⟨value, hheld, -⟩ <;> cases hheld

variable {stored later : Option Document}

theorem StoredKept.step (h : StoredKept stored) (hstep : ServiceStep stored later) :
    StoredKept later := by
  obtain ⟨operation, around, hcycle⟩ := hstep
  rcases cycle_cases h.records hcycle with rfl | ⟨hkept, hadvances⟩
  · exact h
  · exact ⟨hkept, agrees_of_advances h.records h.agrees hadvances⟩

theorem storedKept_of_reachable
    (h : Transition.Reachable ServiceStep none stored) : StoredKept stored :=
  h.invariant (p := StoredKept) storedKept_none fun _ _ hkept hstep => hkept.step hstep

/-- What holds of the floor in every document that a run reaches. -/
structure FloorKept (stored : Option Document) : Prop where
  found : ∀ missionId, isId .mission missionId = true →
    ∃ mark, highWaterMark (documentOf stored) missionId = .ok mark
  agree : ∀ missionId, PointsAgree (points (documentOf stored) missionId)
  recorded : ∀ operation around later,
    Operation.cycle stored around operation = .ok later → ∀ missionId point,
    point ∈ points (documentOf later) missionId → point ∈ points (documentOf stored) missionId ∨
      ∃ result observed, observe (documentOf stored) around missionId = .ok result ∧
        result.freshness = .fresh ∧ result.observation = some observed ∧ point = pointOf observed
  rises : ∀ later, ReflTransGen ServiceStep stored later → ∀ missionId mark,
    highWaterMark (documentOf stored) missionId = .ok (some mark) →
    ∃ after, highWaterMark (documentOf later) missionId = .ok (some after) ∧
      isBehind after.pair mark.pair = false

/-- In every document that a run of operations reaches, under any answers of the
observation source, the floor of every Mission is found, points at one pair agree,
only fresh reads are recorded, and the floor never moves back. -/
theorem floor_kept (h : Transition.Reachable ServiceStep none stored) :
    FloorKept stored := by
  have hstored := storedKept_of_reachable h
  refine ⟨fun missionId hid => ?_, hstored.agrees, ?_, ?_⟩
  · obtain ⟨mark, hmark, -⟩ := highWaterMark_eq_ok hid (hstored.agrees missionId)
    exact ⟨mark, hmark⟩
  · intro operation around later hcycle missionId point hpoint
    rcases cycle_cases hstored.records hcycle with rfl | ⟨-, hadvances⟩
    · exact .inl hpoint
    · exact hadvances.grown missionId point hpoint
  · intro later hrun missionId mark hmark
    induction hrun with
    | refl => exact ⟨mark, hmark, (isBehind_eq_false ..).mpr (le_refl _)⟩
    | tail hleading hlast ih =>
        obtain ⟨middle, hmiddle, hle⟩ := ih
        have hbefore := storedKept_of_reachable (h.run hleading)
        have hafter := hbefore.step hlast
        obtain ⟨operation, around, hcycle⟩ := hlast
        rcases cycle_cases hbefore.records hcycle with rfl | ⟨-, hadvances⟩
        · exact ⟨middle, hmiddle, hle⟩
        · obtain ⟨after, hfound, hrise⟩ :=
            floor_rises hbefore.agrees hafter.agrees hadvances hmiddle
          refine ⟨after, hfound, ?_⟩
          rw [isBehind_eq_false] at hle hrise ⊢
          exact hle.trans hrise

end

/-! ## A sample run -/

def sampleSurroundings : Surroundings where
  now := 5
  answer _ := .returned (.observed sampleObservation)
  minted := []
  presenter := .raised "Unused"
  lanes := []

set_option maxRecDepth 100000 in
/-- A roster is registered in a fresh document. -/
theorem sampleRegistration : letI := sampleHexDigest
    letI := sampleWording
    ∃ stored ∈ ((Operation.setRoster sampleMissionId [.engineering] sampleContext).cycle
      none sampleSurroundings).toOption,
      (points (documentOf stored) sampleMissionId).length = 1 := by
  decide +kernel

/-- The general theorem after that registration. -/
theorem floor_kept_registered : letI := sampleHexDigest
    letI := sampleWording
    ∃ stored, FloorKept stored ∧
      (points (documentOf stored) sampleMissionId).length = 1 := by
  let _ := sampleHexDigest
  let _ := sampleWording
  obtain ⟨stored, hstored, hone⟩ := sampleRegistration
  have hstep : ServiceStep none stored :=
    ⟨_, sampleSurroundings, ok_of_mem_toOption hstored⟩
  exact ⟨stored, floor_kept (Transition.Reachable.start.tail hstep), hone⟩

end DodgingInfinity.Coordination
