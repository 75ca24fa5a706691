import DodgingInfinity.TelegramOperator.Protocol

/-!
# The replies of the two Grok Bot turns

A reply carries at most one envelope.  A planning turn is answered by a Mission
Authorization that is an object, a first turn by a routing signal, whose text carries
nothing.
-/

namespace DodgingInfinity.CodexGateway

open Values LogicalLines TelegramOperator
open Checked (failIf orFail bind_eq_ok exists_passed failIf_eq_ok orFail_eq_ok pure_eq_ok
  map_eq_ok)

def planningAcceptedKinds : List String := [kindMissionAuthorization]

/-- Why a turn's reply is refused; the decoder's recursion passes through. -/
inductive TurnFault where
  | parser (fault : Fault)
  | multipleEnvelopes
  | wrongKind (kind : String)
  | planningBodyNotAnObject
  | routingBodyNotAString
  deriving DecidableEq

/-- The lines that begin an envelope of the remote family. -/
def envelopeLineCount (message : Text) : Nat :=
  ((split message).filter fun line => markerFamilyPrefix <+: line).length

section

variable [FloatText] [JsonDecoder]

/-- The one accepted envelope of a reply. -/
def parseTurnEnvelope (message : Text) : Except TurnFault RoutedResponse := do
  failIf (1 < envelopeLineCount message) .multipleEnvelopes
  let routed ← (parseRoutedOperatorResponse message).mapError .parser
  failIf (routed.kind ∉ planningAcceptedKinds) (.wrongKind routed.kind)
  pure routed

/-- The Mission Authorization that a planning turn returned. -/
def parsePlanningResponse (message : Text) : Except TurnFault Text := do
  let routed ← parseTurnEnvelope message
  failIf (routed.bodyShape ≠ .object) .planningBodyNotAnObject
  pure routed.body

/-- A first turn's envelope is the routing signal. -/
def parseRoutingSignal (message : Text) : Except TurnFault Unit := do
  let routed ← parseTurnEnvelope message
  failIf (routed.bodyShape ≠ .string) .routingBodyNotAString

/-! ## The one envelope of a reply -/

/-- The line is a Mission Authorization envelope with the body. -/
structure IsEnvelope (line : Text) (body : Value) : Prop where
  opens : responsePrefixV2 <+: line
  bounded : line.length ≤ maxEnvelopeChars
  document : ∃ entries, loads (line.drop responsePrefixV2.length) = .value (.dict entries) ∧
    HasRequiredKeys entries ∧
    IsVersion remoteProtocolVersionV2 floatTwo (field entries "remote_protocol_version") ∧
    field entries "kind" = .text (ofString kindMissionAuthorization) ∧ field entries "body" = body

/-- The line is the only one of the remote family, and the first version is not named. -/
structure OnlyEnvelope (message line : Text) : Prop where
  only : ((split message).filter fun other => markerFamilyPrefix <+: other) = [line]
  unmarked : ¬ marker <:+: message

variable {message line : Text} {routed : RoutedResponse} {entries : Entries} {payload : Text}

omit [FloatText] in
theorem loadObject_eq_ok :
    loadObject payload = .ok entries ↔ loads payload = .value (.dict entries) := by
  unfold loadObject
  split <;> simp_all

end

section

variable {message line : Text} {kind : String} {kinds : List String} {value : Value}

theorem kindAmong_eq_some (h : kindAmong kinds value = some kind) :
    kind ∈ kinds ∧ value = .text (ofString kind) := by
  refine ⟨List.mem_of_find?_eq_some h, ?_⟩
  simpa using List.find?_some h

/-- Every response of the second version is of the family. -/
theorem family_of_response (h : responsePrefixV2 <+: line) : markerFamilyPrefix <+: line := by
  have hfamily : markerFamilyPrefix <+: responsePrefixV2 := by decide
  exact hfamily.trans h

theorem envelopeLine_eq_some {opening : Text} (h : envelopeLine opening message = some line) :
    line ∈ split message ∧ opening <+: line := by
  have hmem := List.mem_of_getLast? h
  simpa using hmem

/-- The only line of the family is the one that is parsed. -/
theorem OnlyEnvelope.envelopeLine (h : OnlyEnvelope message line)
    (hopens : responsePrefixV2 <+: line) :
    envelopeLine responsePrefixV2 message = some line := by
  have hfilter : ((split message).filter fun other => responsePrefixV2 <+: other) =
      ((split message).filter fun other => markerFamilyPrefix <+: other).filter
        fun other => responsePrefixV2 <+: other := by
    rw [List.filter_filter]
    apply List.filter_congr
    intro other _
    by_cases hother : responsePrefixV2 <+: other
    · simp [hother, family_of_response hother]
    · simp [hother]
  unfold TelegramOperator.envelopeLine
  rw [hfilter, h.only]
  simp [hopens]

theorem OnlyEnvelope.mem (h : OnlyEnvelope message line) :
    line ∈ split message ∧ markerFamilyPrefix <+: line := by
  have hmem : line ∈ (split message).filter fun other => markerFamilyPrefix <+: other := by
    rw [h.only]
    exact List.mem_singleton_self _
  simpa using hmem

theorem OnlyEnvelope.unique (h : OnlyEnvelope message line) {other : Text}
    (hother : other ∈ split message) (hfamily : markerFamilyPrefix <+: other) : other = line := by
  have hmem : other ∈ (split message).filter fun held => markerFamilyPrefix <+: held := by
    simpa using ⟨hother, hfamily⟩
  rw [h.only] at hmem
  exact List.mem_singleton.mp hmem

end

section

variable [FloatText] [JsonDecoder] {message line : Text} {routed : RoutedResponse}

omit [FloatText] [JsonDecoder] in
theorem stringBody_eq_ok {body : Value} {content : Text} :
    stringBody body = .ok content ↔ body = .text content ∧ ¬ IsBlank content := by
  cases body with
  | text held =>
      simp only [stringBody, bind_eq_ok, exists_passed, failIf_eq_ok, pure_eq_ok, Value.text.injEq]
      constructor
      · rintro ⟨hblank, rfl⟩
        exact ⟨rfl, hblank⟩
      · rintro ⟨rfl, hblank⟩
        exact ⟨hblank, rfl⟩
  | _ => simp [stringBody]

omit [JsonDecoder] in
/-- The body of a Mission Authorization is an object, or a text that is not blank. -/
theorem bodyV2_eq_ok {body : Value} {held : Text × BodyShape} :
    bodyV2 kindMissionAuthorization body = .ok held ↔
      (∃ entries, body = .dict entries ∧ held = (canonicalBody entries, .object)) ∨
        ∃ content, body = .text content ∧ ¬ IsBlank content ∧ held = (content, .string) := by
  have htext : ∀ other, (stringBody other).map (fun content => (content, BodyShape.string)) =
      .ok held ↔ ∃ content, other = .text content ∧ ¬ IsBlank content ∧
        held = (content, .string) := by
    intro other
    constructor
    · intro h
      obtain ⟨content, hcontent, rfl⟩ := (map_eq_ok ..).mp h
      exact ⟨content, (stringBody_eq_ok.mp hcontent).1, (stringBody_eq_ok.mp hcontent).2, rfl⟩
    · rintro ⟨content, rfl, hblank, rfl⟩
      exact (map_eq_ok ..).mpr ⟨content, stringBody_eq_ok.mpr ⟨rfl, hblank⟩, rfl⟩
  cases body with
  | dict entries =>
      simp only [bodyV2, if_pos, Except.ok.injEq, Value.dict.injEq, reduceCtorEq, false_and,
        exists_false, or_false]
      constructor
      · rintro rfl
        exact ⟨entries, rfl, rfl⟩
      · rintro ⟨_, rfl, rfl⟩
        rfl
  | _ =>
      simp only [bodyV2]
      rw [htext]
      simp

/-- What the parser of the second version accepts of a reply with one envelope. -/
theorem parseResponseV2_eq_ok (h : OnlyEnvelope message line) (hopens : responsePrefixV2 <+: line)
    (hkind : routed.kind = kindMissionAuthorization) :
    parseResponseV2 message = .ok routed ↔ ∃ body, IsEnvelope line body ∧
      bodyV2 kindMissionAuthorization body = .ok (routed.body, routed.bodyShape) ∧
      routed.protocolVersion = remoteProtocolVersionV2 := by
  unfold parseResponseV2
  simp only [bind_eq_ok, exists_passed, failIf_eq_ok, orFail_eq_ok, pure_eq_ok, not_not,
    h.envelopeLine hopens, Option.some.injEq, loadObject_eq_ok, exists_eq_left', not_lt]
  constructor
  · rintro ⟨hbounded, entries, hloads, hkeys, hversion, kind, hkinds, held, hbody, rfl⟩
    obtain rfl : kind = kindMissionAuthorization := hkind
    exact ⟨_, ⟨hopens, hbounded, entries, hloads, hkeys, hversion, (kindAmong_eq_some hkinds).2,
      rfl⟩, hbody, rfl⟩
  · rintro ⟨body, ⟨-, hbounded, entries, hloads, hkeys, hversion, hnamed, rfl⟩, hbody, hrouted⟩
    refine ⟨hbounded, entries, hloads, hkeys, hversion, kindMissionAuthorization, ?_, _, hbody, ?_⟩
    · rw [hnamed]
      decide
    · rw [← hkind, ← hrouted]

omit [FloatText] in
/-- No answer of the first version is a Mission Authorization. -/
theorem parseOperatorResponse_kind {parsed : OperatorResponse}
    (h : parseOperatorResponse message = .ok parsed) : parsed.kind ∉ planningAcceptedKinds := by
  unfold parseOperatorResponse at h
  simp only [bind_eq_ok, exists_passed, failIf_eq_ok, orFail_eq_ok, pure_eq_ok] at h
  obtain ⟨-, line, -, -, document, -, -, -, kind, hkind, body, -, rfl⟩ := h
  have hkinds : ∀ kind ∈ responseKinds, kind ∉ planningAcceptedKinds := by decide
  exact hkinds kind (kindAmong_eq_some hkind).1

/-- A reply with one envelope passes the checks before it is parsed. -/
theorem OnlyEnvelope.parsed (h : OnlyEnvelope message line) (hopens : responsePrefixV2 <+: line) :
    parseRoutedOperatorResponse message = parseResponseV2 message := by
  have hnamed : markerV2 <:+: message := by
    have hmarker : markerV2 <+: responsePrefixV2 := by decide
    exact (hmarker.trans hopens).isInfix.trans (infix_of_mem_split h.mem.1)
  have hsome : message ≠ [] := by
    rintro rfl
    exact absurd (List.infix_nil.mp hnamed) (by decide)
  have hknown : ¬ ∃ other ∈ split message, IsUnknownMarker other := by
    rintro ⟨other, hother, hfamily, hunknown⟩
    rw [h.unique hother hfamily] at hunknown
    exact hunknown (Or.inr hopens)
  unfold parseRoutedOperatorResponse failIf
  rw [if_neg hsome, if_neg (fun hboth => h.unmarked hboth.1), if_neg hknown, if_pos hnamed]
  rfl

/-- A reply that a turn accepts has one envelope, of the second version. -/
theorem only_of_parseTurnEnvelope (h : parseTurnEnvelope message = .ok routed) :
    (∃ line, OnlyEnvelope message line ∧ responsePrefixV2 <+: line) ∧
      parseRoutedOperatorResponse message = .ok routed ∧
      routed.kind = kindMissionAuthorization := by
  unfold parseTurnEnvelope at h
  simp only [bind_eq_ok, exists_passed, failIf_eq_ok, pure_eq_ok, not_not] at h
  obtain ⟨hcount, accepted, hparsed, hkind, rfl⟩ := h
  have hrouted : parseRoutedOperatorResponse message = .ok accepted := by
    cases hresult : parseRoutedOperatorResponse message with
    | error fault =>
        rw [hresult] at hparsed
        cases hparsed
    | ok held =>
        rw [hresult] at hparsed
        exact congrArg Except.ok (Except.ok.inj hparsed)
  refine ⟨?_, hrouted, List.mem_singleton.mp hkind⟩
  unfold parseRoutedOperatorResponse at hrouted
  simp only [bind_eq_ok, exists_passed, failIf_eq_ok] at hrouted
  obtain ⟨-, hboth, -, hversion⟩ := hrouted
  by_cases hnamed : markerV2 <:+: message
  · rw [if_pos hnamed] at hversion
    unfold parseResponseV2 at hversion
    simp only [bind_eq_ok, orFail_eq_ok] at hversion
    obtain ⟨line, hline, -⟩ := hversion
    obtain ⟨hmem, hopens⟩ := envelopeLine_eq_some hline
    refine ⟨line, ⟨?_, fun hmarker => hboth ⟨hmarker, hnamed⟩⟩, hopens⟩
    have hfamily : line ∈ (split message).filter fun other => markerFamilyPrefix <+: other := by
      simpa using ⟨hmem, family_of_response hopens⟩
    have hlength := List.length_pos_of_mem hfamily
    unfold envelopeLineCount at hcount
    obtain ⟨only, honly⟩ := List.length_eq_one_iff.mp (by omega :
      ((split message).filter fun other => markerFamilyPrefix <+: other).length = 1)
    rw [honly] at hfamily ⊢
    rw [List.mem_singleton.mp hfamily]
  · rw [if_neg hnamed] at hversion
    obtain ⟨answer, hanswer, rfl⟩ := (map_eq_ok ..).mp hversion
    exact absurd hkind (parseOperatorResponse_kind hanswer)

/-- What a turn accepts is the one envelope of its reply. -/
theorem parseTurnEnvelope_eq_ok : parseTurnEnvelope message = .ok routed ↔
    ∃ line body, OnlyEnvelope message line ∧ IsEnvelope line body ∧
      bodyV2 kindMissionAuthorization body = .ok (routed.body, routed.bodyShape) ∧
      routed.kind = kindMissionAuthorization ∧
      routed.protocolVersion = remoteProtocolVersionV2 := by
  constructor
  · intro h
    obtain ⟨⟨line, honly, hopens⟩, hrouted, hkind⟩ := only_of_parseTurnEnvelope h
    rw [honly.parsed hopens] at hrouted
    obtain ⟨body, hbody, hshape, hversion⟩ :=
      (parseResponseV2_eq_ok honly hopens hkind).mp hrouted
    exact ⟨line, body, honly, hbody, hshape, hkind, hversion⟩
  · rintro ⟨line, body, honly, hbody, hshape, hkind, hversion⟩
    have hrouted : parseRoutedOperatorResponse message = .ok routed := by
      rw [honly.parsed hbody.opens]
      exact (parseResponseV2_eq_ok honly hbody.opens hkind).mpr ⟨body, hbody, hshape, hversion⟩
    have hcount : envelopeLineCount message = 1 := by
      unfold envelopeLineCount
      rw [honly.only]
      rfl
    unfold parseTurnEnvelope
    rw [hrouted]
    simp only [bind_eq_ok, exists_passed, failIf_eq_ok, pure_eq_ok, not_not, hcount]
    exact ⟨by decide, routed, rfl, by rw [hkind]; decide, rfl⟩

/-- A planning turn is answered by one envelope, whose body is an object. -/
theorem parsePlanningResponse_eq_ok {text : Text} : parsePlanningResponse message = .ok text ↔
    ∃ line entries, OnlyEnvelope message line ∧ IsEnvelope line (.dict entries) ∧
      text = canonicalBody entries := by
  unfold parsePlanningResponse
  simp only [bind_eq_ok, exists_passed, failIf_eq_ok, pure_eq_ok, not_not, ne_eq]
  constructor
  · rintro ⟨routed, hrouted, hshape, rfl⟩
    obtain ⟨line, body, honly, hbody, hheld, -⟩ := parseTurnEnvelope_eq_ok.mp hrouted
    rcases bodyV2_eq_ok.mp hheld with ⟨entries, rfl, heq⟩ | ⟨content, rfl, -, heq⟩
    · exact ⟨line, entries, honly, hbody, congrArg Prod.fst heq⟩
    · rw [hshape] at heq
      cases congrArg Prod.snd heq
  · rintro ⟨line, entries, honly, hbody, rfl⟩
    refine ⟨⟨remoteProtocolVersionV2, kindMissionAuthorization, canonicalBody entries, .object⟩,
      ?_, rfl, rfl⟩
    exact parseTurnEnvelope_eq_ok.mpr ⟨line, _, honly, hbody,
      bodyV2_eq_ok.mpr (Or.inl ⟨entries, rfl, rfl⟩), rfl, rfl⟩

/-- A routing signal is one envelope, whose body is a text that is not blank. -/
theorem parseRoutingSignal_eq_ok : parseRoutingSignal message = .ok () ↔
    ∃ line content, OnlyEnvelope message line ∧ IsEnvelope line (.text content) ∧
      ¬ IsBlank content := by
  unfold parseRoutingSignal
  simp only [bind_eq_ok, failIf_eq_ok, not_not, ne_eq]
  constructor
  · rintro ⟨routed, hrouted, hshape⟩
    obtain ⟨line, body, honly, hbody, hheld, -⟩ := parseTurnEnvelope_eq_ok.mp hrouted
    rcases bodyV2_eq_ok.mp hheld with ⟨entries, rfl, heq⟩ | ⟨content, rfl, hblank, -⟩
    · rw [hshape] at heq
      cases congrArg Prod.snd heq
    · exact ⟨line, content, honly, hbody, hblank⟩
  · rintro ⟨line, content, honly, hbody, hblank⟩
    refine ⟨⟨remoteProtocolVersionV2, kindMissionAuthorization, content, .string⟩, ?_, rfl⟩
    exact parseTurnEnvelope_eq_ok.mpr ⟨line, _, honly, hbody,
      bodyV2_eq_ok.mpr (Or.inr ⟨content, rfl, hblank, rfl⟩), rfl, rfl⟩

end

end DodgingInfinity.CodexGateway
