import DodgingInfinity.Canonical
import DodgingInfinity.Json
import DodgingInfinity.Library.Distinct
import Mathlib.Data.List.Induction

/-!
# Coordination identity, vocabularies and bounded validators

The shapes every coordination record shares.  Members of a closed vocabulary and
values of a fixed type are typed here, so the checks that remain are those of
grammars, bounds and coherence, in the order of the source.
-/

namespace DodgingInfinity.Coordination

open Checked

inductive Problem where
  | badType
  | badValue
  | tooLarge
  | idGrammar
  | provenance
  | repositoryIdentity
  | authorityClaim
  | storeFull
  | storeConflict
  | routeConflict
  | idempotencyConflict
  | duplicateEffect
  | contextMismatch
  | bindingConflict
  | observationUnavailable
  | observationStale
  | observationInconsistent
  | missionNotObserved
  | missionMismatch
  | referenceNotMissionLocal
  | referenceNotProven
  | handoffStale
  | participantIneligible
  | rosterMissing
  | forwardingLoop
  | forwardContinuity
  | forwardDepthExceeded
  | invalidTransition
  | attentionTerminal
  deriving DecidableEq

def Problem.code : Problem → String
  | .badType => "coordination_bad_type"
  | .badValue => "coordination_bad_value"
  | .tooLarge => "coordination_too_large"
  | .idGrammar => "coordination_id_grammar"
  | .provenance => "coordination_provenance"
  | .repositoryIdentity => "coordination_repository_identity"
  | .authorityClaim => "coordination_authority_claim"
  | .storeFull => "coordination_store_full"
  | .storeConflict => "coordination_store_conflict"
  | .routeConflict => "coordination_route_conflict"
  | .idempotencyConflict => "coordination_idempotency_conflict"
  | .duplicateEffect => "coordination_duplicate_effect"
  | .contextMismatch => "coordination_context_mismatch"
  | .bindingConflict => "coordination_binding_conflict"
  | .observationUnavailable => "coordination_observation_unavailable"
  | .observationStale => "coordination_observation_stale"
  | .observationInconsistent => "coordination_observation_inconsistent"
  | .missionNotObserved => "coordination_mission_not_observed"
  | .missionMismatch => "coordination_mission_mismatch"
  | .referenceNotMissionLocal => "coordination_reference_not_mission_local"
  | .referenceNotProven => "coordination_reference_not_proven"
  | .handoffStale => "coordination_handoff_stale"
  | .participantIneligible => "coordination_participant_ineligible"
  | .rosterMissing => "coordination_roster_missing"
  | .forwardingLoop => "coordination_forwarding_loop"
  | .forwardContinuity => "coordination_forward_continuity"
  | .forwardDepthExceeded => "coordination_forward_depth_exceeded"
  | .invalidTransition => "coordination_invalid_transition"
  | .attentionTerminal => "coordination_attention_terminal"

/-- A refusal: its problem code and the place it names. -/
structure Refusal where
  problem : Problem
  location : String
  deriving DecidableEq

abbrev Checks (α : Type) : Type := Except Refusal α

/-- Refuse with `problem`, naming the place. -/
def failAt (bad : Prop) [Decidable bad] (problem : Problem) (location : String) : Checks Unit :=
  failIf bad ⟨problem, location⟩

/-- The value a lookup found, or a refusal. -/
def orFailAt {α : Type} (value : Option α) (problem : Problem) (location : String) : Checks α :=
  orFail value ⟨problem, location⟩

@[simp] theorem failAt_eq_ok (bad : Prop) [Decidable bad] (problem : Problem)
    (location : String) (passed : Unit) :
    failAt bad problem location = .ok passed ↔ ¬ bad :=
  failIf_eq_ok ..

variable {α : Type}

@[simp] theorem orFailAt_eq_ok (value : Option α) (problem : Problem)
    (location : String) (held : α) :
    orFailAt value problem location = .ok held ↔ value = some held :=
  orFail_eq_ok ..

/-- The check of a field that may be null. -/
def checkOptional {α : Type} (check : α → Checks Unit) : Option α → Checks Unit
  | none => .ok ()
  | some held => check held

variable {passed : Unit}

@[simp] theorem checkOptional_eq_ok {check : α → Checks Unit}
    {value : Option α} :
    checkOptional check value = .ok passed ↔
      ∀ held, value = some held → check held = .ok () := by
  cases value <;> simp [checkOptional]

theorem ok_of_mem_toOption {result : Checks α} {value : α}
    (h : value ∈ result.toOption) : result = .ok value := by
  cases result with
  | error refusal => cases h
  | ok held =>
      obtain rfl := Option.some.inj h
      rfl

/-! ## Identity -/

inductive IdPrefix where
  | route
  | binding
  | attention
  | handoff
  | mission
  | evidence
  | artifact
  deriving DecidableEq

def IdPrefix.text : IdPrefix → String
  | .route => "cr"
  | .binding => "cb"
  | .attention => "ca"
  | .handoff => "ch"
  | .mission => "mn"
  | .evidence => "mv"
  | .artifact => "mf"

def idHexChars : Nat := 32

def idHexAlphabet : List Char := "0123456789abcdef".toList

/-- The prefix, a dash and 32 lowercase hex digits. -/
def isId (kind : IdPrefix) (value : String) : Bool :=
  let start := kind.text.toList ++ ['-']
  value.toList.length = start.length + idHexChars ∧ value.toList.take start.length = start ∧
    ∀ character ∈ value.toList.drop start.length, character ∈ idHexAlphabet

def requireId (value : String) (kind : IdPrefix) (location : String) : Checks Unit :=
  failAt (isId kind value = false) .idGrammar location

variable {value : String}

@[simp] theorem requireId_eq_ok {location : String} {kind : IdPrefix} :
    requireId value kind location = .ok passed ↔ isId kind value = true := by
  simp [requireId]

/-! ## Generic validators -/

def maxTransportChars : Nat := 64
def maxPrincipalRefChars : Nat := 128
def maxSubjectChars : Nat := 256
def maxConversationRefChars : Nat := 128
def maxMessageRefChars : Nat := 128
def maxSelectorChars : Nat := 528
def maxKeyChars : Nat := 128
def maxDetailChars : Nat := 2000
def maxRequestTextChars : Nat := 4000
def maxConditionDetailChars : Nat := 1000
def maxStateCursorChars : Nat := 128
def maxObservationSourceChars : Nat := 128
def maxReferenceList : Nat := 64

def decimalDigits : List Char := "0123456789".toList

def transportAlphabet : List Char :=
  "abcdefghijklmnopqrstuvwxyz0123456789_".toList

def keyAlphabet : List Char :=
  "abcdefghijklmnopqrstuvwxyz0123456789_.-".toList

def requireStr (value location : String) (maxChars : Nat) : Checks Unit := do
  failAt (value.toList = []) .badValue location
  failAt (value.toList.length > maxChars) .tooLarge location

/-- A text that is not empty and not too long. -/
def IsStr (value : String) (maxChars : Nat) : Prop :=
  value.toList ≠ [] ∧ value.toList.length ≤ maxChars

@[simp] theorem requireStr_eq_ok {location : String} {maxChars : Nat} :
    requireStr value location maxChars = .ok passed ↔ IsStr value maxChars := by
  simp [requireStr, IsStr]

def requireAtLeast (value minimum : Nat) (location : String) : Checks Unit :=
  failAt (value < minimum) .badValue location

@[simp] theorem requireAtLeast_eq_ok {value minimum : Nat} {location : String} :
    requireAtLeast value minimum location = .ok passed ↔ minimum ≤ value := by
  simp [requireAtLeast]

def requireHex (value location : String) (length : Nat) : Checks Unit := do
  requireStr value location length
  failAt (value.toList.length ≠ length ∨
    ∃ character ∈ value.toList, character ∉ idHexAlphabet) .badValue location

/-- Exactly `length` lowercase hex digits. -/
def IsHex (value : String) (length : Nat) : Prop :=
  IsStr value length ∧ value.toList.length = length ∧
    ∀ character ∈ value.toList, character ∈ idHexAlphabet

@[simp] theorem requireHex_eq_ok {location : String} {length : Nat} :
    requireHex value location length = .ok passed ↔ IsHex value length := by
  simp only [requireHex, bind_eq_ok, exists_passed, requireStr_eq_ok,
    failAt_eq_ok, not_or, not_not, ne_eq, not_exists, not_and, IsHex]

def requireOptionalHex (value : Option String) (location : String) (length : Nat) : Checks Unit :=
  checkOptional (requireHex · location length) value

@[simp] theorem requireOptionalHex_eq_ok {value : Option String}
    {location : String} {length : Nat} :
    requireOptionalHex value location length = .ok passed ↔
      ∀ held, value = some held → IsHex held length := by
  simp [requireOptionalHex]

/-- An opaque bounded key. -/
def requireKey (value location : String) : Checks Unit := do
  requireStr value location maxKeyChars
  failAt (∃ character ∈ value.toList, character ∉ keyAlphabet) .badValue location

def IsKey (value : String) : Prop :=
  IsStr value maxKeyChars ∧ ∀ character ∈ value.toList, character ∈ keyAlphabet

@[simp] theorem requireKey_eq_ok {location : String} :
    requireKey value location = .ok passed ↔ IsKey value := by
  simp only [requireKey, bind_eq_ok, exists_passed, requireStr_eq_ok,
    failAt_eq_ok, not_not, not_exists, not_and, IsKey]

def requireTransport (value location : String) : Checks Unit := do
  requireStr value location maxTransportChars
  failAt (∃ character ∈ value.toList, character ∉ transportAlphabet) .badValue location

def IsTransport (value : String) : Prop :=
  IsStr value maxTransportChars ∧ ∀ character ∈ value.toList, character ∈ transportAlphabet

@[simp] theorem requireTransport_eq_ok {location : String} :
    requireTransport value location = .ok passed ↔ IsTransport value := by
  simp only [requireTransport, bind_eq_ok, exists_passed, requireStr_eq_ok,
    failAt_eq_ok, not_not, not_exists, not_and, IsTransport]

/-- A canonical decimal digit string, so that string equality is numeric
equality. -/
def requireCursor (value location : String) : Checks Unit := do
  requireStr value location maxStateCursorChars
  failAt ((∃ character ∈ value.toList, character ∉ decimalDigits) ∨
    (1 < value.toList.length ∧ value.toList.head? = some '0')) .badValue location

/-- The number a validated cursor denotes. -/
def cursorNumber (value : String) : Nat := Canonical.decimalValue value.toList

def cursorValue (value : String) : Checks Nat := do
  requireCursor value "cursor"
  pure (cursorNumber value)

/-- The digits of the number that a canonical digit string denotes are the
string's own. -/
theorem toDigits_decimalValue {digits : List Char} (hne : digits ≠ [])
    (hdigits : ∀ digit ∈ digits, digit ∈ decimalDigits)
    (hcanonical : 1 < digits.length → digits.head? ≠ some '0') :
    Nat.toDigits 10 (Canonical.decimalValue digits) = digits := by
  induction digits using List.reverseRecOn with
  | nil => exact absurd rfl hne
  | append_singleton init last ih =>
      have hvalue : Canonical.decimalValue (init ++ [last]) =
          10 * Canonical.decimalValue init + (last.toNat - '0'.toNat) := by
        simp [Canonical.decimalValue]
      have hplain : ∀ digit ∈ decimalDigits, digit.toNat - '0'.toNat < 10 ∧
          Nat.toDigits 10 (digit.toNat - '0'.toNat) = [digit] := by
        decide
      obtain ⟨hsmall, hlast⟩ := hplain last (hdigits last (by simp))
      rw [hvalue]
      by_cases hinit : init = []
      · have hzero : Canonical.decimalValue init = 0 := by rw [hinit]; rfl
        rw [hzero, Nat.mul_zero, Nat.zero_add, hlast, hinit, List.nil_append]
      have hhead : (init ++ [last]).head? = init.head? :=
        List.head?_append_of_ne_nil init hinit
      have hlong : 1 < (init ++ [last]).length := by
        simpa using List.length_pos_iff.mpr hinit
      have hfirst : init.head? ≠ some '0' := hhead ▸ hcanonical hlong
      have hagain := ih hinit (fun digit hmem => hdigits digit (by simp [hmem]))
        fun _ => hfirst
      have hpos : 0 < Canonical.decimalValue init := by
        apply Nat.pos_of_ne_zero
        intro hzero
        rw [hzero] at hagain
        exact hfirst (by rw [← hagain]; rfl)
      rw [← Nat.toDigits_append_toDigits (by decide) hpos hsmall, hagain, hlast]

/-- A canonical decimal digit string within the bound. -/
structure IsCursor (value : String) : Prop where
  text : IsStr value maxStateCursorChars
  digits : ∀ character ∈ value.toList, character ∈ decimalDigits
  canonical : 1 < value.toList.length → value.toList.head? ≠ some '0'

@[simp] theorem requireCursor_eq_ok {location : String} :
    requireCursor value location = .ok passed ↔ IsCursor value := by
  simp only [requireCursor, bind_eq_ok, exists_passed, requireStr_eq_ok,
    failAt_eq_ok, not_or, not_exists, not_and, not_not]
  constructor
  · rintro ⟨htext, hdigits, hcanonical⟩
    exact ⟨htext, hdigits, hcanonical⟩
  · rintro ⟨htext, hdigits, hcanonical⟩
    exact ⟨htext, hdigits, hcanonical⟩

/-- Two cursors that denote one number are one string. -/
theorem cursor_ext {first second : String} (hfirst : IsCursor first)
    (hsecond : IsCursor second) (h : cursorNumber first = cursorNumber second) :
    first = second := by
  have hdigits : ∀ {value : String}, IsCursor value →
      Nat.toDigits 10 (cursorNumber value) = value.toList := fun hvalue =>
    toDigits_decimalValue hvalue.text.1 hvalue.digits hvalue.canonical
  apply String.toList_injective
  rw [← hdigits hfirst, ← hdigits hsecond, h]

/-- An already canonical repository identity; refused, never repaired. -/
def requireRepositoryUrl (value location : String) : Checks Unit :=
  match Canonical.canonicalizeRepositoryUrl value with
  | .error _ => .error ⟨.repositoryIdentity, location⟩
  | .ok target => failAt (target.canonicalUrl ≠ value) .repositoryIdentity location

/-- An already canonical repository identity. -/
def IsRepositoryUrl (value : String) : Prop :=
  ∃ target, Canonical.canonicalizeRepositoryUrl value = .ok target ∧ target.canonicalUrl = value

@[simp] theorem requireRepositoryUrl_eq_ok {location : String} :
    requireRepositoryUrl value location = .ok passed ↔ IsRepositoryUrl value := by
  unfold requireRepositoryUrl IsRepositoryUrl
  cases Canonical.canonicalizeRepositoryUrl value <;> simp

/-- A list of at most `maxItems` items of which each passes its own check, which
names the place in the list. -/
def requireEach {α : Type} (items : List α) (location : String) (maxItems : Nat)
    (check : α → String → Checks Unit) : Checks Unit := do
  failAt (items.length > maxItems) .tooLarge location
  checkAll (fun entry => check entry.1 s!"{location}[{entry.2}]") items.zipIdx

/-- A check of every item of a list that also reads its place. -/
theorem checkIndexed_eq_ok {items : List α}
    {check : α × Nat → Checks Unit} {p : α → Prop}
    (hcheck : ∀ entry, check entry = .ok () ↔ p entry.1) :
    checkAll check items.zipIdx = .ok passed ↔ ∀ item ∈ items, p item := by
  simp only [checkAll_eq_ok, hcheck]
  constructor
  · intro h item hitem
    obtain ⟨index, hindex⟩ := List.getElem?_of_mem hitem
    exact h (item, index) (List.mk_mem_zipIdx_iff_getElem?.mpr hindex)
  · intro h entry hentry
    exact h _ (List.fst_mem_of_mem_zipIdx hentry)

theorem requireEach_eq_ok {items : List α} {location : String}
    {maxItems : Nat} {check : α → String → Checks Unit} {p : α → Prop}
    (hcheck : ∀ item place, check item place = .ok () ↔ p item) :
    requireEach items location maxItems check = .ok passed ↔
      items.length ≤ maxItems ∧ ∀ item ∈ items, p item := by
  simp only [requireEach, bind_eq_ok, exists_passed, failAt_eq_ok, not_lt,
    checkIndexed_eq_ok fun entry : α × Nat => hcheck entry.1 _]

/-- A sorted list without repetition; an unsorted list is never repaired. -/
def requireSorted (keys : List String) (location : String) : Checks Unit := do
  failAt (¬ keys.Nodup) .badValue location
  failAt (keys ≠ sortedBy id keys) .badValue location

def IsSorted (keys : List String) : Prop := keys.Nodup ∧ keys = sortedBy id keys

@[simp] theorem requireSorted_eq_ok {keys : List String} {location : String} :
    requireSorted keys location = .ok passed ↔ IsSorted keys := by
  simp [requireSorted, IsSorted]

/-- The records of a family in the order of their ids. -/
def byId {α : Type} (family : Dict String α) : List (String × α) :=
  sortedBy Prod.fst family.entries

theorem mem_byId {family : Dict String α} {key : String} {value : α} :
    (key, value) ∈ byId family ↔ family.get? key = some value := by
  rw [byId, mem_sortedBy, Dict.mem_entries_iff]

theorem nodup_byId (family : Dict String α) : (byId family).Nodup :=
  (nodup_sortedBy Prod.fst).mpr (List.Nodup.of_map _ family.nodup)

/-! ## Destinations, contexts and provenance -/

structure Destination where
  transport : String
  conversationRef : String
  deriving DecidableEq

def requireDestination (value : Destination) (location : String) :
    Checks Unit := do
  requireTransport value.transport (location ++ ".transport")
  requireStr value.conversationRef (location ++ ".conversation_ref") maxConversationRefChars

structure DestinationValid (value : Destination) : Prop where
  transport : IsTransport value.transport
  conversationRef : IsStr value.conversationRef maxConversationRefChars

@[simp] theorem requireDestination_eq_ok {value : Destination}
    {location : String} :
    requireDestination value location = .ok passed ↔ DestinationValid value := by
  simp only [requireDestination, bind_eq_ok, exists_passed,
    requireTransport_eq_ok, requireStr_eq_ok]
  constructor
  · rintro ⟨htransport, hconversation⟩
    exact ⟨htransport, hconversation⟩
  · rintro ⟨htransport, hconversation⟩
    exact ⟨htransport, hconversation⟩

inductive PrincipalKind where
  | connectorCredential
  | localProcessUser
  deriving DecidableEq

/-- What a transport adapter knows about the caller from its own authenticated
state. -/
structure AuthenticatedContext where
  transport : String
  principalKind : PrincipalKind
  principalRef : String
  configuredSubject : Option String
  deriving DecidableEq

def requireContext (context : AuthenticatedContext) (location : String) :
    Checks Unit := do
  requireTransport context.transport (location ++ ".transport")
  requireStr context.principalRef (location ++ ".principal_ref") maxPrincipalRefChars
  checkOptional (requireStr · (location ++ ".configured_subject")
    maxSubjectChars) context.configuredSubject

structure ContextValid (context : AuthenticatedContext) : Prop where
  transport : IsTransport context.transport
  principalRef : IsStr context.principalRef maxPrincipalRefChars
  configuredSubject : ∀ held, context.configuredSubject = some held → IsStr held maxSubjectChars

@[simp] theorem requireContext_eq_ok {context : AuthenticatedContext}
    {location : String} :
    requireContext context location = .ok passed ↔ ContextValid context := by
  simp only [requireContext, bind_eq_ok, exists_passed, requireTransport_eq_ok,
    requireStr_eq_ok, checkOptional_eq_ok]
  constructor
  · rintro ⟨htransport, hprincipal, hsubject⟩
    exact ⟨htransport, hprincipal, hsubject⟩
  · rintro ⟨htransport, hprincipal, hsubject⟩
    exact ⟨htransport, hprincipal, hsubject⟩

def proofTransportCredentialOnly : String := "transport_credential_only"
def authorityNone : String := "none"
def transfersContextAndRequestOnly : String := "context_and_request_only"

structure Provenance where
  context : AuthenticatedContext
  receivedAt : Nat
  observedRevision : Option Nat
  observationCursor : Option String
  humanIdentityProof : Option String
  proof : String
  deriving DecidableEq

def validateProvenance (value : Provenance) (location : String) :
    Checks Unit := do
  requireContext value.context location
  checkOptional (requireAtLeast · 1 (location ++ ".observed_revision")) value.observedRevision
  checkOptional (requireCursor · (location ++ ".observation_cursor")) value.observationCursor
  failAt (value.observedRevision.isNone ≠ value.observationCursor.isNone) .provenance location
  failAt (value.humanIdentityProof ≠ none) .provenance (location ++ ".human_identity_proof")
  failAt (value.proof ≠ proofTransportCredentialOnly) .provenance (location ++ ".proof")

structure ProvenanceValid (value : Provenance) : Prop where
  context : ContextValid value.context
  observedRevision : ∀ held, value.observedRevision = some held → 1 ≤ held
  observationCursor : ∀ held, value.observationCursor = some held → IsCursor held
  together : value.observedRevision.isNone = value.observationCursor.isNone
  humanIdentityProof : value.humanIdentityProof = none
  proof : value.proof = proofTransportCredentialOnly

@[simp] theorem validateProvenance_eq_ok {value : Provenance}
    {location : String} :
    validateProvenance value location = .ok passed ↔ ProvenanceValid value := by
  simp only [validateProvenance, bind_eq_ok, exists_passed,
    requireContext_eq_ok, checkOptional_eq_ok, requireAtLeast_eq_ok,
    requireCursor_eq_ok, failAt_eq_ok, not_not, ne_eq]
  constructor
  · rintro ⟨hcontext, hrevision, hcursor, htogether, hhuman, hproof⟩
    exact ⟨hcontext, hrevision, hcursor, htogether, hhuman, hproof⟩
  · rintro ⟨hcontext, hrevision, hcursor, htogether, hhuman, hproof⟩
    exact ⟨hcontext, hrevision, hcursor, htogether, hhuman, hproof⟩

/-- The provenance block of one act: only what is known. -/
def provenanceRecord (context : AuthenticatedContext) (receivedAt : Nat)
    (observedRevision : Option Nat) (observationCursor : Option String) :
    Checks Provenance := do
  requireContext context "context"
  let block : Provenance := {
    context := context
    receivedAt := receivedAt
    observedRevision := observedRevision
    observationCursor := observationCursor
    humanIdentityProof := none
    proof := proofTransportCredentialOnly }
  validateProvenance block "provenance"
  pure block

/-- The block built for a valid context and a whole or absent point. -/
theorem provenanceRecord_eq_ok {context : AuthenticatedContext}
    {receivedAt : Nat} {observedRevision : Option Nat}
    {observationCursor : Option String} {block : Provenance} :
    provenanceRecord context receivedAt observedRevision observationCursor =
        .ok block ↔ ProvenanceValid block ∧ block = {
        context := context
        receivedAt := receivedAt
        observedRevision := observedRevision
        observationCursor := observationCursor
        humanIdentityProof := none
        proof := proofTransportCredentialOnly } := by
  simp only [provenanceRecord, bind_eq_ok, exists_passed, requireContext_eq_ok,
    validateProvenance_eq_ok, pure_eq_ok]
  constructor
  · rintro ⟨-, hvalid, rfl⟩
    exact ⟨hvalid, rfl⟩
  · rintro ⟨hvalid, rfl⟩
    exact ⟨hvalid.context, hvalid, rfl⟩

def requireAuthority (value location : String) : Checks Unit :=
  failAt (value ≠ authorityNone) .authorityClaim (location ++ ".authority")

@[simp] theorem requireAuthority_eq_ok {location : String} :
    requireAuthority value location = .ok passed ↔ value = authorityNone := by
  simp [requireAuthority]

end DodgingInfinity.Coordination
