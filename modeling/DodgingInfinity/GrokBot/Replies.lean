import DodgingInfinity.CodexGateway.PlanningReply

/-!
# The framing of a Grok Bot turn

Lines that begin an envelope of either family are found, prose is quoted, and lines of a
human's text that carry a marker are neutralized, all by one line grammar.
-/

namespace DodgingInfinity.GrokBot

open Values LogicalLines
open TelegramOperator (neutralizedLinePrefix isMark_neutralized)

def markerFamily : Text := ofString "DI-GROKBOT-"

def routingMarkerFamily : Text := ofString "DI-REMOTE-"

def envelopeMarkerFamilies : List Text := [markerFamily, routingMarkerFamily]

/-- The bound of a reply that is shown. -/
def maxReplyChars : Nat := 65536

/-- The line begins an envelope of either family. -/
def BeginsEnvelope (line : Text) : Prop := ∃ family ∈ envelopeMarkerFamilies, family <+: line

instance (line : Text) : Decidable (BeginsEnvelope line) :=
  inferInstanceAs (Decidable (∃ family ∈ envelopeMarkerFamilies, family <+: line))

def envelopeLines (message : Text) : List Text := (split message).filter BeginsEnvelope

/-- Every logical line quoted, for display only. -/
def quoteProse (text : Text) : Text :=
  ((splitKeep text).map fun line => neutralizedLinePrefix ++ line).flatten

theorem splitKeep_quoteProse (text : Text) :
    splitKeep (quoteProse text) = (splitKeep text).map fun line => neutralizedLinePrefix ++ line :=
  splitKeep_marked isMark_neutralized (fun _ => Or.inr rfl) text

/-- Quoted prose without its quotes is the prose. -/
theorem unquoted_quoteProse (text : Text) : ((splitKeep (quoteProse text)).map fun line =>
      line.drop neutralizedLinePrefix.length).flatten = text := by
  rw [splitKeep_quoteProse, List.map_map]
  have hdrop : ((fun line : Text => line.drop neutralizedLinePrefix.length) ∘
      fun line => neutralizedLinePrefix ++ line) = id := by
    funext line
    exact List.drop_left
  rw [hdrop, List.map_id, flatten_splitKeep]

/-- No line of quoted prose is without its quote. -/
theorem quoted_split (text : Text) : ∀ line ∈ split (quoteProse text),
    neutralizedLinePrefix <+: line := by
  intro line hline
  unfold split at hline
  rw [splitKeep_quoteProse, List.map_map] at hline
  obtain ⟨kept, -, rfl⟩ := List.mem_map.mp hline
  rw [Function.comp_apply, content_marked isMark_neutralized.lineFree]
  exact List.prefix_append ..

end DodgingInfinity.GrokBot

/-!
## The reply of the first Operator turn

A reply is a routing signal, or prose that is quoted and shown, or it is refused.  Which
one it is is decided from the lines that begin an envelope, before anything is parsed.
-/

namespace DodgingInfinity.GrokBot

open Values LogicalLines CodexGateway
open TelegramOperator (JsonDecoder IsBlank canonicalBody neutralizedLinePrefix markerFamilyPrefix)
open Checked (failIf bind_eq_ok exists_passed failIf_eq_ok pure_eq_ok)

/-- What a reply is acted on as. -/
inductive Reply where
  | routing
  | clarification (shown : Text)

/-- The problem of a reply with an envelope that is no routing signal. -/
inductive EnvelopeProblem where
  | retired
  | tooDeep
  | turn (fault : TurnFault)
  deriving DecidableEq

inductive ReplyRefusal where
  | envelope (problem : EnvelopeProblem)
  | empty
  | tooLarge (length : Nat)
  deriving DecidableEq

/-- The decoder's exhausted recursion is a refusal of its own. -/
def envelopeProblem : TurnFault → EnvelopeProblem
  | .parser .recursion => .tooDeep
  | fault => .turn fault

section

variable [FloatText] [JsonDecoder]

/-- A reply with an envelope is the routing signal or refused. -/
def classifyEnvelope (message : Text) : Except ReplyRefusal Reply := do
  failIf (∃ line ∈ envelopeLines message, markerFamily <+: line) (.envelope .retired)
  (parseRoutingSignal message).mapError fun fault => .envelope (envelopeProblem fault)
  pure .routing

/-- A reply without one is prose. -/
def classifyProse (message : Text) : Except ReplyRefusal Reply := do
  failIf (IsBlank message) .empty
  failIf (maxReplyChars < message.length) (.tooLarge message.length)
  pure (.clarification (quoteProse message))

def classifyOperatorReply (message : Text) : Except ReplyRefusal Reply :=
  if envelopeLines message ≠ [] then classifyEnvelope message else classifyProse message

end

/-! ## The one envelope -/

section

variable {message line : Text}

theorem mem_envelopeLines :
    line ∈ envelopeLines message ↔ line ∈ split message ∧ BeginsEnvelope line := by
  simp [envelopeLines]

theorem beginsEnvelope_iff :
    BeginsEnvelope line ↔ markerFamily <+: line ∨ markerFamilyPrefix <+: line := by
  simp [BeginsEnvelope, envelopeMarkerFamilies, routingMarkerFamily, markerFamilyPrefix]

/-- Without a line of the Grok Bot family, the lines are those of the remote one. -/
theorem envelopeLines_eq (h : ∀ line ∈ envelopeLines message, ¬ markerFamily <+: line) :
    envelopeLines message = (split message).filter fun line => markerFamilyPrefix <+: line := by
  unfold envelopeLines
  apply List.filter_congr
  intro line hline
  by_cases hbegins : BeginsEnvelope line
  · have hremote := (beginsEnvelope_iff.mp hbegins).resolve_left
      (h line (mem_envelopeLines.mpr ⟨hline, hbegins⟩))
    simp [hbegins, hremote]
  · have hremote : ¬ markerFamilyPrefix <+: line := fun hremote =>
      hbegins (beginsEnvelope_iff.mpr (Or.inr hremote))
    simp [hbegins, hremote]

/-- A response of the second version is of no Grok Bot family. -/
theorem not_markerFamily (h : TelegramOperator.responsePrefixV2 <+: line) :
    ¬ markerFamily <+: line := by
  intro hfamily
  rcases List.prefix_or_prefix_of_prefix hfamily h with hbefore | hbefore
  · revert hbefore
    decide
  · revert hbefore
    decide

end

section

variable [FloatText] [JsonDecoder] {message : Text}

theorem classifyEnvelope_eq_ok {reply : Reply} : classifyEnvelope message = .ok reply ↔
    reply = .routing ∧ (∀ line ∈ envelopeLines message, ¬ markerFamily <+: line) ∧
      parseRoutingSignal message = .ok () := by
  unfold classifyEnvelope
  simp only [bind_eq_ok, exists_passed, failIf_eq_ok, pure_eq_ok]
  have hmap : (parseRoutingSignal message).mapError
      (fun fault => ReplyRefusal.envelope (envelopeProblem fault)) = .ok () ↔
        parseRoutingSignal message = .ok () := by
    cases parseRoutingSignal message with
    | error fault => simp [Except.mapError]
    | ok passed => simp [Except.mapError]
  rw [hmap]
  constructor
  · rintro ⟨hretired, hsignal, rfl⟩
    exact ⟨rfl, fun line hline hfamily => hretired ⟨line, hline, hfamily⟩, hsignal⟩
  · rintro ⟨rfl, hretired, hsignal⟩
    refine ⟨?_, hsignal, rfl⟩
    rintro ⟨line, hline, hfamily⟩
    exact hretired line hline hfamily

omit [FloatText] [JsonDecoder] in
theorem classifyProse_eq_ok {reply : Reply} : classifyProse message = .ok reply ↔
    ¬ IsBlank message ∧ message.length ≤ maxReplyChars ∧
      reply = .clarification (quoteProse message) := by
  unfold classifyProse
  simp only [bind_eq_ok, exists_passed, failIf_eq_ok, pure_eq_ok, not_lt]
  exact and_congr_right fun _ => and_congr_right fun _ => eq_comm

/-- The reply is routed exactly by its only envelope. -/
theorem classify_routing : classifyOperatorReply message = .ok .routing ↔
    ∃ line content, envelopeLines message = [line] ∧
      IsEnvelope line (.text content) ∧ ¬ IsBlank content ∧
      ¬ TelegramOperator.marker <:+: message := by
  unfold classifyOperatorReply
  constructor
  · intro h
    split at h
    · obtain ⟨-, hretired, hsignal⟩ := classifyEnvelope_eq_ok.mp h
      obtain ⟨line, content, honly, hbody, hblank⟩ := parseRoutingSignal_eq_ok.mp hsignal
      refine ⟨line, content, ?_, hbody, hblank, honly.unmarked⟩
      rw [envelopeLines_eq hretired, honly.only]
    · obtain ⟨-, -, hreply⟩ := classifyProse_eq_ok.mp h
      cases hreply
  · rintro ⟨line, content, honly, hbody, hblank, hmarker⟩
    have hretired : ∀ other ∈ envelopeLines message, ¬ markerFamily <+: other := by
      intro other hother
      rw [honly, List.mem_singleton] at hother
      rw [hother]
      exact not_markerFamily hbody.opens
    rw [if_pos (by rw [honly]; exact List.cons_ne_nil _ _), classifyEnvelope_eq_ok]
    refine ⟨rfl, hretired, parseRoutingSignal_eq_ok.mpr ⟨line, content, ⟨?_, hmarker⟩, hbody,
      hblank⟩⟩
    rw [← envelopeLines_eq hretired, honly]

omit [FloatText] [JsonDecoder] in
theorem envelopeLines_eq_nil :
    envelopeLines message = [] ↔ ∀ line ∈ split message, ¬ BeginsEnvelope line := by
  simp [envelopeLines, List.filter_eq_nil_iff]

/-- The reply is shown exactly when it is prose within its bound. -/
theorem classify_clarification {shown : Text} :
    classifyOperatorReply message = .ok (.clarification shown) ↔
      (∀ line ∈ split message, ¬ BeginsEnvelope line) ∧ ¬ IsBlank message ∧
        message.length ≤ maxReplyChars ∧ shown = quoteProse message := by
  unfold classifyOperatorReply
  rw [← envelopeLines_eq_nil]
  by_cases hnone : envelopeLines message = []
  · rw [if_neg (not_not.mpr hnone), classifyProse_eq_ok, Reply.clarification.injEq]
    simp [hnone]
  · rw [if_pos hnone, classifyEnvelope_eq_ok]
    simp [hnone]

/-- A reply is acted on only by its one envelope, shown only when it has none, quoted so
that the quotes are all that is added, and refused otherwise; a planning turn is answered
by one envelope with an object. -/
theorem reply_acted_on_by_its_envelope (message : Text) :
    (classifyOperatorReply message = .ok .routing ↔ ∃ line content,
      envelopeLines message = [line] ∧ IsEnvelope line (.text content) ∧ ¬ IsBlank content ∧
        ¬ TelegramOperator.marker <:+: message) ∧
    (∀ shown, classifyOperatorReply message = .ok (.clarification shown) ↔
      (∀ line ∈ split message, ¬ BeginsEnvelope line) ∧ ¬ IsBlank message ∧
        message.length ≤ maxReplyChars ∧ shown = quoteProse message) ∧
    (∀ shown, classifyOperatorReply message = .ok (.clarification shown) →
      (∀ line ∈ split shown, neutralizedLinePrefix <+: line) ∧
        ((splitKeep shown).map fun line =>
          line.drop neutralizedLinePrefix.length).flatten = message) ∧
    (∀ text, parsePlanningResponse message = .ok text ↔ ∃ line entries,
      OnlyEnvelope message line ∧ IsEnvelope line (.dict entries) ∧
        text = canonicalBody entries) := by
  refine ⟨classify_routing, fun shown => classify_clarification, ?_,
    fun text => parsePlanningResponse_eq_ok⟩
  intro shown h
  obtain ⟨-, -, -, rfl⟩ := classify_clarification.mp h
  exact ⟨quoted_split message, unquoted_quoteProse message⟩

end

end DodgingInfinity.GrokBot
