import DodgingInfinity.GrokBot.Display
import Mathlib.Data.List.Infix

/-!
# The remote Operator protocol

An envelope is one line that begins at column 0 with a marker.  A reply is parsed by the
version that its markers name, and everything that is not exactly one of the envelopes of
that version fails closed.
-/

namespace DodgingInfinity.TelegramOperator

open Values LogicalLines
open Checked (failIf orFail)

/-! ## Markers -/

def remoteProtocolVersion : Int := 1

def remoteProtocolVersionV2 : Int := 2

def marker : Text := ofString "DI-REMOTE-1"

def responsePrefix : Text := marker ++ ofString " RESPONSE "

def markerV2 : Text := ofString "DI-REMOTE-2"

def responsePrefixV2 : Text := markerV2 ++ ofString " RESPONSE "

def markerFamilyPrefix : Text := ofString "DI-REMOTE-"

def markers : List Text := [marker, markerV2]

def neutralizedLinePrefix : Text := ofString "> "

theorem isMark_neutralized : IsMark neutralizedLinePrefix where
  lineFree := by
    unfold LineFree
    decide
  some := by decide

def responseKinds : List String := ["plan", "status", "result", "error"]

def kindMissionAuthorization : String := "mission_authorization"

def kindRoleOutcome : String := "role_outcome"

def responseKindsV2 : List String := [kindMissionAuthorization, kindRoleOutcome]

def requiredResponseKeys : List Text :=
  ["remote_protocol_version", "kind", "body"].map ofString

def maxEnvelopeChars : Nat := 16384

/-! ## The host's JSON decoder -/

/-- What the decoder makes of a text: a value, no JSON, or an exhausted recursion. -/
inductive Decoded where
  | value (document : Value)
  | invalid
  | tooDeep

class JsonDecoder where
  loads : Text → Decoded

export JsonDecoder (loads)

/-- The problem a reply is refused with. -/
inductive Problem where
  | noEnvelope
  | envelopeTooLarge
  | invalidJson
  | notAnObject
  | versionMismatch
  | badKeys
  | unrecognizedKind
  | emptyBody
  | markerConflict
  | unknownMarker
  deriving DecidableEq

/-- A parse ends in a problem of the reply, or in the decoder's exhausted recursion. -/
inductive Fault where
  | problem (problem : Problem)
  | recursion
  deriving DecidableEq

/-! ## One envelope -/

/-- The code points that are stripped from the ends of a text. -/
def IsSpace (point : CodePoint) : Prop :=
  (0x09 ≤ point.val ∧ point.val ≤ 0x0D) ∨ (0x1C ≤ point.val ∧ point.val ≤ 0x20) ∨
    point.val = 0x85 ∨ point.val = 0xA0 ∨ point.val = 0x1680 ∨
    (0x2000 ≤ point.val ∧ point.val ≤ 0x200A) ∨ point.val = 0x2028 ∨ point.val = 0x2029 ∨
    point.val = 0x202F ∨ point.val = 0x205F ∨ point.val = 0x3000

instance (point : CodePoint) : Decidable (IsSpace point) :=
  inferInstanceAs (Decidable (_ ∨ _))

/-- Nothing is left of the text when it is stripped. -/
def IsBlank (text : Text) : Prop := ∀ point ∈ text, IsSpace point

instance (text : Text) : Decidable (IsBlank text) := List.decidableBAll ..

/-- The keys of an object are exactly the required ones. -/
def HasRequiredKeys (entries : Entries) : Prop :=
  (∀ key ∈ keys entries, key ∈ requiredResponseKeys) ∧
    ∀ key ∈ requiredResponseKeys, key ∈ keys entries

instance (entries : Entries) : Decidable (HasRequiredKeys entries) :=
  inferInstanceAs (Decidable (_ ∧ _))

/-- The bits of the two protocol versions as floats. -/
def floatOne : BitVec 64 := 0x3FF0000000000000

def floatTwo : BitVec 64 := 0x4000000000000000

/-- A number that is the version, and no truth value. -/
def IsVersion (number : Int) (bits : BitVec 64) (value : Value) : Prop :=
  value = .int number ∨ value = .float bits

instance (number : Int) (bits : BitVec 64) (value : Value) :
    Decidable (IsVersion number bits value) :=
  inferInstanceAs (Decidable (_ ∨ _))

/-- The kind among the known ones. -/
def kindAmong (kinds : List String) (value : Value) : Option String :=
  kinds.find? fun kind => value = .text (ofString kind)

/-- The last line that begins with the prefix of an envelope. -/
def envelopeLine (opening message : Text) : Option Text :=
  ((split message).filter fun line => opening <+: line).getLast?

/-- The decoded object of a payload. -/
def loadObject [JsonDecoder] (payload : Text) : Except Fault Entries :=
  match loads payload with
  | .value (.dict entries) => .ok entries
  | .value _ => .error (.problem .notAnObject)
  | .invalid => .error (.problem .invalidJson)
  | .tooDeep => .error .recursion

/-- A well-formed v1 answer. -/
structure OperatorResponse where
  kind : String
  body : Text

/-- The body of a v1 envelope, or of one that is string-only: a text that is not blank. -/
def stringBody : Value → Except Fault Text
  | .text content => do
      failIf (IsBlank content) (.problem .emptyBody)
      pure content
  | _ => .error (.problem .emptyBody)

/-- Parse a reply of the first version: its last envelope line counts. -/
def parseOperatorResponse [JsonDecoder] (message : Text) : Except Fault OperatorResponse := do
  failIf (message = []) (.problem .noEnvelope)
  let line ← orFail (envelopeLine responsePrefix message) (.problem .noEnvelope)
  failIf (maxEnvelopeChars < line.length) (.problem .envelopeTooLarge)
  let document ← loadObject (line.drop responsePrefix.length)
  failIf (¬ HasRequiredKeys document) (.problem .badKeys)
  failIf (¬ IsVersion remoteProtocolVersion floatOne (field document "remote_protocol_version"))
    (.problem .versionMismatch)
  let kind ← orFail (kindAmong responseKinds (field document "kind"))
    (.problem .unrecognizedKind)
  let body ← stringBody (field document "body")
  pure ⟨kind, body⟩

/-! ## Both versions -/

/-- How a body arrived. -/
inductive BodyShape where
  | string
  | object
  deriving DecidableEq

structure RoutedResponse where
  protocolVersion : Int
  kind : String
  body : Text
  bodyShape : BodyShape

section

variable [FloatText]

mutual

/-- JSON without white space, not ASCII only. -/
def compact : Value → Text
  | .list items => ofChar '[' :: ((ofString ",").intercalate (compactItems items) ++ [ofChar ']'])
  | .dict entries =>
      ofChar '\x7b' :: ((ofString ",").intercalate (compactEntries entries) ++ [ofChar '\x7d'])
  | .null => GrokBot.jsonLeaf .null
  | .bool flag => GrokBot.jsonLeaf (.bool flag)
  | .int number => GrokBot.jsonLeaf (.int number)
  | .float bits => GrokBot.jsonLeaf (.float bits)
  | .text content => GrokBot.jsonLeaf (.text content)

def compactItems : List Value → List Text
  | [] => []
  | item :: rest => compact item :: compactItems rest

def compactEntries : Entries → List Text
  | [] => []
  | (key, value) :: rest =>
      (GrokBot.jsonText key ++ ofChar ':' :: compact value) :: compactEntries rest

end

/-- An object body as the text it is handed on as. -/
def canonicalBody (entries : Entries) : Text := compact (sortKeys (.dict entries))

/-- A Mission Authorization is a routing text or an object; any other kind is a text. -/
def bodyV2 (kind : String) (body : Value) : Except Fault (Text × BodyShape) :=
  match body with
  | .dict entries =>
      if kind = kindMissionAuthorization then .ok (canonicalBody entries, .object)
      else .error (.problem .emptyBody)
  | other => (stringBody other).map fun content => (content, .string)

variable [JsonDecoder]

/-- Parse a reply that names the second version. -/
def parseResponseV2 (message : Text) : Except Fault RoutedResponse := do
  let line ← orFail (envelopeLine responsePrefixV2 message) (.problem .noEnvelope)
  failIf (maxEnvelopeChars < line.length) (.problem .envelopeTooLarge)
  let document ← loadObject (line.drop responsePrefixV2.length)
  failIf (¬ HasRequiredKeys document) (.problem .badKeys)
  failIf (¬ IsVersion remoteProtocolVersionV2 floatTwo (field document "remote_protocol_version"))
    (.problem .versionMismatch)
  let kind ← orFail (kindAmong responseKindsV2 (field document "kind"))
    (.problem .unrecognizedKind)
  let body ← bodyV2 kind (field document "body")
  pure ⟨remoteProtocolVersionV2, kind, body.1, body.2⟩

/-- A line of the family that begins as no response does. -/
def IsUnknownMarker (line : Text) : Prop :=
  markerFamilyPrefix <+: line ∧ ¬ (responsePrefix <+: line ∨ responsePrefixV2 <+: line)

instance (line : Text) : Decidable (IsUnknownMarker line) :=
  inferInstanceAs (Decidable (_ ∧ _))

/-- Parse a reply by the version that its markers name. -/
def parseRoutedOperatorResponse (message : Text) : Except Fault RoutedResponse := do
  failIf (message = []) (.problem .noEnvelope)
  failIf (marker <:+: message ∧ markerV2 <:+: message) (.problem .markerConflict)
  failIf (∃ line ∈ split message, IsUnknownMarker line) (.problem .unknownMarker)
  if markerV2 <:+: message then parseResponseV2 message
  else (parseOperatorResponse message).map fun parsed =>
    ⟨remoteProtocolVersion, parsed.kind, parsed.body, .string⟩

end

end DodgingInfinity.TelegramOperator
