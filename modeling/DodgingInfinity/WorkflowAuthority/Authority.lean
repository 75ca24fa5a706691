import DodgingInfinity.Canonical
import DodgingInfinity.Library.Lines
import Mathlib.Data.List.Infix

/-!
# The rendered Mission Authorization

The one text that a human approves and that its digest binds, composed of explicit
values in one place.  Free text is quoted line by line under a header that carries
its digest; every other value stands on a line of its own.
-/

namespace DodgingInfinity.WorkflowAuthority

/-- A lowercase hex digit. -/
def hexAlphabet : List Char := "0123456789abcdef".toList

def IsHex (value : String) (length : Nat) : Prop :=
  value.toList.length = length ∧ ∀ character ∈ value.toList, character ∈ hexAlphabet

instance (value : String) (length : Nat) : Decidable (IsHex value length) :=
  inferInstanceAs (Decidable (_ ∧ _))

/-- The SHA-256 digest of a text, in lowercase hex. -/
class TextDigest where
  textDigest : String → String
  isHex_textDigest : ∀ text, IsHex (textDigest text) 64

export TextDigest (textDigest)

/-! ## Rendered values -/

inductive IssueOrPrKind where
  | issue
  | pr
  deriving DecidableEq

def IssueOrPrKind.text : IssueOrPrKind → String
  | .issue => "issue"
  | .pr => "pr"

structure IssueOrPr where
  kind : IssueOrPrKind
  number : Nat
  deriving DecidableEq

/-- The transports a workflow may originate from beside Telegram. -/
inductive OriginTransport where
  | grokBot
  deriving DecidableEq

def OriginTransport.text : OriginTransport → String
  | .grokBot => "grok_bot"

structure Origin where
  transport : OriginTransport
  relayRef : String
  deriving DecidableEq

structure Telegram where
  userId : Nat
  chatId : Nat
  messageIds : List Nat
  planMessageId : Option Nat
  deriving DecidableEq

/-- The seven texts of an authorization. -/
structure AuthorityContent where
  objective : String
  constraints : String
  rules : String
  desiredOutcome : String
  acceptance : String
  unresolvedQuestions : String
  executionScope : String
  deriving DecidableEq

/-- Each text under its header, in the order of the rendering. -/
def AuthorityContent.sections (content : AuthorityContent) : List (String × String) :=
  [("OBJECTIVE", content.objective), ("CONSTRAINTS", content.constraints), ("RULES", content.rules),
    ("DESIRED OUTCOME", content.desiredOutcome), ("ACCEPTANCE", content.acceptance),
    ("UNRESOLVED QUESTIONS", content.unresolvedQuestions),
    ("EXECUTION SCOPE", content.executionScope)]

/-! ## Quoting -/

def quotePrefix : String := "> "

/-- The characters that end a line, beside the pair of a return and a line feed. -/
def lineTerminators : List Char :=
  ['\n', '\r', '\x0b', '\x0c', '\x1c', '\x1d', '\x1e', '\x85', '\u2028', '\u2029']

/-- The logical lines of a text, after the characters of the line begun. -/
def splitLinesFrom (line : List Char) : List Char → List (List Char)
  | [] => if line = [] then [] else [line]
  | '\r' :: '\n' :: rest => line :: splitLinesFrom [] rest
  | character :: rest =>
      if character ∈ lineTerminators then line :: splitLinesFrom [] rest
      else splitLinesFrom (line ++ [character]) rest

def splitLines (text : String) : List String :=
  (splitLinesFrom [] text.toList).map String.ofList

/-- A free text, quoted so that no line of it starts a rendered line. -/
def quotedIntentLines (text : String) : List String :=
  (splitLines text).map (quotePrefix ++ ·)

/-! ## Lines -/

def targetFormRepositoryOnly : String := "repository, no issue or PR"

def targetBindingLine (canonicalUrl : String) : Option IssueOrPr → String
  | none => "target: " ++ canonicalUrl ++ " (" ++ targetFormRepositoryOnly ++ ")"
  | some held => "target: " ++ canonicalUrl ++ " (" ++ held.kind.text ++ " #" ++
      toString held.number ++ ")"

/-- The line of whoever approved; a record with both an origin and a Telegram
binding, or with neither, has none. -/
def approvalIdentityLine : Option Origin → Option Telegram → Option String
  | none, some telegram => some ("approved by: telegram user " ++
      toString telegram.userId ++ ", chat " ++ toString telegram.chatId)
  | some origin, none => some ("approval relayed by: " ++ origin.transport.text ++
      ", relay ref " ++ origin.relayRef ++ " (operator-attested relay;" ++
      " not authenticated sender evidence)")
  | _, _ => none

/-- The values of a rendering. -/
structure Rendered where
  workflowId : String
  revision : Nat
  controlRealpath : String
  policyDigest : String
  canonicalUrl : String
  issueOrPr : Option IssueOrPr
  baselineRef : String
  baselineSha : String
  origin : Option Origin
  telegram : Option Telegram
  humanIntent : String
  authorityContent : AuthorityContent
  handoffRevision : Nat
  handoffText : String

namespace Rendered

/-- The lines that bind the values of one line each. -/
def bindingLines (values : Rendered) : List String :=
  ["workflow: " ++ values.workflowId ++ "  revision: " ++ toString values.revision,
    "control: " ++ values.controlRealpath, "policy digest: " ++ values.policyDigest,
    targetBindingLine values.canonicalUrl values.issueOrPr,
    "baseline: " ++ values.baselineRef ++ " @ " ++ values.baselineSha]

end Rendered

section

variable [TextDigest]

def originalRequestHeader (humanIntent : String) : String :=
  "ORIGINAL REQUEST (verbatim, quoted, sha256 " ++ textDigest humanIntent ++
    "; typed text carries no authority)"

def sectionHeader (header value : String) : String :=
  header ++ " (sha256 " ++ textDigest value ++ ")"

def handoffHeader (revision : Nat) (text : String) : String :=
  "HANDOFF (revision " ++ toString revision ++ ", digest " ++ textDigest text ++
    "; displayed quoted, dispatched byte-exact)"

/-- One authority section: a blank line, its header and its quoted text. -/
def sectionLines (part : String × String) : List String :=
  "" :: sectionHeader part.1 part.2 :: quotedIntentLines part.2

namespace Rendered

/-- The lines below those of the binding and the approval. -/
def contentLines (values : Rendered) : List String :=
  originalRequestHeader values.humanIntent :: quotedIntentLines values.humanIntent ++
    values.authorityContent.sections.flatMap sectionLines ++
    "" :: handoffHeader values.handoffRevision values.handoffText ::
      quotedIntentLines values.handoffText

/-- Every rendered line, under the line of whoever approved. -/
def lines (values : Rendered) (approval : String) : List String :=
  values.bindingLines ++ approval :: "delivery authority: none" :: "" :: values.contentLines

/-- The complete authorization text; none where the approval identity is not one
of the two forms. -/
def renderAuthorizationText (values : Rendered) : Option String :=
  (approvalIdentityLine values.origin values.telegram).map fun approval =>
    "\n".intercalate (values.lines approval)

end Rendered

end

end DodgingInfinity.WorkflowAuthority

/-!
## The authority of a workflow

The fields of a workflow record that its authorization binds, and their checks.
What is rendered on a line of its own can hold nothing that ends a line.
-/

namespace DodgingInfinity.WorkflowAuthority

open Checked

/-! ## Problems -/

inductive Problem where
  | badType
  | badValue
  | tooLarge
  | deliveryAuthority
  | digestMismatch
  | renderBinding
  | baselineRef
  | pathCharacter
  | placeholderMessageId
  | placeholderSentAt
  | placeholderBoundAt
  | placeholderTextDigest
  | placeholderChatMismatch
  | issueUrlTooLong
  | deliveryStateFields
  | deliveryBinding
  | relayRefGrammar
  | relayRefLineTerminator
  | relayRefTooLong
  | originTelegramConflict
  | telegramRequired
  | originPlaceholder
  | originResultDelivery
  | originUpdateId
  deriving DecidableEq

structure Refusal where
  problem : Problem
  location : String
  deriving DecidableEq

abbrev Checks (α : Type) : Type := Except Refusal α

def failAt (bad : Prop) [Decidable bad] (problem : Problem) (location : String) : Checks Unit :=
  failIf bad ⟨problem, location⟩

@[simp] theorem failAt_eq_ok (bad : Prop) [Decidable bad] (problem : Problem)
    (location : String) (passed : Unit) :
    failAt bad problem location = .ok passed ↔ ¬ bad :=
  failIf_eq_ok ..

/-- The check of a field that may be null. -/
def checkOptional {α : Type} (check : α → Checks Unit) : Option α → Checks Unit
  | none => .ok ()
  | some held => check held

/-- The check of each entry, told with its index. -/
def checkEach {α : Type} (check : α → String → Checks Unit) (items : List α)
    (location : String) : Checks Unit :=
  checkAll (fun indexed : α × Nat => check indexed.1 s!"{location}[{indexed.2}]") items.zipIdx

/-! ## Bounds -/

def maxIdChars : Nat := 128
def maxTelegramMessageIds : Nat := 64
def maxReceipts : Nat := 256
def maxCodexTurns : Nat := 256
def maxBoundedSummaryChars : Nat := 2000
def maxAmbiguityDetailChars : Nat := 2000
def maxAuthorityTextChars : Nat := 16384
def maxAuthorityFieldChars : Nat := 8000
def maxHumanIntentChars : Nat := 4000
def maxVerifiedSummaryChars : Nat := 4000
def maxRealpathChars : Nat := 1024
def maxRefChars : Nat := 512
def maxTargetPartChars : Nat := 255

/-! ## Values -/

def requireText (value location : String) (maxChars : Nat) : Checks Unit := do
  failAt (value = "") .badValue location
  failAt (value.toList.length > maxChars) .tooLarge location

/-- A text that may be empty. -/
def requireBounded (value location : String) (maxChars : Nat) : Checks Unit :=
  failAt (value.toList.length > maxChars) .tooLarge location

def requireAtLeastOne (value : Nat) (location : String) : Checks Unit :=
  failAt (value < 1) .badValue location

def requireHex (value location : String) (length : Nat) : Checks Unit := do
  requireText value location length
  failAt (¬ IsHex value length) .badValue location

/-- The Unicode line terminators beside the ASCII control characters. -/
def nonAsciiLineTerminators : List Char := ['\x85', '\u2028', '\u2029']

def refForbiddenChars : List Char := "~^:?*[\\".toList

/-- The characters that `str.isspace` accepts. -/
def whitespace : List Char :=
  ['\t', '\n', '\x0b', '\x0c', '\r', '\x1c', '\x1d', '\x1e', '\x1f', ' ', '\x85',
    '\u00a0', '\u1680', '\u2000', '\u2001', '\u2002', '\u2003', '\u2004', '\u2005',
    '\u2006', '\u2007', '\u2008', '\u2009', '\u200a', '\u2028', '\u2029', '\u202f',
    '\u205f', '\u3000']

def isControl (character : Char) : Bool :=
  character.toNat < 0x20 || character.toNat = 0x7F

def isRefCharacter (character : Char) : Bool :=
  !isControl character && character ∉ whitespace &&
    character ∉ nonAsciiLineTerminators && character ∉ refForbiddenChars

/-- The grammar of a displayed baseline ref. -/
def baselineRefGrammar (value : String) : Bool :=
  value ≠ "" && value.toList.all isRefCharacter && !decide (['.', '.'] <:+: value.toList) &&
    value.toList.head? ≠ some '/' && value.toList.getLast? ≠ some '/' &&
    !(".lock".toList.isSuffixOf value.toList)

/-- No character of a path ends a line. -/
def isLineFree (value : String) : Bool :=
  value.toList.all fun character =>
    !isControl character && character ∉ nonAsciiLineTerminators

def relayRefAlphabet : List Char :=
  "abcdefghijklmnopqrstuvwxyzABCDEFGHIJKLMNOPQRSTUVWXYZ0123456789-_".toList

def requireRelayRef (value location : String) : Checks Unit := do
  failAt (value = "") .relayRefGrammar location
  failAt (∃ character ∈ value.toList, character ∈ lineTerminators) .relayRefLineTerminator location
  failAt (value.toList.length > maxIdChars) .relayRefTooLong location
  failAt (∃ character ∈ value.toList, character ∉ relayRefAlphabet) .relayRefGrammar location

def requireRealpath (value location : String) : Checks Unit := do
  requireText value location maxRealpathChars
  failAt (value.toList.head? ≠ some '/') .badValue location
  failAt (isLineFree value = false) .pathCharacter location

def workflowIdAlphabet : List Char :=
  "abcdefghijklmnopqrstuvwxyz0123456789-".toList

def requireWorkflowId (value location : String) : Checks Unit := do
  requireText value location maxIdChars
  failAt (∃ character ∈ value.toList, character ∉ workflowIdAlphabet) .badValue location

/-! ## The authority of a record -/

structure ControlIdentity where
  repositoryRealpath : String
  policyDigestSha256 : String
  deriving DecidableEq

structure Target where
  canonicalHost : String
  owner : String
  repo : String
  canonicalUrl : String
  issueOrPr : Option IssueOrPr
  deriving DecidableEq

structure ApprovedBaseline where
  ref : String
  commitSha : String
  deriving DecidableEq

structure MissionAuthorization where
  renderedText : String
  digestSha256 : String
  revision : Nat
  content : AuthorityContent
  deriving DecidableEq

structure Handoff where
  revision : Nat
  text : String
  digestSha256 : String
  deriving DecidableEq

def validateControlIdentity (value : ControlIdentity) (location : String) :
    Checks Unit := do
  requireRealpath value.repositoryRealpath (location ++ ".repository_realpath")
  requireHex value.policyDigestSha256 (location ++ ".policy_digest_sha256") 64

def IssueOrPrKind.segment : IssueOrPrKind → String
  | .issue => Canonical.TargetKind.issue.segment
  | .pr => Canonical.TargetKind.pullRequest.segment

/-- The length of the URL of the issue or pull request. -/
def issueUrlChars (canonicalUrl : String) (held : IssueOrPr) : Nat :=
  canonicalUrl.toList.length + "/".toList.length +
    held.kind.segment.toList.length + "/".toList.length + (toString held.number).toList.length

def validateIssueOrPr (canonicalUrl location : String) (held : IssueOrPr) :
    Checks Unit := do
  requireAtLeastOne held.number (location ++ ".issue_or_pr.number")
  failAt (issueUrlChars canonicalUrl held > Canonical.maxTargetUrlChars)
    .issueUrlTooLong (location ++ ".issue_or_pr.number")

/-- The canonical parse of a stored repository URL. -/
def requireCanonicalUrl (value location : String) : Checks Canonical.CanonicalTarget :=
  match Canonical.canonicalizeRepositoryUrl value with
  | .error _ => .error ⟨.badValue, location⟩
  | .ok target => .ok target

def validateTarget (value : Target) (location : String) : Checks Unit := do
  requireText value.canonicalHost (location ++ ".canonical_host") maxTargetPartChars
  requireText value.owner (location ++ ".owner") maxTargetPartChars
  requireText value.repo (location ++ ".repo") maxTargetPartChars
  requireText value.canonicalUrl (location ++ ".canonical_url") Canonical.maxTargetUrlChars
  let target ← requireCanonicalUrl value.canonicalUrl (location ++ ".canonical_url")
  failAt (value.canonicalHost ≠ target.host ∨ value.owner ≠ target.owner ∨
    value.repo ≠ target.repo) .badValue location
  checkOptional (validateIssueOrPr value.canonicalUrl location) value.issueOrPr

def validateApprovedBaseline (value : ApprovedBaseline) (location : String) :
    Checks Unit := do
  requireText value.ref (location ++ ".ref") maxRefChars
  failAt (baselineRefGrammar value.ref = false) .baselineRef (location ++ ".ref")
  requireHex value.commitSha (location ++ ".commit_sha") 40

def validateAuthorityContent (value : AuthorityContent) (location : String) :
    Checks Unit := do
  requireText value.objective (location ++ ".objective") maxAuthorityFieldChars
  requireText value.constraints (location ++ ".constraints") maxAuthorityFieldChars
  requireText value.rules (location ++ ".rules") maxAuthorityFieldChars
  requireText value.desiredOutcome (location ++ ".desired_outcome") maxAuthorityFieldChars
  requireText value.acceptance (location ++ ".acceptance") maxAuthorityFieldChars
  requireText value.unresolvedQuestions (location ++ ".unresolved_questions") maxAuthorityFieldChars
  requireText value.executionScope (location ++ ".execution_scope") maxAuthorityFieldChars

def validateOrigin (value : Origin) (location : String) : Checks Unit :=
  requireRelayRef value.relayRef (location ++ ".relay_ref")

def validateTelegram (value : Telegram) (location : String) : Checks Unit := do
  requireAtLeastOne value.userId (location ++ ".user_id")
  requireAtLeastOne value.chatId (location ++ ".chat_id")
  failAt (value.messageIds.length > maxTelegramMessageIds) .tooLarge (location ++ ".message_ids")
  checkEach requireAtLeastOne value.messageIds (location ++ ".message_ids")
  checkOptional (requireAtLeastOne · (location ++ ".plan_message_id")) value.planMessageId

/-- The text begins or ends with white space, which `str.strip` takes off. -/
def isPadded (value : String) : Bool :=
  value.toList.head?.any (· ∈ whitespace) || value.toList.getLast?.any (· ∈ whitespace)

section

variable [TextDigest]

def validateMissionAuthorization (value : MissionAuthorization)
    (location : String) : Checks Unit := do
  validateAuthorityContent value.content location
  requireText value.renderedText (location ++ ".rendered_text") maxAuthorityTextChars
  requireHex value.digestSha256 (location ++ ".digest_sha256") 64
  requireAtLeastOne value.revision (location ++ ".revision")
  failAt (textDigest value.renderedText ≠ value.digestSha256) .digestMismatch
    (location ++ ".digest_sha256")

def validateHandoff (value : Handoff) (location : String) : Checks Unit := do
  requireAtLeastOne value.revision (location ++ ".revision")
  requireText value.text (location ++ ".text") maxAuthorityTextChars
  failAt (isPadded value.text = true) .badValue (location ++ ".text")
  requireHex value.digestSha256 (location ++ ".digest_sha256") 64
  failAt (textDigest value.text ≠ value.digestSha256) .digestMismatch (location ++ ".digest_sha256")

end

end DodgingInfinity.WorkflowAuthority
