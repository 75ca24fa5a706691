import DodgingInfinity.Library.CanonicalText
import DodgingInfinity.Library.LogicalLines

/-!
# What a human is shown of a proposal

Every leaf of the proposal is one `path: json` line.  A code point that would end a
line, or that has no UTF-8 form, is written as its escape, so a displayed text has
the lines that it was joined from.
-/

namespace DodgingInfinity.GrokBot

open Values LogicalLines

/-! ## One line -/

/-- Every code point that the host splits lines at. -/
def lineBoundaries : List CodePoint :=
  [0x0A, 0x0D, 0x0B, 0x0C, 0x1C, 0x1D, 0x1E, 0x85, 0x2028, 0x2029]

def IsEscaped (point : CodePoint) : Prop := point ∈ lineBoundaries ∨ IsSurrogate point

instance (point : CodePoint) : Decidable (IsEscaped point) :=
  inferInstanceAs (Decidable (_ ∨ _))

/-- The escape of a code point, with four digits. -/
def escapeOf (point : CodePoint) : Text := (['\\', 'u'] ++ hexDigits point.val).map ofChar

def oneLinePoint (point : CodePoint) : Text := if IsEscaped point then escapeOf point else [point]

def oneLine (text : Text) : Text := text.flatMap oneLinePoint

/-! ## JSON that is not ASCII only -/

/-- A code point of a text as the encoder writes it. -/
def jsonPoint (point : CodePoint) : Text :=
  match shortEscapes.find? fun escape => escape.1 = point.val with
  | some escape => [ofChar '\\', ofChar escape.2]
  | none => if point.val < 0x20 then escapeOf point else [point]

def jsonText (content : Text) : Text :=
  ofChar '"' :: (content.flatMap jsonPoint ++ [ofChar '"'])

def charsText (characters : List Char) : Text := characters.map ofChar

/-- The JSON of a value that is no container. -/
def jsonLeaf [FloatText] : Value → Text
  | .null => ofString "null"
  | .bool true => ofString "true"
  | .bool false => ofString "false"
  | .int number => charsText (decimal number)
  | .float bits => charsText (floatText bits)
  | .text content => jsonText content
  | .list _ => []
  | .dict _ => []

/-! ## The lines of a value -/

def memberPath (path key : Text) : Text := path ++ ofChar '.' :: key

def itemPath (path : Text) (index : Nat) : Text :=
  path ++ ofChar '[' :: (charsText (Nat.toDigits 10 index) ++ [ofChar ']'])

/-- The line of a value that has no line of a part of it. -/
def leafLine (path written : Text) : Text := oneLine (path ++ ofString ": " ++ written)

mutual

/-- Every leaf of a value as one line, keys sorted. -/
def renderedLines [FloatText] (path : Text) : Value → List Text
  | .dict [] => [leafLine path [ofChar '\x7b', ofChar '\x7d']]
  | .dict (entry :: rest) =>
      ((Sorting.sortedOn Prod.fst (renderedEntries path (entry :: rest))).map Prod.snd).flatten
  | .list [] => [leafLine path (ofString "[]")]
  | .list (item :: rest) => renderedItems path 0 (item :: rest)
  | .null => [leafLine path (jsonLeaf .null)]
  | .bool flag => [leafLine path (jsonLeaf (.bool flag))]
  | .int number => [leafLine path (jsonLeaf (.int number))]
  | .float bits => [leafLine path (jsonLeaf (.float bits))]
  | .text content => [leafLine path (jsonLeaf (.text content))]

def renderedItems [FloatText] (path : Text) (index : Nat) : List Value → List Text
  | [] => []
  | item :: rest =>
      renderedLines (itemPath path index) item ++ renderedItems path (index + 1) rest

/-- The lines of every entry, with its key. -/
def renderedEntries [FloatText] (path : Text) : Entries → List (Text × List Text)
  | [] => []
  | (key, value) :: rest =>
      (key, renderedLines (memberPath path key) value) :: renderedEntries path rest

end

/-- The lines, each made one line, joined. -/
def joinedDisplay (lines : List Text) : Text := [lineFeed].intercalate (lines.map oneLine)

/-! ## A Mission proposal -/

/-- The binding that a reply to a Mission proposal must match. -/
structure MissionBinding where
  missionId : Text
  revision : Int
  proposalDigest : Text
  approvedActionScope : List Text
  approvedDeliveryTargets : List Text
  expiresAt : Int

/-- A list of texts as the ASCII-only encoder writes it. -/
def jsonTexts (texts : List Text) : Text :=
  charsText ('[' :: ([',', ' '].intercalate (texts.map quoted) ++ [']']))

def freshRequestRemedy : String :=
  "To get a fresh Mission Authorization, send a request that DIFFERS from" ++
    " this one: change its text, or send it from a new conversation (a" ++
    " different conversation_ref). An identical request (the same text and" ++
    " the same conversation_ref) is deliberately answered with this same" ++
    " request again, never a new one."

def legacyReauthorizationRemedy : String :=
  "This request predates the conforming route: it holds a Mission-Core" ++
    " proposal, not a DI-REMOTE-2 Mission Authorization, and it is never" ++
    " converted into one. Nothing was approved, applied or started. " ++ freshRequestRemedy ++
    " The new request runs a fresh planning turn, which authors a Mission" ++
    " Authorization that you can present, arm and approve; only a DI" ++
    " Runtime running against its workflow store then advances it (status" ++
    " shows what the record holds)."

def missionHeader (binding : MissionBinding) : List Text :=
  [ofString "DODGING INFINITY MISSION PROPOSAL", ofString "Mission: " ++ binding.missionId,
    ofString "Revision: " ++ charsText (decimal binding.revision),
    ofString "Proposal digest (sha256): " ++ binding.proposalDigest,
    ofString "Approved action scope: " ++ jsonTexts binding.approvedActionScope,
    ofString "Approved delivery targets: " ++ jsonTexts binding.approvedDeliveryTargets,
    ofString "Recorded approval window ends at (unix seconds): " ++
      charsText (decimal binding.expiresAt), [],
    ofString ("The complete proposal, every field exactly as recorded (nothing is" ++
      " omitted; the proof_contract lines are its constraints, evidence" ++
      " requirements and budget):")]

def missionFooter : List Text :=
  [[], ofString ("THIS PROPOSAL CAN NO LONGER BE APPROVED THROUGH GROK BOT. It is a" ++
      " legacy Mission-Core proposal, kept readable exactly as recorded;" ++
      " no arming command and no approval apply to it."), ofString legacyReauthorizationRemedy,
    ofString ("Delivery authority: none (no commit, push, pull request, merge," ++
      " release or deploy).")]

def missionLines [FloatText] (proposal : Value) (binding : MissionBinding) : List Text :=
  missionHeader binding ++ renderedLines (ofString "proposal") proposal ++ missionFooter

/-- The text of a Mission proposal, never shortened. -/
def displayText [FloatText] (proposal : Value) (binding : MissionBinding) : Text :=
  joinedDisplay (missionLines proposal binding)

/-! ## A delivery proposal -/

/-- A member of an object that is a text. -/
def textMember : Value → String → Option Text
  | .dict entries, key => match get? entries key with
      | some (.text content) => some content
      | _ => none
  | _, _ => none

def member : Value → String → Option Value
  | .dict entries, key => get? entries key
  | _, _ => none

/-- The JSON of a number that a header shows. -/
def numberMember [FloatText] (value : Value) (key : String) : Option Text :=
  match member value key with
  | some (.int number) => some (jsonLeaf (.int number))
  | some (.float bits) => some (jsonLeaf (.float bits))
  | _ => none

def textItems : List Value → Option (List Text)
  | [] => some []
  | .text content :: rest => (textItems rest).map (content :: ·)
  | _ :: _ => none

def textsMember (value : Value) (key : String) : Option (List Text) :=
  match member value key with
  | some (.list items) => textItems items
  | _ => none

def modePrUpdate : Text := ofString "pr_update"

/-- The proposal is for one more commit on an existing pull request. -/
def IsUpdate (binding : Value) : Prop := textMember binding "mode" = some modePrUpdate

instance (binding : Value) : Decidable (IsUpdate binding) :=
  inferInstanceAs (Decidable (_ = _))

def neverAuthorizedTexts : String := "merge, auto-merge, tag, release, deploy, publish, force push"

def neverAuthorized (binding : Value) : Text :=
  if IsUpdate binding then
    ofString ("base refresh, pull request creation, " ++ neverAuthorizedTexts)
  else ofString neverAuthorizedTexts

/-- The pull request that an update is for, named up front. -/
def updateSummaryLines [FloatText] (binding : Value) : Option (List Text) :=
  if ¬ IsUpdate binding then some []
  else do
    let candidate ← member binding "candidate"
    let source ← member binding "source"
    let base ← member binding "target_base"
    let baseline ← member binding "original_baseline"
    let mode ← textMember binding "mode"
    let number ← numberMember binding "pull_request_number"
    let deliveryId ← textMember binding "delivery_id"
    let branch ← textMember source "branch"
    let baseBranch ← textMember base "branch"
    let head ← textMember baseline "commit_sha"
    let staged ← textMember binding "staged_sha256"
    let identity ← textMember candidate "identity_digest_sha256"
    let count ← numberMember candidate "entry_count"
    some [ofString "Delivery kind: " ++ mode ++
        ofString " (one new commit on existing open pull request #" ++ number ++
        ofString ", a strict fast-forward of its head)",
      ofString "Delivery id (minted exactly on approval): " ++ deliveryId,
      ofString "Pull request: #" ++ number ++ ofString ", head branch " ++ branch ++
        ofString " -> base branch " ++ baseBranch,
      ofString "Expected head SHA (the one new commit's parent): " ++ head,
      ofString ("Staged hash (sha256 of git diff --cached --binary against the" ++
        " expected head): ") ++ staged,
      ofString ("Candidate identity (status, mode, blob and path of every entry; a" ++
        " separate binding): ") ++ identity ++ ofString ", " ++ count ++ ofString " entries"]

def deliveryFooter : List Text :=
  [[], ofString ("To approve exactly this delivery, first arm it on the DI machine:" ++
      " run the arming command presented with it in your local shell," ++
      " approving that command only if every value in it matches this" ++
      " delivery. It prints a one-time approval code."),
    ofString ("To approve exactly this delivery, reply with a separate message" ++
      " containing only: approved"),
    ofString ("An engineering approval never authorizes delivery. Approving this" ++
      " records a delivery authorization and performs no delivery step:" ++
      " this transport runs none of them. (Presenting and approving re-read" ++
      " the live repository, including the configured remote.)"),
    ofString "Approval is operator-attested, not cryptographically authenticated."]

/-- The lines before those of the whole delivery proposal; nothing where a field that
they name is missing. -/
def deliveryHeader [FloatText] (proposal : Value) (digest : Text) : Option (List Text) := do
  let binding ← member proposal "binding"
  let presentedAt ← numberMember proposal "presented_at"
  let expiresAt ← numberMember proposal "expires_at"
  let summary ← updateSummaryLines binding
  let allowed ← textsMember binding "allowed_actions"
  some ([
    ofString ("DODGING INFINITY DELIVERY PROPOSAL (separate from any engineering" ++ " approval)"),
    ofString "Proposal digest (sha256): " ++ digest,
    ofString "Presented at (unix seconds): " ++ presentedAt,
    ofString "Approval expires at (unix seconds): " ++ expiresAt] ++ summary ++ [
    ofString "Authorizes only: " ++ (ofString ", ").intercalate allowed ++
      ofString ", for exactly this candidate",
    ofString "Never authorized: " ++ neverAuthorized binding, [],
    ofString ("The complete delivery proposal, every field exactly as recorded" ++
      " (nothing is omitted):")])

def deliveryLines [FloatText] (proposal : Value) (digest : Text) : Option (List Text) := do
  let header ← deliveryHeader proposal digest
  some (header ++ renderedLines (ofString "delivery_proposal") proposal ++ deliveryFooter)

/-- The text of a delivery proposal, never shortened. -/
def deliveryDisplayText [FloatText] (proposal : Value) (digest : Text) : Option Text :=
  (deliveryLines proposal digest).map joinedDisplay

end DodgingInfinity.GrokBot
