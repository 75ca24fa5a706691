import DodgingInfinity.Library.Encoding
import DodgingInfinity.Library.Numerals
import DodgingInfinity.TargetBroker.Receipts

/-!
# The diff of one file

The unified diff of a file is read line by line.  Additions, deletions and lines are
counted over the whole of it; lines are retained from the beginning, as far as two
bounds allow, and a line is retained only together with the end-of-file marker after
it.  An untracked file is shown in the same structure, from its text.
-/

namespace DodgingInfinity.CodeReview

open Encoding (decodeUtf8)
open Framing (Bytes)
open TargetBroker (strip)

/-! ## Lengths -/

/-- The UTF-16 code units of a character. -/
def unitsOf (character : Char) : Nat := if 0xFFFF < character.toNat then 2 else 1

def units (text : List Char) : Nat := (text.map unitsOf).sum

/-- The first characters of a text that a number of units allows. -/
def takeUnits : Nat → List Char → List Char
  | _, [] => []
  | limit, character :: rest =>
      if unitsOf character ≤ limit then
        character :: takeUnits (limit - unitsOf character) rest
      else []

/-- A text cut to a limit, with the number of characters that are left out. -/
def clipUnits (text : List Char) (limit : Nat) : List Char × Nat :=
  if units text ≤ limit then (text, 0)
  else (takeUnits limit text, text.length - (takeUnits limit text).length)

def maxReviewFileLines : Nat := 6000

def maxReviewFileChars : Nat := 1048576

def maxReviewLineChars : Nat := 1200

def maxSectionChars : Nat := 200

def clip (text : List Char) : List Char × Nat := clipUnits text maxReviewLineChars

/-! ## The structure -/

inductive LineKind where
  | context
  | add
  | del
  | noNewline
  deriving DecidableEq

/-- A line that is shown, or the marker of a missing final newline. -/
structure Entry where
  kind : LineKind
  old : Option Nat
  new : Option Nat
  text : List Char
  clipped : Nat
  deriving DecidableEq

structure Hunk where
  oldStart : Nat
  oldLines : Nat
  newStart : Nat
  newLines : Nat
  heading : Option (List Char)
  lines : List Entry
  deriving DecidableEq

@[ext] structure FileDiff where
  binary : Bool
  modeChange : Option (List Char × List Char)
  similarity : Option Int
  hunks : List Hunk
  additions : Nat
  deletions : Nat
  linesTotal : Nat
  linesRetained : Nat
  truncated : Bool
  deriving DecidableEq

/-- The two refusals of the reader. -/
inductive Unread where
  | notUtf8
  | unparsed
  deriving DecidableEq

/-! ## The headers -/

/-- The lines of a text; a newline at the end begins no further line. -/
def linesAfter (current : List Char) : List Char → List (List Char)
  | [] => if current = [] then [] else [current]
  | character :: rest =>
      if character = '\n' then current :: linesAfter [] rest
      else linesAfter (current ++ [character]) rest

def linesOf (text : List Char) : List (List Char) := linesAfter [] text

/-- What follows a word at the beginning of a line. -/
def after? : List Char → List Char → Option (List Char)
  | [], line => some line
  | _ :: _, [] => none
  | letter :: word, character :: line =>
      if letter = character then after? word line else none

def begins (word : String) (line : List Char) : Bool := (after? word.toList line).isSome

/-- What the lines before the first hunk say. -/
structure Preamble where
  binary : Bool
  oldMode : Option (List Char)
  newMode : Option (List Char)
  similarity : Option Int
  deriving DecidableEq

/-- A number before the percent signs of a line. -/
def percentOf (text : List Char) : Option Int :=
  Numerals.readInteger (strip (text.reverse.dropWhile (· = '%')).reverse)

/-- One line before the first hunk. -/
def readHeaderLine (line : List Char) (preamble : Preamble) : Option Preamble :=
  match after? "old mode ".toList line, after? "new mode ".toList line,
      after? "similarity index ".toList line with
  | some mode, _, _ => some { preamble with oldMode := some mode }
  | none, some mode, _ => some { preamble with newMode := some mode }
  | none, none, some percent =>
      (percentOf percent).map fun similarity =>
        { preamble with similarity := some similarity }
  | none, none, none =>
      if begins "deleted file mode " line || begins "new file mode " line ||
          begins "dissimilarity index " line || begins "rename from " line ||
          begins "rename to " line || begins "index " line || begins "--- " line ||
          begins "+++ " line then some preamble
      else if begins "Binary files " line || begins "GIT binary patch" line then
        some { preamble with binary := true }
      else none

/-- The lines before the first hunk, and the lines from there on. -/
def readPreamble : List (List Char) → Preamble → Except Unread (Preamble × List (List Char))
  | [], preamble => .ok (preamble, [])
  | line :: rest, preamble =>
      if begins "@@ " line then .ok (preamble, line :: rest)
      else match readHeaderLine line preamble with
        | none => .error .unparsed
        | some preamble => readPreamble rest preamble

/-- A mode change names both modes. -/
def modeChangeOf (preamble : Preamble) : Except Unread (Option (List Char × List Char)) :=
  match preamble.oldMode, preamble.newMode with
  | none, none => .ok none
  | some old, some new => .ok (some (old, new))
  | _, _ => .error .unparsed

def isDecimal (character : Char) : Bool := (Numerals.digitOf character).isSome

/-- The digits at the beginning of a text, at least one. -/
def takeNumber (text : List Char) : Option (Nat × List Char) :=
  (Numerals.readNatural (text.takeWhile isDecimal)).map fun number =>
    (number, text.dropWhile isDecimal)

/-- A start, and a count that is one where it is left out. -/
def takeRange (text : List Char) : Option ((Nat × Nat) × List Char) := do
  let start ← takeNumber text
  match start.2 with
  | ',' :: rest => do
      let count ← takeNumber rest
      pure ((start.1, count.1), count.2)
  | rest => pure ((start.1, 1), rest)

/-- The heading of a hunk; an empty one is none. -/
def takeHeading : List Char → Option (Option (List Char))
  | [] => some none
  | ' ' :: heading =>
      some (if heading = [] then none else some (clipUnits heading maxSectionChars).1)
  | _ => none

/-- A hunk header, as a hunk without lines. -/
def readHunkHeader (line : List Char) : Option Hunk := do
  let rest ← after? "@@ -".toList line
  let old ← takeRange rest
  let rest ← after? " +".toList old.2
  let new ← takeRange rest
  let rest ← after? " @@".toList new.2
  let heading ← takeHeading rest
  pure ⟨old.1.1, old.1.2, new.1.1, new.1.2, heading, []⟩

/-! ## The lines of a hunk -/

/-- Where the reader is in a hunk: the next line numbers, and the lines that are
missing. -/
structure Place where
  old : Nat
  new : Nat
  missingOld : Nat
  missingNew : Nat
  deriving DecidableEq

def Hunk.place (hunk : Hunk) : Place :=
  ⟨hunk.oldStart, hunk.newStart, hunk.oldLines, hunk.newLines⟩

def Place.isDone (place : Place) : Bool := place.missingOld = 0 ∧ place.missingNew = 0

def isMarker (line : List Char) : Bool := line.head? = some '\\'

def shown (kind : LineKind) (old new : Option Nat) (text : List Char) : Entry :=
  ⟨kind, old, new, (clip text).1, (clip text).2⟩

/-- A line of a hunk at its place; a hunk is not longer than its header says. -/
def readLine (place : Place) : List Char → Option (Entry × Place)
  | '\\' :: body => some (shown .noNewline none none body, place)
  | ' ' :: body =>
      if place.missingOld = 0 ∨ place.missingNew = 0 then none
      else some (shown .context (some place.old) (some place.new) body,
        ⟨place.old + 1, place.new + 1, place.missingOld - 1, place.missingNew - 1⟩)
  | '-' :: body =>
      if place.missingOld = 0 then none
      else some (shown .del (some place.old) none body,
        ⟨place.old + 1, place.new, place.missingOld - 1, place.missingNew⟩)
  | '+' :: body =>
      if place.missingNew = 0 then none
      else some (shown .add none (some place.new) body,
        ⟨place.old, place.new + 1, place.missingOld, place.missingNew - 1⟩)
  | _ => none

/-- What has been counted and retained. -/
structure Tally where
  additions : Nat
  deletions : Nat
  linesTotal : Nat
  linesRetained : Nat
  retainedChars : Nat
  truncated : Bool
  closed : Bool
  deriving DecidableEq

def Tally.empty : Tally := ⟨0, 0, 0, 0, 0, false, false⟩

def Tally.count (tally : Tally) (entry : Entry) : Tally :=
  { tally with
    additions := tally.additions + if entry.kind = .add then 1 else 0
    deletions := tally.deletions + if entry.kind = .del then 1 else 0
    linesTotal := tally.linesTotal + if entry.kind = .noNewline then 0 else 1 }

def Tally.close (tally : Tally) : Tally := { tally with truncated := true, closed := true }

/-- The units of the marker that a line takes with it. -/
def ownedUnits (entry : Entry) (next : Option (List Char)) : Nat :=
  if entry.kind = .noNewline then 0
  else match next with
    | some ('\\' :: marker) => units (clip marker).1
    | _ => 0

/-- Whether an entry is retained, with room for the marker it owns. -/
def Tally.admits (tally : Tally) (entry : Entry) (owned : Nat) : Bool :=
  if entry.kind = .noNewline then
    ¬ tally.closed ∧ tally.retainedChars + units entry.text ≤ maxReviewFileChars
  else ¬ tally.closed ∧ tally.linesRetained < maxReviewFileLines ∧
    tally.retainedChars + units entry.text + owned ≤ maxReviewFileChars

/-- The tally after an entry: once one is not retained, no later one is. -/
def Tally.pass (tally : Tally) (entry : Entry) (owned : Nat) : Tally :=
  let counted := tally.count entry
  if tally.admits entry owned then
    { counted with
      retainedChars := counted.retainedChars + units entry.text
      linesRetained := counted.linesRetained + if entry.kind = .noNewline then 0 else 1 }
  else if entry.kind = .noNewline ∧ tally.closed then counted
  else counted.close

/-- What the lines of a hunk leave: the lines after it, the tally, and what is
retained. -/
structure Body where
  rest : List (List Char)
  tally : Tally
  lines : List Entry

/-- The lines of a hunk. -/
def readBody : List (List Char) → Place → Tally → Except Unread Body
  | [], place, tally => if place.isDone then .ok ⟨[], tally, []⟩ else .error .unparsed
  | line :: rest, place, tally =>
      if place.isDone ∧ ¬ isMarker line then .ok ⟨line :: rest, tally, []⟩
      else match readLine place line with
        | none => .error .unparsed
        | some (entry, next) =>
            let owned := ownedUnits entry rest.head?
            match readBody rest next (tally.pass entry owned) with
            | .error refusal => .error refusal
            | .ok body => .ok { body with
                lines := if tally.admits entry owned then entry :: body.lines
                  else body.lines }

theorem length_readBody {lines : List (List Char)} {place : Place} {tally : Tally} {body : Body}
    (h : readBody lines place tally = .ok body) : body.rest.length ≤ lines.length := by
  induction lines generalizing place tally body with
  | nil =>
      unfold readBody at h
      split at h
      · cases h
        exact le_refl _
      · cases h
  | cons line rest ih =>
      unfold readBody at h
      split at h
      · cases h
        exact le_refl _
      · split at h
        · cases h
        · simp only at h
          split at h
          · cases h
          · next later hlater =>
              cases h
              exact (ih hlater).trans (Nat.le_succ _)

/-- The first line is the only one that begins a file's diff. -/
def isOneSection : List (List Char) → Bool
  | [] => false
  | first :: rest => begins "diff --git " first ∧ ¬ rest.any (begins "diff --git ")

def noNewlineMarker : List Char := " No newline at end of file".toList

/-- A text whose last line does not end. -/
def lacksNewline (text : List Char) : Bool :=
  match text.getLast? with
  | none => false
  | some last => last ≠ '\n'

end DodgingInfinity.CodeReview
