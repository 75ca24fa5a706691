import DodgingInfinity.CodeReview.DiffReading

/-!
# A file's diff as git prints it

The change of one file is printed as header lines, and as hunks of lines with markers of
a missing final newline.  The reader finds the change again; what it retains is the first
lines of the change, each with its marker.
-/

namespace DodgingInfinity.CodeReview

open Framing (Bytes)

/-! ## What git prints -/

/-- A text that stands on one line. -/
structure LineText where
  chars : List Char
  unbroken : '\n' ∉ chars

inductive Side where
  | context
  | del
  | add
  deriving DecidableEq

/-- A line of a hunk; an unended one is the last of its file, without a newline. -/
structure SourceLine where
  side : Side
  text : LineText
  unended : Bool

/-- A hunk; its numbers are machine words. -/
structure SourceHunk where
  oldStart : Nat
  newStart : Nat
  heading : LineText
  lines : List SourceLine
  oldStart_lt : oldStart < 2 ^ 63
  newStart_lt : newStart < 2 ^ 63
  length_lt : lines.length < 2 ^ 63

inductive FileMode where
  | same
  | changed (old new : LineText)
  | created (mode : LineText)
  | deleted (mode : LineText)

/-- A file that was renamed, and how alike both sides are in percent. -/
structure Pairing where
  similarity : Fin 101
  source : LineText
  target : LineText

/-- The change of one file. -/
structure FileChange where
  names : LineText
  mode : FileMode
  pairing : Option Pairing
  dissimilarity : Option (Fin 101)
  blobs : Option LineText
  sides : Option (LineText × LineText)
  hunks : List SourceHunk

def numeral (number : Nat) : List Char := Nat.toDigits 10 number

def Side.letter : Side → Char
  | .context => ' '
  | .del => '-'
  | .add => '+'

def Side.isOld : Side → Bool
  | .add => false
  | _ => true

def Side.isNew : Side → Bool
  | .del => false
  | _ => true

def oldCount (lines : List SourceLine) : Nat := lines.countP (·.side.isOld)

def newCount (lines : List SourceLine) : Nat := lines.countP (·.side.isNew)

def SourceLine.printed (line : SourceLine) : List (List Char) :=
  (line.side.letter :: line.text.chars) ::
    if line.unended then ['\\' :: noNewlineMarker] else []

/-- A range of lines; a count of one is left out. -/
def printedRange (start count : Nat) : List Char :=
  numeral start ++ if count = 1 then [] else ',' :: numeral count

def printedHeading (heading : List Char) : List Char :=
  if heading = [] then [] else ' ' :: heading

def SourceHunk.header (hunk : SourceHunk) : List Char :=
  "@@ -".toList ++ (printedRange hunk.oldStart (oldCount hunk.lines) ++
    (" +".toList ++ (printedRange hunk.newStart (newCount hunk.lines) ++
      (" @@".toList ++ printedHeading hunk.heading.chars))))

def SourceHunk.printed (hunk : SourceHunk) : List (List Char) :=
  hunk.header :: hunk.lines.flatMap SourceLine.printed

def FileMode.printed : FileMode → List (List Char)
  | .same => []
  | .changed old new => ["old mode ".toList ++ old.chars, "new mode ".toList ++ new.chars]
  | .created mode => ["new file mode ".toList ++ mode.chars]
  | .deleted mode => ["deleted file mode ".toList ++ mode.chars]

def Pairing.printed (pairing : Pairing) : List (List Char) :=
  ["similarity index ".toList ++ (numeral pairing.similarity ++ ['%']),
    "rename from ".toList ++ pairing.source.chars, "rename to ".toList ++ pairing.target.chars]

def printedPercent : Option (Fin 101) → List (List Char)
  | none => []
  | some percent => ["dissimilarity index ".toList ++ (numeral percent ++ ['%'])]

def printedBlobs : Option LineText → List (List Char)
  | none => []
  | some blobs => ["index ".toList ++ blobs.chars]

def printedSides : Option (LineText × LineText) → List (List Char)
  | none => []
  | some (old, new) => ["--- ".toList ++ old.chars, "+++ ".toList ++ new.chars]

def printedPairing : Option Pairing → List (List Char)
  | none => []
  | some pairing => pairing.printed

/-- The lines between the first one and the hunks. -/
def FileChange.preamble (change : FileChange) : List (List Char) :=
  change.mode.printed ++ (printedPairing change.pairing ++ (printedPercent change.dissimilarity ++
      (printedBlobs change.blobs ++ printedSides change.sides)))

def FileChange.printed (change : FileChange) : List (List Char) :=
  ("diff --git ".toList ++ change.names.chars) ::
    (change.preamble ++ change.hunks.flatMap SourceHunk.printed)

/-- The bytes git prints: every line, and a newline after each. -/
def FileChange.bytes (change : FileChange) : Bytes :=
  Encoding.encodeUtf8 (String.ofList (change.printed.flatMap (· ++ ['\n'])))

/-! ## What is to be shown of it -/

def SourceLine.marker (line : SourceLine) : List Entry :=
  if line.unended then [⟨.noNewline, none, none, noNewlineMarker, 0⟩] else []

/-- A line with its numbers. -/
def SourceLine.entry (line : SourceLine) (old new : Nat) : Entry :=
  match line.side with
  | .context => shown .context (some old) (some new) line.text.chars
  | .del => shown .del (some old) none line.text.chars
  | .add => shown .add none (some new) line.text.chars

/-- The lines of a hunk with their old and new numbers, each with the marker it has. -/
def numberLines : List SourceLine → Nat → Nat → List Entry
  | [], _, _ => []
  | line :: rest, old, new =>
      line.entry old new :: (line.marker ++
        numberLines rest (if line.side.isOld then old + 1 else old)
          (if line.side.isNew then new + 1 else new))

/-- The hunk with some of its lines. -/
def SourceHunk.withLines (hunk : SourceHunk) (lines : List SourceLine) : Hunk where
  oldStart := hunk.oldStart
  oldLines := oldCount hunk.lines
  newStart := hunk.newStart
  newLines := newCount hunk.lines
  heading := if hunk.heading.chars = [] then none
    else some (clipUnits hunk.heading.chars maxSectionChars).1
  lines := numberLines lines hunk.oldStart hunk.newStart

def SourceHunk.whole (hunk : SourceHunk) : Hunk := hunk.withLines hunk.lines

def FileChange.lines (change : FileChange) : List SourceLine := change.hunks.flatMap (·.lines)

def FileMode.change : FileMode → Option (List Char × List Char)
  | .changed old new => some (old.chars, new.chars)
  | _ => none

def FileChange.similarity (change : FileChange) : Option Int :=
  change.pairing.map fun pairing => (pairing.similarity.val : Int)

variable {line : List Char} {lines rest : List (List Char)} {preamble : Preamble}

/-- A header line that the reader passes over. -/
def Silent (line : List Char) : Prop :=
  begins "@@ " line = false ∧ ∀ preamble, readHeaderLine line preamble = some preamble

end DodgingInfinity.CodeReview
