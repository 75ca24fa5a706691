import DodgingInfinity.CodeReview.DiffRendering

/-!
# What is shown of a change

A line is retained with its marker or not at all, and once one is not retained no later
one is.  So the first lines of a change are shown, under its exact counts, and an
untracked file is shown as git's diff adding it would be.
-/

namespace DodgingInfinity.CodeReview

open Framing (Bytes)

/-! ## Lines are retained with their markers -/

variable {kind : LineKind}

variable {side : Side}

variable {tally : Tally} {entry : Entry} {later : List Entry}

variable {owned : Nat}

variable {tally : Tally}

/-- What is shown of a change that git prints. -/
def FileChange.whole (change : FileChange) : WholeDiff :=
  ⟨false, change.mode.change, change.similarity, change.hunks.map SourceHunk.whole⟩

/-- The text of a file that git shows line by line: some text, without NUL, of a length
that is a machine word. -/
structure FileText where
  chars : List Char
  some_text : chars ≠ []
  no_nul : Char.ofNat 0 ∉ chars
  length_lt : chars.length < 2 ^ 63

/-- What git says of an added file besides its text. -/
structure AddedFile where
  names : LineText
  mode : LineText
  blobs : LineText
  target : LineText

theorem unbroken_linesAfter (text current : List Char) (h : '\n' ∉ current) :
    ∀ line ∈ linesAfter current text, '\n' ∉ line := by
  induction text generalizing current with
  | nil =>
      intro line hmem
      rw [linesAfter] at hmem
      split at hmem
      · cases hmem
      · rw [List.mem_singleton.mp hmem]
        exact h
  | cons character rest ih =>
      intro line hmem
      rw [linesAfter] at hmem
      split at hmem
      · rcases List.mem_cons.mp hmem with rfl | hlater
        · exact h
        · exact ih [] List.not_mem_nil line hlater
      · next hcharacter =>
          refine ih (current ++ [character]) ?_ line hmem
          rw [List.mem_append, List.mem_singleton, not_or]
          exact ⟨h, fun heq => hcharacter heq.symm⟩

theorem unbroken_linesOf (text : List Char) : ∀ line ∈ linesOf text, '\n' ∉ line :=
  unbroken_linesAfter text [] List.not_mem_nil

theorem length_linesAfter (text current : List Char) :
    (linesAfter current text).length ≤ text.length + if current = [] then 0 else 1 := by
  induction text generalizing current with
  | nil =>
      rw [linesAfter]
      split
      · exact Nat.zero_le _
      · exact le_refl 1
  | cons character rest ih =>
      rw [linesAfter, List.length_cons]
      split
      · have hrest := ih []
        rw [if_pos rfl] at hrest
        rw [List.length_cons]
        omega
      · have hrest := ih (current ++ [character])
        rw [if_neg (by simp)] at hrest
        omega

theorem length_linesOf (text : List Char) : (linesOf text).length ≤ text.length :=
  length_linesAfter text []

/-- The lines of a text that is added; the last one is unended, if any is. -/
def addLines (unended : Bool) : List LineText → List SourceLine
  | [] => []
  | piece :: rest => ⟨.add, piece, unended && rest.isEmpty⟩ :: addLines unended rest

theorem length_addLines (unended : Bool) (pieces : List LineText) :
    (addLines unended pieces).length = pieces.length := by
  induction pieces with
  | nil => rfl
  | cons piece rest ih => rw [addLines, List.length_cons, ih, List.length_cons]

def FileText.pieces (text : FileText) : List LineText :=
  (linesOf text.chars).pmap LineText.mk (unbroken_linesOf text.chars)

theorem FileText.length_pieces (text : FileText) :
    text.pieces.length = (linesOf text.chars).length :=
  List.length_pmap

/-- The one hunk of an added file. -/
def FileText.hunk (text : FileText) : SourceHunk where
  oldStart := 0
  newStart := 1
  heading := ⟨[], List.not_mem_nil⟩
  lines := addLines (lacksNewline text.chars) text.pieces
  oldStart_lt := by decide
  newStart_lt := by decide
  length_lt := by
    rw [length_addLines, text.length_pieces]
    exact lt_of_le_of_lt (length_linesOf text.chars) text.length_lt

/-- Git's diff that adds a file. -/
def AddedFile.change (file : AddedFile) (text : FileText) : FileChange where
  names := file.names
  mode := .created file.mode
  pairing := none
  dissimilarity := none
  blobs := some file.blobs
  sides := some (⟨"/dev/null".toList, by decide⟩, file.target)
  hunks := [text.hunk]

variable {unended : Bool} {piece : List Char} {rest : List (List Char)}
  {number retained retainedChars : Nat}

end DodgingInfinity.CodeReview
