import DodgingInfinity.CodeReview.Diff

/-!
# What the reader retains of a diff

Reading and retaining are separated: a diff is read whole, and a tally retains a
beginning of it.  The hunks that are read add up to their headers, the counts are those
of the whole diff, and what is retained is within both bounds.
-/

namespace DodgingInfinity.CodeReview

open Framing (Bytes)
open Checked (bind_eq_ok pure_eq_ok)

/-! ## Reading without bounds -/

/-- All the entries of a hunk, and the lines after it. -/
def readEntries : List (List Char) → Place → Except Unread (List Entry × List (List Char))
  | [], place => if place.isDone then .ok ([], []) else .error .unparsed
  | line :: rest, place =>
      if place.isDone ∧ ¬ isMarker line then .ok ([], line :: rest)
      else match readLine place line with
        | none => .error .unparsed
        | some (entry, next) =>
            match readEntries rest next with
            | .error refusal => .error refusal
            | .ok (entries, later) => .ok (entry :: entries, later)

/-- The units of the marker that an entry takes with it. -/
def ownedBy (entry : Entry) : Option Entry → Nat
  | none => 0
  | some next =>
      if entry.kind ≠ .noNewline ∧ next.kind = .noNewline then units next.text else 0

/-- What a tally retains of entries, and the tally after them. -/
def retain : List Entry → Tally → List Entry × Tally
  | [], tally => ([], tally)
  | entry :: later, tally =>
      let owned := ownedBy entry later.head?
      let kept := retain later (tally.pass entry owned)
      (if tally.admits entry owned then entry :: kept.1 else kept.1, kept.2)

variable {line : List Char} {lines rest later : List (List Char)} {place next : Place}
  {entry : Entry} {entries : List Entry} {tally : Tally}

theorem readLine_marker (place : Place) (body : List Char) :
    readLine place ('\\' :: body) = some (shown .noNewline none none body, place) :=
  rfl

theorem kind_of_readLine (h : readLine place line = some (entry, next)) :
    entry.kind = .noNewline ↔ isMarker line = true := by
  unfold readLine at h
  split at h
  · cases h
    exact iff_of_true rfl rfl
  · split at h
    · cases h
    · cases h
      exact iff_of_false (by rintro ⟨⟩) (by simp [isMarker])
  · split at h
    · cases h
    · cases h
      exact iff_of_false (by rintro ⟨⟩) (by simp [isMarker])
  · split at h
    · cases h
    · cases h
      exact iff_of_false (by rintro ⟨⟩) (by simp [isMarker])
  · cases h

theorem ownedUnits_line (h : ¬ isMarker line = true) : ownedUnits entry (some line) = 0 := by
  unfold ownedUnits
  split
  · rfl
  · split
    · next body hbody =>
        cases hbody
        exact absurd rfl h
    · rfl

/-- A marker that follows in the text is the next entry of the hunk. -/
theorem ownedUnits_eq (h : readEntries rest place = .ok (entries, later)) :
    ownedUnits entry rest.head? = ownedBy entry entries.head? := by
  cases rest with
  | nil =>
      unfold readEntries at h
      split at h
      · cases h
        unfold ownedUnits ownedBy
        exact ite_self _
      · cases h
  | cons line more =>
      by_cases hmarker : isMarker line = true
      · obtain ⟨body, rfl⟩ : ∃ body, line = '\\' :: body := by
          cases line with
          | nil => cases hmarker
          | cons first body =>
              refine ⟨body, ?_⟩
              have hfirst : first = '\\' := by simpa [isMarker] using hmarker
              rw [hfirst]
        unfold readEntries at h
        rw [if_neg (by simp [hmarker]), readLine_marker] at h
        simp only at h
        split at h
        · cases h
        · cases h
          by_cases hkind : entry.kind = .noNewline
          · simp [ownedUnits, ownedBy, hkind]
          · simp [ownedUnits, ownedBy, hkind, shown]
      · rw [List.head?_cons, ownedUnits_line hmarker]
        unfold readEntries at h
        split at h
        · cases h
          rfl
        · split at h
          · cases h
          · next first after hline =>
              split at h
              · cases h
              · cases h
                have hkind := (kind_of_readLine hline).not.mpr hmarker
                simp [ownedBy, hkind]

/-- The reader of a hunk reads it whole, and retains what its tally admits. -/
theorem readBody_eq (lines : List (List Char)) (place : Place) (tally : Tally) :
    readBody lines place tally = (readEntries lines place).map fun read =>
      ⟨read.2, (retain read.1 tally).2, (retain read.1 tally).1⟩ := by
  induction lines generalizing place tally with
  | nil =>
      unfold readBody readEntries
      split
      · rfl
      · rfl
  | cons line rest ih =>
      unfold readBody readEntries
      split
      · rfl
      · cases hline : readLine place line with
        | none => rfl
        | some read =>
            obtain ⟨entry, next⟩ := read
            simp only
            rw [ih next]
            cases hread : readEntries rest next with
            | error refusal => rfl
            | ok read =>
                obtain ⟨entries, later⟩ := read
                rw [ownedUnits_eq hread]
                rfl

theorem length_readEntries (h : readEntries lines place = .ok (entries, later)) :
    later.length ≤ lines.length := by
  have hbody := readBody_eq lines place .empty
  rw [h] at hbody
  exact length_readBody hbody

/-- The hunks, whole. -/
def wholeHunks (lines : List (List Char)) : Except Unread (List Hunk) :=
  match lines with
  | [] => .ok []
  | line :: rest =>
      match readHunkHeader line with
      | none => .error .unparsed
      | some hunk =>
          match _hentries : readEntries rest hunk.place with
          | .error refusal => .error refusal
          | .ok (entries, later) =>
              match wholeHunks later with
              | .error refusal => .error refusal
              | .ok hunks => .ok ({ hunk with lines := entries } :: hunks)
termination_by lines.length
decreasing_by exact Nat.lt_succ_of_le (length_readEntries _hentries)

def retainHunks : List Hunk → Tally → List Hunk × Tally
  | [], tally => ([], tally)
  | hunk :: rest, tally =>
      let kept := retain hunk.lines tally
      let later := retainHunks rest kept.2
      ({ hunk with lines := kept.1 } :: later.1, later.2)

def countOf (kind : LineKind) (entries : List Entry) : Nat := entries.countP (·.kind = kind)

/-- The lines among entries; a marker is none. -/
def lineCount (entries : List Entry) : Nat := entries.countP (·.kind ≠ .noNewline)

def charCount (entries : List Entry) : Nat := (entries.map fun entry => units entry.text).sum

def entriesOf (hunks : List Hunk) : List Entry := hunks.flatMap (·.lines)

/-- A tally counts what was passed, and what was retained within the bounds. -/
structure Tally.Counts (tally : Tally) (passed kept : List Entry) : Prop where
  additions : tally.additions = countOf .add passed
  deletions : tally.deletions = countOf .del passed
  linesTotal : tally.linesTotal = lineCount passed
  linesRetained : tally.linesRetained = lineCount kept
  retainedChars : tally.retainedChars = charCount kept
  lineBound : lineCount kept ≤ maxReviewFileLines
  charBound : charCount kept ≤ maxReviewFileChars

theorem countOf_concat (kind : LineKind) (entries : List Entry) (entry : Entry) :
    countOf kind (entries ++ [entry]) =
      countOf kind entries + if entry.kind = kind then 1 else 0 := by
  unfold countOf
  rw [List.countP_append, List.countP_singleton]
  simp only [decide_eq_true_eq]

theorem lineCount_concat (entries : List Entry) (entry : Entry) : lineCount (entries ++ [entry]) =
      lineCount entries + if entry.kind = .noNewline then 0 else 1 := by
  unfold lineCount
  rw [List.countP_append, List.countP_singleton]
  by_cases hkind : entry.kind = .noNewline
  · simp [hkind]
  · simp [hkind]

/-- An entry that is not retained leaves what has been retained. -/
theorem Tally.pass_refused {owned : Nat} (h : ¬ tally.admits entry owned = true) :
    tally.pass entry owned = tally.count entry ∧ tally.closed = true ∨
      tally.pass entry owned = (tally.count entry).close := by
  unfold Tally.pass
  simp only
  rw [if_neg h]
  split
  · next hclosed => exact Or.inl ⟨rfl, hclosed.2⟩
  · exact Or.inr rfl

variable {passed kept : List Entry} {owned : Nat}

theorem Tally.Counts.counted (hcounts : tally.Counts passed kept) (entry : Entry) :
    (tally.count entry).Counts (passed ++ [entry]) kept := by
  constructor
  · rw [countOf_concat, ← hcounts.additions]
    rfl
  · rw [countOf_concat, ← hcounts.deletions]
    rfl
  · rw [lineCount_concat, ← hcounts.linesTotal]
    rfl
  · exact hcounts.linesRetained
  · exact hcounts.retainedChars
  · exact hcounts.lineBound
  · exact hcounts.charBound

theorem Tally.Counts.refused (hcounts : tally.Counts passed kept)
    (h : ¬ tally.admits entry owned = true) :
    (tally.pass entry owned).Counts (passed ++ [entry]) kept := by
  have hcounted := hcounts.counted entry
  rcases Tally.pass_refused h with ⟨heq, -⟩ | heq
  · rw [heq]
    exact hcounted
  · rw [heq]
    exact ⟨hcounted.additions, hcounted.deletions, hcounted.linesTotal,
      hcounted.linesRetained, hcounted.retainedChars, hcounted.lineBound, hcounted.charBound⟩

/-- The hunks of the first entries of a diff; a hunk of which none is left is dropped. -/
def firstEntries : Nat → List Hunk → List Hunk
  | _, [] => []
  | number, hunk :: rest =>
      let later := firstEntries (number - hunk.lines.length) rest
      if hunk.lines.take number = [] then later
      else { hunk with lines := hunk.lines.take number } :: later

def dropEmpty (hunks : List Hunk) : List Hunk := hunks.filter fun hunk => hunk.lines ≠ []

/-- A file's diff without bounds. -/
structure WholeDiff where
  binary : Bool
  modeChange : Option (List Char × List Char)
  similarity : Option Int
  hunks : List Hunk

/-- The lines of one file's diff, read whole. -/
def readSection (lines : List (List Char)) : Except Unread WholeDiff := do
  Checked.failIf (¬ isOneSection lines) .unparsed
  let preamble ← readPreamble lines.tail ⟨false, none, none, none⟩
  let modeChange ← modeChangeOf preamble.1
  let hunks ← wholeHunks preamble.2
  pure ⟨preamble.1.binary, modeChange, preamble.1.similarity, hunks⟩

def readWhole (data : Bytes) : Except Unread WholeDiff := do
  let text ← Checked.orFail (Encoding.decodeUtf8 data) .notUtf8
  readSection (linesOf text.toList)

/-- What is shown of a diff. -/
def WholeDiff.shown (whole : WholeDiff) : FileDiff :=
  let kept := retainHunks whole.hunks .empty
  { binary := whole.binary
    modeChange := whole.modeChange
    similarity := whole.similarity
    hunks := dropEmpty kept.1
    additions := kept.2.additions
    deletions := kept.2.deletions
    linesTotal := kept.2.linesTotal
    linesRetained := kept.2.linesRetained
    truncated := kept.2.truncated }

/-- What is shown is a beginning of the hunks within both bounds, under the counts of all
of them. -/
structure FileDiff.Shows (shown : FileDiff) (hunks : List Hunk) : Prop where
  additions : shown.additions = countOf .add (entriesOf hunks)
  deletions : shown.deletions = countOf .del (entriesOf hunks)
  linesTotal : shown.linesTotal = lineCount (entriesOf hunks)
  beginning : ∃ number, shown.hunks = firstEntries number hunks
  linesRetained : shown.linesRetained = lineCount (entriesOf shown.hunks)
  lineBound : shown.linesRetained ≤ maxReviewFileLines
  charBound : charCount (entriesOf shown.hunks) ≤ maxReviewFileChars

end DodgingInfinity.CodeReview
