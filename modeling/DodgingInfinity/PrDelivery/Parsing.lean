import DodgingInfinity.PrDelivery.Comparison
import DodgingInfinity.WorkflowAuthority.Digest

/-!
# The raw diff of a candidate

The reader of the NUL-separated raw diff, and its reading of every record that
git writes for a well-formed entry: the records of a candidate are read into
one canonical list, whatever their order.
-/

namespace DodgingInfinity.PrDelivery

open Checked Encoding Sorting
open Framing (Bytes)

/-! ## The reader -/

def gitlinkMode : String := "160000"

def candidateModes : List String := ["100644", "100755", "120000"]

def maxCandidateEntries : Nat := 4096

/-- The status letter of an entry. -/
def CandidateStatus.letter : CandidateStatus → String
  | .added => "A"
  | .modified => "M"
  | .deleted => "D"

def statusOfLetter (letter : String) : Option CandidateStatus :=
  [.added, .modified, .deleted].find? fun status => status.letter = letter

/-- One record: its header and the bytes of its path. -/
def entryFromRaw (header path : Bytes) : Except Problem CandidateEntry :=
  match header.splitOn 0x20 with
  | [first, newModeBytes, oldBlobBytes, newBlobBytes, letter] => do
      Checked.failIf (first.head? ≠ some 0x3A) .candidateRawFormat
      let oldMode := decodeAscii first.tail
      let status ← Checked.orFail (statusOfLetter (decodeAscii letter)) .candidateStatus
      let mode := if status = .deleted then oldMode else decodeAscii newModeBytes
      let blob := decodeAscii (if status = .deleted then oldBlobBytes else newBlobBytes)
      Checked.failIf (mode = gitlinkMode ∨ oldMode = gitlinkMode) .candidateSubmodule
      Checked.failIf (mode ∉ candidateModes) .candidateStatus
      Checked.failIf (isHex blob 40 = false) .candidateRawFormat
      Checked.failIf (blob = zeroOid) .candidateRawFormat
      let text ← Checked.orFail (decodeUtf8 path) .candidatePath
      Checked.failIf (isLineFree text = false ∨ text = "") .candidatePath
      pure { path := text, status := status, mode := mode, blob := blob }
  | _ => .error .candidateRawFormat

/-- The NUL-separated tokens of a stream; its last NUL ends a token. -/
def rawTokens (data : Bytes) : List Bytes :=
  let tokens := data.splitOn 0
  if tokens.getLast? = some [] then tokens.dropLast else tokens

/-- The tokens two by two: a header and a path. -/
def recordsOf : List Bytes → List (Bytes × Bytes)
  | header :: path :: rest => (header, path) :: recordsOf rest
  | _ => []

/-- The ordered entries of a raw diff, or a refusal. -/
def parseRawZ (data : Bytes) : Except Problem (List CandidateEntry) := do
  let tokens := rawTokens data
  Checked.failIf (tokens.length % 2 ≠ 0) .candidateRawFormat
  let entries ← (recordsOf tokens).mapM fun record => entryFromRaw record.1 record.2
  Checked.failIf (entries = []) .candidateEmpty
  Checked.failIf (entries.length > maxCandidateEntries) .candidateTooMany
  let ordered := sortedOn pathOrder entries
  Checked.failIf (¬ ordered.IsChain fun previous current => previous.path ≠ current.path)
    .candidateDuplicate
  pure ordered

/-- Every path a raw diff names. -/
def pathsFromRawZ (data : Bytes) : Except Problem (List String) := do
  let tokens := rawTokens data
  Checked.failIf (tokens.length % 2 ≠ 0) .candidateRawFormat
  (recordsOf tokens).mapM fun record =>
    Checked.orFail (decodeUtf8 record.2) .candidatePath

/-! ## What git writes -/

/-- An entry the reader admits. -/
structure CandidateEntry.WellFormed (entry : CandidateEntry) : Prop where
  named : entry.path ≠ ""
  lineFree : isLineFree entry.path = true
  mode : entry.mode ∈ candidateModes
  blob : isHex entry.blob 40 = true
  resolved : entry.blob ≠ zeroOid

/-- A record of a raw diff: an entry, and the mode and the blob of the side of
the diff that the entry does not keep. -/
structure RawRecord where
  entry : CandidateEntry
  otherMode : String
  otherBlob : Oid

/-- A record as git writes it: nothing is on the other side of an addition or a
deletion, and a file is on the other side of a modification. -/
structure RawRecord.WellFormed (record : RawRecord) : Prop where
  entry : record.entry.WellFormed
  other : if record.entry.status = .modified then
      record.otherMode ∈ candidateModes ∧ isHex record.otherBlob 40 = true
    else record.otherMode = "000000" ∧ record.otherBlob = zeroOid

/-- The mode and the blob of both sides: before, then after. -/
def RawRecord.sides (record : RawRecord) : (String × Oid) × (String × Oid) :=
  let entry := record.entry
  if entry.status = .deleted then
    ((entry.mode, entry.blob), (record.otherMode, record.otherBlob))
  else ((record.otherMode, record.otherBlob), (entry.mode, entry.blob))

/-- The header of a record: the modes and the blobs before and after, and the
status. -/
def RawRecord.header (record : RawRecord) : Bytes :=
  let (before, after) := record.sides
  [0x20].intercalate [0x3A :: encodeAscii before.1, encodeAscii after.1, encodeAscii before.2,
      encodeAscii after.2, encodeAscii record.entry.status.letter]

/-- A stream of headers and paths, each ended by a NUL. -/
def streamed (records : List (Bytes × Bytes)) : Bytes :=
  records.flatMap fun record => record.1 ++ 0 :: record.2 ++ [0]

/-- The stream of the records. -/
def rendered (records : List RawRecord) : Bytes :=
  streamed (records.map fun record => (record.header, encodeUtf8 record.entry.path))

/-! ## One record -/

/-- A text of a header: ASCII, and neither a space nor a NUL. -/
structure Plain (text : String) : Prop where
  ascii : Ascii text
  noSpace : ' ' ∉ text.toList
  noNul : Char.ofNat 0 ∉ text.toList

variable {text : String}

theorem Plain.space (h : Plain text) : 0x20 ∉ encodeAscii text :=
  fun hmem => h.noSpace ((mem_encodeAscii h.ascii (by decide)).mp hmem)

theorem Plain.zero (h : Plain text) : 0 ∉ encodeAscii text :=
  fun hmem => h.noNul ((mem_encodeAscii h.ascii (by decide)).mp hmem)

theorem plain_hex {length : Nat} (h : isHex text length = true) :
    Plain text := by
  have hdigits := (of_decide_eq_true h).2
  have hascii : ∀ digit ∈ hexDigits, digit.toNat < 0x80 := by decide
  refine ⟨fun digit hmem => hascii digit (hdigits digit hmem), ?_, ?_⟩
  · exact fun hmem => absurd (hdigits _ hmem) (by decide)
  · exact fun hmem => absurd (hdigits _ hmem) (by decide)

theorem plain_mode : ∀ mode ∈ "000000" :: candidateModes, Plain mode := by
  have hall : ∀ mode ∈ "000000" :: candidateModes,
      Ascii mode ∧ ' ' ∉ mode.toList ∧ Char.ofNat 0 ∉ mode.toList := by decide
  exact fun mode hmem => ⟨(hall mode hmem).1, (hall mode hmem).2.1, (hall mode hmem).2.2⟩

theorem plain_letter (status : CandidateStatus) : Plain status.letter := by
  cases status <;> exact ⟨by decide, by decide, by decide⟩

theorem statusOfLetter_letter (status : CandidateStatus) :
    statusOfLetter status.letter = some status := by
  cases status <;> decide

variable {record : RawRecord}

/-- Every text of the header of a well-formed record is plain. -/
theorem RawRecord.WellFormed.plain (h : record.WellFormed) :
    Plain record.otherMode ∧ Plain record.otherBlob := by
  have hother := h.other
  split at hother
  · exact ⟨plain_mode _ (List.mem_cons_of_mem _ hother.1), plain_hex hother.2⟩
  · obtain ⟨hmode, hblob⟩ := hother
    rw [hmode, hblob]
    exact ⟨plain_mode _ List.mem_cons_self, plain_hex (by decide : isHex zeroOid 40 = true)⟩

variable {entry : CandidateEntry}

theorem CandidateEntry.WellFormed.plain (h : entry.WellFormed) :
    Plain entry.mode ∧ Plain entry.blob :=
  ⟨plain_mode _ (List.mem_cons_of_mem _ h.mode), plain_hex h.blob⟩

/-- The five fields of a header. -/
theorem header_splitOn {first second third fourth fifth : String} (hfirst : Plain first)
    (hsecond : Plain second) (hthird : Plain third) (hfourth : Plain fourth)
    (hfifth : Plain fifth) :
    (([0x20] : Bytes).intercalate [0x3A :: encodeAscii first, encodeAscii second,
      encodeAscii third, encodeAscii fourth, encodeAscii fifth]).splitOn 0x20 =
      [0x3A :: encodeAscii first, encodeAscii second, encodeAscii third,
        encodeAscii fourth, encodeAscii fifth] := by
  apply List.splitOn_intercalate 0x20 _ (List.cons_ne_nil _ _)
  simp only [List.mem_cons, List.not_mem_nil, or_false, forall_eq_or_imp, forall_eq, not_or]
  exact ⟨⟨by decide, hfirst.space⟩, hsecond.space, hthird.space, hfourth.space, hfifth.space⟩

/-- The reader of a header whose kept side is the entry's. -/
theorem entryFromRaw_fields {oldMode newMode oldBlob newBlob : String} (holdMode : Plain oldMode)
    (hnewMode : Plain newMode)
    (holdBlob : Plain oldBlob) (hnewBlob : Plain newBlob)
    (hmode : (if entry.status = .deleted then oldMode else newMode) = entry.mode)
    (hblob : (if entry.status = .deleted then oldBlob else newBlob) = entry.blob)
    (hfile : oldMode ≠ gitlinkMode) (hentry : entry.WellFormed) :
    entryFromRaw (([0x20] : Bytes).intercalate [0x3A :: encodeAscii oldMode,
      encodeAscii newMode, encodeAscii oldBlob, encodeAscii newBlob,
      encodeAscii entry.status.letter]) (encodeUtf8 entry.path) = .ok entry := by
  have hletter := plain_letter entry.status
  have hgitlink : ∀ held ∈ candidateModes, held ≠ gitlinkMode := by decide
  have hblobRead : decodeAscii (if entry.status = .deleted then encodeAscii oldBlob
      else encodeAscii newBlob) = entry.blob := by
    rw [← hblob]
    split
    · exact decodeAscii_encodeAscii holdBlob.ascii
    · exact decodeAscii_encodeAscii hnewBlob.ascii
  unfold entryFromRaw
  rw [header_splitOn holdMode hnewMode holdBlob hnewBlob hletter]
  simp only [List.tail_cons, decodeAscii_encodeAscii holdMode.ascii,
    decodeAscii_encodeAscii hnewMode.ascii, decodeAscii_encodeAscii hletter.ascii,
    statusOfLetter_letter, decodeUtf8_encodeUtf8, bind_eq_ok, exists_passed, failIf_eq_ok,
    orFail_eq_ok, pure_eq_ok, List.head?_cons, not_true_eq_false, Option.some.injEq,
    exists_eq_left', hmode, hblobRead, ne_eq, not_or, not_not]
  exact ⟨id, ⟨hgitlink _ hentry.mode, hfile⟩, hentry.mode, by simp [hentry.blob],
    hentry.resolved, ⟨by simp [hentry.lineFree], hentry.named⟩, trivial⟩

/-- The reader reads a record that git writes as its entry. -/
theorem entryFromRaw_header (h : record.WellFormed) :
    entryFromRaw record.header (encodeUtf8 record.entry.path) = .ok record.entry := by
  obtain ⟨hmodePlain, hblobPlain⟩ := h.entry.plain
  obtain ⟨hotherModePlain, hotherBlobPlain⟩ := h.plain
  have hgitlink : ∀ held ∈ "000000" :: candidateModes, held ≠ gitlinkMode := by decide
  have hotherMode : record.otherMode ∈ "000000" :: candidateModes := by
    have hother := h.other
    split at hother
    · exact List.mem_cons_of_mem _ hother.1
    · rw [hother.1]
      exact List.mem_cons_self
  have hmode := hgitlink _ (List.mem_cons_of_mem _ h.entry.mode)
  have hotherNot := hgitlink _ hotherMode
  unfold RawRecord.header RawRecord.sides
  by_cases hdeleted : record.entry.status = .deleted
  · simp only [if_pos hdeleted]
    exact entryFromRaw_fields hmodePlain hotherModePlain hblobPlain hotherBlobPlain
      (if_pos hdeleted) (if_pos hdeleted) hmode h.entry
  · simp only [if_neg hdeleted]
    exact entryFromRaw_fields hotherModePlain hmodePlain hotherBlobPlain hblobPlain
      (if_neg hdeleted) (if_neg hdeleted) hotherNot h.entry

/-! ## The stream -/

theorem header_noNul (h : record.WellFormed) : 0 ∉ record.header := by
  obtain ⟨hmode, hblob⟩ := h.entry.plain
  obtain ⟨hotherMode, hotherBlob⟩ := h.plain
  have hletter := plain_letter record.entry.status
  unfold RawRecord.header RawRecord.sides
  by_cases hdeleted : record.entry.status = .deleted
  · simp [hdeleted, List.intercalate, hmode.zero, hblob.zero, hotherMode.zero,
      hotherBlob.zero, (plain_letter .deleted).zero]
  · simp [hdeleted, List.intercalate, hmode.zero, hblob.zero, hotherMode.zero,
      hotherBlob.zero, hletter.zero]

theorem path_noNul (h : entry.WellFormed) :
    0 ∉ encodeUtf8 entry.path := by
  refine zero_notMem_encodeUtf8 fun character hmem hnul => ?_
  have hfree := of_decide_eq_true h.lineFree character hmem
  exact hfree (.inl (by omega))

/-- Neither the header nor the path of a record holds a NUL. -/
def NulFree (records : List (Bytes × Bytes)) : Prop :=
  ∀ record ∈ records, 0 ∉ record.1 ∧ 0 ∉ record.2

variable {records : List (Bytes × Bytes)}

theorem splitOn_streamed (h : NulFree records) : (streamed records).splitOn 0 =
      records.flatMap (fun record => [record.1, record.2]) ++ [[]] := by
  induction records with
  | nil => rfl
  | cons record rest ih =>
      obtain ⟨hheader, hpath⟩ := h record List.mem_cons_self
      have hrest := ih fun other hmem => h other (List.mem_cons_of_mem _ hmem)
      have hshape : streamed (record :: rest) =
          record.1 ++ 0 :: (record.2 ++ 0 :: streamed rest) := by
        simp [streamed]
      rw [hshape, List.splitOn_append_cons_self_of_not_mem hheader,
        List.splitOn_append_cons_self_of_not_mem hpath, hrest]
      rfl

theorem rawTokens_streamed (h : NulFree records) : rawTokens (streamed records) =
      records.flatMap fun record => [record.1, record.2] := by
  unfold rawTokens
  rw [splitOn_streamed h]
  simp

theorem recordsOf_tokens (records : List (Bytes × Bytes)) :
    recordsOf (records.flatMap fun record => [record.1, record.2]) = records := by
  induction records with
  | nil => rfl
  | cons record rest ih => exact congrArg (record :: ·) ih

theorem length_tokens (records : List (Bytes × Bytes)) :
    (records.flatMap fun record => [record.1, record.2]).length % 2 = 0 := by
  induction records with
  | nil => rfl
  | cons record rest ih =>
      rw [List.flatMap_cons, List.length_append]
      change (2 + _) % 2 = 0
      omega

variable {α β : Type}

variable {f : α → Except Problem β} {items : List α}

theorem mapM_ok {g : α → β}
    (h : ∀ item ∈ items, f item = .ok (g item)) : items.mapM f = .ok (items.map g) := by
  induction items with
  | nil => rfl
  | cons item rest ih =>
      rw [List.mapM_cons, h item List.mem_cons_self,
        ih fun other hmem => h other (List.mem_cons_of_mem _ hmem)]
      rfl

variable {results : List β}

theorem mapM_cons_eq_ok {item : α} {rest : List α} : (item :: rest).mapM f = .ok results ↔
      ∃ first, f item = .ok first ∧ ∃ others, rest.mapM f = .ok others ∧
        results = first :: others := by
  rw [List.mapM_cons]
  simp only [bind_eq_ok, pure_eq_ok, eq_comm (b := results)]

theorem mem_mapM
    (h : items.mapM f = .ok results) : ∀ result ∈ results, ∃ item ∈ items, f item = .ok result := by
  induction items generalizing results with
  | nil =>
      cases h
      exact fun _ hmem => absurd hmem List.not_mem_nil
  | cons item rest ih =>
      obtain ⟨first, hfirst, others, hothers, rfl⟩ := mapM_cons_eq_ok.mp h
      intro result hmem
      rcases List.mem_cons.mp hmem with rfl | hmore
      · exact ⟨item, List.mem_cons_self, hfirst⟩
      · obtain ⟨other, hother, hread⟩ := ih hothers result hmore
        exact ⟨other, List.mem_cons_of_mem _ hother, hread⟩

theorem mapM_mem
    (h : items.mapM f = .ok results) : ∀ item ∈ items, ∃ result ∈ results, f item = .ok result := by
  induction items generalizing results with
  | nil => exact fun _ hmem => absurd hmem List.not_mem_nil
  | cons item rest ih =>
      obtain ⟨first, hfirst, others, hothers, rfl⟩ := mapM_cons_eq_ok.mp h
      intro held hmem
      rcases List.mem_cons.mp hmem with rfl | hmore
      · exact ⟨first, List.mem_cons_self, hfirst⟩
      · obtain ⟨result, hresult, hread⟩ := ih hothers held hmore
        exact ⟨result, List.mem_cons_of_mem _ hresult, hread⟩

/-- Reading in another order gives the results in another order. -/
theorem mapM_perm {others : List α} (hperm : items.Perm others) (h : items.mapM f = .ok results) :
    ∃ reordered, others.mapM f = .ok reordered ∧ results.Perm reordered := by
  induction hperm generalizing results with
  | nil => exact ⟨results, h, .refl _⟩
  | cons item _ ih =>
      obtain ⟨first, hfirst, rest, hrest, rfl⟩ := mapM_cons_eq_ok.mp h
      obtain ⟨reordered, hothers, hreordered⟩ := ih hrest
      exact ⟨first :: reordered, mapM_cons_eq_ok.mpr ⟨first, hfirst, reordered, hothers, rfl⟩,
        hreordered.cons first⟩
  | swap item other rest =>
      obtain ⟨first, hfirst, more, hmore, rfl⟩ := mapM_cons_eq_ok.mp h
      obtain ⟨second, hsecond, tail, htail, rfl⟩ := mapM_cons_eq_ok.mp hmore
      exact ⟨second :: first :: tail, mapM_cons_eq_ok.mpr ⟨second, hsecond, first :: tail,
        mapM_cons_eq_ok.mpr ⟨first, hfirst, tail, htail, rfl⟩, rfl⟩, .swap ..⟩
  | trans _ _ ihFirst ihSecond =>
      obtain ⟨middle, hmiddle, hfirst⟩ := ihFirst h
      obtain ⟨reordered, hothers, hsecond⟩ := ihSecond hmiddle
      exact ⟨reordered, hothers, hfirst.trans hsecond⟩

/-- The canonical list of the entries: in the order of their paths' bytes. -/
def canonicalEntries (entries : List CandidateEntry) : List CandidateEntry :=
  sortedOn pathOrder entries

/-- What the reader makes of entries: the canonical list, unless there are none
or too many of them or a path comes twice. -/
def collected (entries : List CandidateEntry) : Except Problem (List CandidateEntry) := do
  Checked.failIf (entries = []) .candidateEmpty
  Checked.failIf (entries.length > maxCandidateEntries) .candidateTooMany
  Checked.failIf (¬ (canonicalEntries entries).IsChain
    fun previous current => previous.path ≠ current.path) .candidateDuplicate
  pure (canonicalEntries entries)

/-- A stream is read record by record, and what is read is collected. -/
theorem parseRawZ_streamed (h : NulFree records) : parseRawZ (streamed records) =
      (records.mapM fun record => entryFromRaw record.1 record.2) >>= collected := by
  have heven : ¬ (rawTokens (streamed records)).length % 2 ≠ 0 := by
    rw [rawTokens_streamed h, length_tokens]
    exact fun hne => hne rfl
  have hrecords : recordsOf (rawTokens (streamed records)) = records := by
    rw [rawTokens_streamed h, recordsOf_tokens]
  unfold parseRawZ
  simp only [hrecords, Checked.failIf, if_neg heven]
  rfl

/-- The paths of a stream. -/
theorem pathsFromRawZ_streamed (h : NulFree records) : pathsFromRawZ (streamed records) =
      records.mapM fun record => Checked.orFail (decodeUtf8 record.2) .candidatePath := by
  have heven : ¬ (rawTokens (streamed records)).length % 2 ≠ 0 := by
    rw [rawTokens_streamed h, length_tokens]
    exact fun hne => hne rfl
  have hrecords : recordsOf (rawTokens (streamed records)) = records := by
    rw [rawTokens_streamed h, recordsOf_tokens]
  unfold pathsFromRawZ
  simp only [hrecords, Checked.failIf, if_neg heven]
  rfl

/-- A stream of well-formed records is read as the entries of the records. -/
theorem parseRawZ_rendered {records : List RawRecord} (h : ∀ record ∈ records, record.WellFormed) :
    parseRawZ (rendered records) = collected (records.map RawRecord.entry) := by
  have hfree : NulFree
      (records.map fun record => (record.header, encodeUtf8 record.entry.path)) := by
    intro pair hmem
    obtain ⟨record, hrecord, rfl⟩ := List.mem_map.mp hmem
    exact ⟨header_noNul (h record hrecord), path_noNul (h record hrecord).entry⟩
  have hread : records.mapM ((fun record : Bytes × Bytes => entryFromRaw record.1 record.2) ∘
        fun record => (record.header, encodeUtf8 record.entry.path)) =
      .ok (records.map RawRecord.entry) :=
    mapM_ok fun record hmem => entryFromRaw_header (h record hmem)
  unfold rendered
  rw [parseRawZ_streamed hfree, List.mapM_map, hread]
  rfl

/-! ## Canonical lists -/

/-- A candidate in its one form: entries the reader admits, some but not too
many, in the order of their paths' bytes. -/
structure CanonicalList (entries : List CandidateEntry) : Prop where
  nonempty : entries ≠ []
  bounded : entries.length ≤ maxCandidateEntries
  ordered : Ascending pathOrder entries
  wellFormed : ∀ entry ∈ entries, entry.WellFormed

variable {entries : List CandidateEntry}

/-- Neighbours differ in the sorted list exactly when no path comes twice. -/
theorem chain_canonicalEntries : ((canonicalEntries entries).IsChain fun previous current =>
        previous.path ≠ current.path) ↔ (entries.map CandidateEntry.path).Nodup := by
  have hsorted := pairwise_sortedOn pathOrder entries
  constructor
  · intro hchain
    have hadjacent : (canonicalEntries entries).IsChain fun previous current =>
        pathOrder previous ≠ pathOrder current :=
      hchain.imp fun _ _ hne heq => hne (pathOrder_eq_iff.mp heq)
    have hordered := ascending_of_adjacent hsorted hadjacent
    exact (((sortedOn_perm pathOrder entries).map _).nodup_iff).mp
      (nodup_pathOrder.mp hordered.nodup)
  · intro hdistinct
    have hordered := ascending_sortedOn (nodup_pathOrder.mpr hdistinct)
    exact hordered.isChain.imp fun _ _ hlt heq => ne_of_lt hlt (pathOrder_eq_iff.mpr heq)

/-- What the reader collects. -/
theorem collected_eq_ok {result : List CandidateEntry} : collected entries = .ok result ↔
      entries ≠ [] ∧ entries.length ≤ maxCandidateEntries ∧
        (entries.map CandidateEntry.path).Nodup ∧ canonicalEntries entries = result := by
  simp only [collected, bind_eq_ok, exists_passed, failIf_eq_ok, pure_eq_ok, not_not,
    gt_iff_lt, Nat.not_lt, chain_canonicalEntries, ne_eq]

/-- The reader does not see the order of the records. -/
theorem collected_perm {others : List CandidateEntry} (h : entries.Perm others) :
    collected entries = collected others := by
  have hempty : entries = [] ↔ others = [] := by
    rw [← List.length_eq_zero_iff, ← List.length_eq_zero_iff, h.length_eq]
  have hpaths := (h.map CandidateEntry.path).nodup_iff
  unfold collected
  simp only [hempty, h.length_eq, chain_canonicalEntries, hpaths]
  by_cases hdistinct : (others.map CandidateEntry.path).Nodup
  · have hsame : canonicalEntries entries = canonicalEntries others :=
      sortedOn_eq_of_perm h (nodup_pathOrder.mpr (hpaths.mpr hdistinct))
    rw [hsame]
  · simp only [hdistinct, not_false_eq_true, Checked.failIf, if_true]
    rfl

theorem canonicalList_canonicalEntries (hsome : entries ≠ [])
    (hbounded : entries.length ≤ maxCandidateEntries)
    (hdistinct : (entries.map CandidateEntry.path).Nodup)
    (hall : ∀ entry ∈ entries, entry.WellFormed) :
    CanonicalList (canonicalEntries entries) where
  nonempty := by
    intro hempty
    have hperm := sortedOn_perm pathOrder entries
    rw [show sortedOn pathOrder entries = [] from hempty] at hperm
    exact hsome hperm.nil_eq.symm
  bounded := by
    have hlength := (sortedOn_perm pathOrder entries).length_eq
    exact hlength ▸ hbounded
  ordered := ascending_sortedOn (nodup_pathOrder.mpr hdistinct)
  wellFormed := fun entry hmem =>
    hall entry ((sortedOn_perm pathOrder entries).mem_iff.mp hmem)

/-- A canonical list is its own canonical form. -/
theorem CanonicalList.canonicalEntries_eq
    (h : CanonicalList entries) : canonicalEntries entries = entries :=
  (ascending_sortedOn h.ordered.nodup).eq_of_perm h.ordered (sortedOn_perm pathOrder entries)

/-- An entry the reader accepts is well formed. -/
theorem wellFormed_of_entryFromRaw {header path : Bytes}
    (h : entryFromRaw header path = .ok entry) : entry.WellFormed := by
  unfold entryFromRaw at h
  split at h
  · simp only [bind_eq_ok, exists_passed, failIf_eq_ok, orFail_eq_ok, pure_eq_ok, not_or,
      not_not, Bool.not_eq_false] at h
    obtain ⟨-, status, -, -, hmode, hblob, hresolved, text, -, ⟨hfree, hnamed⟩, rfl⟩ := h
    exact ⟨hnamed, hfree, hmode, hblob, hresolved⟩
  · cases h

/-- Whatever the stream, the reader answers with a canonical list or refuses. -/
theorem canonicalList_of_parseRawZ {data : Bytes}
    (h : parseRawZ data = .ok entries) : CanonicalList entries := by
  unfold parseRawZ at h
  simp only [bind_eq_ok, exists_passed] at h
  obtain ⟨-, read, hread, hcollected⟩ := h
  have hok : collected read = .ok entries := by
    simp only [collected, bind_eq_ok, exists_passed]
    exact hcollected
  obtain ⟨hsome, hbounded, hdistinct, rfl⟩ := collected_eq_ok.mp hok
  refine canonicalList_canonicalEntries hsome hbounded hdistinct fun entry hmem => ?_
  obtain ⟨record, -, hentry⟩ := mem_mapM hread entry hmem
  exact wellFormed_of_entryFromRaw hentry

end DodgingInfinity.PrDelivery

/-!
## The identity of a candidate

The framed digest of a canonical list: two lists have one digest exactly when a
comparison finds no difference between them.
-/

namespace DodgingInfinity.PrDelivery

open Encoding Sorting
open Framing (Bytes)
open WorkflowAuthority (sha256Hex lengthPrefixBytes)

/-- A text in ASCII bytes, where it is ASCII. -/
def asciiBytes (text : String) : Option Bytes :=
  if Ascii text then some (encodeAscii text) else none

/-- The four parts of an entry. -/
def entryParts (entry : CandidateEntry) : Option (List Bytes) := do
  let status ← asciiBytes entry.status.letter
  let mode ← asciiBytes entry.mode
  let blob ← asciiBytes entry.blob
  pure [status, mode, blob, encodeUtf8 entry.path]

/-- The framed digest over the ordered entries, four parts each. -/
def identityDigest [WorkflowAuthority.Sha256] (entries : List CandidateEntry) : Option Digest := do
  let parts ← entries.mapM entryParts
  WorkflowAuthority.framedDigest parts.flatten

/-- The parts of an entry whose texts are ASCII. -/
def plainParts (entry : CandidateEntry) : List Bytes :=
  [encodeAscii entry.status.letter, encodeAscii entry.mode, encodeAscii entry.blob,
    encodeUtf8 entry.path]

variable {entry : CandidateEntry}

theorem entryParts_eq (h : entry.WellFormed) :
    entryParts entry = some (plainParts entry) := by
  obtain ⟨hmode, hblob⟩ := h.plain
  simp only [entryParts, asciiBytes, if_pos (plain_letter entry.status).ascii,
    if_pos hmode.ascii, if_pos hblob.ascii]
  rfl

variable {entries : List CandidateEntry}

theorem mapM_entryParts (h : ∀ entry ∈ entries, entry.WellFormed) :
    entries.mapM entryParts = some (entries.map plainParts) := by
  induction entries with
  | nil => rfl
  | cons entry rest ih =>
      rw [List.mapM_cons, entryParts_eq (h entry List.mem_cons_self),
        ih fun other hmem => h other (List.mem_cons_of_mem _ hmem)]
      rfl

theorem identityDigest_eq [WorkflowAuthority.Sha256] (h : ∀ entry ∈ entries, entry.WellFormed) :
    identityDigest entries =
      WorkflowAuthority.framedDigest (entries.map plainParts).flatten := by
  unfold identityDigest
  rw [mapM_entryParts h]
  rfl

theorem letter_injective {status other : CandidateStatus}
    (h : encodeAscii status.letter = encodeAscii other.letter) : status = other := by
  revert h
  cases status <;> cases other <;> decide

/-- An entry is recovered from its parts. -/
theorem plainParts_injective {other : CandidateEntry} (h : entry.WellFormed)
    (hother : other.WellFormed) (hparts : plainParts entry = plainParts other) :
    entry = other := by
  obtain ⟨path, status, mode, blob⟩ := entry
  obtain ⟨otherPath, otherStatus, otherMode, otherBlob⟩ := other
  simp only [plainParts, List.cons.injEq, and_true] at hparts
  obtain ⟨hletters, hmodes, hblobs, hpaths⟩ := hparts
  have hstatus := letter_injective hletters
  have hmode := encodeAscii_injective h.plain.1.ascii hother.plain.1.ascii hmodes
  have hblob := encodeAscii_injective h.plain.2.ascii hother.plain.2.ascii hblobs
  have hpath := encodeUtf8_injective hpaths
  simp only at hstatus hmode hblob hpath
  rw [hpath, hstatus, hmode, hblob]

/-- Entries are recovered from their parts in a row: each has four of them. -/
theorem flatten_plainParts_injective {others : List CandidateEntry}
    (h : ∀ entry ∈ entries, entry.WellFormed) (hothers : ∀ entry ∈ others, entry.WellFormed)
    (hparts : (entries.map plainParts).flatten = (others.map plainParts).flatten) :
    entries = others := by
  induction entries generalizing others with
  | nil =>
      cases others with
      | nil => rfl
      | cons other rest => cases hparts
  | cons entry entries ih =>
      cases others with
      | nil => cases hparts
      | cons other others =>
          rw [List.map_cons, List.map_cons, List.flatten_cons, List.flatten_cons] at hparts
          obtain ⟨hfirst, hrest⟩ := List.append_inj hparts rfl
          rw [plainParts_injective (h entry List.mem_cons_self)
            (hothers other List.mem_cons_self) hfirst,
            ih (fun held hmem => h held (List.mem_cons_of_mem _ hmem))
              (fun held hmem => hothers held (List.mem_cons_of_mem _ hmem)) hrest]

theorem length_plainParts (entries : List CandidateEntry) :
    ((entries.map plainParts).flatten).length = 4 * entries.length := by
  induction entries with
  | nil => rfl
  | cons entry rest ih =>
      rw [List.map_cons, List.flatten_cons, List.length_append, ih, List.length_cons]
      change 4 + 4 * rest.length = 4 * (rest.length + 1)
      omega

theorem length_mode : ∀ mode ∈ candidateModes, mode.toList.length = 6 := by decide

/-- A canonical list has a digest, unless a path is too long for its length
prefix. -/
theorem identityDigest_isSome [WorkflowAuthority.Sha256] (h : CanonicalList entries) :
    (identityDigest entries).isSome = true ↔
      ∀ entry ∈ entries, (encodeUtf8 entry.path).length < 256 ^ lengthPrefixBytes := by
  have hcount : ((entries.map plainParts).flatten).length < 256 ^ lengthPrefixBytes := by
    have hbounded := h.bounded
    rw [length_plainParts]
    unfold maxCandidateEntries at hbounded
    unfold lengthPrefixBytes
    omega
  have hpart : ∀ entry ∈ entries, ∀ part ∈ plainParts entry,
      part.length < 256 ^ lengthPrefixBytes ∨ part = encodeUtf8 entry.path := by
    intro entry hmem part hin
    have hentry := h.wellFormed entry hmem
    have hmode := length_mode _ hentry.mode
    have hblob := (of_decide_eq_true hentry.blob).1
    simp only [plainParts, List.mem_cons, List.not_mem_nil, or_false] at hin
    rcases hin with rfl | rfl | rfl | rfl
    · left
      cases entry.status <;> decide
    · left
      rw [length_encodeAscii, hmode]
      decide
    · left
      rw [length_encodeAscii, hblob]
      decide
    · exact .inr rfl
  rw [identityDigest_eq h.wellFormed, WorkflowAuthority.framedDigest]
  constructor
  · intro hsome entry hmem
    split at hsome
    · rename_i hparts
      refine hparts.2 _ (List.mem_flatten.mpr ⟨_, List.mem_map_of_mem hmem, ?_⟩)
      simp [plainParts]
    · cases hsome
  · intro hpaths
    rw [if_pos]
    · rfl
    · refine ⟨hcount, fun part hin => ?_⟩
      obtain ⟨parts, hparts, hmem⟩ := List.mem_flatten.mp hin
      obtain ⟨entry, hentry, rfl⟩ := List.mem_map.mp hparts
      rcases hpart entry hentry part hmem with hshort | rfl
      · exact hshort
      · exact hpaths entry hentry

/-- Two canonical lists have one digest exactly when they are one list. -/
theorem identityDigest_eq_iff [WorkflowAuthority.Sha256] (hsha : Function.Injective sha256Hex)
    {bound live : List CandidateEntry} (hbound : CanonicalList bound)
    (hlive : CanonicalList live) {digest other : Digest}
    (hdigest : identityDigest bound = some digest) (hother : identityDigest live = some other) :
    digest = other ↔ bound = live := by
  constructor
  · rintro rfl
    rw [identityDigest_eq hbound.wellFormed] at hdigest
    rw [identityDigest_eq hlive.wellFormed] at hother
    exact flatten_plainParts_injective hbound.wellFormed hlive.wellFormed
      (WorkflowAuthority.framedDigest_inj hsha hdigest hother)
  · rintro rfl
    exact Option.some.inj (hdigest.symm.trans hother)

/-- The records of a candidate are read into one canonical list whatever their
order, and two canonical lists have one digest exactly when a comparison finds
no difference. -/
theorem candidate_identity [WorkflowAuthority.Sha256] (hsha : Function.Injective sha256Hex) :
    (∀ records : List RawRecord, (∀ record ∈ records, record.WellFormed) →
      ∀ order : List RawRecord, order.Perm records →
        parseRawZ (rendered order) = parseRawZ (rendered records) ∧
          ∀ entries, parseRawZ (rendered order) = .ok entries ↔
            records ≠ [] ∧ records.length ≤ maxCandidateEntries ∧
              ((records.map RawRecord.entry).map CandidateEntry.path).Nodup ∧
                entries = canonicalEntries (records.map RawRecord.entry)) ∧
    (∀ (data : Bytes) (entries : List CandidateEntry), parseRawZ data = .ok entries →
        CanonicalList entries ∧ canonicalEntries entries = entries) ∧
    (∀ bound live : List CandidateEntry, CanonicalList bound → CanonicalList live →
      ∀ digest other : Digest, identityDigest bound = some digest →
        identityDigest live = some other → (digest = other ↔ compare bound live = none)) ∧
    (∀ entries : List CandidateEntry, CanonicalList entries →
      ((identityDigest entries).isSome = true ↔
        ∀ entry ∈ entries, (encodeUtf8 entry.path).length < 256 ^ lengthPrefixBytes)) := by
  refine ⟨?_, ?_, ?_, fun entries h => identityDigest_isSome h⟩
  · intro records hrecords order hperm
    have horder : ∀ record ∈ order, record.WellFormed :=
      fun record hmem => hrecords record (hperm.mem_iff.mp hmem)
    rw [parseRawZ_rendered horder, parseRawZ_rendered hrecords,
      collected_perm (hperm.map RawRecord.entry)]
    refine ⟨rfl, fun entries => ?_⟩
    rw [collected_eq_ok, List.length_map, ne_eq, List.map_eq_nil_iff, eq_comm (a := entries)]
  · intro data entries h
    have hlist := canonicalList_of_parseRawZ h
    exact ⟨hlist, hlist.canonicalEntries_eq⟩
  · intro bound live hbound hlive digest other hdigest hother
    rw [identityDigest_eq_iff hsha hbound hlive hdigest hother,
      compare_eq_none_iff_eq hbound.ordered hlive.ordered]

/-! ### A candidate of two records -/

/-- A stand-in for the hash without a collision: the bytes as a text. -/
@[reducible] def bytesAsText : WorkflowAuthority.Sha256 :=
  ⟨fun bytes => String.ofList (bytes.map fun byte => Char.ofNat byte.toNat)⟩

theorem bytesAsText_injective : Function.Injective bytesAsText.sha256Hex := by
  intro bytes other h
  have hlists := String.ofList_injective h
  refine List.map_injective_iff.mpr ?_ hlists
  intro byte otherByte hchars
  have hcodes := congrArg Char.toNat hchars
  have hvalid : ∀ code < 256, (Char.ofNat code).toNat = code := by decide +kernel
  rw [hvalid _ byte.toNat_lt, hvalid _ otherByte.toNat_lt] at hcodes
  exact UInt8.toNat_inj.mp hcodes

def sampleBlob : Oid := String.ofList (List.replicate 40 'a')

def sampleAdded : RawRecord where
  entry := { path := "a/new.py", status := .added, mode := "100644", blob := sampleBlob }
  otherMode := "000000"
  otherBlob := zeroOid

def sampleDeleted : RawRecord where
  entry := { path := "b", status := .deleted, mode := "100755", blob := sampleBlob }
  otherMode := "000000"
  otherBlob := zeroOid

theorem wellFormed_samples : ∀ record ∈ [sampleDeleted, sampleAdded], record.WellFormed := by
  intro record hmem
  simp only [List.mem_cons, List.not_mem_nil, or_false] at hmem
  rcases hmem with rfl | rfl
  · exact ⟨⟨by decide, by decide, by decide, by decide, by decide⟩, by decide⟩
  · exact ⟨⟨by decide, by decide, by decide, by decide, by decide⟩, by decide⟩

theorem candidate_identity_swapped : letI := bytesAsText
    parseRawZ (rendered [sampleAdded, sampleDeleted]) =
        .ok [sampleAdded.entry, sampleDeleted.entry] ∧
      parseRawZ (rendered [sampleDeleted, sampleAdded]) =
        .ok [sampleAdded.entry, sampleDeleted.entry] := by
  let _ := bytesAsText
  have hidentity := candidate_identity bytesAsText_injective
  have hread := fun order hperm => (hidentity.1 [sampleDeleted, sampleAdded]
    wellFormed_samples order hperm).2 [sampleAdded.entry, sampleDeleted.entry]
  have hconditions : [sampleDeleted, sampleAdded] ≠ [] ∧
      [sampleDeleted, sampleAdded].length ≤ maxCandidateEntries ∧
        (([sampleDeleted, sampleAdded].map RawRecord.entry).map CandidateEntry.path).Nodup ∧
          [sampleAdded.entry, sampleDeleted.entry] =
            canonicalEntries ([sampleDeleted, sampleAdded].map RawRecord.entry) := by
    decide
  exact ⟨(hread _ (List.Perm.swap _ _ [])).mpr hconditions,
    (hread _ (List.Perm.refl _)).mpr hconditions⟩

end DodgingInfinity.PrDelivery
