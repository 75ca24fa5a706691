import DodgingInfinity.Library.Lines
import DodgingInfinity.Library.Trees
import DodgingInfinity.PrDelivery.Parsing

/-!
# A candidate carried onto another base

Trees of files, the raw diff between two of them, and the change that a
candidate makes.  A candidate whose paths overlap no path that the base changed
is carried onto the new base: the result is a tree, and its raw diff is read as
the same candidate.
-/

namespace DodgingInfinity.PrDelivery

open Encoding Sorting Checked
open Framing (Bytes)

/-! ## Overlaps -/

/-- The components of a path. -/
def components (path : String) : List (List Char) := path.toList.splitOn '/'

/-- A path lies in a directory: its components go on from the directory's. -/
def Contains (directory path : String) : Prop :=
  components directory <+: components path ∧ components directory ≠ components path

/-- A directory's path and a slash begin the paths that lie in it. -/
theorem contains_iff {directory path : String} :
    Contains directory path ↔ (directory ++ "/").toList.isPrefixOf path.toList = true := by
  have hslash : (directory ++ "/").toList = directory.toList ++ ['/'] := by
    rw [String.toList_append]
    rfl
  rw [List.isPrefixOf_iff_prefix, hslash]
  unfold Contains components
  constructor
  · rintro ⟨⟨more, hmore⟩, hne⟩
    cases more with
    | nil =>
        rw [List.append_nil] at hmore
        exact absurd hmore hne
    | cons next rest =>
        refine ⟨['/'].intercalate (next :: rest), ?_⟩
        have hdirectory : ['/'].intercalate (directory.toList.splitOn '/') =
            directory.toList := List.intercalate_splitOn '/'
        have hpath : ['/'].intercalate (path.toList.splitOn '/') = path.toList :=
          List.intercalate_splitOn '/'
        rw [← hpath, ← hmore, Lines.intercalate_append (List.splitOn_ne_nil _ _)
          (List.cons_ne_nil _ _), hdirectory, List.append_assoc, List.singleton_append]
  · rintro ⟨rest, hrest⟩
    have hsplit : path.toList.splitOn '/' =
        directory.toList.splitOn '/' ++ rest.splitOn '/' := by
      rw [← hrest, List.append_assoc, List.singleton_append, List.splitOn_append_cons_self]
    rw [hsplit]
    refine ⟨List.prefix_append _ _, fun heq => ?_⟩
    exact absurd (List.self_eq_append_right.mp heq) (List.splitOn_ne_nil '/' rest)

/-- Paths conflict when they are not apart. -/
theorem conflicts_iff {mine theirs : String} :
    conflicts mine theirs = true ↔ ¬ Trees.Apart Contains mine theirs := by
  unfold conflicts Trees.Apart
  rw [contains_iff, contains_iff, decide_eq_true_eq]
  tauto

/-- There are no overlaps exactly when every candidate path is apart from every
changed path. -/
theorem overlaps_eq_nil_iff {candidatePaths changedPaths : List String} :
    overlaps candidatePaths changedPaths = [] ↔ ∀ mine ∈ candidatePaths, ∀ theirs ∈ changedPaths,
        Trees.Apart Contains mine theirs := by
  unfold overlaps
  simp only [List.flatMap_eq_nil_iff, List.map_eq_nil_iff, List.filter_eq_nil_iff,
    conflicts_iff, not_not]

/-! ## Trees and their raw diff -/

/-- A file of a tree. -/
structure File where
  mode : String
  blob : Oid
  deriving DecidableEq

/-- The modes of a tree's leaves: files, symbolic links, and submodules. -/
def treeModes : List String := gitlinkMode :: candidateModes

structure File.WellFormed (file : File) : Prop where
  mode : file.mode ∈ treeModes
  blob : isHex file.blob 40 = true

/-- A tree: what is at each path, where no path contains another. -/
structure Tree where
  file : String → Option File
  valid : Trees.Valid Contains file
  named : ∀ path, file path ≠ none → ∀ character ∈ path.toList, character.toNat ≠ 0
  wellFormed : ∀ path held, file path = some held → held.WellFormed

/-- What is at a path before and after. -/
structure Change where
  path : String
  before : Option File
  after : Option File
  deriving DecidableEq

/-- The changes from one tree to another, each once, in any order. -/
structure Differences (before after : Tree) (changes : List Change) : Prop where
  once : (changes.map Change.path).Nodup
  exact : ∀ change, change ∈ changes ↔
    change.before = before.file change.path ∧ change.after = after.file change.path ∧
      change.before ≠ change.after

/-- The type of a file: the first three digits of its mode. -/
def File.kind (file : File) : List Char := file.mode.toList.take 3

/-- The status letter of a change; a file that becomes one of another type is a
type change. -/
def Change.letter (change : Change) : String :=
  match change.before, change.after with
  | none, _ => "A"
  | some _, none => "D"
  | some before, some after => if before.kind = after.kind then "M" else "T"

def modeOf : Option File → String
  | none => "000000"
  | some file => file.mode

def blobOf : Option File → Oid
  | none => zeroOid
  | some file => file.blob

/-- The header that the raw diff has for a change. -/
def Change.header (change : Change) : Bytes :=
  [0x20].intercalate
    [0x3A :: encodeAscii (modeOf change.before), encodeAscii (modeOf change.after),
      encodeAscii (blobOf change.before), encodeAscii (blobOf change.after),
      encodeAscii change.letter]

/-- The raw diff of changes. -/
def written (changes : List Change) : Bytes :=
  streamed (changes.map fun change => (change.header, encodeUtf8 change.path))

/-- The file an entry leaves at its path. -/
def CandidateEntry.file (entry : CandidateEntry) : Option File :=
  if entry.status = .deleted then none
  else some { mode := entry.mode, blob := entry.blob }

/-- A base with the entries of a candidate applied. -/
def applied (entries : List CandidateEntry) (base : String → Option File)
    (path : String) : Option File :=
  match entryAt entries path with
  | some entry => entry.file
  | none => base path

/-! ## Reading the raw diff -/

variable {file : Option File}

theorem plain_modeOf (h : ∀ held, file = some held → held.WellFormed) :
    Plain (modeOf file) := by
  have hall : ∀ mode ∈ treeModes,
      Ascii mode ∧ ' ' ∉ mode.toList ∧ Char.ofNat 0 ∉ mode.toList := by decide
  cases file with
  | none => exact plain_mode _ List.mem_cons_self
  | some held =>
      have hmode := hall _ (h held rfl).mode
      exact ⟨hmode.1, hmode.2.1, hmode.2.2⟩

theorem plain_blobOf (h : ∀ held, file = some held → held.WellFormed) :
    Plain (blobOf file) := by
  cases file with
  | none => exact plain_hex (by decide : isHex zeroOid 40 = true)
  | some held => exact plain_hex (h held rfl).blob

theorem Change.plain_letter (change : Change) : Plain change.letter := by
  unfold Change.letter
  split
  · exact ⟨by decide, by decide, by decide⟩
  · exact ⟨by decide, by decide, by decide⟩
  · split <;> exact ⟨by decide, by decide, by decide⟩

/-- A change between well-formed files at a path without a NUL. -/
structure Change.WellFormed (change : Change) : Prop where
  before : ∀ held, change.before = some held → held.WellFormed
  after : ∀ held, change.after = some held → held.WellFormed
  named : ∀ character ∈ change.path.toList, character.toNat ≠ 0

variable {changes : List Change}

variable {before after : Tree}

theorem Differences.wellFormed
    (h : Differences before after changes) : ∀ change ∈ changes, change.WellFormed := by
  intro change hmem
  obtain ⟨hbefore, hafter, hne⟩ := (h.exact change).mp hmem
  refine ⟨fun held hheld => ?_, fun held hheld => ?_, ?_⟩
  · exact before.wellFormed change.path held (hbefore ▸ hheld)
  · exact after.wellFormed change.path held (hafter ▸ hheld)
  · by_cases hpath : before.file change.path = none
    · refine after.named change.path fun hnone => hne ?_
      rw [hbefore, hafter, hpath, hnone]
    · exact before.named change.path hpath

theorem statusOfLetter_eq {letter : String} {status : CandidateStatus}
    (h : statusOfLetter letter = some status) : status.letter = letter := by
  simpa using List.find?_some h

variable {change : Change}

/-- Only a deletion is lettered as one. -/
theorem Change.after_of_letter (h : change.letter = "D") :
    change.after = none := by
  unfold Change.letter at h
  split at h
  · exact absurd h (by decide)
  · assumption
  · split at h <;> exact absurd h (by decide)

theorem modeOf_none : modeOf none ∉ candidateModes := by decide

/-- The entry that the reader makes of a change leaves at its path what the
change does. -/
theorem file_of_entryFromRaw (h : change.WellFormed)
    {entry : CandidateEntry}
    (hread : entryFromRaw change.header (encodeUtf8 change.path) = .ok entry) :
    entry.path = change.path ∧ entry.file = change.after := by
  have hletter := change.plain_letter
  unfold entryFromRaw Change.header at hread
  rw [header_splitOn (plain_modeOf h.before) (plain_modeOf h.after)
    (plain_blobOf h.before) (plain_blobOf h.after) hletter] at hread
  simp only [decodeAscii_encodeAscii (plain_modeOf h.after).ascii,
    decodeAscii_encodeAscii hletter.ascii, decodeUtf8_encodeUtf8, bind_eq_ok,
    exists_passed, failIf_eq_ok, orFail_eq_ok, pure_eq_ok, Option.some.injEq] at hread
  obtain ⟨-, status, hstatus, -, hmode, -, -, text, htext, -, rfl⟩ := hread
  refine ⟨htext.symm, ?_⟩
  have hletterIs := statusOfLetter_eq hstatus
  unfold CandidateEntry.file
  by_cases hdeleted : status = .deleted
  · rw [if_pos hdeleted]
    subst hdeleted
    exact (Change.after_of_letter hletterIs.symm).symm
  · simp only [if_neg hdeleted, not_not] at hmode ⊢
    cases hafter : change.after with
    | none =>
        rw [hafter] at hmode
        exact absurd hmode modeOf_none
    | some held =>
        have hheld := plain_blobOf h.after
        rw [hafter] at hheld
        rw [decodeAscii_encodeAscii hheld.ascii]
        rfl

/-- The changes are read one by one. -/
def Change.entry (change : Change) : Except Problem CandidateEntry :=
  entryFromRaw change.header (encodeUtf8 change.path)

theorem Change.header_noNul (h : change.WellFormed) : 0 ∉ change.header := by
  have hbefore := plain_modeOf h.before
  have hafter := plain_modeOf h.after
  have hbeforeBlob := plain_blobOf h.before
  have hafterBlob := plain_blobOf h.after
  have hletter := change.plain_letter
  unfold Change.header
  simp [List.intercalate, hbefore.zero, hafter.zero, hbeforeBlob.zero, hafterBlob.zero,
    hletter.zero]

theorem nulFree_changes (h : ∀ change ∈ changes, change.WellFormed) :
    NulFree (changes.map fun change => (change.header, encodeUtf8 change.path)) := by
  intro pair hmem
  obtain ⟨change, hchange, rfl⟩ := List.mem_map.mp hmem
  have hwell := h change hchange
  exact ⟨Change.header_noNul hwell, zero_notMem_encodeUtf8 hwell.named⟩

theorem parseRawZ_written
    (h : ∀ change ∈ changes, change.WellFormed) :
    parseRawZ (written changes) = changes.mapM Change.entry >>= collected := by
  unfold written
  rw [parseRawZ_streamed (nulFree_changes h), List.mapM_map]
  rfl

/-- The raw diff of two trees names the paths that differ. -/
theorem pathsFromRawZ_written
    (h : ∀ change ∈ changes, change.WellFormed) :
    pathsFromRawZ (written changes) = .ok (changes.map Change.path) := by
  unfold written
  rw [pathsFromRawZ_streamed (nulFree_changes h), List.mapM_map]
  apply mapM_ok
  intro change hmem
  rw [Function.comp_apply, decodeUtf8_encodeUtf8]
  rfl

variable {entries : List CandidateEntry}

variable {others : List Change}

/-- A stream that is read in one order is read into the same entries in every
order. -/
theorem parseRawZ_written_perm
    (h : ∀ change ∈ changes, change.WellFormed) (hperm : changes.Perm others)
    (hread : parseRawZ (written changes) = .ok entries) :
    parseRawZ (written others) = .ok entries := by
  rw [parseRawZ_written h, bind_eq_ok] at hread
  obtain ⟨read, hchanges, hcollected⟩ := hread
  obtain ⟨reordered, hothers, hreordered⟩ := mapM_perm hperm hchanges
  rw [parseRawZ_written fun change hmem => h change (hperm.mem_iff.mpr hmem), hothers]
  change collected reordered = .ok entries
  rw [← collected_perm hreordered, hcollected]

/-! ## Carrying a candidate -/

/-- A read candidate has an entry exactly where the trees differ, and the entry
leaves what the change does. -/
theorem entryAt_of_differences (h : Differences before after changes)
    (hread : parseRawZ (written changes) = .ok entries) :
    (∀ path, before.file path = after.file path → entryAt entries path = none) ∧
      ∀ path, before.file path ≠ after.file path →
        ∃ entry, entryAt entries path = some entry ∧ entry.file = after.file path := by
  have hwell := h.wellFormed
  have hpaths := nodup_pathOrder.mp (canonicalList_of_parseRawZ hread).ordered.nodup
  rw [parseRawZ_written hwell, bind_eq_ok] at hread
  obtain ⟨read, hchanges, hcollected⟩ := hread
  obtain ⟨-, -, -, rfl⟩ := collected_eq_ok.mp hcollected
  have hmem : ∀ entry, entry ∈ canonicalEntries read ↔ entry ∈ read :=
    fun entry => (sortedOn_perm pathOrder read).mem_iff
  constructor
  · intro path hsame
    apply entryAt_eq_none
    intro hpath
    obtain ⟨entry, hentry, rfl⟩ := List.mem_map.mp hpath
    obtain ⟨change, hchange, hfrom⟩ := mem_mapM hchanges entry ((hmem entry).mp hentry)
    obtain ⟨hentryPath, -⟩ := file_of_entryFromRaw (hwell change hchange) hfrom
    obtain ⟨hbefore, hafter, hne⟩ := (h.exact change).mp hchange
    apply hne
    rw [hbefore, hafter, ← hentryPath, hsame]
  · intro path hdiffers
    have hchange : Change.mk path (before.file path) (after.file path) ∈ changes :=
      (h.exact _).mpr ⟨rfl, rfl, hdiffers⟩
    obtain ⟨entry, hentry, hfrom⟩ := mapM_mem hchanges _ hchange
    obtain ⟨hpath, hfile⟩ := file_of_entryFromRaw (hwell _ hchange) hfrom
    exact ⟨entry, (entryAt_eq_some_iff hpaths).mpr ⟨(hmem entry).mpr hentry, hpath⟩, hfile⟩

variable {base reviewed moved : Tree}

/-- Applying a read candidate to a base carries the change onto it. -/
theorem carried_applied
    (h : Differences base reviewed changes) (hread : parseRawZ (written changes) = .ok entries) :
    Trees.Carried base.file reviewed.file moved.file (applied entries moved.file) := by
  obtain ⟨hnone, hsome⟩ := entryAt_of_differences h hread
  constructor
  · intro path hchanged
    obtain ⟨entry, hentry, hfile⟩ := hsome path hchanged
    unfold applied
    rw [hentry]
    exact hfile
  · intro path hkept
    unfold applied
    rw [hnone path hkept]

variable {advance : List Change} {changed : List String}

/-- No overlap with the paths that the base changed: the changes are disjoint. -/
theorem disjoint_of_overlaps
    (h : Differences base reviewed changes) (hadvance : Differences base moved advance)
    (hread : parseRawZ (written changes) = .ok entries)
    (hchanged : pathsFromRawZ (written advance) = .ok changed)
    (hnone : overlaps (entries.map CandidateEntry.path) changed = []) :
    Trees.Disjoint Contains base.file reviewed.file moved.file := by
  rw [pathsFromRawZ_written hadvance.wellFormed] at hchanged
  cases hchanged
  intro path other hpath hother
  obtain ⟨entry, hentry, -⟩ := (entryAt_of_differences h hread).2 path hpath
  rw [← entryAt_path hentry]
  refine overlaps_eq_nil_iff.mp hnone entry.path (List.mem_map_of_mem (entryAt_mem hentry))
    other ?_
  have hmem : Change.mk other (base.file other) (moved.file other) ∈ advance :=
    (hadvance.exact _).mpr ⟨rfl, rfl, hother⟩
  exact List.mem_map_of_mem hmem

/-- The tree of a candidate carried onto another base. -/
def Tree.carry (moved reviewed : Tree) (result : String → Option File)
    (hvalid : Trees.Valid Contains result)
    (hfrom : ∀ path, result path = reviewed.file path ∨ result path = moved.file path) :
    Tree where
  file := result
  valid := hvalid
  named := by
    intro path hheld
    rcases hfrom path with hreviewed | hmoved
    · exact reviewed.named path (hreviewed ▸ hheld)
    · exact moved.named path (hmoved ▸ hheld)
  wellFormed := by
    intro path held hheld
    rcases hfrom path with hreviewed | hmoved
    · exact reviewed.wellFormed path held (hreviewed ▸ hheld)
    · exact moved.wellFormed path held (hmoved ▸ hheld)

theorem Differences.perm
    (h : Differences before after changes) (hothers : Differences before after others) :
    changes.Perm others := by
  rw [List.perm_ext_iff_of_nodup h.once.of_map hothers.once.of_map]
  intro change
  rw [h.exact, hothers.exact]

/-- A candidate carried onto a base that changed none of its paths is the same
candidate there. -/
theorem portable
    (h : Differences base reviewed changes) (hadvance : Differences base moved advance)
    (hread : parseRawZ (written changes) = .ok entries)
    (hchanged : pathsFromRawZ (written advance) = .ok changed)
    (hnone : overlaps (entries.map CandidateEntry.path) changed = []) :
    ∃ result : Tree, result.file = applied entries moved.file ∧ Differences moved result changes ∧
        ∀ others, Differences moved result others →
          parseRawZ (written others) = .ok entries := by
  have hdisjoint := disjoint_of_overlaps h hadvance hread hchanged hnone
  have hcarried : Trees.Carried base.file reviewed.file moved.file
      (applied entries moved.file) := carried_applied h hread
  have hvalid := hcarried.valid hdisjoint reviewed.valid moved.valid
  have hfrom : ∀ path, applied entries moved.file path = reviewed.file path ∨
      applied entries moved.file path = moved.file path := by
    intro path
    by_cases hpath : base.file path = reviewed.file path
    · exact .inr (hcarried.kept path hpath)
    · exact .inl (hcarried.changed path hpath)
  let result := Tree.carry moved reviewed (applied entries moved.file) hvalid hfrom
  have hresult : Differences moved result changes := by
    refine ⟨h.once, fun change => ?_⟩
    have hiff : moved.file change.path ≠ applied entries moved.file change.path ↔
        base.file change.path ≠ reviewed.file change.path := hcarried.differs_iff hdisjoint
    rw [h.exact]
    change _ ↔ change.before = moved.file change.path ∧
      change.after = applied entries moved.file change.path ∧ change.before ≠ change.after
    constructor
    · rintro ⟨hbefore, hafter, hne⟩
      have hpath : base.file change.path ≠ reviewed.file change.path := hbefore ▸ hafter ▸ hne
      rw [hdisjoint.before hpath, hcarried.changed _ hpath]
      exact ⟨hbefore, hafter, hne⟩
    · rintro ⟨hbefore, hafter, hne⟩
      have hpath : base.file change.path ≠ reviewed.file change.path :=
        hiff.mp (hbefore ▸ hafter ▸ hne)
      rw [hdisjoint.before hpath] at hbefore
      rw [hcarried.changed _ hpath] at hafter
      exact ⟨hbefore, hafter, hne⟩
  refine ⟨result, rfl, hresult, fun others hothers => ?_⟩
  exact parseRawZ_written_perm h.wellFormed (hresult.perm hothers) hread

/-- Disjointness makes a candidate portable: where no candidate path overlaps a
path that the base changed, the candidate applied to the new base is a tree,
and every raw diff of it against that base is read as the same entries with the
same digest.  There is no overlap exactly when no candidate path is a changed
path, or is a directory of one or lies in one. -/
theorem candidate_portable [WorkflowAuthority.Sha256] :
    (∀ (base reviewed moved : Tree) (changes advance : List Change)
        (entries : List CandidateEntry) (changed : List String), Differences base reviewed changes →
        parseRawZ (written changes) = .ok entries → Differences base moved advance →
            pathsFromRawZ (written advance) = .ok changed →
              overlaps (entries.map CandidateEntry.path) changed = [] →
                ∃ result : Tree, result.file = applied entries moved.file ∧
                  (∃ others, Differences moved result others) ∧
                    ∀ others, Differences moved result others →
                      parseRawZ (written others) = .ok entries ∧
                        (parseRawZ (written others)).map identityDigest =
                          (parseRawZ (written changes)).map identityDigest) ∧
    (∀ candidatePaths changedPaths : List String, overlaps candidatePaths changedPaths = [] ↔
        ∀ mine ∈ candidatePaths, ∀ theirs ∈ changedPaths,
          mine ≠ theirs ∧ ¬ Contains mine theirs ∧ ¬ Contains theirs mine) := by
  refine ⟨?_, fun candidatePaths changedPaths => overlaps_eq_nil_iff⟩
  intro base reviewed moved changes advance entries changed h hread hadvance hchanged hnone
  obtain ⟨result, hfile, hresult, hall⟩ := portable h hadvance hread hchanged hnone
  refine ⟨result, hfile, ⟨changes, hresult⟩, fun others hothers => ?_⟩
  have hsame := hall others hothers
  exact ⟨hsame, by rw [hsame, hread]⟩

/-! ### A file added while the base adds another -/

theorem not_contains_self (path : String) : ¬ Contains path path :=
  fun h => h.2 rfl

/-- The tree of the files at a list of paths. -/
def Tree.ofPaths (paths : List String) (file : File) (hfile : file.WellFormed)
    (hvalid : ∀ path ∈ paths, ∀ other ∈ paths, ¬ Contains path other)
    (hnamed : ∀ path ∈ paths, ∀ character ∈ path.toList, character.toNat ≠ 0) : Tree where
  file := fun path => if path ∈ paths then some file else none
  valid := by
    intro path other hpath hother
    by_cases hmem : path ∈ paths
    · by_cases hotherMem : other ∈ paths
      · exact hvalid path hmem other hotherMem
      · exact absurd (if_neg hotherMem) hother
    · exact absurd (if_neg hmem) hpath
  named := by
    intro path hpath
    by_cases hmem : path ∈ paths
    · exact hnamed path hmem
    · exact absurd (if_neg hmem) hpath
  wellFormed := by
    intro path held hheld
    split at hheld
    · cases hheld
      exact hfile
    · cases hheld

def sampleFile : File := { mode := "100644", blob := sampleBlob }

theorem sampleFile_wellFormed : sampleFile.WellFormed := ⟨by decide, by decide⟩

/-- The empty tree, and the tree of one file. -/
def emptyTree : Tree :=
  Tree.ofPaths [] sampleFile sampleFile_wellFormed (by simp) (by simp)

def singleTree (path : String) (hnamed : ∀ character ∈ path.toList, character.toNat ≠ 0) : Tree :=
  Tree.ofPaths [path] sampleFile sampleFile_wellFormed
    (by simpa using not_contains_self path) (by simpa using hnamed)

theorem differences_single (path : String)
    (hnamed : ∀ character ∈ path.toList, character.toNat ≠ 0) :
    Differences emptyTree (singleTree path hnamed) [⟨path, none, some sampleFile⟩] := by
  refine ⟨List.nodup_singleton _, fun change => ?_⟩
  have hempty : ∀ other, emptyTree.file other = none := by
    intro other
    change (if other ∈ [] then some sampleFile else none) = none
    exact if_neg List.not_mem_nil
  have hsingle : ∀ other, (singleTree path hnamed).file other =
      if other = path then some sampleFile else none := by
    intro other
    change (if other ∈ [path] then some sampleFile else none) = _
    simp only [List.mem_singleton]
  obtain ⟨other, before, after⟩ := change
  rw [List.mem_singleton, hempty, hsingle]
  constructor
  · intro heq
    cases heq
    exact ⟨rfl, (if_pos rfl).symm, fun hne => by cases hne⟩
  · rintro ⟨hbefore, hafter, hne⟩
    simp only at hbefore hafter hne
    subst hbefore
    by_cases hpath : other = path
    · rw [if_pos hpath] at hafter
      rw [hpath, hafter]
    · rw [if_neg hpath] at hafter
      exact absurd hafter.symm hne

theorem candidate_portable_apart : letI := bytesAsText
    ∃ result : Tree, result.file =
        applied [⟨"a/x", .added, "100644", sampleBlob⟩] (singleTree "a/y" (by decide)).file ∧
      (∃ others, Differences (singleTree "a/y" (by decide)) result others) ∧
        ∀ others, Differences (singleTree "a/y" (by decide)) result others →
          parseRawZ (written others) = .ok [⟨"a/x", .added, "100644", sampleBlob⟩] ∧
            (parseRawZ (written others)).map identityDigest =
              (parseRawZ (written [⟨"a/x", none, some sampleFile⟩])).map identityDigest := by
  let _ := bytesAsText
  have hread : parseRawZ (written [⟨"a/x", none, some sampleFile⟩]) =
      .ok [⟨"a/x", .added, "100644", sampleBlob⟩] := by
    decide +kernel
  have hadvance := differences_single "a/y" (by decide)
  exact candidate_portable.1 emptyTree (singleTree "a/x" (by decide)) (singleTree "a/y" (by decide))
    _ _ _ _ (differences_single "a/x" (by decide)) hread hadvance
    (pathsFromRawZ_written hadvance.wellFormed) (by decide)

end DodgingInfinity.PrDelivery
