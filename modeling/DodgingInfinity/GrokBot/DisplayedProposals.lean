import DodgingInfinity.GrokBot.DisplayInjective

/-!
# A displayed proposal is complete and unambiguous

Every leaf is on one line of its own, the lines of the text are those it was joined
from, and two proposals with one text are one value.
-/

namespace DodgingInfinity.GrokBot

open Values LogicalLines

/-! ## Parts are read back -/

/-- Induction over the parts of a value. -/
theorem parts_induction {P : Value → Prop}
    (h : ∀ value, (∀ part ∈ parts value, P part.2) → P value) (value : Value) : P value := by
  induction value using Value.nested with
  | list items ih =>
      apply h
      intro part hpart
      obtain ⟨item, hitem, rfl⟩ := List.mem_map.mp hpart
      exact ih item.1 (List.fst_mem_of_mem_zipIdx hitem)
  | dict entries ih =>
      apply h
      intro part hpart
      obtain ⟨entry, hentry, rfl⟩ := List.mem_map.mp hpart
      exact ih entry ((Sorting.sortedOn_perm Prod.fst entries).mem_iff.mp hentry)
  | _ => exact h _ (by simp [parts])

/-- Parts with plain names, displayable, each under a segment of its own. -/
structure PartsPlain (segments : List (Segment × Value)) : Prop where
  distinct : (segments.map Prod.fst).Nodup
  plain : ∀ part ∈ segments, part.1.IsPlain ∧ Displayable part.2

theorem Displayable.parts {value : Value} (h : Displayable value) : PartsPlain (parts value) := by
  cases h with
  | @list items hitems =>
      refine ⟨?_, ?_⟩
      · rw [GrokBot.parts, List.map_map]
        have hplaces : ((items.zipIdx.map Prod.snd).map Segment.item).Nodup := by
          rw [List.zipIdx_map_snd]
          exact List.Nodup.map (fun first second hsame => Segment.item.inj hsame)
            (List.nodup_range' ..)
        rw [List.map_map] at hplaces
        exact hplaces
      · intro part hpart
        obtain ⟨item, hitem, rfl⟩ := List.mem_map.mp hpart
        exact ⟨trivial, hitems item.1 (List.fst_mem_of_mem_zipIdx hitem)⟩
  | @dict entries hdistinct hnames hentries =>
      have hperm := Sorting.sortedOn_perm Prod.fst entries
      refine ⟨?_, ?_⟩
      · rw [GrokBot.parts, List.map_map]
        have hkeys : (((Sorting.sortedOn Prod.fst entries).map Prod.fst).map Segment.key).Nodup :=
          List.Nodup.map (fun first second hsame => Segment.key.inj hsame)
            ((hperm.map Prod.fst).nodup_iff.mpr hdistinct)
        rw [List.map_map] at hkeys
        exact hkeys
      · intro part hpart
        obtain ⟨entry, hentry, rfl⟩ := List.mem_map.mp hpart
        have hmem := hperm.mem_iff.mp hentry
        exact ⟨hnames entry hmem, hentries entry hmem⟩
  | _ => exact ⟨List.nodup_nil, by simp [GrokBot.parts]⟩

section

variable [FloatText] {path : Text}

theorem partLines_cons (part : Segment × Value) (rest : List (Segment × Value)) :
    partLines path (part :: rest) =
      renderedLines (part.1.path path) part.2 ++ partLines path rest := rfl

omit [FloatText] in
theorem oneLine_leafLine (standing : Text) :
    leafLine path standing = oneLine path ++ ofString ": " ++ oneLine standing := by
  have hcolon : oneLine (ofString ": ") = ofString ": " := by decide
  rw [leafLine, oneLine_append, oneLine_append, hcolon]

omit [FloatText] in
theorem continues_leafLine (standing : Text) : Continues path (leafLine path standing) := by
  rw [oneLine_leafLine, List.append_assoc]
  exact ⟨ofChar ':', ofChar ' ' :: oneLine standing, Or.inr (Or.inr rfl), rfl⟩

/-- The first line of a value is of its path. -/
theorem renderedLines_head (value : Value) :
    ∀ path, ∃ line others, renderedLines path value = line :: others ∧ Continues path line := by
  induction value using parts_induction with
  | h value ih =>
      intro path
      rw [renderedLines_eq]
      cases hparts : parts value with
      | nil => exact ⟨_, _, rfl, continues_leafLine _⟩
      | cons part rest =>
          rw [if_neg (List.cons_ne_nil _ _), partLines_cons]
          obtain ⟨line, others, heq, hcontinues⟩ :=
            ih part (by rw [hparts]; exact List.mem_cons_self ..) (part.1.path path)
          rw [heq]
          exact ⟨line, _, rfl, hcontinues.of_segment⟩

/-- A line that ends its path here is none of a part. -/
theorem leafLine_ne_part {standing : Text} {value : Value} {rest more : List Text}
    (hparts : parts value ≠ [])
    (h : [leafLine path standing] ++ rest = partLines path (parts value) ++ more) : False := by
  obtain ⟨part, later, hpart⟩ := List.exists_cons_of_ne_nil hparts
  obtain ⟨line, others, heq, stop, tail, -, hline⟩ :=
    renderedLines_head part.2 (part.1.path path)
  rw [hpart, partLines_cons, heq] at h
  have hhead := (List.cons.inj h).1
  rw [hline, oneLine_path, oneLine_leafLine, List.append_assoc, List.append_assoc] at hhead
  have hshown := List.append_cancel_left hhead
  cases hsegment : part.1 with
  | key name =>
      rw [hsegment] at hshown
      exact absurd (List.cons.inj hshown).1 (by decide)
  | item index =>
      rw [hsegment] at hshown
      exact absurd (List.cons.inj hshown).1 (by decide)

/-- What follows does not begin with a line of the path. -/
def Apart (path : Text) (lines : List Text) : Prop :=
  ∀ line others, lines = line :: others → ¬ Continues path line

/-- The lines of other parts are apart from those of a part. -/
theorem apart_partLines {part : Segment × Value} {rest : List (Segment × Value)}
    {more : List Text} (h : PartsPlain (part :: rest)) (hmore : Apart path more) :
    Apart (part.1.path path) (partLines path rest ++ more) := by
  intro line others heq hcontinues
  cases rest with
  | nil => exact hmore line others heq hcontinues.of_segment
  | cons next later =>
      obtain ⟨first, remaining, hfirst, hnext⟩ := renderedLines_head next.2 (next.1.path path)
      rw [partLines_cons, hfirst] at heq
      obtain ⟨rfl, -⟩ := List.cons.inj heq
      have hsame := hcontinues.unique (h.plain part (List.mem_cons_self ..)).1
        (h.plain next (List.mem_cons_of_mem _ (List.mem_cons_self ..))).1 hnext
      have hdistinct := (List.nodup_cons.mp h.distinct).1
      rw [hsame] at hdistinct
      exact hdistinct (List.mem_cons_self ..)

omit [FloatText] in
theorem PartsPlain.tail {part : Segment × Value} {rest : List (Segment × Value)}
    (h : PartsPlain (part :: rest)) : PartsPlain rest where
  distinct := (List.nodup_cons.mp h.distinct).2
  plain other hother := h.plain other (List.mem_cons_of_mem _ hother)

/-- The value is read back from its lines, whatever follows apart from it. -/
def LinesReadBack (value : Value) : Prop :=
  ∀ (other : Value) (path : Text) (rest more : List Text), Displayable value →
    Displayable other → Apart path rest → Apart path more →
      renderedLines path value ++ rest = renderedLines path other ++ more →
        sortKeys value = sortKeys other ∧ rest = more

/-- A part with the keys of its objects sorted. -/
def sortedPart (part : Segment × Value) : Segment × Value := (part.1, sortKeys part.2)

theorem partLines_readBack (segments : List (Segment × Value)) :
    ∀ others : List (Segment × Value), ∀ rest more : List Text,
      (∀ part ∈ segments, LinesReadBack part.2) → PartsPlain segments → PartsPlain others →
      Apart path rest → Apart path more →
      partLines path segments ++ rest = partLines path others ++ more →
        segments.map sortedPart = others.map sortedPart ∧ rest = more := by
  induction segments with
  | nil =>
      intro others rest more _ _ _ hrest _ h
      cases others with
      | nil => exact ⟨rfl, h⟩
      | cons other later =>
          obtain ⟨line, remaining, heq, hcontinues⟩ :=
            renderedLines_head other.2 (other.1.path path)
          rw [partLines_cons, heq] at h
          exact absurd hcontinues.of_segment (hrest line _ h)
  | cons part segments ih =>
      intro others rest more hback hplain hothers hrest hmore h
      obtain ⟨line, remaining, heq, hcontinues⟩ := renderedLines_head part.2 (part.1.path path)
      cases others with
      | nil =>
          rw [partLines_cons, heq] at h
          exact absurd hcontinues.of_segment (hmore line _ h.symm)
      | cons other later =>
          obtain ⟨next, following, hequal, hother⟩ :=
            renderedLines_head other.2 (other.1.path path)
          have hhead := h
          rw [partLines_cons, partLines_cons, heq, hequal] at hhead
          obtain ⟨rfl, -⟩ := List.cons.inj hhead
          have hpart := hplain.plain part (List.mem_cons_self ..)
          have hnext := hothers.plain other (List.mem_cons_self ..)
          have hsame := hcontinues.unique hpart.1 hnext.1 hother
          rw [partLines_cons, partLines_cons, List.append_assoc, List.append_assoc, ← hsame] at h
          have hapart : Apart (part.1.path path) (partLines path later ++ more) := by
            rw [hsame]
            exact apart_partLines hothers hmore
          obtain ⟨hvalue, htail⟩ := hback part (List.mem_cons_self ..) other.2 _ _ _ hpart.2
            hnext.2 (apart_partLines hplain hrest) hapart h
          obtain ⟨hsegments, hend⟩ := ih later rest more
            (fun held hheld => hback held (List.mem_cons_of_mem _ hheld)) hplain.tail hothers.tail
            hrest hmore htail
          rw [List.map_cons, List.map_cons, hsegments, sortedPart, sortedPart, hsame, hvalue]
          exact ⟨rfl, hend⟩

end

/-- The parts of an object and those of a list have different segments. -/
theorem parts_segment_ne {entries : Entries} {items : List Value}
    (hentries : parts (.dict entries) ≠ [])
    (h : (parts (.dict entries)).map sortedPart = (parts (.list items)).map sortedPart) :
    False := by
  obtain ⟨first, rest, hfirst⟩ := List.exists_cons_of_ne_nil hentries
  have hmem : first ∈ parts (.dict entries) := by
    rw [hfirst]
    exact List.mem_cons_self ..
  have hsorted := List.mem_map_of_mem (f := sortedPart) hmem
  rw [h] at hsorted
  obtain ⟨second, hsecond, heq⟩ := List.mem_map.mp hsorted
  obtain ⟨entry, -, rfl⟩ := List.mem_map.mp hmem
  obtain ⟨item, -, rfl⟩ := List.mem_map.mp hsecond
  cases congrArg Prod.fst heq

/-- The entry a part of an object stands for. -/
def keyedPart : Segment × Value → Text × Value
  | (.key name, held) => (name, held)
  | (.item _, held) => ([], held)

/-- The parts of a container tell what it is. -/
theorem sortKeys_of_parts {value other : Value} (hvalue : parts value ≠ [])
    (h : (parts value).map sortedPart = (parts other).map sortedPart) :
    sortKeys value = sortKeys other := by
  have hsorted : ∀ entries : Entries, sortKeys (.dict entries) = .dict
      ((Sorting.sortedOn Prod.fst entries).map fun entry => (entry.1, sortKeys entry.2)) := by
    intro entries
    rw [sortKeys, sortEntries_eq_map, sortedOn_map (fun entry : Text × Value =>
      (entry.1, sortKeys entry.2)) (fun _ => rfl)]
  have hother : parts other ≠ [] := by
    intro hnil
    rw [hnil] at h
    exact hvalue (List.map_eq_nil_iff.mp h)
  cases value with
  | dict entries =>
      cases other with
      | dict others =>
          rw [parts, parts, List.map_map, List.map_map] at h
          have hkeyed := congrArg (List.map keyedPart) h
          rw [List.map_map, List.map_map] at hkeyed
          rw [hsorted, hsorted]
          exact congrArg Value.dict hkeyed
      | list items => exact (parts_segment_ne hvalue h).elim
      | _ => exact absurd rfl hother
  | list items =>
      cases other with
      | list others =>
          have hitems : ∀ held : List Value,
              ((parts (.list held)).map sortedPart).map Prod.snd = held.map sortKeys := by
            intro held
            rw [parts, List.map_map, List.map_map]
            calc (held.zipIdx.map fun item => sortKeys item.1)
                = (held.zipIdx.map Prod.fst).map sortKeys := by rw [List.map_map]; rfl
              _ = held.map sortKeys := by rw [List.zipIdx_map_fst]
          have hvalues := congrArg (List.map Prod.snd) h
          rw [hitems, hitems] at hvalues
          rw [sortKeys, sortKeys, sortItems_eq_map, sortItems_eq_map, hvalues]
      | dict others => exact (parts_segment_ne hother h.symm).elim
      | _ => exact absurd rfl hother
  | _ => exact absurd rfl hvalue

section

variable [FloatReads]

/-- Every displayable value is read back from its lines. -/
theorem linesReadBack (value : Value) : LinesReadBack value := by
  induction value using parts_induction with
  | h value ih =>
      intro other path rest more hvalue hother hrest hmore h
      rw [renderedLines_eq, renderedLines_eq] at h
      by_cases hnone : parts value = []
      · by_cases hempty : parts other = []
        · rw [if_pos hnone, if_pos hempty] at h
          obtain ⟨hlines, htail⟩ := List.cons.inj h
          rw [oneLine_leafLine, oneLine_leafLine] at hlines
          exact ⟨written_injective hvalue hother hnone hempty (List.append_cancel_left hlines),
            htail⟩
        · rw [if_pos hnone, if_neg hempty] at h
          exact (leafLine_ne_part hempty h).elim
      · by_cases hempty : parts other = []
        · rw [if_neg hnone, if_pos hempty] at h
          exact (leafLine_ne_part hnone h.symm).elim
        · rw [if_neg hnone, if_neg hempty] at h
          obtain ⟨hparts, htail⟩ := partLines_readBack (parts value) (parts other) rest more ih
            hvalue.parts hother.parts hrest hmore h
          exact ⟨sortKeys_of_parts hnone hparts, htail⟩

end

/-! ## Leaves -/

/-- The value has the leaf under the segments. -/
inductive LeafAt : Value → List Segment → Value → Prop
  | here {value : Value} (hparts : parts value = []) : LeafAt value [] value
  | part {value leaf : Value} {segments : List Segment} {part : Segment × Value}
      (hpart : part ∈ parts value) (hleaf : LeafAt part.2 segments leaf) :
      LeafAt value (part.1 :: segments) leaf

/-- The path of the segments below a path. -/
def pathOf (path : Text) : List Segment → Text
  | [] => path
  | segment :: rest => pathOf (segment.path path) rest

section

variable [FloatText] {path : Text} {value leaf : Value}

/-- Every leaf has its line. -/
theorem LeafAt.shown {segments : List Segment} (h : LeafAt value segments leaf) :
    ∀ path, leafLine (pathOf path segments) (written leaf) ∈ renderedLines path value := by
  induction h with
  | here hparts =>
      intro path
      rw [renderedLines_eq, if_pos hparts]
      exact List.mem_singleton_self _
  | @part value leaf segments part hpart _ ih =>
      intro path
      have hsome : parts value ≠ [] := List.ne_nil_of_mem hpart
      rw [renderedLines_eq, if_neg hsome]
      exact List.mem_flatMap.mpr ⟨part, hpart, ih (part.1.path path)⟩

/-- Every line of a value is a line of its path, and is one line. -/
theorem renderedLines_all (value : Value) :
    ∀ path, ∀ line ∈ renderedLines path value, Continues path line ∧ oneLine line = line := by
  induction value using parts_induction with
  | h value ih =>
      intro path line hline
      rw [renderedLines_eq] at hline
      split at hline
      · obtain rfl := List.mem_singleton.mp hline
        exact ⟨continues_leafLine _, oneLine_oneLine⟩
      · obtain ⟨part, hpart, hmem⟩ := List.mem_flatMap.mp hline
        obtain ⟨hcontinues, hone⟩ := ih part hpart (part.1.path path) line hmem
        exact ⟨hcontinues.of_segment, hone⟩

/-- No two lines of a value are alike. -/
theorem nodup_renderedLines (value : Value) :
    Displayable value → ∀ path, (renderedLines path value).Nodup := by
  induction value using parts_induction with
  | h value ih =>
      intro hvalue path
      rw [renderedLines_eq]
      split
      · exact List.nodup_singleton _
      · have hplain := hvalue.parts
        rw [partLines, List.nodup_flatMap]
        refine ⟨fun part hpart => ih part hpart (hplain.plain part hpart).2 _, ?_⟩
        have hdistinct : (parts value).Pairwise fun first second => first.1 ≠ second.1 :=
          List.pairwise_map.mp hplain.distinct
        refine hdistinct.imp_of_mem ?_
        intro first second hfirst hsecond hne line hline hother
        exact hne ((renderedLines_all first.2 _ line hline).1.unique
          (hplain.plain first hfirst).1 (hplain.plain second hsecond).1
          (renderedLines_all second.2 _ line hother).1)

end

/-! ## The whole text -/

section

variable [FloatText] {path : Text} {value : Value} {header others footer : List Text}

theorem map_oneLine_renderedLines (path : Text) (value : Value) :
    (renderedLines path value).map oneLine = renderedLines path value := by
  calc (renderedLines path value).map oneLine
      = (renderedLines path value).map id :=
        List.map_congr_left fun line hline => (renderedLines_all value path line hline).2
    _ = renderedLines path value := List.map_id _

/-- The lines around those of the value are none of its path, and the last is not empty. -/
structure Frames (path : Text) (header footer : List Text) : Prop where
  apart : ∀ line ∈ header ++ footer, (oneLine line).head? ≠ (oneLine path).head?
  named : oneLine path ≠ []
  ended : ∃ lines last, footer = lines ++ [last] ∧ oneLine last ≠ []

/-- What is shown of a value between other lines: the text has the lines it was joined
from, has a UTF-8 form, and each leaf is on exactly one line. -/
structure Shown (text : Text) (lines : List Text) (path : Text) (value : Value) : Prop where
  lines : split text = lines.map oneLine
  utf8 : ∀ point ∈ text, ¬ IsSurrogate point
  leaves : ∀ segments leaf, LeafAt value segments leaf →
    (split text).count (leafLine (pathOf path segments) (written leaf)) = 1

omit [FloatText] in
theorem Continues.head {line : Text} (hnamed : oneLine path ≠ []) (h : Continues path line) :
    line.head? = (oneLine path).head? := by
  obtain ⟨stop, tail, -, rfl⟩ := h
  obtain ⟨first, rest, heq⟩ := List.exists_cons_of_ne_nil hnamed
  rw [heq]
  rfl

omit [FloatText] in
theorem split_joinedDisplay (lines : List Text) {last : Text} (hlast : oneLine last ≠ []) :
    split (joinedDisplay (lines ++ [last])) = (lines ++ [last]).map oneLine := by
  refine split_joined ?_ ?_
  · intro line hline
    obtain ⟨raw, -, rfl⟩ := List.mem_map.mp hline
    exact lineFree_oneLine
  · intro line hline
    rw [List.map_append, List.map_cons, List.map_nil, List.getLast?_append] at hline
    obtain rfl : oneLine last = line := by simpa using hline
    exact hlast

omit [FloatText] in
theorem mem_joinedDisplay {lines : List Text} {point : CodePoint}
    (h : point ∈ joinedDisplay lines) : point = lineFeed ∨
      ∃ line ∈ lines, point ∈ oneLine line := by
  unfold joinedDisplay at h
  induction lines with
  | nil => simp at h
  | cons line rest ih =>
      cases rest with
      | nil =>
          rw [List.map_cons, List.map_nil, List.intercalate_singleton] at h
          exact Or.inr ⟨line, List.mem_cons_self .., h⟩
      | cons next others =>
          rw [List.map_cons, List.map_cons, List.intercalate_cons_cons, List.append_assoc,
            ← List.map_cons] at h
          rcases List.mem_append.mp h with hline | hrest
          · exact Or.inr ⟨line, List.mem_cons_self .., hline⟩
          · rcases List.mem_cons.mp hrest with hfeed | hlater
            · exact Or.inl hfeed
            · rcases ih hlater with hfeed | ⟨held, hheld, hmem⟩
              · exact Or.inl hfeed
              · exact Or.inr ⟨held, List.mem_cons_of_mem _ hheld, hmem⟩

theorem shown_between (hvalue : Displayable value) (hframes : Frames path header footer) :
    Shown (joinedDisplay (header ++ renderedLines path value ++ footer))
      (header ++ renderedLines path value ++ footer) path value := by
  obtain ⟨lines, last, rfl, hlast⟩ := hframes.ended
  have hsplit := split_joinedDisplay (header ++ renderedLines path value ++ lines) hlast
  rw [List.append_assoc] at hsplit
  refine ⟨hsplit, ?_, ?_⟩
  · intro point hpoint hsurrogate
    rcases mem_joinedDisplay hpoint with rfl | ⟨line, -, hmem⟩
    · revert hsurrogate
      decide
    · exact oneLine_plain point hmem (Or.inr hsurrogate)
  · intro segments leaf hleaf
    have hmem := hleaf.shown path
    have hcontinues := (renderedLines_all value path _ hmem).1
    have houter : ∀ held : List Text, (∀ line ∈ held, (oneLine line).head? ≠ (oneLine path).head?) →
        (held.map oneLine).count (leafLine (pathOf path segments) (written leaf)) = 0 := by
      intro held hheld
      apply List.count_eq_zero_of_not_mem
      intro hin
      obtain ⟨line, hline, heq⟩ := List.mem_map.mp hin
      refine hheld line hline ?_
      rw [heq]
      exact hcontinues.head hframes.named
    rw [hsplit, List.map_append, List.map_append, List.count_append, List.count_append,
      map_oneLine_renderedLines, List.count_eq_one_of_mem (nodup_renderedLines value hvalue path)
        hmem,
      houter header fun line hline => hframes.apart line (List.mem_append_left _ hline),
      houter (lines ++ [last]) fun line hline => hframes.apart line (List.mem_append_right _ hline)]

end

/-- One text with headers of one length shows one value. -/
theorem same_shown [FloatReads] {path : Text} {value other : Value}
    {header others footer : List Text} (hvalue : Displayable value) (hother : Displayable other)
    (hframes : Frames path header footer) (hlength : header.length = others.length)
    (h : joinedDisplay (header ++ renderedLines path value ++ footer) =
      joinedDisplay (others ++ renderedLines path other ++ footer)) :
    sortKeys value = sortKeys other := by
  obtain ⟨lines, last, rfl, hlast⟩ := hframes.ended
  have hsplit := congrArg split h
  rw [← List.append_assoc, ← List.append_assoc, split_joinedDisplay _ hlast,
    split_joinedDisplay _ hlast] at hsplit
  simp only [List.map_append, map_oneLine_renderedLines] at hsplit
  have hbody := List.append_cancel_right (List.append_cancel_right hsplit)
  obtain ⟨-, hrendered⟩ := List.append_inj hbody (by simpa using hlength)
  have hapart : Apart path [] := fun _ _ hnil => by cases hnil
  refine (linesReadBack value other path [] [] hvalue hother hapart hapart ?_).1
  rw [hrendered]

end DodgingInfinity.GrokBot
