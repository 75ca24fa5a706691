import DodgingInfinity.GrokBot.Display
import DodgingInfinity.Library.Lines

/-!
# A displayed proposal is read back

The escapes of a text and the path of a line are read back from what is displayed, so
the lines of a value are those of no other value, whatever stands around them.
-/

namespace DodgingInfinity.GrokBot

open Values LogicalLines

/-! ## Escapes -/

variable {point other : CodePoint} {text rest more path : Text}

theorem isTerminator_iff : IsTerminator point ↔ point ∈ lineBoundaries := by
  simp only [IsTerminator, terminators, lineBoundaries, List.mem_cons, List.not_mem_nil, or_false]
  tauto

theorem IsEscaped.lt (h : IsEscaped point) : point.val < 0x10000 := by
  rcases h with hboundary | hsurrogate
  · simp only [lineBoundaries, List.mem_cons, List.not_mem_nil, or_false] at hboundary
    rcases hboundary with rfl | rfl | rfl | rfl | rfl | rfl | rfl | rfl | rfl | rfl <;> decide
  · have := hsurrogate.2
    omega

/-- A printable ASCII point is written as it is. -/
theorem not_isEscaped_ascii (hlow : 0x20 ≤ point.val) (hhigh : point.val ≤ 0x7E) :
    ¬ IsEscaped point := by
  rintro (hboundary | hsurrogate)
  · simp only [lineBoundaries, List.mem_cons, List.not_mem_nil, or_false] at hboundary
    rcases hboundary with rfl | rfl | rfl | rfl | rfl | rfl | rfl | rfl | rfl | rfl <;>
      revert hlow hhigh <;> decide
  · have := hsurrogate.1
    omega

theorem hexDigits_ascii {unit : Nat} :
    ∀ digit ∈ hexDigits unit, 0x20 ≤ (ofChar digit).val ∧ (ofChar digit).val ≤ 0x7E := by
  have hdigit : ∀ value < 16, 0x20 ≤ (ofChar (Nat.digitChar value)).val ∧
      (ofChar (Nat.digitChar value)).val ≤ 0x7E := by decide
  intro digit hmem
  simp only [hexDigits, List.mem_cons, List.not_mem_nil, or_false] at hmem
  rcases hmem with rfl | rfl | rfl | rfl <;> exact hdigit _ (Nat.mod_lt _ (by decide))

theorem escapeOf_ascii : ∀ written ∈ escapeOf point, ¬ IsEscaped written := by
  intro written hmem
  simp only [escapeOf, List.map_append, List.mem_append, List.map_cons, List.map_nil,
    List.mem_cons, List.not_mem_nil, or_false] at hmem
  rcases hmem with (rfl | rfl) | hdigits
  · exact not_isEscaped_ascii (by decide) (by decide)
  · exact not_isEscaped_ascii (by decide) (by decide)
  · obtain ⟨digit, hdigit, rfl⟩ := List.mem_map.mp hdigits
    exact not_isEscaped_ascii (hexDigits_ascii digit hdigit).1 (hexDigits_ascii digit hdigit).2

/-- One line has no terminator and no surrogate. -/
theorem oneLine_plain : ∀ written ∈ oneLine text, ¬ IsEscaped written := by
  intro written hmem
  obtain ⟨point, -, hwritten⟩ := List.mem_flatMap.mp hmem
  unfold oneLinePoint at hwritten
  split at hwritten
  · exact escapeOf_ascii written hwritten
  · rename_i hplain
    rw [List.mem_singleton.mp hwritten]
    exact hplain

theorem lineFree_oneLine : LineFree (oneLine text) :=
  fun written hmem hends => oneLine_plain written hmem (Or.inl (isTerminator_iff.mp hends))

@[simp] theorem oneLine_append (first second : Text) :
    oneLine (first ++ second) = oneLine first ++ oneLine second := List.flatMap_append

theorem oneLine_cons : oneLine (point :: rest) = oneLinePoint point ++ oneLine rest := rfl

/-- What has nothing to escape stays as it is. -/
theorem oneLine_of_plain (h : ∀ written ∈ text, ¬ IsEscaped written) : oneLine text = text := by
  induction text with
  | nil => rfl
  | cons point rest ih =>
      rw [oneLine_cons, oneLinePoint, if_neg (h point (List.mem_cons_self ..)),
        ih fun other hother => h other (List.mem_cons_of_mem _ hother)]
      rfl

@[simp] theorem oneLine_oneLine : oneLine (oneLine text) = oneLine text :=
  oneLine_of_plain oneLine_plain

/-! ## Escapes are read back -/

def hexValueOf (digit : Nat) : Nat := if digit < 0x3A then digit - 0x30 else digit - 0x57

/-- The point that a written text starts with. -/
def readShown : Text → Option Nat
  | [] => none
  | first :: rest =>
      if first.val ≠ 0x5C then some first.val
      else match rest with
        | [] => none
        | letter :: digits =>
            if letter.val ≠ 0x75 then
              (shortEscapes.find? fun escape => (ofChar escape.2).val = letter.val).map Prod.fst
            else match digits with
              | one :: two :: three :: four :: _ =>
                  some (((hexValueOf one.val * 16 + hexValueOf two.val) * 16 +
                    hexValueOf three.val) * 16 + hexValueOf four.val)
              | _ => none

theorem hexValueOf_digitChar :
    ∀ digit < 16, hexValueOf (ofChar (Nat.digitChar digit)).val = digit := by
  decide

theorem readShown_escapeOf (h : point.val < 0x10000) (rest : Text) :
    readShown (escapeOf point ++ rest) = some point.val := by
  have hslash : (ofChar '\\').val = 0x5C := by decide
  have hletter : (ofChar 'u').val = 0x75 := by decide
  simp only [escapeOf, hexDigits, List.cons_append, List.nil_append, List.map_cons, List.map_nil,
    readShown, hslash, hletter, ne_eq, not_true_eq_false, if_false]
  rw [hexValueOf_digitChar _ (Nat.mod_lt _ (by decide)),
    hexValueOf_digitChar _ (Nat.mod_lt _ (by decide)),
    hexValueOf_digitChar _ (Nat.mod_lt _ (by decide)),
    hexValueOf_digitChar _ (Nat.mod_lt _ (by decide))]
  simp only [Option.some.injEq]
  omega

theorem readShown_plain (h : point.val ≠ 0x5C) (rest : Text) :
    readShown ([point] ++ rest) = some point.val := by
  rw [List.singleton_append]
  unfold readShown
  exact if_pos h

theorem readShown_short : ∀ escape ∈ shortEscapes, ∀ rest : Text,
    readShown ([ofChar '\\', ofChar escape.2] ++ rest) = some escape.1 := by
  intro escape hmem rest
  simp only [shortEscapes, List.mem_cons, List.not_mem_nil, or_false] at hmem
  rcases hmem with rfl | rfl | rfl | rfl | rfl | rfl | rfl <;> rfl

/-- Without a backslash, the points of a line are read back. -/
theorem readShown_oneLinePoint (h : point.val ≠ 0x5C) (rest : Text) :
    readShown (oneLinePoint point ++ rest) = some point.val := by
  unfold oneLinePoint
  split
  · rename_i hescaped
    exact readShown_escapeOf hescaped.lt rest
  · exact readShown_plain h rest

theorem oneLinePoint_ne_nil : oneLinePoint point ≠ [] := by
  unfold oneLinePoint
  split
  · simp [escapeOf]
  · simp

/-- Texts without a backslash are read back from their lines. -/
theorem oneLine_injective {first second : Text} (hfirst : ∀ point ∈ first, point.val ≠ 0x5C)
    (hsecond : ∀ point ∈ second, point.val ≠ 0x5C) (h : oneLine first = oneLine second) :
    first = second := by
  refine Lines.written (p := fun point : CodePoint => point.val ≠ 0x5C) ?_
    (fun _ _ => oneLinePoint_ne_nil) hfirst hsecond h
  intro point other rest more hpoint hother heq
  have hread := congrArg readShown heq
  rw [readShown_oneLinePoint hpoint, readShown_oneLinePoint hother] at hread
  exact Fin.ext (Option.some.inj hread)

/-- What becomes of a point of a text that is written as JSON on one line. -/
theorem jsonPoint_cases (point : CodePoint) : (∃ escape ∈ shortEscapes, escape.1 = point.val ∧
      oneLine (jsonPoint point) = [ofChar '\\', ofChar escape.2]) ∨
    (point.val < 0x10000 ∧ oneLine (jsonPoint point) = escapeOf point) ∨
    ((point.val ≠ 0x5C ∧ point.val ≠ 0x22) ∧ oneLine (jsonPoint point) = [point]) := by
  unfold jsonPoint
  cases hfound : shortEscapes.find? fun escape => decide (escape.1 = point.val) with
  | some escape =>
      have hpoint := List.find?_some hfound
      have hmem := List.mem_of_find?_eq_some hfound
      refine Or.inl ⟨escape, hmem, of_decide_eq_true hpoint, oneLine_of_plain ?_⟩
      have hletters : ∀ escape ∈ shortEscapes, 0x20 ≤ (ofChar escape.2).val ∧
          (ofChar escape.2).val ≤ 0x7E := by decide
      intro written hwritten
      rcases List.mem_cons.mp hwritten with rfl | hletter
      · exact not_isEscaped_ascii (by decide) (by decide)
      · rw [List.mem_singleton.mp hletter]
        exact not_isEscaped_ascii (hletters escape hmem).1 (hletters escape hmem).2
  | none =>
      have hplain : point.val ≠ 0x5C ∧ point.val ≠ 0x22 := by
        simp only [List.find?_eq_none, shortEscapes, List.forall_mem_cons, decide_eq_true_eq]
          at hfound
        exact ⟨fun h => hfound.2.1 h.symm, fun h => hfound.1 h.symm⟩
      by_cases hcontrol : point.val < 0x20
      · simp only [if_pos hcontrol]
        exact Or.inr (Or.inl ⟨by omega, oneLine_of_plain escapeOf_ascii⟩)
      · simp only [if_neg hcontrol]
        by_cases hescaped : IsEscaped point
        · refine Or.inr (Or.inl ⟨hescaped.lt, ?_⟩)
          simp [oneLine, oneLinePoint, hescaped]
        · exact Or.inr (Or.inr ⟨hplain, by simp [oneLine, oneLinePoint, hescaped]⟩)

theorem readShown_jsonPoint (point : CodePoint) (rest : Text) :
    readShown (oneLine (jsonPoint point) ++ rest) = some point.val := by
  rcases jsonPoint_cases point with ⟨escape, hmem, hpoint, heq⟩ | ⟨hlt, heq⟩ | ⟨hplain, heq⟩
  · rw [heq, readShown_short escape hmem, hpoint]
  · rw [heq, readShown_escapeOf hlt]
  · rw [heq, readShown_plain hplain.1]

theorem oneLine_flatMap (word : CodePoint → Text) (text : Text) :
    oneLine (text.flatMap word) = text.flatMap fun point => oneLine (word point) := by
  induction text with
  | nil => rfl
  | cons point rest ih => rw [List.flatMap_cons, oneLine_append, ih, List.flatMap_cons]

/-- The text is read back from its JSON on one line. -/
theorem jsonText_injective {first second : Text}
    (h : oneLine (jsonText first) = oneLine (jsonText second)) : first = second := by
  have hquote : oneLine [ofChar '"'] = [ofChar '"'] := by decide
  have hsplit : ∀ content, oneLine (jsonText content) =
      [ofChar '"'] ++ ((content.flatMap fun point => oneLine (jsonPoint point)) ++
        [ofChar '"']) := by
    intro content
    have hcons : jsonText content =
        [ofChar '"'] ++ (content.flatMap jsonPoint ++ [ofChar '"']) := rfl
    rw [hcons, oneLine_append, oneLine_append, oneLine_flatMap, hquote]
  rw [hsplit, hsplit] at h
  have hinner := List.append_cancel_right (List.append_cancel_left h)
  refine Lines.written (p := fun _ => True) ?_ ?_ (fun _ _ => trivial) (fun _ _ => trivial) hinner
  · intro point other rest more _ _ heq
    have hread := congrArg readShown heq
    rw [readShown_jsonPoint, readShown_jsonPoint] at hread
    exact Fin.ext (Option.some.inj hread)
  · intro point _ hnil
    have hread := readShown_jsonPoint point []
    rw [hnil] at hread
    cases hread

end DodgingInfinity.GrokBot

/-!
## No two proposals are displayed alike

A value is shown by the lines of its parts, each under a path that no other part has.
The lines of a part end where a line of another path begins, so the whole value is read
back, part by part.
-/

namespace DodgingInfinity.GrokBot

open Values LogicalLines

/-! ## The values that are displayed -/

/-- A float that JSON has a number for. -/
def IsFinite (bits : BitVec 64) : Prop := bits.toNat / 2 ^ 52 % 2 ^ 11 ≠ 2 ^ 11 - 1

/-- The characters of a float's text, and what tells it from an integer. -/
def floatCharacters : List Char :=
  ['0', '1', '2', '3', '4', '5', '6', '7', '8', '9', '.', 'e', '+', '-']

/-- The host writes a finite float so that it is read back, and as no integer. -/
class FloatReads extends FloatText where
  some : ∀ bits, floatText bits ≠ []
  plain : ∀ bits, IsFinite bits → ∀ character ∈ floatText bits, character ∈ floatCharacters
  marked : ∀ bits, IsFinite bits → '.' ∈ floatText bits ∨ 'e' ∈ floatText bits
  injective : ∀ bits other, IsFinite bits → IsFinite other → floatText bits = floatText other →
    bits = other

/-- The points that a path is written with, and the backslash of an escape. -/
def pathPoints : List CodePoint := [0x2E, 0x5B, 0x5D, 0x3A, 0x5C]

/-- A field name without a dot, a bracket, a colon or a backslash. -/
def PlainName (name : Text) : Prop := ∀ point ∈ name, point ∉ pathPoints

instance (name : Text) : Decidable (PlainName name) := List.decidableBAll ..

/-- A JSON value with plain field names, distinct in every object. -/
inductive Displayable : Value → Prop where
  | null : Displayable .null
  | bool (flag : Bool) : Displayable (.bool flag)
  | int (number : Int) : Displayable (.int number)
  | float {bits : BitVec 64} (hfinite : IsFinite bits) : Displayable (.float bits)
  | text (content : Text) : Displayable (.text content)
  | list {items : List Value} (hitems : ∀ item ∈ items, Displayable item) :
      Displayable (.list items)
  | dict {entries : Entries} (hdistinct : (keys entries).Nodup)
      (hnames : ∀ entry ∈ entries, PlainName entry.1)
      (hentries : ∀ entry ∈ entries, Displayable entry.2) : Displayable (.dict entries)

/-! ## Parts of a value -/

/-- What a path goes on with. -/
inductive Segment where
  | key (name : Text)
  | item (index : Nat)
  deriving DecidableEq

def Segment.path (path : Text) : Segment → Text
  | .key name => memberPath path name
  | .item index => itemPath path index

def Segment.IsPlain : Segment → Prop
  | .key name => PlainName name
  | .item _ => True

/-- The parts of a container in the order in which they are shown. -/
def parts : Value → List (Segment × Value)
  | .dict entries => (Sorting.sortedOn Prod.fst entries).map fun entry => (.key entry.1, entry.2)
  | .list items => items.zipIdx.map fun item => (.item item.2, item.1)
  | _ => []

section

variable [FloatText]

/-- What stands after the path of a value without parts. -/
def written : Value → Text
  | .dict _ => [ofChar '\x7b', ofChar '\x7d']
  | .list _ => ofString "[]"
  | .null => jsonLeaf .null
  | .bool flag => jsonLeaf (.bool flag)
  | .int number => jsonLeaf (.int number)
  | .float bits => jsonLeaf (.float bits)
  | .text content => jsonLeaf (.text content)

/-- The lines of the parts of a value. -/
def partLines (path : Text) (segments : List (Segment × Value)) : List Text :=
  segments.flatMap fun part => renderedLines (part.1.path path) part.2

theorem renderedItems_eq (path : Text) (items : List Value) :
    ∀ index, renderedItems path index items =
      partLines path ((items.zipIdx index).map fun item => (.item item.2, item.1)) := by
  induction items with
  | nil =>
      intro index
      rw [renderedItems]
      rfl
  | cons item rest ih =>
      intro index
      rw [renderedItems, ih, List.zipIdx_cons, List.map_cons, partLines, partLines,
        List.flatMap_cons]
      rfl

theorem renderedEntries_eq (path : Text) (entries : Entries) :
    renderedEntries path entries = entries.map fun entry =>
      (entry.1, renderedLines (memberPath path entry.1) entry.2) := by
  induction entries with
  | nil =>
      rw [renderedEntries]
      rfl
  | cons entry rest ih =>
      obtain ⟨key, value⟩ := entry
      rw [renderedEntries, ih, List.map_cons]

omit [FloatText] in
/-- Sorting looks at the keys alone. -/
theorem sortedOn_map {α β : Type} (f : Text × α → Text × β) (hf : ∀ entry, (f entry).1 = entry.1)
    (entries : List (Text × α)) :
    Sorting.sortedOn Prod.fst (entries.map f) = (Sorting.sortedOn Prod.fst entries).map f := by
  unfold Sorting.sortedOn
  symm
  apply List.map_insertionSort
  intro first _ second _
  rw [hf, hf]

/-- A value without parts has one line; the others have the lines of their parts. -/
theorem renderedLines_eq (path : Text) (value : Value) : renderedLines path value =
      if parts value = [] then [leafLine path (written value)]
        else partLines path (parts value) := by
  cases value with
  | dict entries =>
      cases entries with
      | nil =>
          rw [renderedLines]
          rfl
      | cons entry rest =>
          have hsome : parts (.dict (entry :: rest)) ≠ [] := by
            intro hnil
            have hlength := (Sorting.sortedOn_perm Prod.fst (entry :: rest)).length_eq
            rw [List.map_eq_nil_iff.mp hnil] at hlength
            cases hlength
          rw [if_neg hsome, renderedLines, renderedEntries_eq,
            sortedOn_map (fun entry => (entry.1, renderedLines (memberPath path entry.1) entry.2))
              (fun _ => rfl), List.map_map, partLines, parts, List.flatMap_map, List.flatMap]
          rfl
  | list items =>
      cases items with
      | nil =>
          rw [renderedLines]
          rfl
      | cons item rest =>
          have hsome : parts (.list (item :: rest)) ≠ [] := by
            simp [parts, List.zipIdx_cons]
          rw [if_neg hsome, renderedLines, renderedItems_eq]
          rfl
  | _ =>
      rw [renderedLines]
      rfl

end

/-! ## Paths -/

section

variable {path line : Text} {segment other : Segment}

/-- The points that a path goes on with. -/
def IsStop (point : CodePoint) : Prop :=
  point = ofChar '.' ∨ point = ofChar '[' ∨ point = ofChar ':'

/-- The line is of the path, or of a longer one. -/
def Continues (path line : Text) : Prop :=
  ∃ stop tail, IsStop stop ∧ line = oneLine path ++ stop :: tail

def Segment.shown : Segment → Text
  | .key name => ofChar '.' :: oneLine name
  | .item index => ofChar '[' :: (charsText (Nat.toDigits 10 index) ++ [ofChar ']'])

theorem digit_mem {character : Char} (h : character.isDigit = true) :
    character ∈ floatCharacters := by
  have hbounds : 48 ≤ character.toNat ∧ character.toNat ≤ 57 := by
    simpa [Char.isDigit, UInt32.le_iff_toNat_le] using h
  obtain ⟨hlow, hhigh⟩ := hbounds
  rw [← Char.ofNat_toNat character]
  interval_cases character.toNat <;> decide

theorem floatCharacters_ascii : ∀ character ∈ floatCharacters,
    0x20 ≤ (ofChar character).val ∧ (ofChar character).val ≤ 0x7E := by
  decide

/-- Characters of numbers stay as they are. -/
theorem oneLine_charsText {characters : List Char}
    (h : ∀ character ∈ characters, character ∈ floatCharacters) :
    oneLine (charsText characters) = charsText characters := by
  apply oneLine_of_plain
  intro point hpoint
  obtain ⟨character, hmem, rfl⟩ := List.mem_map.mp hpoint
  obtain ⟨hlow, hhigh⟩ := floatCharacters_ascii character (h character hmem)
  exact not_isEscaped_ascii hlow hhigh

theorem charsText_injective : Function.Injective charsText :=
  List.map_injective_iff.mpr ofChar_injective

theorem oneLine_path : oneLine (segment.path path) = oneLine path ++ segment.shown := by
  cases segment with
  | key name =>
      have hdot : oneLine [ofChar '.'] = [ofChar '.'] := by decide
      have hcons : (Segment.key name).path path = path ++ ([ofChar '.'] ++ name) := rfl
      rw [hcons, oneLine_append, oneLine_append, hdot]
      rfl
  | item index =>
      have hopen : oneLine [ofChar '['] = [ofChar '['] := by decide
      have hclose : oneLine [ofChar ']'] = [ofChar ']'] := by decide
      have hcons : (Segment.item index).path path =
          path ++ ([ofChar '['] ++ (charsText (Nat.toDigits 10 index) ++ [ofChar ']'])) := rfl
      rw [hcons, oneLine_append, oneLine_append, oneLine_append, hopen, hclose,
        oneLine_charsText fun character hmem => digit_mem (isDigit_toDigits character hmem)]
      rfl

theorem Continues.of_segment (h : Continues (segment.path path) line) : Continues path line := by
  obtain ⟨stop, tail, -, rfl⟩ := h
  rw [oneLine_path, List.append_assoc]
  cases segment with
  | key name => exact ⟨_, _, Or.inl rfl, rfl⟩
  | item index => exact ⟨_, _, Or.inr (Or.inl rfl), rfl⟩

theorem notStop_oneLine {name : Text} (h : PlainName name) :
    ∀ point ∈ oneLine name, ¬ IsStop point := by
  have hdigits : ∀ value < 16, ¬ IsStop (ofChar (Nat.digitChar value)) := by
    unfold IsStop
    decide
  intro point hpoint
  obtain ⟨named, hnamed, hwritten⟩ := List.mem_flatMap.mp hpoint
  unfold oneLinePoint at hwritten
  split at hwritten
  · simp only [escapeOf, hexDigits, List.map_append, List.mem_append, List.map_cons,
      List.map_nil, List.mem_cons, List.not_mem_nil, or_false] at hwritten
    rcases hwritten with (rfl | rfl) | rfl | rfl | rfl | rfl
    · unfold IsStop
      decide
    · unfold IsStop
      decide
    all_goals exact hdigits _ (Nat.mod_lt _ (by decide))
  · rw [List.mem_singleton.mp hwritten]
    rintro (rfl | rfl | rfl) <;> exact h _ hnamed (by decide)

/-- No line is of two paths that part here. -/
theorem Continues.unique (hplain : segment.IsPlain) (hother : other.IsPlain)
    (h : Continues (segment.path path) line) (hsame : Continues (other.path path) line) :
    segment = other := by
  obtain ⟨stop, tail, hstop, rfl⟩ := h
  obtain ⟨end_, more, hend, heq⟩ := hsame
  rw [oneLine_path, oneLine_path, List.append_assoc, List.append_assoc] at heq
  have hshown := List.append_cancel_left heq
  cases segment with
  | key name =>
      cases other with
      | key label =>
          obtain ⟨hnames, -, -⟩ := Lines.stopped (notStop_oneLine hplain) (notStop_oneLine hother)
            hstop hend (List.cons.inj hshown).2
          have hbackslash : ∀ name : Text, PlainName name → ∀ point ∈ name, point.val ≠ 0x5C := by
            intro name hname point hpoint hvalue
            exact hname point hpoint (by
              have : point = 0x5C := Fin.ext hvalue
              rw [this]
              decide)
          rw [oneLine_injective (hbackslash name hplain) (hbackslash label hother) hnames]
      | item index => exact absurd (List.cons.inj hshown).1 (by decide)
  | item index =>
      cases other with
      | key label => exact absurd (List.cons.inj hshown).1 (by decide)
      | item place =>
          have hdigits : ∀ number, ofChar ']' ∉ charsText (Nat.toDigits 10 number) := by
            intro number hmem
            obtain ⟨digit, hdigit, heq⟩ := List.mem_map.mp hmem
            have hclose := isDigit_toDigits digit hdigit
            rw [ofChar_injective heq] at hclose
            cases hclose
          simp only [Segment.shown, List.cons_append, List.append_assoc, List.nil_append,
            List.cons.injEq, true_and] at hshown
          obtain ⟨hnumbers, -⟩ := Lines.delimited (hdigits index) (hdigits place) hshown
          rw [toDigits_injective (charsText_injective hnumbers)]

end

/-! ## Values without parts -/

/-- What a first point says of the value that it opens. -/
def kindOf (point : CodePoint) : Nat :=
  if point = ofChar '\x7b' then 0
  else if point = ofChar '[' then 1
  else if point = ofChar 'n' then 2
  else if point = ofChar 't' ∨ point = ofChar 'f' then 3
  else if point = ofChar '"' then 4
  else 5

def kind : Value → Nat
  | .dict _ => 0
  | .list _ => 1
  | .null => 2
  | .bool _ => 3
  | .text _ => 4
  | .int _ => 5
  | .float _ => 5

theorem kindOf_number : ∀ character ∈ floatCharacters, kindOf (ofChar character) = 5 := by
  decide

theorem decimal_characters (number : Int) :
    ∀ character ∈ decimal number, character = '-' ∨ character.isDigit = true := by
  intro character hmem
  unfold decimal at hmem
  split at hmem
  · rcases List.mem_cons.mp hmem with rfl | hdigit
    · exact Or.inl rfl
    · exact Or.inr (isDigit_toDigits character hdigit)
  · exact Or.inr (isDigit_toDigits character hmem)

theorem decimal_mem (number : Int) : ∀ character ∈ decimal number, character ∈ floatCharacters := by
  intro character hmem
  rcases decimal_characters number character hmem with rfl | hdigit
  · decide
  · exact digit_mem hdigit

theorem decimal_ne_nil (number : Int) : decimal number ≠ [] := by
  unfold decimal
  split
  · exact List.cons_ne_nil _ _
  · exact Nat.toDigits_ne_nil

theorem decimal_injective {number other : Int} (h : decimal number = decimal other) :
    number = other := by
  have hstops : Stops [] := by simp [Stops]
  exact (decimal_append hstops hstops (by rw [h])).1

/-- The characters of a number open a number. -/
theorem kind_chars {characters : List Char} (hsome : characters ≠ [])
    (h : ∀ character ∈ characters, character ∈ floatCharacters) :
    ∃ first rest, oneLine (charsText characters) = first :: rest ∧ kindOf first = 5 := by
  rw [oneLine_charsText h]
  cases characters with
  | nil => exact absurd rfl hsome
  | cons character rest =>
      exact ⟨_, _, rfl, kindOf_number character (h character (List.mem_cons_self ..))⟩

section

variable [FloatReads] {value other : Value}

theorem kind_written (h : Displayable value) :
    ∃ first rest, oneLine (written value) = first :: rest ∧ kindOf first = kind value := by
  cases h with
  | null => exact ⟨_, _, rfl, by decide⟩
  | bool flag => cases flag <;> exact ⟨_, _, rfl, by decide⟩
  | int number => exact kind_chars (decimal_ne_nil number) (decimal_mem number)
  | float hfinite => exact kind_chars (FloatReads.some _) (FloatReads.plain _ hfinite)
  | text content =>
      have hquote : oneLine [ofChar '"'] = [ofChar '"'] := by decide
      have hcons : written (.text content) =
          [ofChar '"'] ++ (content.flatMap jsonPoint ++ [ofChar '"']) := rfl
      rw [hcons, oneLine_append, hquote]
      exact ⟨_, _, rfl, (by decide : kindOf (ofChar '"') = 4)⟩
  | list _ => exact ⟨_, _, rfl, (by decide : kindOf (ofChar '[') = 1)⟩
  | dict _ _ _ => exact ⟨_, _, rfl, (by decide : kindOf (ofChar '\x7b') = 0)⟩

/-- An integer is not written as a float is. -/
theorem decimal_ne_float {number : Int} {bits : BitVec 64} (hfinite : IsFinite bits) :
    decimal number ≠ floatText bits := by
  intro heq
  have hnone : ∀ character : Char, character.isDigit = false → character ≠ '-' →
      character ∉ decimal number := by
    intro character hdigit hminus hmem
    rcases decimal_characters number character hmem with rfl | htrue
    · exact hminus rfl
    · rw [hdigit] at htrue
      cases htrue
  rcases FloatReads.marked bits hfinite with hpoint | hexponent
  · rw [← heq] at hpoint
    exact hnone '.' (by decide) (by decide) hpoint
  · rw [← heq] at hexponent
    exact hnone 'e' (by decide) (by decide) hexponent

omit [FloatReads] in
theorem parts_dict_eq_nil {entries : Entries} (h : parts (.dict entries) = []) : entries = [] := by
  have hlength := (Sorting.sortedOn_perm Prod.fst entries).length_eq
  rw [List.map_eq_nil_iff.mp h] at hlength
  exact List.length_eq_zero_iff.mp hlength.symm

omit [FloatReads] in
theorem parts_list_eq_nil {items : List Value} (h : parts (.list items) = []) : items = [] := by
  have hindexed := List.map_eq_nil_iff.mp h
  exact List.zipIdx_eq_nil_iff.mp hindexed

/-- Values without parts are read back from what stands after their path. -/
theorem written_injective (hvalue : Displayable value) (hother : Displayable other)
    (hparts : parts value = []) (hnone : parts other = [])
    (h : oneLine (written value) = oneLine (written other)) : sortKeys value = sortKeys other := by
  have hkind : kind value = kind other := by
    obtain ⟨first, rest, heq, hfirst⟩ := kind_written hvalue
    obtain ⟨second, more, hequal, hsecond⟩ := kind_written hother
    rw [heq, hequal] at h
    rw [← hfirst, ← hsecond, (List.cons.inj h).1]
  have hchars : ∀ {first second : List Char}, (∀ character ∈ first, character ∈ floatCharacters) →
      (∀ character ∈ second, character ∈ floatCharacters) →
      oneLine (charsText first) = oneLine (charsText second) → first = second := by
    intro first second hfirst hsecond heq
    rw [oneLine_charsText hfirst, oneLine_charsText hsecond] at heq
    exact charsText_injective heq
  cases hvalue with
  | null => cases hother <;> first | rfl | cases hkind
  | bool flag =>
      cases hother with
      | bool flag' =>
          have hwords : oneLine (ofString "true") ≠ oneLine (ofString "false") := by decide
          cases flag <;> cases flag' <;>
            first | rfl | exact absurd h hwords | exact absurd h.symm hwords
      | _ => cases hkind
  | int number =>
      cases hother with
      | int number' =>
          rw [decimal_injective (hchars (decimal_mem number) (decimal_mem number') h)]
      | float hfinite =>
          exact absurd (hchars (decimal_mem number) (FloatReads.plain _ hfinite) h)
            (decimal_ne_float hfinite)
      | _ => cases hkind
  | float hfinite =>
      cases hother with
      | int number =>
          exact absurd (hchars (FloatReads.plain _ hfinite) (decimal_mem number) h).symm
            (decimal_ne_float hfinite)
      | float hfinite' =>
          rw [FloatReads.injective _ _ hfinite hfinite'
            (hchars (FloatReads.plain _ hfinite) (FloatReads.plain _ hfinite') h)]
      | _ => cases hkind
  | text content =>
      cases hother with
      | text content' => rw [jsonText_injective h]
      | _ => cases hkind
  | list _ =>
      cases hother with
      | list _ => rw [parts_list_eq_nil hparts, parts_list_eq_nil hnone]
      | _ => cases hkind
  | dict _ _ _ =>
      cases hother with
      | dict _ _ _ => rw [parts_dict_eq_nil hparts, parts_dict_eq_nil hnone]
      | _ => cases hkind

end

end DodgingInfinity.GrokBot
