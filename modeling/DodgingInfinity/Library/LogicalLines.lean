import DodgingInfinity.Library.Values
import Mathlib.Data.List.TakeWhile

/-!
# Logical lines

A text ends a line at any of ten code points, and a carriage return with the line feed
after it is one terminator.  Lines kept with their terminators join to the text again, a
mark put before a line changes no other one, and lines without terminators are found
again in their join.
-/

namespace DodgingInfinity

namespace LogicalLines

open Values (CodePoint Text)

def lineFeed : CodePoint := 0x0A

def carriageReturn : CodePoint := 0x0D

/-- The code points that end a line. -/
def terminators : List CodePoint :=
  [0x0A, 0x0B, 0x0C, 0x0D, 0x1C, 0x1D, 0x1E, 0x85, 0x2028, 0x2029]

def IsTerminator (point : CodePoint) : Prop := point ∈ terminators

instance (point : CodePoint) : Decidable (IsTerminator point) :=
  inferInstanceAs (Decidable (point ∈ terminators))

/-- A text without a terminator. -/
def LineFree (text : Text) : Prop := ∀ point ∈ text, ¬ IsTerminator point

/-- A line ends after the point; a carriage return waits for its line feed. -/
def EndsAfter (point : CodePoint) (rest : Text) : Prop :=
  IsTerminator point ∧ ¬ (point = carriageReturn ∧ rest.head? = some lineFeed)

instance (point : CodePoint) (rest : Text) : Decidable (EndsAfter point rest) :=
  inferInstanceAs (Decidable (_ ∧ _))

/-- The point is put before the first line. -/
def extend (point : CodePoint) : List Text → List Text
  | [] => [[point]]
  | line :: lines => (point :: line) :: lines

/-- The lines of a text, each with its terminator. -/
def splitKeep : Text → List Text
  | [] => []
  | point :: rest =>
      if EndsAfter point rest then [point] :: splitKeep rest
      else extend point (splitKeep rest)

/-- A line without its terminator. -/
def content (line : Text) : Text := line.takeWhile fun point => ¬ IsTerminator point

/-- The lines of a text. -/
def split (text : Text) : List Text := (splitKeep text).map content

variable {point : CodePoint} {text rest line mark : Text} {lines : List Text}

/-! ## The lines join to the text -/

@[simp] theorem flatten_extend : (extend point lines).flatten = point :: lines.flatten := by
  cases lines with
  | nil => rfl
  | cons line lines => rfl

@[simp] theorem flatten_splitKeep (text : Text) : (splitKeep text).flatten = text := by
  induction text with
  | nil => rfl
  | cons point rest ih =>
      unfold splitKeep
      split
      · rw [List.flatten_cons, ih, List.singleton_append]
      · rw [flatten_extend, ih]

theorem splitKeep_eq_nil : splitKeep text = [] ↔ text = [] := by
  constructor
  · intro h
    rw [← flatten_splitKeep text, h]
    rfl
  · rintro rfl
    rfl

theorem extend_append (hlines : lines ≠ []) (more : List Text) :
    extend point (lines ++ more) = extend point lines ++ more := by
  cases lines with
  | nil => exact absurd rfl hlines
  | cons line lines => rfl

theorem splitKeep_plain (h : ¬ IsTerminator point) :
    splitKeep (point :: rest) = extend point (splitKeep rest) := by
  rw [splitKeep, if_neg]
  exact fun hends => h hends.1

/-- The text ends a line that what follows does not go on with. -/
def Closes (text rest : Text) : Prop :=
  ∃ front point, text = front ++ [point] ∧ EndsAfter point rest

theorem Closes.cons (point : CodePoint) (h : Closes text rest) : Closes (point :: text) rest := by
  obtain ⟨front, last, rfl, hends⟩ := h
  exact ⟨point :: front, last, rfl, hends⟩

/-- A text that ends with a line feed is closed, whatever follows. -/
theorem closes_lineFeed (front rest : Text) : Closes (front ++ [lineFeed]) rest :=
  ⟨front, lineFeed, rfl, by decide, fun h => absurd h.1 (by decide)⟩

theorem endsAfter_congr {other : Text} (h : rest.head? = other.head?) :
    EndsAfter point rest ↔ EndsAfter point other := by
  rw [EndsAfter, EndsAfter, h]

/-- What follows a closed text is split on its own. -/
theorem splitKeep_append (h : Closes text rest) :
    splitKeep (text ++ rest) = splitKeep text ++ splitKeep rest := by
  obtain ⟨front, last, rfl, hends⟩ := h
  induction front with
  | nil =>
      have halone : EndsAfter last [] := ⟨hends.1, by simp⟩
      simp only [List.nil_append, List.singleton_append, splitKeep, if_pos hends, if_pos halone]
  | cons first front ih =>
      have hhead : ((front ++ [last]) ++ rest).head? = (front ++ [last]).head? := by
        cases front <;> rfl
      have hsome : splitKeep (front ++ [last]) ≠ [] := by
        rw [ne_eq, splitKeep_eq_nil]
        simp
      rw [List.cons_append, List.cons_append, splitKeep, splitKeep, ih]
      by_cases hfirst : EndsAfter first (front ++ [last])
      · rw [if_pos hfirst, if_pos ((endsAfter_congr hhead).mpr hfirst), List.cons_append]
      · rw [if_neg hfirst, if_neg (fun h => hfirst ((endsAfter_congr hhead).mp h)),
          extend_append hsome]

/-- A line is part of its text. -/
theorem infix_of_mem_split (h : line ∈ split text) : line <:+: text := by
  obtain ⟨kept, hkept, rfl⟩ := List.mem_map.mp h
  have hcontent : content kept <+: kept := List.takeWhile_prefix _
  have hflatten : kept <:+: (splitKeep text).flatten := List.infix_of_mem_flatten hkept
  rw [flatten_splitKeep] at hflatten
  exact hcontent.isInfix.trans hflatten

/-! ## Lines as they are kept -/

/-- The text is one line. -/
def IsLine (line : Text) : Prop := splitKeep line = [line]

theorem IsLine.ne_nil (h : IsLine line) : line ≠ [] := by
  rintro rfl
  cases h

/-- Lines that are found again in their join. -/
inductive Kept : List Text → Prop
  | nil : Kept []
  | last {line : Text} (hline : IsLine line) : Kept [line]
  | cons {line next : Text} {rest : List Text} (hline : IsLine line)
      (hcloses : Closes line next) (hrest : Kept (next :: rest)) : Kept (line :: next :: rest)

theorem Kept.isLine (h : Kept lines) : ∀ line ∈ lines, IsLine line := by
  induction h with
  | nil => simp
  | last hline => simpa using hline
  | cons hline _ _ ih =>
      intro found hfound
      rcases List.mem_cons.mp hfound with rfl | hlater
      · exact hline
      · exact ih found hlater

theorem Closes.append (h : Closes text line) (hline : line ≠ []) (rest : Text) :
    Closes text (line ++ rest) := by
  obtain ⟨front, last, htext, hends⟩ := h
  refine ⟨front, last, htext, (endsAfter_congr ?_).mp hends⟩
  cases line with
  | nil => exact absurd rfl hline
  | cons first others => rfl

theorem splitKeep_flatten (h : Kept lines) : splitKeep lines.flatten = lines := by
  induction h with
  | nil => rfl
  | last hline => simpa [IsLine] using hline
  | cons hline hcloses hrest ih =>
      have hnext := (hrest.isLine _ (List.mem_cons_self ..)).ne_nil
      rw [List.flatten_cons, splitKeep_append, ih, hline, List.singleton_append]
      rw [List.flatten_cons]
      exact hcloses.append hnext _

theorem kept_splitKeep (text : Text) : Kept (splitKeep text) := by
  induction text with
  | nil => exact .nil
  | cons point rest ih =>
      have hflatten := flatten_splitKeep rest
      cases hlines : splitKeep rest with
      | nil =>
          obtain rfl := splitKeep_eq_nil.mp hlines
          have hline : IsLine [point] := by
            by_cases hends : EndsAfter point [] <;> simp [IsLine, splitKeep, hends, extend]
          have hwhole : splitKeep [point] = [[point]] := hline
          rw [hwhole]
          exact .last hline
      | cons line lines =>
          rw [hlines] at ih hflatten
          have hline := ih.isLine line (List.mem_cons_self ..)
          have hhead : rest.head? = line.head? := by
            rw [← hflatten, List.flatten_cons]
            cases line with
            | nil => exact absurd rfl hline.ne_nil
            | cons first others => rfl
          by_cases hends : EndsAfter point rest
          · rw [splitKeep, if_pos hends, hlines]
            refine .cons ?_ ⟨[], point, rfl, (endsAfter_congr hhead).mp hends⟩ ih
            rw [IsLine, splitKeep, if_pos ⟨hends.1, by simp⟩]
            rfl
          · rw [splitKeep, if_neg hends, hlines]
            have hextended : IsLine (point :: line) := by
              rw [IsLine, splitKeep, if_neg (fun h => hends ((endsAfter_congr hhead).mpr h)), hline]
              rfl
            cases ih with
            | last _ => exact .last hextended
            | cons _ hcloses hrest => exact .cons hextended (hcloses.cons point) hrest

/-! ## Marks before lines -/

/-- A mark is put before lines: it has no terminator, and is there. -/
structure IsMark (mark : Text) : Prop where
  lineFree : LineFree mark
  some : mark ≠ []

theorem IsLine.marked (hmark : LineFree mark) (h : IsLine line) : IsLine (mark ++ line) := by
  induction mark with
  | nil => exact h
  | cons point rest ih =>
      have hrest := ih fun other hother => hmark other (List.mem_cons_of_mem _ hother)
      rw [IsLine, List.cons_append, splitKeep_plain (hmark point (List.mem_cons_self ..)), hrest]
      rfl

theorem Closes.prefixed (mark : Text) (h : Closes text rest) : Closes (mark ++ text) rest := by
  obtain ⟨front, last, rfl, hends⟩ := h
  exact ⟨mark ++ front, last, by rw [List.append_assoc], hends⟩

/-- A line feed is no start of a mark. -/
theorem Closes.before_mark (hmark : IsMark mark) (h : Closes text rest) (line : Text) :
    Closes text (mark ++ line) := by
  obtain ⟨front, last, htext, hends⟩ := h
  refine ⟨front, last, htext, hends.1, ?_⟩
  rintro ⟨-, hhead⟩
  obtain ⟨first, others, rfl⟩ := List.exists_cons_of_ne_nil hmark.some
  have hfirst : first = lineFeed := by simpa using hhead
  subst hfirst
  exact hmark.lineFree lineFeed (List.mem_cons_self ..) (by decide)

/-- Marks put before some of the lines leave them the lines of their join. -/
theorem Kept.marked (hmark : IsMark mark) {f : Text → Text}
    (hf : ∀ line, f line = line ∨ f line = mark ++ line) (h : Kept lines) :
    Kept (lines.map f) := by
  have hline : ∀ line, IsLine line → IsLine (f line) := by
    intro line hline
    rcases hf line with hsame | hmarked
    · rw [hsame]
      exact hline
    · rw [hmarked]
      exact hline.marked hmark.lineFree
  induction h with
  | nil => exact .nil
  | last hlast => exact .last (hline _ hlast)
  | @cons line next rest hfirst hcloses _ ih =>
      refine .cons (hline line hfirst) ?_ ih
      have hbefore : Closes (f line) next := by
        rcases hf line with hsame | hmarked
        · rw [hsame]
          exact hcloses
        · rw [hmarked]
          exact hcloses.prefixed mark
      rcases hf next with hsame | hmarked
      · rw [hsame]
        exact hbefore
      · rw [hmarked]
        exact hbefore.before_mark hmark next

/-- The lines of a text with marks before some of them. -/
theorem splitKeep_marked (hmark : IsMark mark) {f : Text → Text}
    (hf : ∀ line, f line = line ∨ f line = mark ++ line) (text : Text) :
    splitKeep ((splitKeep text).map f).flatten = (splitKeep text).map f :=
  splitKeep_flatten ((kept_splitKeep text).marked hmark hf)

/-- A mark before a line is before its content. -/
theorem content_marked (hmark : LineFree mark) (line : Text) :
    content (mark ++ line) = mark ++ content line := by
  unfold content
  rw [List.takeWhile_append_of_pos]
  intro point hpoint
  simpa using hmark point hpoint

/-! ## Joined lines -/

theorem content_append (hline : LineFree line) (hpoint : IsTerminator point) :
    content (line ++ point :: rest) = line := by
  unfold content
  rw [List.takeWhile_append_of_pos]
  · simp [hpoint]
  · intro other hother
    simpa using hline other hother

theorem content_lineFree (hline : LineFree line) : content line = line := by
  rw [content, List.takeWhile_eq_self_iff]
  intro other hother
  simpa using hline other hother

theorem isLine_of_lineFree (hline : LineFree line) (hsome : line ≠ []) : IsLine line := by
  induction line with
  | nil => exact absurd rfl hsome
  | cons point rest ih =>
      have hpoint := hline point (List.mem_cons_self ..)
      rw [IsLine, splitKeep_plain hpoint]
      cases rest with
      | nil => rfl
      | cons next others =>
          have hrest := ih (fun other hother => hline other (List.mem_cons_of_mem _ hother))
            (List.cons_ne_nil _ _)
          rw [hrest]
          rfl

theorem isLine_ended (hline : LineFree line) : IsLine (line ++ [lineFeed]) := by
  have hend : IsLine [lineFeed] := by
    rw [IsLine]
    decide
  exact hend.marked hline

theorem splitKeep_ended (hline : LineFree line) (rest : Text) :
    splitKeep (line ++ lineFeed :: rest) = (line ++ [lineFeed]) :: splitKeep rest := by
  have hsplit := splitKeep_append (closes_lineFeed line rest)
  rw [isLine_ended hline] at hsplit
  simpa using hsplit

/-- Lines without terminators are the lines of their join, if the last is not empty. -/
theorem split_joined (hlines : ∀ line ∈ lines, LineFree line)
    (hlast : ∀ line, lines.getLast? = some line → line ≠ []) :
    split ([lineFeed].intercalate lines) = lines := by
  induction lines with
  | nil => rfl
  | cons line lines ih =>
      have hline := hlines line (List.mem_cons_self ..)
      cases lines with
      | nil =>
          have hsome := hlast line rfl
          rw [List.intercalate_singleton, split, isLine_of_lineFree hline hsome]
          simp [content_lineFree hline]
      | cons next rest =>
          have hrest := ih (fun other hother => hlines other (List.mem_cons_of_mem _ hother))
            (fun other hother => hlast other (by simpa using hother))
          rw [List.intercalate_cons_cons, List.append_assoc, List.singleton_append, split,
            splitKeep_ended hline, List.map_cons, content_append hline (by decide)]
          exact congrArg (line :: ·) hrest

/-- Lines without terminators are the lines of the text that ends each of them. -/
theorem split_ended (hlines : ∀ line ∈ lines, LineFree line) :
    split (lines.flatMap fun line => line ++ [lineFeed]) = lines := by
  induction lines with
  | nil => rfl
  | cons line rest ih =>
      have hrest := ih fun other hother => hlines other (List.mem_cons_of_mem _ hother)
      rw [List.flatMap_cons, List.append_assoc, List.singleton_append, split,
        splitKeep_ended (hlines line (List.mem_cons_self ..)), List.map_cons,
        content_append (hlines line (List.mem_cons_self ..)) (by decide)]
      exact congrArg (line :: ·) hrest

/-! ## Literals -/

/-- The character ends a line. -/
def endsLine (character : Char) : Bool :=
  (terminators.map fun point => point.val).contains character.toNat

theorem endsLine_eq_true {character : Char} (h : IsTerminator (Values.ofChar character)) :
    endsLine character = true := by
  unfold endsLine
  rw [List.contains_iff_mem]
  exact List.mem_map.mpr ⟨_, h, rfl⟩

/-- A literal has no terminator if none of its characters is one. -/
theorem lineFree_literal (characters : List Char)
    (h : characters.all (fun character => ! endsLine character) = true) :
    LineFree (Values.ofString (String.ofList characters)) := by
  intro point hpoint hends
  unfold Values.ofString at hpoint
  rw [String.toList_ofList] at hpoint
  obtain ⟨character, hcharacter, rfl⟩ := List.mem_map.mp hpoint
  have hfree := List.all_eq_true.mp h character hcharacter
  rw [endsLine_eq_true hends] at hfree
  cases hfree

theorem LineFree.append (h : LineFree text) (hrest : LineFree rest) : LineFree (text ++ rest) := by
  intro point hpoint
  rcases List.mem_append.mp hpoint with hbefore | hafter
  · exact h point hbefore
  · exact hrest point hafter

/-- The content of a line has no terminator. -/
theorem lineFree_content (line : Text) : LineFree (content line) := by
  intro point hpoint
  simpa using List.mem_takeWhile_imp hpoint

/-- No line of a text has a terminator. -/
theorem lineFree_of_mem_split (h : line ∈ split text) : LineFree line := by
  obtain ⟨kept, -, rfl⟩ := List.mem_map.mp h
  exact lineFree_content kept

end LogicalLines

end DodgingInfinity
