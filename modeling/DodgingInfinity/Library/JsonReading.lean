import DodgingInfinity.Library.JsonText
import Mathlib.Data.List.TakeWhile

/-!
# Reading and printing JSON

A text is read as a document of numerals, up to a depth of nesting; of the entries of an
object the last one under a key counts.  A document is printed over several lines, and a
printed document is read back.
-/

namespace DodgingInfinity

namespace JsonText

open Values (Text)
open Dict (setEntries)

/-! ## Reading -/

/-- Why a text is not read. -/
inductive Unread where
  | invalid
  | tooDeep
  | unfinished
  deriving DecidableEq

def isSpace (character : Char) : Bool := character ∈ [' ', '\t', '\n', '\r']

def skip (text : List Char) : List Char := text.dropWhile isSpace

/-- A number, or a word that stands for one; a longer integer than is read is none. -/
def readNumeral : List Char → Option (Numeral × List Char)
  | 'N' :: 'a' :: 'N' :: rest => some (.notANumber, rest)
  | 'I' :: 'n' :: 'f' :: 'i' :: 'n' :: 'i' :: 't' :: 'y' :: rest => some (.infinity, rest)
  | '-' :: 'I' :: 'n' :: 'f' :: 'i' :: 'n' :: 'i' :: 't' :: 'y' :: rest =>
      some (.minusInfinity, rest)
  | text =>
      match readLiteral text with
      | none => none
      | some (literal, rest) =>
          if literal.isInteger ∧ Numerals.maxDigits < literal.whole.length then none
          else some (.written literal, rest)

def readScalar : List Char → Option (Doc Numeral × List Char)
  | '"' :: rest => (readText rest).map fun read => (.text read.1, read.2)
  | 'n' :: 'u' :: 'l' :: 'l' :: rest => some (.null, rest)
  | 't' :: 'r' :: 'u' :: 'e' :: rest => some (.bool true, rest)
  | 'f' :: 'a' :: 'l' :: 's' :: 'e' :: rest => some (.bool false, rest)
  | text => (readNumeral text).map fun read => (.number read.1, read.2)

/-- The entries of an object, each at its key's first place, with its last value. -/
def collect (entries : List (Text × Doc Numeral)) : List (Text × Doc Numeral) :=
  entries.foldl (fun held entry => setEntries entry.1 entry.2 held) []

/-- A key and its colon. -/
def readKey : List Char → Option (Text × List Char)
  | '"' :: rest =>
      match readText rest with
      | none => none
      | some (key, rest) =>
          match skip rest with
          | ':' :: rest => some (key, skip rest)
          | _ => none
  | _ => none

mutual

/-- The value at the beginning of a text, with at most a number of lists and objects
around one another. -/
def readValue : Nat → Nat → List Char → Except Unread (Doc Numeral × List Char)
  | 0, _, _ => .error .unfinished
  | fuel + 1, depth, '[' :: rest =>
      match depth with
      | 0 => .error .tooDeep
      | depth + 1 =>
          match skip rest with
          | ']' :: rest => .ok (.list [], rest)
          | start =>
              match readItems fuel depth start with
              | .error unread => .error unread
              | .ok (items, rest) => .ok (.list items, rest)
  | fuel + 1, depth, '\x7b' :: rest =>
      match depth with
      | 0 => .error .tooDeep
      | depth + 1 =>
          match skip rest with
          | '\x7d' :: rest => .ok (.dict [], rest)
          | start =>
              match readEntries fuel depth start with
              | .error unread => .error unread
              | .ok (entries, rest) => .ok (.dict (collect entries), rest)
  | _ + 1, _, text =>
      match readScalar text with
      | none => .error .invalid
      | some (value, rest) => .ok (value, rest)

def readItems : Nat → Nat → List Char → Except Unread (List (Doc Numeral) × List Char)
  | 0, _, _ => .error .unfinished
  | fuel + 1, depth, text =>
      match readValue fuel depth text with
      | .error unread => .error unread
      | .ok (item, rest) =>
          match skip rest with
          | ',' :: rest =>
              match readItems fuel depth (skip rest) with
              | .error unread => .error unread
              | .ok (items, rest) => .ok (item :: items, rest)
          | ']' :: rest => .ok ([item], rest)
          | _ => .error .invalid

def readEntries : Nat → Nat → List Char → Except Unread (List (Text × Doc Numeral) × List Char)
  | 0, _, _ => .error .unfinished
  | fuel + 1, depth, text =>
      match readKey text with
      | none => .error .invalid
      | some (key, rest) =>
          match readValue fuel depth rest with
          | .error unread => .error unread
          | .ok (value, rest) =>
              match skip rest with
              | ',' :: rest =>
                  match readEntries fuel depth (skip rest) with
                  | .error unread => .error unread
                  | .ok (entries, rest) => .ok ((key, value) :: entries, rest)
              | '\x7d' :: rest => .ok ([(key, value)], rest)
              | _ => .error .invalid

end

/-- The document that a text is; a byte order mark is none. -/
def readDoc (depth : Nat) (text : List Char) : Except Unread (Doc Numeral) :=
  match readValue (2 * text.length + 1) depth (skip text) with
  | .error unread => .error unread
  | .ok (doc, rest) => if skip rest = [] then .ok doc else .error .invalid

/-! ## Printing -/

def newline (level : Nat) : List Char := '\n' :: List.replicate (2 * level) ' '

mutual

/-- A document on a level of indentation, two blanks for each. -/
def print : Nat → Doc Numeral → List Char
  | _, .null => "null".toList
  | _, .bool true => "true".toList
  | _, .bool false => "false".toList
  | _, .number value => value.printed
  | _, .text content => quoted content
  | _, .list [] => ['[', ']']
  | level, .list (first :: rest) =>
      '[' :: (newline (level + 1) ++ (print (level + 1) first ++ printItems level rest))
  | _, .dict [] => ['\x7b', '\x7d']
  | level, .dict ((key, first) :: rest) =>
      '\x7b' :: (newline (level + 1) ++ (quoted key ++ (':' :: ' ' ::
        (print (level + 1) first ++ printEntries level rest))))

/-- The items after the first, and the end of the list. -/
def printItems : Nat → List (Doc Numeral) → List Char
  | level, [] => newline level ++ [']']
  | level, item :: rest =>
      ',' :: (newline (level + 1) ++ (print (level + 1) item ++ printItems level rest))

/-- The entries after the first, and the end of the object. -/
def printEntries : Nat → List (Text × Doc Numeral) → List Char
  | level, [] => newline level ++ ['\x7d']
  | level, (key, value) :: rest =>
      ',' :: (newline (level + 1) ++ (quoted key ++ (':' :: ' ' ::
        (print (level + 1) value ++ printEntries level rest))))

end

/-! ## What is read -/

/-- Numerals of the grammar, and objects with distinct keys. -/
def regular : Test Numeral :=
  ⟨fun _ => true, fun numeral => decide numeral.Valid, fun keys => decide keys.Nodup⟩

/-- A reading: its value is a good one and uses some of the text, and it is finished if
there was enough fuel. -/
def Reads {α : Type} (enough : Prop) (good : α → Prop) (text : List Char) :
    Except Unread (α × List Char) → Prop
  | .ok (value, rest) => good value ∧ rest.length < text.length
  | .error unread => enough → unread ≠ .unfinished

theorem length_skip (text : List Char) : (skip text).length ≤ text.length :=
  List.length_dropWhile_le isSpace text

variable {text rest : List Char}

theorem readPoints_length {points : Text}
    (h : readPoints text = some (points, rest)) : rest.length < text.length := by
  induction hlength : text.length using Nat.strongRecOn generalizing text points with
  | ind length ih =>
      unfold readPoints at h
      split at h
      · cases h
      · cases h
        exact hlength ▸ Nat.lt_succ_self _
      · next first second third fourth later =>
          split at h
          · next unit after other hunit hlater =>
              cases h
              have hshorter : later.length < length := by
                rw [← hlength]
                simp only [List.length_cons]
                omega
              exact (ih later.length hshorter hlater rfl).trans hshorter
          · cases h
      · next letter later _ =>
          split at h
          · next point after other hpoint hlater =>
              cases h
              have hshorter : later.length < length := by
                rw [← hlength]
                simp only [List.length_cons]
                omega
              exact (ih later.length hshorter hlater rfl).trans hshorter
          · cases h
      · next character later _ _ _ =>
          split at h
          · cases h
          · split at h
            · next after other hlater =>
                cases h
                have hshorter : later.length < length := by
                  rw [← hlength]
                  exact Nat.lt_succ_self _
                exact (ih later.length hshorter hlater rfl).trans hshorter
            · cases h

variable {content : Text}

theorem readText_length
    (h : readText text = some (content, rest)) : rest.length < text.length := by
  obtain ⟨read, hread, heq⟩ := Option.map_eq_some_iff.mp h
  cases heq
  exact readPoints_length hread

variable {numeral : Numeral}

theorem readNumeral_sound (h : readNumeral text = some (numeral, rest)) :
    numeral.Valid ∧ rest.length < text.length := by
  unfold readNumeral at h
  split at h
  · cases h
    exact ⟨trivial, by simp only [List.length_cons]; omega⟩
  · cases h
    exact ⟨trivial, by simp only [List.length_cons]; omega⟩
  · cases h
    exact ⟨trivial, by simp only [List.length_cons]; omega⟩
  · split at h
    · cases h
    · next literal after hliteral =>
        obtain ⟨hwellFormed, hlength⟩ := readLiteral_sound hliteral
        split at h
        · cases h
        · next hdigits =>
            cases h
            exact ⟨⟨hwellFormed, fun hinteger =>
              Nat.le_of_not_lt fun hlong => hdigits ⟨hinteger, hlong⟩⟩, hlength⟩

/-- A document that a reader of some depth yields. -/
def Read (depth : Nat) (doc : Doc Numeral) : Prop :=
  doc.all regular = true ∧ doc.depth ≤ depth

variable {doc : Doc Numeral}

theorem readScalar_sound (depth : Nat) (h : readScalar text = some (doc, rest)) :
    Read depth doc ∧ rest.length < text.length := by
  unfold readScalar at h
  split at h
  · obtain ⟨read, hread, heq⟩ := Option.map_eq_some_iff.mp h
    cases heq
    exact ⟨⟨rfl, Nat.zero_le _⟩, (readText_length hread).trans (Nat.lt_succ_self _)⟩
  · cases h
    exact ⟨⟨rfl, Nat.zero_le _⟩, by simp only [List.length_cons]; omega⟩
  · cases h
    exact ⟨⟨rfl, Nat.zero_le _⟩, by simp only [List.length_cons]; omega⟩
  · cases h
    exact ⟨⟨rfl, Nat.zero_le _⟩, by simp only [List.length_cons]; omega⟩
  · obtain ⟨read, hread, heq⟩ := Option.map_eq_some_iff.mp h
    cases heq
    obtain ⟨hvalid, hlength⟩ := readNumeral_sound hread
    exact ⟨⟨decide_eq_true hvalid, Nat.zero_le _⟩, hlength⟩

variable {key : Text}

theorem readKey_length
    (h : readKey text = some (key, rest)) : rest.length + 1 < text.length := by
  unfold readKey at h
  split at h
  · split at h
    · cases h
    · next after hread =>
        split at h
        · next later hcolon =>
            cases h
            have hkey := readText_length hread
            have hspace := length_skip after
            rw [hcolon] at hspace
            have hlast := length_skip later
            simp only [List.length_cons] at hspace ⊢
            omega
        · cases h
  · cases h

theorem keys_collect (entries : List (Text × Doc Numeral)) :
    ((collect entries).map Prod.fst).Nodup := by
  have hfold : ∀ entries held : List (Text × Doc Numeral), (held.map Prod.fst).Nodup →
      ((entries.foldl (fun held entry => setEntries entry.1 entry.2 held) held).map
        Prod.fst).Nodup := by
    intro entries
    induction entries with
    | nil => exact fun held hheld => hheld
    | cons entry rest ih =>
        intro held hheld
        refine ih _ ?_
        rw [Dict.keys_setEntries]
        split
        · exact hheld
        · next hfresh =>
            refine List.nodup_append.mpr ⟨hheld, List.nodup_singleton _, ?_⟩
            intro key hkey other hother heq
            rw [List.mem_singleton] at hother
            exact hfresh (hother ▸ heq ▸ hkey)
  exact hfold entries [] List.nodup_nil

theorem mem_setEntries {α : Type} {value : α} {entries : List (Text × α)}
    {entry : Text × α} (h : entry ∈ setEntries key value entries) :
    entry = (key, value) ∨ entry ∈ entries := by
  induction entries with
  | nil => exact Or.inl (List.mem_singleton.mp h)
  | cons first rest ih =>
      obtain ⟨name, old⟩ := first
      rw [setEntries] at h
      split at h
      · rcases List.mem_cons.mp h with rfl | hrest
        · exact Or.inl rfl
        · exact Or.inr (List.mem_cons_of_mem _ hrest)
      · rcases List.mem_cons.mp h with rfl | hrest
        · exact Or.inr List.mem_cons_self
        · rcases ih hrest with heq | hlater
          · exact Or.inl heq
          · exact Or.inr (List.mem_cons_of_mem _ hlater)

variable {entries : List (Text × Doc Numeral)}

theorem mem_collect {entry : Text × Doc Numeral}
    (h : entry ∈ collect entries) : entry ∈ entries := by
  have hfold : ∀ entries held : List (Text × Doc Numeral),
      entry ∈ entries.foldl (fun held entry => setEntries entry.1 entry.2 held) held →
        entry ∈ held ∨ entry ∈ entries := by
    intro entries
    induction entries with
    | nil => exact fun held hmem => Or.inl hmem
    | cons first rest ih =>
        intro held hmem
        rcases ih _ hmem with hset | hlater
        · rcases mem_setEntries hset with rfl | hheld
          · exact Or.inr List.mem_cons_self
          · exact Or.inl hheld
        · exact Or.inr (List.mem_cons_of_mem _ hlater)
  rcases hfold entries [] h with hnone | hmem
  · cases hnone
  · exact hmem

variable {depth : Nat} {items : List (Doc Numeral)}

theorem read_list
    (h : ∀ item ∈ items, Read depth item) : Read (depth + 1) (.list items) := by
  refine ⟨all_list.mpr fun item hmem => (h item hmem).1, ?_⟩
  rw [Doc.depth]
  exact Nat.succ_le_succ (depthOfItems_le.mpr fun item hmem => (h item hmem).2)

theorem read_dict
    (hkeys : (entries.map Prod.fst).Nodup) (h : ∀ entry ∈ entries, Read depth entry.2) :
    Read (depth + 1) (.dict entries) := by
  refine ⟨all_dict.mpr ⟨decide_eq_true hkeys, fun entry hmem => ⟨rfl, (h entry hmem).1⟩⟩, ?_⟩
  rw [Doc.depth]
  exact Nat.succ_le_succ (depthOfEntries_le.mpr fun entry hmem => (h entry hmem).2)

theorem reads_all (fuel : Nat) : (∀ depth text, Reads (2 * text.length + 1 ≤ fuel) (Read depth) text
      (readValue fuel depth text)) ∧ (∀ depth text, Reads (2 * text.length + 2 ≤ fuel)
      (fun items => ∀ item ∈ items, Read depth item) text (readItems fuel depth text)) ∧
    ∀ depth text, Reads (2 * text.length + 2 ≤ fuel)
      (fun entries => ∀ entry ∈ entries, Read depth entry.2) text
        (readEntries fuel depth text) := by
  induction fuel with
  | zero =>
      refine ⟨?_, ?_, ?_⟩
      · intro depth text
        rw [readValue]
        intro henough
        omega
      · intro depth text
        rw [readItems]
        intro henough
        omega
      · intro depth text
        rw [readEntries]
        intro henough
        omega
  | succ fuel ih =>
      obtain ⟨ihValue, ihItems, ihEntries⟩ := ih
      refine ⟨?_, ?_, ?_⟩
      · intro depth text
        unfold readValue
        split
        · next h => cases h
        · next fuel' depth' rest hfuel =>
            cases hfuel
            split
            · exact fun _ => by rintro ⟨⟩
            · next inner =>
                have hspace := length_skip rest
                split
                · next later hclose =>
                    rw [hclose] at hspace
                    refine ⟨⟨rfl, Nat.succ_le_succ (Nat.zero_le _)⟩, ?_⟩
                    simp only [List.length_cons] at hspace ⊢
                    omega
                · next hopen =>
                    have hitems := ihItems inner (skip rest)
                    split
                    · next unread heq =>
                        rw [heq] at hitems
                        intro henough
                        rw [List.length_cons] at henough
                        exact hitems (by omega)
                    · next items after heq =>
                        rw [heq] at hitems
                        refine ⟨read_list hitems.1, ?_⟩
                        have hlength := hitems.2
                        simp only [List.length_cons]
                        omega
        · next fuel' depth' rest hfuel =>
            cases hfuel
            split
            · exact fun _ => by rintro ⟨⟩
            · next inner =>
                have hspace := length_skip rest
                split
                · next later hclose =>
                    rw [hclose] at hspace
                    refine ⟨⟨rfl, Nat.succ_le_succ (Nat.zero_le _)⟩, ?_⟩
                    simp only [List.length_cons] at hspace ⊢
                    omega
                · next hopen =>
                    have hentries := ihEntries inner (skip rest)
                    split
                    · next unread heq =>
                        rw [heq] at hentries
                        intro henough
                        rw [List.length_cons] at henough
                        exact hentries (by omega)
                    · next entries after heq =>
                        rw [heq] at hentries
                        refine ⟨?_, ?_⟩
                        · exact read_dict (keys_collect entries) fun entry hmem =>
                            hentries.1 entry (mem_collect hmem)
                        · have hlength := hentries.2
                          simp only [List.length_cons]
                          omega
        · split
          · exact fun _ => by rintro ⟨⟩
          · next value rest hscalar => exact readScalar_sound _ hscalar
      · intro depth text
        rw [readItems]
        have hvalue := ihValue depth text
        split
        · next unread heq =>
            rw [heq] at hvalue
            exact fun henough => hvalue (by omega)
        · next item rest heq =>
            rw [heq] at hvalue
            have hspace := length_skip rest
            split
            · next later hcomma =>
                rw [hcomma] at hspace
                have hnext := length_skip later
                have hitems := ihItems depth (skip later)
                have hlength := hvalue.2
                simp only [List.length_cons] at hspace
                split
                · next unread heq =>
                    rw [heq] at hitems
                    exact fun henough => hitems (by omega)
                · next items after heq =>
                    rw [heq] at hitems
                    refine ⟨?_, ?_⟩
                    · exact List.forall_mem_cons.mpr ⟨hvalue.1, hitems.1⟩
                    · exact lt_of_lt_of_le hitems.2 (by omega)
            · next later hclose =>
                rw [hclose] at hspace
                have hlength := hvalue.2
                simp only [List.length_cons] at hspace
                refine ⟨?_, by omega⟩
                exact List.forall_mem_singleton.mpr hvalue.1
            · intro henough
              rintro ⟨⟩
      · intro depth text
        rw [readEntries]
        split
        · exact fun _ => by rintro ⟨⟩
        · next key start hkey =>
            have hstart := readKey_length hkey
            have hvalue := ihValue depth start
            split
            · next unread heq =>
                rw [heq] at hvalue
                exact fun henough => hvalue (by omega)
            · next value rest heq =>
                rw [heq] at hvalue
                have hspace := length_skip rest
                have hlength := hvalue.2
                split
                · next later hcomma =>
                    rw [hcomma] at hspace
                    have hnext := length_skip later
                    have hentries := ihEntries depth (skip later)
                    simp only [List.length_cons] at hspace
                    split
                    · next unread heq =>
                        rw [heq] at hentries
                        exact fun henough => hentries (by omega)
                    · next entries after heq =>
                        rw [heq] at hentries
                        refine ⟨?_, ?_⟩
                        · exact List.forall_mem_cons.mpr ⟨hvalue.1, hentries.1⟩
                        · exact lt_of_lt_of_le hentries.2 (by omega)
                · next later hclose =>
                    rw [hclose] at hspace
                    simp only [List.length_cons] at hspace
                    refine ⟨?_, by omega⟩
                    exact List.forall_mem_singleton.mpr hvalue.1
                · exact fun _ => by rintro ⟨⟩

/-- A document that is read has valid numerals and distinct keys, and is not too deep. -/
theorem readDoc_sound
    (h : readDoc depth text = .ok doc) : Read depth doc := by
  have hreads := (reads_all (2 * text.length + 1)).1 depth (skip text)
  unfold readDoc at h
  split at h
  · cases h
  · next value rest heq =>
      rw [heq] at hreads
      split at h
      · cases h
        exact hreads.1
      · cases h

/-! ## A printed document is read back -/

/-- What can be printed: besides what is read, texts without surrogates. -/
def printable : Test Numeral :=
  ⟨isPlain, fun numeral => decide numeral.Valid, fun keys => decide keys.Nodup⟩

/-- The first character of a value. -/
def BeginsValue (character : Char) : Prop :=
  isSpace character = false ∧ character ≠ ']' ∧ character ≠ '\x7d'

instance : DecidablePred BeginsValue := fun _ => inferInstanceAs (Decidable (_ ∧ _))

variable {character : Char}

theorem isDigit_cases (h : isDigit character = true) :
    character ∈ "0123456789".toList := by
  obtain ⟨hlow, hhigh⟩ := of_decide_eq_true h
  have hcode : character.toNat < 58 := Nat.lt_succ_of_le hhigh
  have hbound : 48 ≤ character.toNat := hlow
  have hall : ∀ code < 58, 48 ≤ code → Char.ofNat code ∈ "0123456789".toList := by decide
  have hmem := hall character.toNat hcode hbound
  rwa [Char.ofNat_toNat] at hmem

/-- A literal begins with a digit, or with a minus sign and a digit. -/
theorem printed_begins {literal : Literal} (h : literal.WellFormed) :
    ∃ first later, isDigit first = true ∧
      (literal.printed = first :: later ∨ literal.printed = '-' :: first :: later) := by
  unfold Literal.printed
  cases hwhole : literal.whole with
  | nil => exact absurd hwhole h.some_whole
  | cons first later =>
      have hfirst : isDigit first = true :=
        List.all_eq_true.mp h.whole first (hwhole ▸ List.mem_cons_self)
      refine ⟨first, later ++ ((if literal.fraction = [] then [] else
        '.' :: literal.fraction) ++ printedExponent literal.exponent), hfirst, ?_⟩
      cases literal.negative with
      | false => exact Or.inl rfl
      | true => exact Or.inr rfl

theorem readNumeral_printed (h : numeral.Valid)
    (hrest : Delimited rest) : readNumeral (numeral.printed ++ rest) = some (numeral, rest) := by
  cases numeral with
  | notANumber => rfl
  | infinity => rfl
  | minusInfinity => rfl
  | written literal =>
      obtain ⟨hwellFormed, hdigits⟩ := h
      have hread := readLiteral_printed hwellFormed hrest
      have hlong : ¬ (literal.isInteger = true ∧
          Numerals.maxDigits < literal.whole.length) := by
        rintro ⟨hinteger, hlong⟩
        exact Nat.not_lt.mpr (hdigits hinteger) hlong
      obtain ⟨first, later, hfirst, hbegins⟩ := printed_begins hwellFormed
      have hcases := isDigit_cases hfirst
      have hnone : readNumeral (literal.printed ++ rest) =
          match readLiteral (literal.printed ++ rest) with
          | none => none
          | some (literal, rest) =>
              if literal.isInteger = true ∧ Numerals.maxDigits < literal.whole.length then none
              else some (.written literal, rest) := by
        rcases hbegins with heq | heq
        · rw [heq, List.cons_append, readNumeral.eq_4]
          · intro more hword
            rw [(List.cons.inj hword).1] at hcases
            revert hcases
            decide
          · intro more hword
            rw [(List.cons.inj hword).1] at hcases
            revert hcases
            decide
          · intro more hword
            rw [(List.cons.inj hword).1] at hcases
            revert hcases
            decide
        · rw [heq, List.cons_append, List.cons_append, readNumeral.eq_4]
          · intro more hword
            exact absurd (List.cons.inj hword).1 (by decide)
          · intro more hword
            exact absurd (List.cons.inj hword).1 (by decide)
          · intro more hword
            rw [(List.cons.inj (List.cons.inj hword).2).1] at hcases
            revert hcases
            decide
      unfold Numeral.printed
      rw [hnone, hread]
      simp only
      rw [if_neg hlong]

theorem numeral_begins (h : numeral.Valid) :
    ∃ first later, numeral.printed = first :: later ∧ first ∈ "0123456789-NI".toList := by
  cases numeral with
  | notANumber => exact ⟨'N', ['a', 'N'], rfl, by decide⟩
  | infinity => exact ⟨'I', "nfinity".toList, rfl, by decide⟩
  | minusInfinity => exact ⟨'-', "Infinity".toList, rfl, by decide⟩
  | written literal =>
      obtain ⟨first, later, hfirst, heq | heq⟩ := printed_begins h.1
      · refine ⟨first, later, heq, ?_⟩
        have hdigit := isDigit_cases hfirst
        revert hdigit
        simp only [show "0123456789-NI".toList = "0123456789".toList ++ "-NI".toList from rfl]
        exact List.mem_append_left _
      · exact ⟨'-', first :: later, heq, by decide⟩

theorem readScalar_number (h : numeral.Valid) (hrest : Delimited rest) :
    readScalar (numeral.printed ++ rest) = some (.number numeral, rest) := by
  have hread := readNumeral_printed h hrest
  obtain ⟨first, later, heq, hfirst⟩ := numeral_begins h
  rw [heq, List.cons_append] at hread ⊢
  rw [readScalar.eq_5, hread]
  · rfl
  · intro more hword
    rw [(List.cons.inj hword).1] at hfirst
    revert hfirst
    decide
  · intro more hword
    rw [(List.cons.inj hword).1] at hfirst
    revert hfirst
    decide
  · intro more hword
    rw [(List.cons.inj hword).1] at hfirst
    revert hfirst
    decide
  · intro more hword
    rw [(List.cons.inj hword).1] at hfirst
    revert hfirst
    decide

theorem readScalar_text (rest : List Char) (h : isPlain content = true) :
    readScalar (quoted content ++ rest) = some (.text content, rest) := by
  unfold quoted
  rw [List.cons_append, List.append_assoc, List.singleton_append, readScalar, readText_quoted h]
  rfl

/-- A printed value begins with a character that begins values only. -/
theorem print_begins (level : Nat) (h : doc.all printable = true) :
    ∃ first later, print level doc = first :: later ∧ BeginsValue first := by
  cases doc with
  | null => exact ⟨'n', ['u', 'l', 'l'], rfl, by decide⟩
  | bool flag =>
      cases flag with
      | true => exact ⟨'t', ['r', 'u', 'e'], rfl, by decide⟩
      | false => exact ⟨'f', ['a', 'l', 's', 'e'], rfl, by decide⟩
  | number value =>
      obtain ⟨first, later, heq, hfirst⟩ := numeral_begins (of_decide_eq_true h)
      have hall : ∀ first ∈ "0123456789-NI".toList, BeginsValue first := by decide
      exact ⟨first, later, heq, hall first hfirst⟩
  | text content => exact ⟨'"', _, rfl, by decide⟩
  | list items =>
      cases items with
      | nil => exact ⟨'[', _, rfl, by decide⟩
      | cons item rest => exact ⟨'[', _, rfl, by decide⟩
  | dict entries =>
      cases entries with
      | nil => exact ⟨'\x7b', _, rfl, by decide⟩
      | cons entry rest => exact ⟨'\x7b', _, rfl, by decide⟩

theorem skip_newline (level : Nat) (h : isSpace character = false)
    (rest : List Char) : skip (newline level ++ character :: rest) = character :: rest := by
  have hspaces : ∀ space ∈ newline level, isSpace space = true := by
    intro space hmem
    rcases List.mem_cons.mp hmem with rfl | hblank
    · decide
    · rw [(List.mem_replicate.mp hblank).2]
      decide
  unfold skip
  rw [List.dropWhile_append_of_pos hspaces, List.dropWhile_cons_of_neg (by simp [h])]

theorem skip_cons (h : isSpace character = false) (rest : List Char) :
    skip (character :: rest) = character :: rest := by
  unfold skip
  rw [List.dropWhile_cons_of_neg (by simp [h])]

/-- A printed value is read back, wherever it ends. -/
def ReadsBack (doc : Doc Numeral) : Prop :=
  ∀ level depth fuel rest, doc.depth ≤ depth → 2 * (print level doc).length ≤ fuel →
    Delimited rest → readValue fuel depth (print level doc ++ rest) = .ok (doc, rest)

theorem delimited_newline (level : Nat) (rest : List Char) :
    Delimited (newline level ++ rest) := by
  rintro character ⟨⟩
  decide

theorem delimited_comma (rest : List Char) : Delimited (',' :: rest) := by
  rintro character ⟨⟩
  decide

theorem delimited_items (level : Nat) (items : List (Doc Numeral)) (rest : List Char) :
    Delimited (printItems level items ++ rest) := by
  cases items with
  | nil =>
      rw [printItems, List.append_assoc]
      exact delimited_newline level _
  | cons item others =>
      rw [printItems]
      exact delimited_comma _

theorem delimited_entries (level : Nat) (entries : List (Text × Doc Numeral))
    (rest : List Char) : Delimited (printEntries level entries ++ rest) := by
  cases entries with
  | nil =>
      rw [printEntries, List.append_assoc]
      exact delimited_newline level _
  | cons entry others =>
      obtain ⟨key, value⟩ := entry
      rw [printEntries]
      exact delimited_comma _

variable {fuel : Nat}

theorem readValue_scalar (hfuel : 0 < fuel) (hlist : ∀ more, text ≠ '[' :: more)
    (hdict : ∀ more, text ≠ '\x7b' :: more) (h : readScalar text = some (doc, rest)) :
    readValue fuel depth text = .ok (doc, rest) := by
  obtain ⟨less, rfl⟩ := Nat.exists_eq_succ_of_ne_zero hfuel.ne'
  unfold readValue
  split
  · next hzero => cases hzero
  · next more _ => exact absurd rfl (hlist more)
  · next more _ => exact absurd rfl (hdict more)
  · rw [h]

theorem readsBack_number {value : Numeral} (h : value.Valid) : ReadsBack (.number value) := by
  intro level depth fuel rest _ hfuel hrest
  have hread := readScalar_number h hrest
  obtain ⟨first, later, heq, hfirst⟩ := numeral_begins h
  have hlength : 0 < fuel := by
    rw [print, heq, List.length_cons] at hfuel
    omega
  refine readValue_scalar hlength ?_ ?_ hread
  · intro more hmore
    rw [print, heq] at hmore
    rw [(List.cons.inj hmore).1] at hfirst
    revert hfirst
    decide
  · intro more hmore
    rw [print, heq] at hmore
    rw [(List.cons.inj hmore).1] at hfirst
    revert hfirst
    decide

theorem readsBack_text (h : isPlain content = true) :
    ReadsBack (.text content) := by
  intro level depth fuel rest _ hfuel _
  have hlength : 0 < fuel := by
    rw [print, quoted, List.length_cons] at hfuel
    omega
  refine readValue_scalar hlength ?_ ?_ (readScalar_text rest h)
  · intro more hmore
    exact absurd (List.cons.inj hmore).1 (by decide)
  · intro more hmore
    exact absurd (List.cons.inj hmore).1 (by decide)

theorem length_printItems (level : Nat) (items : List (Doc Numeral)) :
    2 ≤ (printItems level items).length := by
  cases items with
  | nil =>
      rw [printItems, newline, List.cons_append, List.length_cons, List.length_append,
        List.length_singleton]
      omega
  | cons item rest =>
      rw [printItems, newline, List.cons_append, List.length_cons, List.length_cons]
      omega

theorem length_printEntries (level : Nat) (entries : List (Text × Doc Numeral)) :
    2 ≤ (printEntries level entries).length := by
  cases entries with
  | nil =>
      rw [printEntries, newline, List.cons_append, List.length_cons, List.length_append,
        List.length_singleton]
      omega
  | cons entry rest =>
      obtain ⟨key, value⟩ := entry
      rw [printEntries, newline, List.cons_append, List.length_cons, List.length_cons]
      omega

/-- The items of a list are read one after another, up to its end. -/
theorem readItems_print
    (h : ∀ item ∈ items, ReadsBack item ∧ item.all printable = true) (level depth : Nat)
    {item : Doc Numeral} (hitem : ReadsBack item) (hdepth : item.depth ≤ depth)
    (hdepths : ∀ item ∈ items, item.depth ≤ depth) (hsome :
      0 < (print (level + 1) item).length)
    (hfuel : 2 * ((print (level + 1) item).length + (printItems level items).length) ≤ fuel)
    (rest : List Char) :
    readItems fuel depth (print (level + 1) item ++ (printItems level items ++ rest)) =
      .ok (item :: items, rest) := by
  have hend := length_printItems level items
  induction items generalizing item fuel with
  | nil =>
      obtain ⟨less, rfl⟩ := Nat.exists_eq_succ_of_ne_zero (show fuel ≠ 0 by omega)
      rw [readItems, hitem _ _ _ _ hdepth (by omega) (delimited_items level [] rest)]
      simp only
      rw [printItems, List.append_assoc, List.singleton_append,
        skip_newline level (by decide)]
      rfl
  | cons next others ih =>
      obtain ⟨hnext, hothers⟩ := List.forall_mem_cons.mp h
      obtain ⟨hnextDepth, hotherDepths⟩ := List.forall_mem_cons.mp hdepths
      obtain ⟨less, rfl⟩ := Nat.exists_eq_succ_of_ne_zero (show fuel ≠ 0 by omega)
      obtain ⟨first, later, heq, hfirst⟩ := print_begins (level + 1) hnext.2
      have hpositive : 0 < (print (level + 1) next).length := by
        rw [heq]
        exact Nat.succ_pos _
      have henough : 2 * ((print (level + 1) next).length + (printItems level others).length) ≤
          less := by
        rw [printItems, List.length_cons, List.length_append, List.length_append] at hfuel
        omega
      have hlast := ih hothers hnext.1 hnextDepth hotherDepths hpositive henough
        (length_printItems level others)
      rw [readItems, hitem _ _ _ _ hdepth (by omega) (delimited_items level _ rest)]
      simp only
      rw [printItems, List.cons_append, skip_cons (by decide)]
      simp only
      have hskip : skip ((newline (level + 1) ++ (print (level + 1) next ++
          printItems level others)) ++ rest) =
            print (level + 1) next ++ (printItems level others ++ rest) := by
        rw [heq, List.append_assoc, List.append_assoc, List.cons_append, skip_newline _ hfirst.1]
      rw [hskip, hlast]

theorem readKey_print (h : isPlain key = true)
    (hcharacter : isSpace character = false) (rest : List Char) :
    readKey (quoted key ++ (':' :: ' ' :: character :: rest)) =
      some (key, character :: rest) := by
  have hspace : skip (' ' :: character :: rest) = character :: rest := by
    unfold skip
    rw [List.dropWhile_cons_of_pos (by decide), List.dropWhile_cons_of_neg (by simp [hcharacter])]
  unfold quoted
  rw [List.cons_append, List.append_assoc, List.singleton_append, readKey, readText_quoted h]
  simp only
  rw [skip_cons (by decide)]
  simp only
  rw [hspace]

variable {value : Doc Numeral}

/-- One entry is read, and what follows it decides how the object goes on. -/
theorem readEntries_entry (hkey : isPlain key = true)
    (hvalue : ReadsBack value) (hprintable : value.all printable = true) (level : Nat)
    (entries : List (Text × Doc Numeral)) (hdepth : value.depth ≤ depth)
    (hfuel : 2 * (print (level + 1) value).length ≤ fuel) (rest : List Char) :
    readEntries (fuel + 1) depth (quoted key ++ (':' :: ' ' ::
        (print (level + 1) value ++ (printEntries level entries ++ rest)))) =
      match skip (printEntries level entries ++ rest) with
      | ',' :: rest =>
          match readEntries fuel depth (skip rest) with
          | .error unread => .error unread
          | .ok (entries, rest) => .ok ((key, value) :: entries, rest)
      | '\x7d' :: rest => .ok ([(key, value)], rest)
      | _ => .error .invalid := by
  obtain ⟨first, later, heq, hfirst⟩ := print_begins (level + 1) hprintable
  have hread := hvalue (level + 1) depth fuel (printEntries level entries ++ rest) hdepth
    hfuel (delimited_entries level entries rest)
  rw [heq, List.cons_append] at hread ⊢
  rw [readEntries, readKey_print hkey hfirst.1]
  simp only
  rw [hread]

/-- The entries of an object are read one after another, up to its end. -/
theorem readEntries_print (h : ∀ entry ∈ entries, isPlain entry.1 = true ∧ ReadsBack entry.2 ∧
      entry.2.all printable = true) (level : Nat)
    (hkey : isPlain key = true) (hvalue : ReadsBack value)
    (hprintable : value.all printable = true) (hdepth : value.depth ≤ depth)
    (hdepths : ∀ entry ∈ entries, entry.2.depth ≤ depth)
    (hfuel : 2 * ((print (level + 1) value).length + (printEntries level entries).length) ≤ fuel)
    (rest : List Char) :
    readEntries fuel depth (quoted key ++ (':' :: ' ' :: (print (level + 1) value ++
        (printEntries level entries ++ rest)))) = .ok ((key, value) :: entries, rest) := by
  have hend := length_printEntries level entries
  induction entries generalizing key value fuel with
  | nil =>
      obtain ⟨less, rfl⟩ := Nat.exists_eq_succ_of_ne_zero (show fuel ≠ 0 by omega)
      rw [readEntries_entry hkey hvalue hprintable level _ hdepth (by omega), printEntries,
        List.append_assoc, List.singleton_append, skip_newline level (by decide)]
      rfl
  | cons next others ih =>
      obtain ⟨name, held⟩ := next
      obtain ⟨hnext, hothers⟩ := List.forall_mem_cons.mp h
      obtain ⟨hnextDepth, hotherDepths⟩ := List.forall_mem_cons.mp hdepths
      simp only at hnext hnextDepth
      obtain ⟨less, rfl⟩ := Nat.exists_eq_succ_of_ne_zero (show fuel ≠ 0 by omega)
      have henough : 2 * ((print (level + 1) held).length + (printEntries level others).length) ≤
          less := by
        rw [printEntries] at hfuel
        simp only [List.length_cons, List.length_append] at hfuel
        omega
      have hlast := ih hothers hnext.1 hnext.2.1 hnext.2.2 hnextDepth hotherDepths henough
        (length_printEntries level others)
      rw [readEntries_entry hkey hvalue hprintable level _ hdepth (by omega), printEntries,
        List.cons_append, skip_cons (by decide)]
      simp only
      have hskip : skip ((newline (level + 1) ++ (quoted name ++ (':' :: ' ' ::
          (print (level + 1) held ++ printEntries level others)))) ++ rest) =
            quoted name ++ (':' :: ' ' :: (print (level + 1) held ++
              (printEntries level others ++ rest))) := by
        rw [quoted]
        simp only [List.append_assoc, List.cons_append]
        exact skip_newline _ (by decide) _
      rw [hskip, hlast]

theorem collect_of_nodup
    (h : (entries.map Prod.fst).Nodup) : collect entries = entries := by
  have hfold : ∀ entries held : List (Text × Doc Numeral), ((held ++ entries).map Prod.fst).Nodup →
        entries.foldl (fun held entry => setEntries entry.1 entry.2 held) held =
          held ++ entries := by
    intro entries
    induction entries with
    | nil => exact fun held _ => (List.append_nil held).symm
    | cons entry rest ih =>
        intro held hnodup
        have hfresh : entry.1 ∉ held.map Prod.fst := by
          intro hmem
          rw [List.map_append, List.map_cons] at hnodup
          exact (List.nodup_append.mp hnodup).2.2 _ hmem _ List.mem_cons_self rfl
        rw [List.foldl_cons, Dict.setEntries_of_fresh hfresh, ih, List.append_assoc]
        · rfl
        · rw [List.append_assoc]
          exact hnodup
  exact hfold entries [] h

variable {first : Char} {later : List Char}

/-- The beginning of a list that is not empty. -/
theorem readValue_items (hfirst : BeginsValue first) (level depth fuel : Nat) :
    readValue (fuel + 1) (depth + 1) ('[' :: (newline level ++ first :: later)) =
      match readItems fuel depth (first :: later) with
      | .error unread => .error unread
      | .ok (items, rest) => .ok (.list items, rest) := by
  rw [readValue, skip_newline level hfirst.1]
  split
  · next more hmore => exact absurd (List.cons.inj hmore).1 hfirst.2.1
  · rfl

/-- The beginning of an object that is not empty. -/
theorem readValue_entries (hfirst : BeginsValue first) (level depth fuel : Nat) :
    readValue (fuel + 1) (depth + 1) ('\x7b' :: (newline level ++ first :: later)) =
      match readEntries fuel depth (first :: later) with
      | .error unread => .error unread
      | .ok (entries, rest) => .ok (.dict (collect entries), rest) := by
  rw [readValue, skip_newline level hfirst.1]
  split
  · next more hmore => exact absurd (List.cons.inj hmore).1 hfirst.2.2
  · rfl

theorem readsBack_list (h : ∀ item ∈ items, ReadsBack item ∧ item.all printable = true) :
    ReadsBack (.list items) := by
  intro level depth fuel rest hdepth hfuel hrest
  rw [Doc.depth] at hdepth
  obtain ⟨inner, rfl⟩ := Nat.exists_eq_succ_of_ne_zero (show depth ≠ 0 by omega)
  have hdepths := depthOfItems_le.mp (Nat.le_of_succ_le_succ hdepth)
  cases items with
  | nil =>
      obtain ⟨less, rfl⟩ := Nat.exists_eq_succ_of_ne_zero (show fuel ≠ 0 by
        rw [print] at hfuel
        simp only [List.length_cons, List.length_nil] at hfuel
        omega)
      rfl
  | cons item others =>
      obtain ⟨hitem, hothers⟩ := List.forall_mem_cons.mp h
      obtain ⟨hitemDepth, hotherDepths⟩ := List.forall_mem_cons.mp hdepths
      obtain ⟨first, later, heq, hfirst⟩ := print_begins (level + 1) hitem.2
      rw [print] at hfuel ⊢
      simp only [List.length_cons, List.length_append] at hfuel
      obtain ⟨less, rfl⟩ := Nat.exists_eq_succ_of_ne_zero (show fuel ≠ 0 by omega)
      have hitems := readItems_print hothers level inner hitem.1 hitemDepth hotherDepths
        (by rw [heq]; exact Nat.succ_pos _) (show 2 * ((print (level + 1) item).length +
          (printItems level others).length) ≤ less by omega) rest
      rw [heq, List.cons_append] at hitems
      rw [heq]
      simp only [List.cons_append, List.append_assoc]
      rw [readValue_items hfirst, hitems]

theorem readsBack_dict
    (hkeys : (entries.map Prod.fst).Nodup) (h : ∀ entry ∈ entries, isPlain entry.1 = true ∧
      ReadsBack entry.2 ∧ entry.2.all printable = true) : ReadsBack (.dict entries) := by
  intro level depth fuel rest hdepth hfuel hrest
  rw [Doc.depth] at hdepth
  obtain ⟨inner, rfl⟩ := Nat.exists_eq_succ_of_ne_zero (show depth ≠ 0 by omega)
  have hdepths := depthOfEntries_le.mp (Nat.le_of_succ_le_succ hdepth)
  cases entries with
  | nil =>
      obtain ⟨less, rfl⟩ := Nat.exists_eq_succ_of_ne_zero (show fuel ≠ 0 by
        rw [print] at hfuel
        simp only [List.length_cons, List.length_nil] at hfuel
        omega)
      rfl
  | cons entry others =>
      obtain ⟨key, value⟩ := entry
      obtain ⟨hentry, hothers⟩ := List.forall_mem_cons.mp h
      obtain ⟨hentryDepth, hotherDepths⟩ := List.forall_mem_cons.mp hdepths
      simp only at hentry hentryDepth
      rw [print] at hfuel ⊢
      simp only [List.length_cons, List.length_append] at hfuel
      obtain ⟨less, rfl⟩ := Nat.exists_eq_succ_of_ne_zero (show fuel ≠ 0 by omega)
      have hentries := readEntries_print hothers level hentry.1 hentry.2.1 hentry.2.2
        hentryDepth hotherDepths (show 2 * ((print (level + 1) value).length +
          (printEntries level others).length) ≤ less by omega) rest
      have hquote : BeginsValue '"' := by decide
      rw [quoted] at hentries ⊢
      simp only [List.cons_append, List.append_assoc] at hentries ⊢
      rw [readValue_entries hquote, hentries]
      simp only
      rw [collect_of_nodup hkeys]

/-- A word is read back. -/
theorem readsBack_word (hprint : ∀ level, print level doc = first :: later) (hlist : first ≠ '[')
    (hdict : first ≠ '\x7b')
    (hread : ∀ rest, readScalar (first :: (later ++ rest)) = some (doc, rest)) :
    ReadsBack doc := by
  intro level depth fuel rest _ hfuel _
  rw [hprint, List.length_cons] at hfuel
  rw [hprint, List.cons_append]
  refine readValue_scalar (by omega) ?_ ?_ (hread rest)
  · exact fun more hmore => hlist (List.cons.inj hmore).1
  · exact fun more hmore => hdict (List.cons.inj hmore).1

/-- A document that can be printed is read back. -/
theorem readsBack (h : doc.all printable = true) : ReadsBack doc := by
  induction doc using Doc.nested with
  | null => exact readsBack_word (fun _ => rfl) (by decide) (by decide) fun _ => rfl
  | bool flag =>
      cases flag with
      | true => exact readsBack_word (fun _ => rfl) (by decide) (by decide) fun _ => rfl
      | false => exact readsBack_word (fun _ => rfl) (by decide) (by decide) fun _ => rfl
  | number value => exact readsBack_number (of_decide_eq_true h)
  | text content => exact readsBack_text h
  | list items ih =>
      have hitems := all_list.mp h
      exact readsBack_list fun item hmem => ⟨ih item hmem (hitems item hmem), hitems item hmem⟩
  | dict entries ih =>
      obtain ⟨hkeys, hentries⟩ := all_dict.mp h
      refine readsBack_dict (of_decide_eq_true hkeys) fun entry hmem => ?_
      obtain ⟨hkey, hvalue⟩ := hentries entry hmem
      exact ⟨hkey, ih entry hmem hvalue, hvalue⟩

/-- The document that is printed is the one that is read. -/
theorem readDoc_print (h : doc.all printable = true)
    (hdepth : doc.depth ≤ depth) : readDoc depth (print 0 doc) = .ok doc := by
  obtain ⟨first, later, heq, hfirst⟩ := print_begins 0 h
  have hread := readsBack h 0 depth (2 * (print 0 doc).length + 1) [] hdepth
    (Nat.le_succ _) (by rintro character ⟨⟩)
  rw [List.append_nil] at hread
  have hskip : skip (print 0 doc) = print 0 doc := by
    rw [heq]
    exact skip_cons hfirst.1 later
  unfold readDoc
  rw [hskip, hread]
  rfl

end JsonText

end DodgingInfinity
