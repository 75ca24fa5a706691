import DodgingInfinity.GrokBot.DisplayInjective
import DodgingInfinity.TelegramOperator.Protocol

/-!
# The lines of a prompt

A prompt is lines of its own, and lines with the text of a target or of a human.  A
foreign line is quoted or canonical JSON, so no line of a prompt begins with a marker.
-/

namespace DodgingInfinity.CodexGateway

open Values LogicalLines TelegramOperator

/-! ## Own and foreign lines -/

inductive PromptLine where
  /-- A line of fixed words, numbers, digests and names of a closed list. -/
  | own (text : Text)
  /-- A line with the text of a target or of a human. -/
  | foreign (text : Text)

def PromptLine.text : PromptLine → Text
  | .own text => text
  | .foreign text => text

/-- The prompt, each of its lines ended. -/
def promptText (lines : List PromptLine) : Text :=
  (lines.map PromptLine.text).flatMap fun line => line ++ [lineFeed]

/-- A free text, each logical line of it quoted. -/
def quotedIntentLines (text : Text) : List PromptLine :=
  (split text).map fun line => .foreign (neutralizedLinePrefix ++ line)

def openingBrace : Text := [ofChar '\x7b']

/-- A line with foreign text is quoted, canonical JSON, or carries no marker. -/
def Harmless (families : List Text) (line : Text) : Prop :=
  neutralizedLinePrefix <+: line ∨ openingBrace <+: line ∨ ∀ family ∈ families, ¬ family <:+: line

/-- The text opens as no marker does, and has no terminator. -/
structure IsOwn (text : Text) : Prop where
  lineFree : LineFree text
  opens : ∃ first rest, text = first :: rest ∧ first ≠ ofChar 'D'

/-- The line is one line that no marker begins. -/
inductive IsContained : PromptLine → Prop
  | own {text : Text} (h : IsOwn text) : IsContained (.own text)
  | quoted {line : Text} (h : LineFree line) :
      IsContained (.foreign (neutralizedLinePrefix ++ line))
  | json {line : Text} (h : LineFree line) : IsContained (.foreign (openingBrace ++ line))

variable {line : PromptLine} {lines : List PromptLine} {text rest : Text}

theorem IsContained.lineFree (h : IsContained line) : LineFree line.text := by
  cases h with
  | own h => exact h.lineFree
  | quoted h =>
      have hquote : LineFree neutralizedLinePrefix := by
        unfold LineFree
        decide
      exact hquote.append h
  | json h =>
      have hbrace : LineFree openingBrace := by
        unfold LineFree
        decide
      exact hbrace.append h

theorem IsContained.unmarked (h : IsContained line) : line.text.head? ≠ some (ofChar 'D') := by
  cases h with
  | own h =>
      obtain ⟨first, rest, rfl, hfirst⟩ := h.opens
      exact fun hhead => hfirst (Option.some.inj hhead)
  | quoted _ =>
      have hquote : neutralizedLinePrefix = ofChar '>' :: [ofChar ' '] := rfl
      intro hhead
      rw [PromptLine.text, hquote, List.cons_append, List.head?_cons] at hhead
      exact absurd (Option.some.inj hhead) (by decide)
  | json _ =>
      intro hhead
      exact absurd (Option.some.inj hhead) (by decide : ofChar '\x7b' ≠ ofChar 'D')

/-- No line that opens otherwise begins with a marker. -/
theorem unmarked_prefix {family : Text} (hfamily : family.head? = some (ofChar 'D'))
    (h : text.head? ≠ some (ofChar 'D')) : ¬ family <+: text := by
  rintro ⟨tail, rfl⟩
  obtain ⟨others, rfl⟩ := List.head?_eq_some_iff.mp hfamily
  exact h rfl

/-- The lines of a prompt are the ones it was built from. -/
theorem split_promptText (h : ∀ line ∈ lines, IsContained line) :
    split (promptText lines) = lines.map PromptLine.text := by
  refine split_ended ?_
  intro text htext
  obtain ⟨line, hline, rfl⟩ := List.mem_map.mp htext
  exact (h line hline).lineFree

theorem IsContained.harmless (families : List Text) (h : IsContained (.foreign text)) :
    Harmless families text := by
  cases h with
  | quoted _ => exact Or.inl (List.prefix_append ..)
  | json _ => exact Or.inr (Or.inl (List.prefix_append ..))

theorem quotedIntentLines_contained : ∀ line ∈ quotedIntentLines text, IsContained line := by
  intro line hline
  obtain ⟨content, hcontent, rfl⟩ := List.mem_map.mp hline
  exact .quoted (lineFree_of_mem_split hcontent)

/-! ## Own texts -/

/-- A literal opens as no marker does. -/
def opensOwn (characters : List Char) : Bool :=
  characters.head?.any fun first => first != 'D'

theorem isOwn_literal (characters : List Char)
    (h : (opensOwn characters && characters.all fun character => ! endsLine character) = true) :
    IsOwn (ofString (String.ofList characters)) := by
  obtain ⟨hopens, hfree⟩ := Bool.and_eq_true_iff.mp h
  refine ⟨lineFree_literal characters hfree, ?_⟩
  cases characters with
  | nil => cases hopens
  | cons first rest =>
      refine ⟨ofChar first, rest.map ofChar, ?_, ?_⟩
      · simp [ofString]
      · intro hsame
        have hfirst := ofChar_injective hsame
        rw [hfirst] at hopens
        cases hopens

theorem IsOwn.append (h : IsOwn text) (hrest : LineFree rest) : IsOwn (text ++ rest) := by
  obtain ⟨first, others, rfl, hfirst⟩ := h.opens
  exact ⟨h.lineFree.append hrest, first, others ++ rest, rfl, hfirst⟩

/-- Pieces of a line: the first opens it, and none ends it. -/
theorem isOwn_pieces {first : String} {pieces : List String} (h : IsOwn (ofString first))
    (hpieces : ∀ piece ∈ pieces, LineFree (ofString piece)) :
    IsOwn ((first :: pieces).flatMap ofString) := by
  refine h.append ?_
  intro point hpoint
  obtain ⟨piece, hpiece, hmem⟩ := List.mem_flatMap.mp hpoint
  exact hpieces piece hpiece point hmem

/-! ## Canonical JSON lines -/

mutual

/-- The bits of every float of a value. -/
def floatsOf : Value → List (BitVec 64)
  | .float bits => [bits]
  | .list items => floatsOfItems items
  | .dict entries => floatsOfEntries entries
  | .null => []
  | .bool _ => []
  | .int _ => []
  | .text _ => []

def floatsOfItems : List Value → List (BitVec 64)
  | [] => []
  | item :: rest => floatsOf item ++ floatsOfItems rest

def floatsOfEntries : Entries → List (BitVec 64)
  | [] => []
  | (_, value) :: rest => floatsOf value ++ floatsOfEntries rest

end

instance (bits : BitVec 64) : Decidable (GrokBot.IsFinite bits) :=
  inferInstanceAs (Decidable (_ ≠ _))

/-- One line of canonical JSON; nothing for a value with a float that is no number. -/
def canonicalJsonLine [FloatText] (value : Value) : Option Text :=
  if ∀ bits ∈ floatsOf value, GrokBot.IsFinite bits then
    some (GrokBot.charsText (canonicalText value))
  else none

theorem mem_floatsOfItems {items : List Value} {bits : BitVec 64} :
    bits ∈ floatsOfItems items ↔ ∃ item ∈ items, bits ∈ floatsOf item := by
  induction items with
  | nil => simp [floatsOfItems]
  | cons item rest ih => simp [floatsOfItems, ih]

theorem mem_floatsOfEntries {entries : Entries} {bits : BitVec 64} :
    bits ∈ floatsOfEntries entries ↔ ∃ entry ∈ entries, bits ∈ floatsOf entry.2 := by
  induction entries with
  | nil => simp [floatsOfEntries]
  | cons entry rest ih =>
      obtain ⟨key, value⟩ := entry
      rw [floatsOfEntries, List.mem_append, ih]
      simp

/-- Sorted keys leave the floats. -/
theorem mem_floatsOf_sortKeys (value : Value) :
    ∀ bits, bits ∈ floatsOf (sortKeys value) ↔ bits ∈ floatsOf value := by
  induction value using Value.nested with
  | list items ih =>
      intro bits
      rw [sortKeys, sortItems_eq_map, floatsOf, floatsOf, mem_floatsOfItems, mem_floatsOfItems]
      constructor
      · rintro ⟨sorted, hsorted, hbits⟩
        obtain ⟨item, hitem, rfl⟩ := List.mem_map.mp hsorted
        exact ⟨item, hitem, (ih item hitem bits).mp hbits⟩
      · rintro ⟨item, hitem, hbits⟩
        exact ⟨sortKeys item, List.mem_map_of_mem hitem, (ih item hitem bits).mpr hbits⟩
  | dict entries ih =>
      intro bits
      have hperm := Sorting.sortedOn_perm Prod.fst (sortEntries entries)
      rw [sortKeys, floatsOf, floatsOf, mem_floatsOfEntries, mem_floatsOfEntries]
      constructor
      · rintro ⟨sorted, hsorted, hbits⟩
        rw [hperm.mem_iff, sortEntries_eq_map] at hsorted
        obtain ⟨entry, hentry, rfl⟩ := List.mem_map.mp hsorted
        exact ⟨entry, hentry, (ih entry hentry bits).mp hbits⟩
      · rintro ⟨entry, hentry, hbits⟩
        refine ⟨(entry.1, sortKeys entry.2), ?_, (ih entry hentry bits).mpr hbits⟩
        rw [hperm.mem_iff, sortEntries_eq_map]
        exact List.mem_map_of_mem hentry
  | _ => exact fun _ => Iff.rfl

/-- A character that ASCII prints. -/
def IsPrinted (character : Char) : Prop := 0x20 ≤ character.toNat ∧ character.toNat ≤ 0x7E

instance (character : Char) : Decidable (IsPrinted character) :=
  inferInstanceAs (Decidable (_ ∧ _))

theorem IsPrinted.not_terminator {character : Char} (h : IsPrinted character) :
    ¬ IsTerminator (ofChar character) := by
  intro hends
  have hplain : ∀ point ∈ terminators, point.val < 0x20 ∨ 0x7E < point.val := by decide
  have hpoint := hplain _ hends
  unfold IsPrinted at h
  simp only [ofChar] at hpoint
  omega

theorem printed_escapeUnit (unit : Nat) : ∀ character ∈ escapeUnit unit, IsPrinted character := by
  have hdigits : ∀ digit < 16, IsPrinted (Nat.digitChar digit) := by decide
  have hshort : ∀ escape ∈ shortEscapes, IsPrinted escape.2 := by decide
  have hunits : ∀ unit < 0x7F, 0x20 ≤ unit → IsPrinted (Char.ofNat unit) := by decide
  unfold escapeUnit
  split
  · rename_i escape hescape
    simp only [List.forall_mem_cons]
    exact ⟨by decide, hshort escape (List.mem_of_find?_eq_some hescape), by simp⟩
  · split
    · rename_i hplain
      simp only [List.forall_mem_cons]
      exact ⟨hunits unit (by omega) hplain.1, by simp⟩
    · simp only [hexDigits, List.forall_mem_cons]
      exact ⟨by decide, by decide, hdigits _ (by omega), hdigits _ (by omega),
        hdigits _ (by omega), hdigits _ (by omega), by simp⟩

theorem printed_quoted (text : Text) : ∀ character ∈ quoted text, IsPrinted character := by
  intro character hmem
  rcases List.mem_cons.mp hmem with rfl | hrest
  · decide
  · rcases List.mem_append.mp hrest with hescaped | hend
    · obtain ⟨unit, -, hunit⟩ := List.mem_flatMap.mp hescaped
      exact printed_escapeUnit unit character hunit
    · obtain rfl := List.mem_singleton.mp hend
      decide

theorem printed_floatCharacters : ∀ character ∈ GrokBot.floatCharacters, IsPrinted character := by
  decide

/-- The characters of items after the first. -/
theorem mem_renderItems [FloatText] {items : List Value} {character : Char}
    (h : character ∈ renderItems items) :
    character = ']' ∨ character = ',' ∨ ∃ item ∈ items, character ∈ render item := by
  induction items with
  | nil => exact Or.inl (List.mem_singleton.mp h)
  | cons item rest ih =>
      rw [renderItems] at h
      rcases List.mem_cons.mp h with hcomma | hmem
      · exact Or.inr (Or.inl hcomma)
      · rcases List.mem_append.mp hmem with hitem | hrest
        · exact Or.inr (Or.inr ⟨item, List.mem_cons_self .., hitem⟩)
        · rcases ih hrest with hend | hcomma | ⟨held, hheld, hin⟩
          · exact Or.inl hend
          · exact Or.inr (Or.inl hcomma)
          · exact Or.inr (Or.inr ⟨held, List.mem_cons_of_mem _ hheld, hin⟩)

/-- The characters of an entry: its key, a colon, and its value. -/
theorem printed_entry [FloatText] {key : Text} {value : Value}
    (hvalue : ∀ character ∈ render value, IsPrinted character) :
    ∀ character ∈ quoted key ++ ':' :: render value, IsPrinted character := by
  intro character hmem
  rcases List.mem_append.mp hmem with hkey | hrest
  · exact printed_quoted key character hkey
  · rcases List.mem_cons.mp hrest with rfl | hin
    · decide
    · exact hvalue character hin

theorem entry_append {key : Text} (value rest : List Char) :
    quoted key ++ ':' :: (value ++ rest) = (quoted key ++ ':' :: value) ++ rest := by
  simp

theorem mem_renderEntries [FloatText] {entries : Entries} {character : Char}
    (h : character ∈ renderEntries entries) : character = '\x7d' ∨ character = ',' ∨
      ∃ entry ∈ entries, character ∈ quoted entry.1 ++ ':' :: render entry.2 := by
  induction entries with
  | nil => exact Or.inl (List.mem_singleton.mp h)
  | cons entry rest ih =>
      obtain ⟨key, value⟩ := entry
      rw [renderEntries, entry_append] at h
      rcases List.mem_cons.mp h with hcomma | hmem
      · exact Or.inr (Or.inl hcomma)
      · rcases List.mem_append.mp hmem with hentry | hrest
        · exact Or.inr (Or.inr ⟨(key, value), List.mem_cons_self .., hentry⟩)
        · rcases ih hrest with hend | hcomma | ⟨held, hheld, hin⟩
          · exact Or.inl hend
          · exact Or.inr (Or.inl hcomma)
          · exact Or.inr (Or.inr ⟨held, List.mem_cons_of_mem _ hheld, hin⟩)

section

variable [GrokBot.FloatReads]

/-- Canonical JSON is printed ASCII. -/
theorem printed_render (value : Value) : (∀ bits ∈ floatsOf value, GrokBot.IsFinite bits) →
      ∀ character ∈ render value, IsPrinted character := by
  induction value using Value.nested with
  | null =>
      intro _
      simp only [render]
      decide
  | bool flag =>
      intro _
      cases flag <;> simp only [render] <;> decide
  | int number =>
      intro _ character hmem
      exact printed_floatCharacters character (GrokBot.decimal_mem number character hmem)
  | float bits =>
      intro hfinite character hmem
      exact printed_floatCharacters character
        (GrokBot.FloatReads.plain bits (hfinite bits (List.mem_singleton_self _)) character hmem)
  | text content => exact fun _ => printed_quoted content
  | list items ih =>
      intro hfinite character hmem
      have hitem : ∀ item ∈ items, ∀ held ∈ render item, IsPrinted held := fun item hin =>
        ih item hin fun bits hbits => hfinite bits (mem_floatsOfItems.mpr ⟨item, hin, hbits⟩)
      cases items with
      | nil =>
          revert character
          simp only [render]
          decide
      | cons first rest =>
          rw [render] at hmem
          rcases List.mem_cons.mp hmem with rfl | hin
          · decide
          · rcases List.mem_append.mp hin with hfirst | hrest
            · exact hitem first (List.mem_cons_self ..) character hfirst
            · rcases mem_renderItems hrest with rfl | rfl | ⟨item, hlater, hheld⟩
              · decide
              · decide
              · exact hitem item (List.mem_cons_of_mem _ hlater) character hheld
  | dict entries ih =>
      intro hfinite character hmem
      have hentry : ∀ entry ∈ entries, ∀ held ∈ quoted entry.1 ++ ':' :: render entry.2,
          IsPrinted held := fun entry hin => printed_entry
        (ih entry hin fun bits hbits => hfinite bits (mem_floatsOfEntries.mpr ⟨entry, hin, hbits⟩))
      cases entries with
      | nil =>
          revert character
          simp only [render]
          decide
      | cons first rest =>
          obtain ⟨key, value⟩ := first
          rw [render, entry_append] at hmem
          rcases List.mem_cons.mp hmem with rfl | hin
          · decide
          · rcases List.mem_append.mp hin with hfirst | hrest
            · exact hentry (key, value) (List.mem_cons_self ..) character hfirst
            · rcases mem_renderEntries hrest with rfl | rfl | ⟨entry, hlater, hheld⟩
              · decide
              · decide
              · exact hentry entry (List.mem_cons_of_mem _ hlater) character hheld

/-- A canonical JSON line of an object begins with its brace and is one line. -/
theorem canonicalJsonLine_contained {entries : Entries} {line : Text}
    (h : canonicalJsonLine (.dict entries) = some line) : IsContained (.foreign line) := by
  unfold canonicalJsonLine at h
  split at h
  · rename_i hfinite
    obtain rfl := Option.some.inj h
    have hprinted := printed_render (sortKeys (.dict entries)) fun bits hbits =>
      hfinite bits ((mem_floatsOf_sortKeys _ bits).mp hbits)
    have hopens : ∃ rest, canonicalText (.dict entries) = '\x7b' :: rest := by
      rw [canonicalText, sortKeys]
      cases Sorting.sortedOn Prod.fst (sortEntries entries) with
      | nil => exact ⟨_, rfl⟩
      | cons first rest => exact ⟨_, rfl⟩
    obtain ⟨rest, hrest⟩ := hopens
    have hbrace : GrokBot.charsText (canonicalText (.dict entries)) =
        openingBrace ++ GrokBot.charsText rest := by
      rw [hrest]
      rfl
    rw [hbrace]
    refine .json ?_
    intro point hpoint hends
    obtain ⟨character, hcharacter, rfl⟩ := List.mem_map.mp hpoint
    have hin : character ∈ canonicalText (.dict entries) := by
      rw [hrest]
      exact List.mem_cons_of_mem _ hcharacter
    exact (hprinted character hin).not_terminator hends
  · cases h

end

end DodgingInfinity.CodexGateway
