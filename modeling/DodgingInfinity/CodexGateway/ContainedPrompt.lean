import DodgingInfinity.CodexGateway.RolePrompt

/-!
# Prompts contain what they quote

Every own line opens as no marker does, whatever is filled in, and every foreign line is
quoted or canonical JSON.
-/

namespace DodgingInfinity.CodexGateway

open Values LogicalLines TelegramOperator
open WorkflowAuthority (TurnRole IsHex hexAlphabet)

/-! ## What is filled into own lines -/

theorem lineFree_of_printed {text : String}
    (h : ∀ character ∈ text.toList, IsPrinted character) : LineFree (ofString text) := by
  intro point hpoint hends
  obtain ⟨character, hcharacter, rfl⟩ := List.mem_map.mp hpoint
  exact (h character hcharacter).not_terminator hends

theorem lineFree_digest (digest : HexDigest) : LineFree (ofString digest.val) := by
  have hhex : ∀ character ∈ hexAlphabet, IsPrinted character := by decide +kernel
  exact lineFree_of_printed fun character hcharacter =>
    hhex character (digest.property.2 character hcharacter)

theorem lineFree_toString (number : Nat) : LineFree (ofString (toString number)) := by
  refine lineFree_of_printed fun character hcharacter => ?_
  have hdigits : (toString number).toList = Nat.toDigits 10 number := by
    simp
  rw [hdigits] at hcharacter
  have hdigit := isDigit_toDigits character hcharacter
  have hrange : 48 ≤ character.toNat ∧ character.toNat ≤ 57 := by
    simpa [Char.isDigit, UInt32.le_iff_toNat_le] using hdigit
  unfold IsPrinted
  omega

theorem roleText_lineFree (role : TurnRole) : LineFree (ofString (roleText role)) := by
  cases role <;> exact lineFree_literal _ rfl

/-! ## Own lines -/

/-- An own line is contained if its first piece opens it and its pieces are one line. -/
theorem words_contained {first : String} {pieces : List String} (h : IsOwn (ofString first))
    (hpieces : ∀ piece ∈ pieces, LineFree (ofString piece)) :
    IsContained (words (first :: pieces)) :=
  .own (isOwn_pieces h hpieces)

theorem rolePromptHeader_contained (role : TurnRole) :
    ∀ line ∈ rolePromptHeader role, IsContained line := by
  simp only [rolePromptHeader, List.forall_mem_cons]
  refine ⟨words_contained (isOwn_literal _ rfl) ?_,
    words_contained (isOwn_literal _ rfl) ?_, by simp⟩
  · simp only [List.forall_mem_cons]
    exact ⟨roleText_lineFree role, lineFree_literal _ (by decide), by simp⟩
  · simp only [List.forall_mem_cons]
    refine ⟨?_, ?_, ?_, by simp⟩
    all_goals exact lineFree_literal _ rfl

theorem respondOnce_lineFree : ∀ piece ∈ respondOnce, LineFree (ofString piece) := by
  simp only [respondOnce, List.forall_mem_cons]
  refine ⟨?_, ?_, ?_, ?_, ?_, ?_, ?_, by simp⟩
  all_goals exact lineFree_literal _ rfl

/-- Pieces before and after the fixed answer grammar. -/
theorem answer_contained {first : String} {before after : List String}
    (h : IsOwn (ofString first)) (hbefore : ∀ piece ∈ before, LineFree (ofString piece))
    (hafter : ∀ piece ∈ after, LineFree (ofString piece)) :
    IsContained (words (first :: before ++ respondOnce ++ after)) := by
  rw [List.append_assoc, List.cons_append]
  refine words_contained h ?_
  intro piece hpiece
  rcases List.mem_append.mp hpiece with hin | hlater
  · exact hbefore piece hin
  · rcases List.mem_append.mp hlater with hin | hin
    · exact respondOnce_lineFree piece hin
    · exact hafter piece hin

theorem roleInstructions_contained (role : TurnRole) :
    ∀ line ∈ roleInstructions role, IsContained line := by
  cases role with
  | planning =>
      simp only [roleInstructions, List.forall_mem_cons]
      refine ⟨words_contained (isOwn_literal _ rfl) ?_, by simp⟩
      simp only [List.forall_mem_cons]
      repeat' apply And.intro
      all_goals first
        | exact lineFree_literal _ rfl
        | simp
  | prepare =>
      rw [roleInstructions, List.forall_mem_cons]
      refine ⟨answer_contained (isOwn_literal _ rfl) ?_ ?_, by simp⟩
      · simp only [List.forall_mem_cons]
        repeat' apply And.intro
        all_goals first
          | exact lineFree_literal _ rfl
          | simp
      · simp only [List.forall_mem_cons]
        repeat' apply And.intro
        all_goals first
          | exact lineFree_literal _ rfl
          | simp
  | handoffValidation =>
      rw [roleInstructions, List.forall_mem_cons]
      refine ⟨answer_contained (isOwn_literal _ rfl) ?_ ?_, by simp⟩
      · simp only [List.forall_mem_cons]
        repeat' apply And.intro
        all_goals first
          | exact lineFree_literal _ rfl
          | simp
      · simp only [List.forall_mem_cons]
        repeat' apply And.intro
        all_goals first
          | exact lineFree_literal _ rfl
          | simp
  | statusRecovery =>
      rw [roleInstructions, List.forall_mem_cons]
      refine ⟨answer_contained (isOwn_literal _ rfl) ?_ ?_, by simp⟩
      · simp only [List.forall_mem_cons]
        repeat' apply And.intro
        all_goals first
          | exact lineFree_literal _ rfl
          | simp
      · simp only [List.forall_mem_cons]
        repeat' apply And.intro
        all_goals first
          | exact lineFree_literal _ rfl
          | simp
  | verification =>
      simp only [roleInstructions, List.forall_mem_cons]
      refine ⟨words_contained (isOwn_literal _ rfl) ?_, words_contained (isOwn_literal _ rfl) ?_,
        words_contained (isOwn_literal _ rfl) ?_,
        words_contained (isOwn_literal _ rfl) ?_, by simp⟩
      · simp only [List.forall_mem_cons]
        repeat' apply And.intro
        all_goals first
          | exact lineFree_literal _ rfl
          | simp
      · simp only [List.forall_mem_cons]
        repeat' apply And.intro
        all_goals first
          | exact lineFree_literal _ rfl
          | simp
      · simp only [List.forall_mem_cons]
        repeat' apply And.intro
        all_goals first
          | exact lineFree_literal _ rfl
          | simp
      · intro piece hpiece
        rcases List.mem_append.mp hpiece with hin | hafter
        · exact respondOnce_lineFree piece (List.mem_cons_of_mem _ hin)
        · clear hpiece
          revert piece
          simp only [List.forall_mem_cons]
          repeat' apply And.intro
          all_goals first
            | exact lineFree_literal _ rfl
            | simp
  | followUp =>
      simp only [roleInstructions, List.forall_mem_cons]
      refine ⟨words_contained (isOwn_literal _ rfl) ?_, by simp⟩
      simp only [List.forall_mem_cons]
      repeat' apply And.intro
      all_goals first
        | exact lineFree_literal _ rfl
        | simp

/-! ## The target's instructions -/

theorem header_contained (item : InstructionItem) : IsContained item.header := by
  refine words_contained (isOwn_literal _ (by decide)) ?_
  rw [List.forall_mem_cons]
  constructor
  · cases item.file <;> exact lineFree_literal _ (by decide)
  · cases item.reading with
    | read byteCount digest text =>
        simp only [InstructionReading.words, List.forall_mem_cons]
        exact ⟨lineFree_literal _ (by decide), lineFree_toString byteCount,
          lineFree_literal _ (by decide), lineFree_digest digest, lineFree_literal _ (by decide),
          by simp⟩
    | refusedNonUtf8 byteCount digest =>
        simp only [InstructionReading.words, List.forall_mem_cons]
        exact ⟨lineFree_literal _ rfl, lineFree_toString byteCount,
          lineFree_literal _ (by decide), lineFree_digest digest,
          lineFree_literal _ rfl, by simp⟩
    | refusedNotARegularFile =>
        simp only [InstructionReading.words, List.forall_mem_cons]
        exact ⟨lineFree_literal _ rfl, lineFree_literal _ rfl,
          by simp⟩
    | refusedHardlink =>
        simp only [InstructionReading.words, List.forall_mem_cons]
        exact ⟨lineFree_literal _ rfl, lineFree_literal _ rfl,
          by simp⟩
    | _ =>
        simp only [InstructionReading.words, List.forall_mem_cons]
        exact ⟨lineFree_literal _ rfl, by simp⟩

theorem renderTargetInstructions_contained (targetContext : List InstructionItem) :
    ∀ line ∈ renderTargetInstructions targetContext, IsContained line := by
  have hdelimiter : IsContained targetInstructionsDelimiter := by
    refine words_contained (isOwn_literal _ rfl) ?_
    simp only [List.forall_mem_cons]
    refine ⟨?_, ?_, ?_, by simp⟩
    all_goals exact lineFree_literal _ rfl
  intro line hline
  rcases List.mem_cons.mp hline with rfl | hitems
  · exact hdelimiter
  · obtain ⟨item, -, hitem⟩ := List.mem_flatMap.mp hitems
    rcases List.mem_cons.mp hitem with rfl | hcontent
    · exact header_contained item
    · unfold InstructionItem.content at hcontent
      split at hcontent
      · exact quotedIntentLines_contained line hcontent
      · cases hcontent

section

variable [GrokBot.FloatReads] {value : Value} {line : PromptLine} {lines : List PromptLine}

/-! ## Lines of JSON -/

/-- The value is an object. -/
def IsObject (value : Value) : Prop := ∃ entries, value = .dict entries

theorem jsonLine_contained (hvalue : IsObject value) (h : jsonLine value = some line) :
    IsContained line := by
  obtain ⟨entries, rfl⟩ := hvalue
  obtain ⟨text, htext, rfl⟩ := Option.map_eq_some_iff.mp h
  exact canonicalJsonLine_contained htext

omit [GrokBot.FloatReads] in
theorem projected_object {keys : List String} {held : Value}
    (h : projected value keys = some held) : IsObject held := by
  unfold projected at h
  split at h
  · obtain rfl := Option.some.inj h
    exact ⟨_, rfl⟩
  · cases h

omit [GrokBot.FloatReads] in
theorem boundedContext_object {context : Value} (h : boundedContext value = some context) :
    IsObject context := by
  unfold boundedContext at h
  iterate 22 obtain ⟨_, -, h⟩ := Option.bind_eq_some_iff.mp h
  obtain rfl := Option.some.inj h
  exact ⟨_, rfl⟩

theorem renderTargetObservation_contained (h : renderTargetObservation value = some lines) :
    ∀ line ∈ lines, IsContained line := by
  unfold renderTargetObservation at h
  obtain ⟨held, hheld, h⟩ := Option.bind_eq_some_iff.mp h
  obtain ⟨json, hjson, h⟩ := Option.bind_eq_some_iff.mp h
  obtain rfl := Option.some.inj h
  simp only [List.forall_mem_cons]
  refine ⟨words_contained (isOwn_literal _ rfl) ?_,
    jsonLine_contained (projected_object hheld) hjson, by simp⟩
  simp only [List.forall_mem_cons]
  refine ⟨?_, ?_, ?_, by simp⟩
  all_goals exact lineFree_literal _ rfl

/-! ## The verification evidence -/

omit [GrokBot.FloatReads] in
theorem bindingNames_lineFree : ∀ binding ∈ evidenceBindings, LineFree (ofString binding.name) ∧
      IsOwn (ofString binding.name) ∧ ∀ key ∈ binding.textKeys, LineFree (ofString key) := by
  simp only [evidenceBindings, List.forall_mem_cons]
  repeat' apply And.intro
  all_goals first
    | exact lineFree_literal _ rfl
    | exact isOwn_literal _ rfl
    | simp

omit [GrokBot.FloatReads] in
theorem evidenceStatusLines_lineFree :
    ∀ status ∈ evidenceStatusLines, ∀ piece ∈ status.2, LineFree (ofString piece) := by
  simp only [evidenceStatusLines, List.forall_mem_cons]
  repeat' apply And.intro
  all_goals first
    | exact lineFree_literal _ rfl
    | simp

omit [GrokBot.FloatReads] in
theorem evidenceHeader_contained {binding : EvidenceBinding} {status : Value}
    (hbinding : binding ∈ evidenceBindings) (h : binding.header status = some line) :
    IsContained line := by
  obtain ⟨words, hwords, rfl⟩ := Option.map_eq_some_iff.mp h
  refine words_contained (isOwn_literal _ rfl) ?_
  rw [List.forall_mem_cons]
  exact ⟨(bindingNames_lineFree binding hbinding).1,
    evidenceStatusLines_lineFree words (List.mem_of_find?_eq_some hwords)⟩

omit [GrokBot.FloatReads] in
theorem quotedSection_contained {name key : String} (hname : IsOwn (ofString name))
    (hkey : LineFree (ofString key)) :
    ∀ line ∈ quotedSection name key value, IsContained line := by
  intro line hline
  unfold quotedSection at hline
  split at hline
  · cases hline
  · rcases List.mem_cons.mp hline with rfl | hquoted
    · refine words_contained hname ?_
      simp only [List.forall_mem_cons]
      exact ⟨lineFree_literal _ (by decide), hkey, lineFree_literal _ (by decide), by simp⟩
    · exact quotedIntentLines_contained line hquoted
  · cases hline

theorem bindingLines_contained {binding : EvidenceBinding} (hbinding : binding ∈ evidenceBindings)
    (h : binding.lines value = some lines) : ∀ line ∈ lines, IsContained line := by
  unfold EvidenceBinding.lines at h
  obtain ⟨held, -, h⟩ := Option.bind_eq_some_iff.mp h
  obtain ⟨status, -, h⟩ := Option.bind_eq_some_iff.mp h
  obtain ⟨header, hheader, h⟩ := Option.bind_eq_some_iff.mp h
  obtain ⟨fields, hfields, h⟩ := Option.bind_eq_some_iff.mp h
  obtain ⟨json, hjson, h⟩ := Option.bind_eq_some_iff.mp h
  obtain rfl := Option.some.inj h
  intro line hline
  rcases List.mem_cons.mp hline with rfl | hrest
  · exact evidenceHeader_contained hbinding hheader
  · rcases List.mem_cons.mp hrest with rfl | htexts
    · exact jsonLine_contained (projected_object hfields) hjson
    · obtain ⟨key, hkey, hmem⟩ := List.mem_flatMap.mp htexts
      have hnames := bindingNames_lineFree binding hbinding
      exact quotedSection_contained hnames.2.1 (hnames.2.2 key hkey) line hmem

omit [GrokBot.FloatReads] in
theorem completenessWord_lineFree {word : String} (h : completenessWord value = some word) :
    LineFree (ofString word) := by
  have hwords : ∀ word ∈ completenessValues, LineFree (ofString word) := by
    simp only [completenessValues, List.forall_mem_cons]
    exact ⟨lineFree_literal _ (by decide), lineFree_literal _ (by decide), by simp⟩
  unfold completenessWord at h
  split at h
  · obtain rfl := Option.some.inj h
    exact lineFree_literal _ (by decide)
  · exact hwords word (List.mem_of_find?_eq_some h)

omit [GrokBot.FloatReads] in
theorem evidenceDelimiter_contained : IsContained evidenceDelimiter := by
  refine words_contained (isOwn_literal _ rfl) ?_
  simp only [List.forall_mem_cons]
  refine ⟨?_, ?_, ?_, ?_, by simp⟩
  all_goals exact lineFree_literal _ rfl

omit [GrokBot.FloatReads] in
theorem evidenceOpening_contained {projection observed : String}
    (hprojection : LineFree (ofString projection)) (hobserved : LineFree (ofString observed)) :
    ∀ line ∈ [evidenceDelimiter, words (projectionCompletenessLabel ++ [projection]),
      words (observationCompletenessLabel ++ [observed]), evidenceCompletenessNote],
      IsContained line := by
  rw [List.forall_mem_cons, List.forall_mem_cons, List.forall_mem_cons, List.forall_mem_cons]
  refine ⟨evidenceDelimiter_contained, ?_, ?_, ?_, by simp⟩
  · rw [projectionCompletenessLabel, List.cons_append]
    refine words_contained (isOwn_literal _ rfl) ?_
    simp only [List.cons_append, List.nil_append, List.forall_mem_cons]
    exact ⟨lineFree_literal _ rfl, lineFree_literal _ rfl,
      hprojection, by simp⟩
  · rw [observationCompletenessLabel, List.cons_append]
    refine words_contained (isOwn_literal _ rfl) ?_
    simp only [List.cons_append, List.nil_append, List.forall_mem_cons]
    exact ⟨lineFree_literal _ rfl, lineFree_literal _ rfl,
      hobserved, by simp⟩
  · refine words_contained (isOwn_literal _ rfl) ?_
    simp only [List.forall_mem_cons]
    refine ⟨?_, ?_, ?_, by simp⟩
    all_goals exact lineFree_literal _ rfl

omit [GrokBot.FloatReads] in
/-- What each of the rendered sections is of. -/
theorem mem_mapM_some {α β : Type} {f : α → Option β} {items : List α} {held : List β}
    (h : items.mapM f = some held) : ∀ value ∈ held, ∃ item ∈ items, f item = some value := by
  induction items generalizing held with
  | nil =>
      obtain rfl := Option.some.inj h
      simp
  | cons item rest ih =>
      rw [List.mapM_cons] at h
      obtain ⟨first, hfirst, h⟩ := Option.bind_eq_some_iff.mp h
      obtain ⟨others, hothers, h⟩ := Option.bind_eq_some_iff.mp h
      obtain rfl := Option.some.inj h
      intro value hvalue
      rcases List.mem_cons.mp hvalue with rfl | hlater
      · exact ⟨item, List.mem_cons_self .., hfirst⟩
      · obtain ⟨held, hheld, heq⟩ := ih hothers value hlater
        exact ⟨held, List.mem_cons_of_mem _ hheld, heq⟩

theorem renderVerificationEvidence_contained (h : renderVerificationEvidence value = some lines) :
    ∀ line ∈ lines, IsContained line := by
  unfold renderVerificationEvidence at h
  obtain ⟨bindings, -, h⟩ := Option.bind_eq_some_iff.mp h
  obtain ⟨completeness, -, h⟩ := Option.bind_eq_some_iff.mp h
  obtain ⟨observation, -, h⟩ := Option.bind_eq_some_iff.mp h
  obtain ⟨observed, -, h⟩ := Option.bind_eq_some_iff.mp h
  obtain ⟨projectionWord, hprojection, h⟩ := Option.bind_eq_some_iff.mp h
  obtain ⟨observationWord, hobservation, h⟩ := Option.bind_eq_some_iff.mp h
  obtain ⟨sections, hsections, h⟩ := Option.bind_eq_some_iff.mp h
  dsimp only at h
  split at h
  · cases h
  · obtain rfl := Option.some.inj h
    have hopening := evidenceOpening_contained (completenessWord_lineFree hprojection)
      (completenessWord_lineFree hobservation)
    intro line hline
    rcases List.mem_append.mp hline with hin | hsection
    · exact hopening line hin
    · obtain ⟨held, hheld, hmem⟩ := List.mem_flatten.mp hsection
      obtain ⟨binding, hbinding, hlines⟩ := mem_mapM_some hsections held hheld
      exact bindingLines_contained hbinding hlines line hmem

/-! ## Whole prompts -/

omit [GrokBot.FloatReads] in
theorem optionalLines_contained {α : Type} {render : α → Option (List PromptLine)}
    {held : Option α} (hrender : ∀ value lines, render value = some lines →
      ∀ line ∈ lines, IsContained line)
    (h : optionalLines render held = some lines) : ∀ line ∈ lines, IsContained line := by
  cases held with
  | none =>
      obtain rfl := Option.some.inj h
      simp
  | some value => exact hrender value lines h

/-- Every line of a role prompt is contained. -/
theorem renderRolePrompt_contained {validateRecord : Value → Bool} {role : TurnRole}
    {record : Value} {targetContext : Option (List InstructionItem)}
    {observation evidence : Option Value}
    (h : renderRolePrompt validateRecord role record targetContext observation evidence =
      some lines) : ∀ line ∈ lines, IsContained line := by
  unfold renderRolePrompt at h
  split at h
  · obtain ⟨context, hcontext, h⟩ := Option.bind_eq_some_iff.mp h
    obtain ⟨json, hjson, h⟩ := Option.bind_eq_some_iff.mp h
    obtain ⟨instructions, hinstructions, h⟩ := Option.bind_eq_some_iff.mp h
    obtain ⟨observed, hobserved, h⟩ := Option.bind_eq_some_iff.mp h
    obtain ⟨verified, hverified, h⟩ := Option.bind_eq_some_iff.mp h
    obtain rfl := Option.some.inj h
    have htarget : ∀ line ∈ instructions, IsContained line := by
      refine optionalLines_contained ?_ hinstructions
      intro items lines hlines
      obtain rfl := Option.some.inj hlines
      exact renderTargetInstructions_contained items
    have hobservation : ∀ line ∈ observed, IsContained line :=
      optionalLines_contained (fun _ _ => renderTargetObservation_contained) hobserved
    have hevidence : ∀ line ∈ verified, IsContained line :=
      optionalLines_contained (fun _ _ => renderVerificationEvidence_contained) hverified
    have hdelimited : ∀ line ∈ [contextDelimiter, json], IsContained line := by
      simp only [List.forall_mem_cons]
      exact ⟨words_contained (isOwn_literal _ rfl) (by simp),
        jsonLine_contained (boundedContext_object hcontext) hjson, by simp⟩
    simp only [List.forall_mem_append]
    exact ⟨⟨⟨⟨⟨rolePromptHeader_contained role, roleInstructions_contained role⟩, hdelimited⟩,
      htarget⟩, hobservation⟩, hevidence⟩
  · cases h

omit [GrokBot.FloatReads] in
theorem planningInstructions_contained : ∀ line ∈ planningInstructions, IsContained line := by
  simp only [planningInstructions, List.forall_mem_cons]
  refine ⟨words_contained (isOwn_literal _ rfl) ?_,
    words_contained (isOwn_literal _ rfl) ?_, by simp⟩
  all_goals
    simp only [List.forall_mem_cons]
    repeat' apply And.intro
  all_goals first
    | exact lineFree_literal _ rfl
    | simp

omit [GrokBot.FloatReads] in
theorem planningHeader_contained {path : Text} (hpath : LineFree path) (digest : HexDigest) :
    ∀ line ∈ planningHeader path digest, IsContained line := by
  unfold planningHeader
  simp only [List.forall_mem_append, List.forall_mem_cons]
  refine ⟨⟨rolePromptHeader_contained _, planningInstructions_contained⟩, ?_, ?_, ?_, ?_, by simp⟩
  · exact words_contained (isOwn_literal _ rfl) (by simp)
  · exact .own ((isOwn_literal _ rfl).append hpath)
  · refine words_contained (isOwn_literal _ rfl) ?_
    simp only [List.forall_mem_cons]
    exact ⟨lineFree_digest digest, by simp⟩
  · exact words_contained (isOwn_literal _ rfl) (by simp)

omit [GrokBot.FloatReads] in
/-- Every line of a planning prompt is contained. -/
theorem renderPlanningPrompt_contained {intent path : Text} (hpath : LineFree path)
    (digest : HexDigest) :
    ∀ line ∈ renderPlanningPrompt intent path digest, IsContained line := by
  intro line hline
  rcases List.mem_append.mp hline with hheader | hquoted
  · exact planningHeader_contained hpath digest line hheader
  · exact quotedIntentLines_contained line hquoted

end

end DodgingInfinity.CodexGateway
