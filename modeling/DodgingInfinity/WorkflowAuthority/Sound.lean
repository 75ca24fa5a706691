import DodgingInfinity.WorkflowAuthority.Store
import Mathlib.Algebra.GroupWithZero.Nat

/-!
# Records that the store accepts

What a workflow does changes its state and leaves what was authorized as it is, so that a
changed record is accepted when its state is.  A record of the Telegram lane that the store
accepts in every state of its own follows.
-/

namespace DodgingInfinity.WorkflowAuthority

open Checked

/-- The two records have the same authority. -/
structure SameAuthority (before after : WorkflowRecord) : Prop where
  workflowId : after.workflowId = before.workflowId
  humanIntent : after.humanIntent = before.humanIntent
  controlIdentity : after.controlIdentity = before.controlIdentity
  target : after.target = before.target
  approvedBaseline : after.approvedBaseline = before.approvedBaseline
  missionAuthorization : after.missionAuthorization = before.missionAuthorization
  origin : after.origin = before.origin
  telegram : after.telegram = before.telegram
  approval : after.approval = before.approval
  handoff : after.handoff = before.handoff
  deliveryAuthority : after.deliveryAuthority = before.deliveryAuthority

section

variable [TextDigest] {workflowId : String} {before after : WorkflowRecord}

/-- A record of the Telegram lane, in another state that passes. -/
theorem Sound.restated (h : Sound workflowId before) (hsame : SameAuthority before after)
    (horigin : before.origin = none)
    (hstate : validateState after ("workflow store record " ++ workflowId) = .ok ()) :
    Sound workflowId after := by
  have hrendered : after.rendered = before.rendered := by
    simp only [WorkflowRecord.rendered, hsame.workflowId, hsame.humanIntent,
      hsame.controlIdentity, hsame.target, hsame.approvedBaseline,
      hsame.missionAuthorization, hsame.origin, hsame.telegram, hsame.handoff]
  have hauthority : validateAuthority after ("workflow store record " ++ workflowId) =
      validateAuthority before ("workflow store record " ++ workflowId) := by
    simp only [validateAuthority, validateTransportBinding, hsame.workflowId,
      hsame.humanIntent, hsame.controlIdentity, hsame.target, hsame.approvedBaseline,
      hsame.missionAuthorization, hsame.origin, hsame.telegram, hsame.approval,
      hsame.handoff, horigin, checkOptional]
  rw [sound_iff] at h ⊢
  obtain ⟨hrecord, hkey⟩ := h
  simp only [validateRecord, bind_eq_ok, exists_passed, failAt_eq_ok] at hrecord ⊢
  obtain ⟨hbefore, -, hrest⟩ := hrecord
  rw [hauthority, hrendered, hsame.deliveryAuthority, hsame.missionAuthorization]
  exact ⟨⟨hbefore, hstate, hrest⟩, hsame.workflowId.trans hkey⟩

/-- A document of one record, or of two. -/
theorem validateDocument_single {record : WorkflowRecord} (h : Sound workflowId record) :
    validateDocument (Dict.empty.set workflowId record) = .ok () := by
  rw [validateDocument_eq_ok]
  refine ⟨(Dict.length_entries_set ..).trans (by simp [maxWorkflowRecords]),
    fun other held hheld => ?_⟩
  rw [Dict.get?_set] at hheld
  split at hheld
  · rename_i hown
    obtain rfl := Option.some.inj hheld
    rwa [hown]
  · cases hheld

theorem validateDocument_pair {otherId : String} {record other : WorkflowRecord}
    (h : Sound workflowId record) (hother : Sound otherId other) :
    validateDocument ((Dict.empty.set workflowId record).set otherId other) = .ok () := by
  rw [validateDocument_eq_ok]
  constructor
  · have hone := Dict.length_entries_set (Dict.empty : Workflows) workflowId record
    refine (Dict.length_entries_set ..).trans ((Nat.add_le_add_right hone 1).trans ?_)
    simp [maxWorkflowRecords]
  · intro key held hheld
    rw [Dict.get?_set] at hheld
    split at hheld
    · rename_i hown
      obtain rfl := Option.some.inj hheld
      rwa [hown]
    · exact (validateDocument_eq_ok.mp (validateDocument_single h)).2 key held hheld

/-! ## Digests in a rendering -/

omit [TextDigest] in
/-- The lines of the content depend on the digests of the texts quoted alone. -/
theorem Rendered.contentLines_congr {first second : TextDigest} {values : Rendered}
    (hintent : @textDigest first values.humanIntent = @textDigest second values.humanIntent)
    (hsections : ∀ part ∈ values.authorityContent.sections,
      @textDigest first part.2 = @textDigest second part.2)
    (hhandoff : @textDigest first values.handoffText = @textDigest second values.handoffText) :
    @Rendered.contentLines first values = @Rendered.contentLines second values := by
  have hparts : values.authorityContent.sections.flatMap (@sectionLines first) =
      values.authorityContent.sections.flatMap (@sectionLines second) := by
    apply List.flatMap_congr
    intro part hpart
    unfold sectionLines sectionHeader
    rw [hsections part hpart]
  unfold Rendered.contentLines originalRequestHeader handoffHeader
  rw [hparts, hintent, hhandoff]

end

/-! ## How long a rendering is -/

/-- What lines take when they are joined, each with what ends it. -/
def joinedChars (lines : List String) : Nat :=
  (lines.map fun line => line.length + 1).sum

theorem joinedChars_cons (line : String) (rest : List String) :
    joinedChars (line :: rest) = line.length + 1 + joinedChars rest := by
  simp [joinedChars]

theorem joinedChars_append (first second : List String) :
    joinedChars (first ++ second) = joinedChars first + joinedChars second := by
  simp [joinedChars]

theorem length_intercalate_le (lines : List String) :
    ("\n".intercalate lines).length ≤ joinedChars lines := by
  induction lines with
  | nil => simp
  | cons line rest ih =>
      cases rest with
      | nil =>
          rw [String.intercalate_singleton, joinedChars_cons]
          omega
      | cons next rest =>
          have hend : "\n".length = 1 := rfl
          rw [String.intercalate_cons_cons, joinedChars_cons, String.length_append,
            String.length_append]
          omega

section

variable [TextDigest]

theorem length_textDigest (text : String) : (textDigest text).length = 64 :=
  (TextDigest.isHex_textDigest text).1

theorem length_originalRequestHeader (text : String) :
    (originalRequestHeader text).length = 141 := by
  unfold originalRequestHeader
  rw [String.length_append, String.length_append, length_textDigest]
  rfl

theorem length_handoffHeader (revision : Nat) (text : String) :
    (handoffHeader revision text).length = (toString revision).length + 133 := by
  have hfirst : "HANDOFF (revision ".length = 18 := rfl
  have hsecond : ", digest ".length = 9 := rfl
  have hlast : "; displayed quoted, dispatched byte-exact)".length = 42 := rfl
  unfold handoffHeader
  rw [String.length_append, String.length_append, String.length_append,
    String.length_append, length_textDigest, hfirst, hsecond, hlast]
  omega

/-- What a section takes. -/
def sectionChars (part : String × String) : Nat :=
  part.1.length + 76 + joinedChars (quotedIntentLines part.2)

theorem joinedChars_sectionLines (part : String × String) :
    joinedChars (sectionLines part) = sectionChars part := by
  have hheader : (sectionHeader part.1 part.2).length = part.1.length + 74 := by
    unfold sectionHeader
    rw [String.length_append, String.length_append, String.length_append, length_textDigest]
    rfl
  have hblank : "".length = 0 := rfl
  unfold sectionLines sectionChars
  rw [joinedChars_cons, joinedChars_cons, hheader]
  omega

theorem joinedChars_contentLines (values : Rendered) : joinedChars values.contentLines = 142 +
      joinedChars (quotedIntentLines values.humanIntent) +
      (values.authorityContent.sections.map sectionChars).sum +
      (toString values.handoffRevision).length + 135 +
      joinedChars (quotedIntentLines values.handoffText) := by
  have hparts : ∀ parts : List (String × String),
      joinedChars (parts.flatMap sectionLines) = (parts.map sectionChars).sum := by
    intro parts
    induction parts with
    | nil => rfl
    | cons part rest ih =>
        rw [List.flatMap_cons, joinedChars_append, joinedChars_sectionLines, ih,
          List.map_cons, List.sum_cons]
  have hblank : "".length = 0 := rfl
  unfold Rendered.contentLines
  rw [List.cons_append, List.cons_append, joinedChars_cons, joinedChars_append,
    joinedChars_append, joinedChars_cons, joinedChars_cons, length_originalRequestHeader,
    length_handoffHeader, hparts, hblank]
  omega

end

/-! ## A record -/

section

variable [TextDigest]

theorem renderAuthorizationText_telegram {values : Rendered}
    {telegram : Telegram} (horigin : values.origin = none)
    (htelegram : values.telegram = some telegram) :
    values.renderAuthorizationText = some ("\n".intercalate (values.lines
      ("approved by: telegram user " ++ toString telegram.userId ++ ", chat " ++
        toString telegram.chatId))) := by
  simp only [Rendered.renderAuthorizationText, approvalIdentityLine, horigin, htelegram,
    Option.map_some]

end

def sampleWords : String := "fix it"

def sampleWordsDigest : String :=
  "ab0d1307766ce08eadfdc7655cd528e2036bd93310e33aecf7aaa78fa5cb9429"

theorem isHex_sampleWordsDigest : IsHex sampleWordsDigest 64 := by decide +kernel

def sampleContent : AuthorityContent :=
  ⟨sampleWords, sampleWords, sampleWords, sampleWords, sampleWords, sampleWords, sampleWords⟩

def sampleTelegram : Telegram := ⟨1, 2, [], none⟩

/-- A workflow whose every free text is the same. -/
def sampleRendered (workflowId : String) : Rendered where
  workflowId := workflowId
  revision := 1
  controlRealpath := "/control"
  policyDigest := sampleWordsDigest
  canonicalUrl := "https://github.com/owner/repo"
  issueOrPr := none
  baselineRef := "main"
  baselineSha := "0123456789012345678901234567890123456789"
  origin := none
  telegram := some sampleTelegram
  humanIntent := sampleWords
  authorityContent := sampleContent
  handoffRevision := 1
  handoffText := sampleWords

/-- One digest for every text. -/
abbrev sampleWordsDigested : TextDigest :=
  ⟨fun _ => sampleWordsDigest, fun _ => isHex_sampleWordsDigest⟩

/-- The text that its authorization renders, with the digest of its free texts. -/
def sampleText (workflowId : String) : String :=
  "\n".intercalate (@Rendered.lines sampleWordsDigested (sampleRendered workflowId)
    ("approved by: telegram user " ++ toString sampleTelegram.userId ++ ", chat " ++
      toString sampleTelegram.chatId))

theorem sampleText_eq [TextDigest] (h : textDigest sampleWords = sampleWordsDigest)
    (workflowId : String) :
    (sampleRendered workflowId).renderAuthorizationText = some (sampleText workflowId) := by
  have hcontent : (sampleRendered workflowId).contentLines =
      @Rendered.contentLines sampleWordsDigested (sampleRendered workflowId) := by
    apply Rendered.contentLines_congr h
    · intro part hpart
      have hwords : part.2 = sampleWords := by
        revert part
        simp [sampleRendered, sampleContent, AuthorityContent.sections]
      rw [hwords]
      exact h
    · exact h
  rw [renderAuthorizationText_telegram rfl rfl]
  unfold sampleText Rendered.lines
  rw [hcontent]

def sampleRecord (workflowId digest : String) : WorkflowRecord where
  workflowId := workflowId
  humanIntent := sampleWords
  controlIdentity := ⟨"/control", sampleWordsDigest⟩
  target := ⟨"github.com", "owner", "repo", "https://github.com/owner/repo", none⟩
  approvedBaseline := ⟨"main", "0123456789012345678901234567890123456789"⟩
  missionAuthorization := ⟨sampleText workflowId, digest, 1, sampleContent⟩
  origin := none
  telegram := some sampleTelegram
  approval := ⟨"nonce", 0, 60, none, none, none, false⟩
  handoff := ⟨1, sampleWords, sampleWordsDigest⟩
  phase := .planned
  workspaceLease := none
  receipts := []
  codexTurns := []
  ambiguity := ⟨.none, none⟩
  targetEngine := none
  verifiedResult := none
  resultPlaceholder := none
  resultDelivery := none
  lastObservation := none
  deliveryAuthority := deliveryAuthorityNone

theorem length_sampleText (workflowId : String) :
    (sampleText workflowId).length ≤ workflowId.length + 1300 := by
  have hquoted : quotedIntentLines sampleWords = ["> fix it"] := by decide +kernel
  have hcontent : joinedChars (@Rendered.contentLines sampleWordsDigested
      (sampleRendered workflowId)) = 976 := by
    rw [@joinedChars_contentLines sampleWordsDigested]
    simp only [sampleRendered, sampleContent, AuthorityContent.sections, sectionChars,
      List.map_cons, List.map_nil, hquoted]
    rfl
  have hworkflow : ("workflow: " ++ workflowId ++ "  revision: " ++ toString 1).length =
      workflowId.length + 23 := by
    have hfirst : "workflow: ".length = 10 := rfl
    have hlast : ("  revision: " ++ toString 1).length = 13 := rfl
    rw [String.append_assoc, String.length_append, String.length_append, hfirst, hlast]
    omega
  have hrest : joinedChars ["control: /control", "policy digest: " ++ sampleWordsDigest,
      targetBindingLine "https://github.com/owner/repo" none,
      "baseline: main @ 0123456789012345678901234567890123456789"] = 223 := rfl
  have hbinding : joinedChars (sampleRendered workflowId).bindingLines =
      workflowId.length + 247 := by
    unfold Rendered.bindingLines
    rw [joinedChars_cons]
    simp only [sampleRendered, hworkflow]
    change _ + 1 + joinedChars ["control: /control", "policy digest: " ++ sampleWordsDigest,
      targetBindingLine "https://github.com/owner/repo" none,
      "baseline: main @ 0123456789012345678901234567890123456789"] = _
    omega
  have happroval : ("approved by: telegram user " ++ toString sampleTelegram.userId ++
      ", chat " ++ toString sampleTelegram.chatId).length = 36 := rfl
  have hdelivery : "delivery authority: none".length = 24 := rfl
  have hblank : "".length = 0 := rfl
  refine (length_intercalate_le _).trans ?_
  unfold Rendered.lines
  rw [joinedChars_append, joinedChars_cons, joinedChars_cons, joinedChars_cons, hcontent,
    hbinding, happroval, hdelivery, hblank]
  omega

theorem exists_intercalate_cons (line : String) (rest : List String) :
    ∃ more, "\n".intercalate (line :: rest) = line ++ more := by
  cases rest with
  | nil => exact ⟨"", by rw [String.intercalate_singleton, String.append_empty]⟩
  | cons next rest =>
      exact ⟨_, by rw [String.intercalate_cons_cons, String.append_assoc]⟩

/-- The text begins with the workflow. -/
theorem sampleText_eq_append (workflowId : String) : ∃ rest,
    sampleText workflowId = "workflow: " ++ (workflowId ++ ("  revision: " ++ rest)) := by
  have hstarts : ∃ rest, sampleText workflowId =
      ("workflow: " ++ workflowId ++ "  revision: " ++ toString 1) ++ rest :=
    exists_intercalate_cons _ _
  obtain ⟨rest, hrest⟩ := hstarts
  exact ⟨toString 1 ++ rest, by rw [hrest]; simp only [String.append_assoc]⟩

attribute [irreducible] sampleText

/-- The record passes where the digests of its texts are right. -/
theorem validateRecord_sampleRecord [TextDigest] {workflowId digest : String}
    (hwords : textDigest sampleWords = sampleWordsDigest)
    (htext : textDigest (sampleText workflowId) = digest)
    (hid : ∀ location, requireWorkflowId workflowId location = .ok ()) (location : String) :
    validateRecord (sampleRecord workflowId digest) location = .ok () := by
  have hlength : workflowId.length ≤ maxIdChars := by
    have hchecked := hid ""
    simp only [requireWorkflowId, requireText, bind_eq_ok, exists_passed, failAt_eq_ok,
      String.length_toList] at hchecked
    omega
  have htextLength := length_sampleText workflowId
  have hrendered : (sampleRecord workflowId digest).rendered = sampleRendered workflowId :=
    rfl
  have htextHeld : (sampleRecord workflowId digest).missionAuthorization.renderedText =
      sampleText workflowId := rfl
  have hcontrol : ∀ location, validateControlIdentity ⟨"/control", sampleWordsDigest⟩
      location = .ok () := fun _ => rfl
  have htarget : ∀ location, validateTarget ⟨"github.com", "owner", "repo",
      "https://github.com/owner/repo", none⟩ location = .ok () := fun _ => rfl
  have hbaseline : ∀ location, validateApprovedBaseline
      ⟨"main", "0123456789012345678901234567890123456789"⟩ location = .ok () := fun _ => rfl
  have hcontent : ∀ location, validateAuthorityContent sampleContent location = .ok () :=
    fun _ => rfl
  have happroval : ∀ location, validateApproval ⟨"nonce", 0, 60, none, none, none, false⟩
      location = .ok () := fun _ => rfl
  have hwordsPass : ∀ location, requireText sampleWords location maxHumanIntentChars =
      .ok () := fun _ => rfl
  have htelegram : ∀ location, validateTelegram sampleTelegram location = .ok () :=
    fun _ => rfl
  have hhandoff : ∀ location, requireText sampleWords location maxAuthorityTextChars =
      .ok () := fun _ => rfl
  have hpadded : ¬ isPadded sampleWords = true := by decide +kernel
  have hwordsHex : ∀ location, requireHex sampleWordsDigest location 64 = .ok () :=
    fun _ => rfl
  have htextPasses : ∀ location, requireText (sampleText workflowId) location
      maxAuthorityTextChars = .ok () := by
    intro location
    obtain ⟨rest, hrest⟩ := sampleText_eq_append workflowId
    simp only [requireText, bind_eq_ok, exists_passed, failAt_eq_ok, String.length_toList]
    refine ⟨?_, ?_⟩
    · rw [hrest]
      intro hempty
      have hchars := congrArg String.toList hempty
      simp at hchars
    · have hbound : maxAuthorityTextChars = 16384 := rfl
      have hids : maxIdChars = 128 := rfl
      omega
  have hdigest : ∀ location, requireHex digest location 64 = .ok () := by
    intro location
    obtain ⟨hhex, hcharacters⟩ := htext ▸ TextDigest.isHex_textDigest (sampleText workflowId)
    simp only [requireHex, requireText, bind_eq_ok, exists_passed, failAt_eq_ok, not_not]
    refine ⟨⟨?_, by omega⟩, hhex, hcharacters⟩
    rintro rfl
    cases hhex
  have hauthority : ∀ location, validateAuthority (sampleRecord workflowId digest) location =
      .ok () := by
    intro location
    simp only [validateAuthority, bind_eq_ok, exists_passed]
    refine ⟨hid _, hwordsPass _, hcontrol _, htarget _, hbaseline _, ?_, rfl, rfl,
      htelegram _, happroval _, rfl, ?_⟩
    · simp only [validateMissionAuthorization, bind_eq_ok, exists_passed, failAt_eq_ok,
        not_not, ne_eq]
      exact ⟨hcontent _, htextPasses _, hdigest _, rfl, htext⟩
    · simp only [validateHandoff, bind_eq_ok, exists_passed, failAt_eq_ok, not_not, ne_eq]
      exact ⟨rfl, hhandoff _, hpadded, hwordsHex _, hwords⟩
  have hstate : ∀ location, validateState (sampleRecord workflowId digest) location =
      .ok () := fun _ => rfl
  simp only [validateRecord, bind_eq_ok, exists_passed, failAt_eq_ok, not_not, ne_eq]
  rw [hrendered, htextHeld, sampleText_eq hwords]
  exact ⟨hauthority _, hstate _, rfl, rfl⟩

theorem sound_sampleRecord [TextDigest] {workflowId digest : String}
    (hwords : textDigest sampleWords = sampleWordsDigest)
    (htext : textDigest (sampleText workflowId) = digest)
    (hid : ∀ location, requireWorkflowId workflowId location = .ok ()) :
    Sound workflowId (sampleRecord workflowId digest) :=
  sound_iff.mpr ⟨validateRecord_sampleRecord hwords htext hid _, rfl⟩

/-- Texts that begin with different characters are different. -/
theorem append_ne_append {first second : String} {character other : Char}
    (hfirst : first.toList.head? = some character)
    (hsecond : second.toList.head? = some other) (hne : character ≠ other)
    (rest more : String) : first ++ rest ≠ second ++ more := by
  intro h
  have hheads := congrArg (fun text : String => text.toList.head?) h
  simp only [String.toList_append, List.head?_append, hfirst, hsecond, Option.some_or,
    Option.some.injEq] at hheads
  exact hne hheads

/-! ## Two records -/

abbrev HexDigest : Type := {digest : String // IsHex digest 64}

def firstTextDigest : HexDigest :=
  ⟨"00c28ddeddd3005230c69afbf1a45b977b72075aa4ca99b2c0f0350116e8041a", by decide +kernel⟩

def secondTextDigest : HexDigest :=
  ⟨"ab47a259ec29fe453c0ff9c98bb1880e0bd76fd21b8caa678a2496e7d9d75390", by decide +kernel⟩

/-- The digests of the texts of two records, and those further given. -/
def sampleDigestOf (further : String → HexDigest) (text : String) : HexDigest :=
  if text = sampleWords then ⟨sampleWordsDigest, isHex_sampleWordsDigest⟩
  else if text = sampleText "w-1" then firstTextDigest
  else if text = sampleText "w-2" then secondTextDigest
  else further text

abbrev sampleDigest (further : String → HexDigest) : TextDigest where
  textDigest text := (sampleDigestOf further text).val
  isHex_textDigest text := (sampleDigestOf further text).property

def firstRecord : WorkflowRecord := sampleRecord "w-1" firstTextDigest.val

def secondRecord : WorkflowRecord := sampleRecord "w-2" secondTextDigest.val

theorem sampleText_ne_sampleWords (workflowId : String) :
    sampleText workflowId ≠ sampleWords := by
  obtain ⟨rest, hrest⟩ := sampleText_eq_append workflowId
  have hwords : sampleWords = sampleWords ++ "" := by rw [String.append_empty]
  have hfirst : "workflow: ".toList.head? = some 'w' := by decide +kernel
  have hsecond : sampleWords.toList.head? = some 'f' := by decide +kernel
  rw [hrest, hwords]
  exact append_ne_append hfirst hsecond (by decide) _ _

theorem sampleText_second_ne_first : sampleText "w-2" ≠ sampleText "w-1" := by
  obtain ⟨first, hfirst⟩ := sampleText_eq_append "w-1"
  obtain ⟨second, hsecond⟩ := sampleText_eq_append "w-2"
  rw [hfirst, hsecond]
  intro h
  have hchars := congrArg String.toList h
  simp at hchars

theorem sampleDigestOf_words (further : String → HexDigest) :
    (sampleDigestOf further sampleWords).val = sampleWordsDigest := by
  unfold sampleDigestOf
  rw [if_pos rfl]

theorem sampleDigestOf_first (further : String → HexDigest) :
    (sampleDigestOf further (sampleText "w-1")).val = firstTextDigest.val := by
  unfold sampleDigestOf
  rw [if_neg (sampleText_ne_sampleWords "w-1"), if_pos rfl]

theorem sampleDigestOf_second (further : String → HexDigest) :
    (sampleDigestOf further (sampleText "w-2")).val = secondTextDigest.val := by
  unfold sampleDigestOf
  rw [if_neg (sampleText_ne_sampleWords "w-2"), if_neg sampleText_second_ne_first, if_pos rfl]

theorem sound_firstRecord (further : String → HexDigest) :
    @Sound (sampleDigest further) "w-1" firstRecord := by
  let _ := sampleDigest further
  have hid : ∀ location, requireWorkflowId "w-1" location = .ok () := fun _ => rfl
  unfold firstRecord
  exact sound_sampleRecord (sampleDigestOf_words further) (sampleDigestOf_first further) hid

theorem sound_secondRecord (further : String → HexDigest) :
    @Sound (sampleDigest further) "w-2" secondRecord := by
  let _ := sampleDigest further
  have hid : ∀ location, requireWorkflowId "w-2" location = .ok () := fun _ => rfl
  unfold secondRecord
  exact sound_sampleRecord (sampleDigestOf_words further) (sampleDigestOf_second further) hid

end DodgingInfinity.WorkflowAuthority
