import DodgingInfinity.GrokBot.DisplayedProposals
import DodgingInfinity.Library.Encoding

/-!
# The texts of Mission and delivery proposals

Around the lines of a proposal stand lines that start as none of them does.  So what a
human is shown holds the whole proposal, each leaf once, and no two proposals have one
text.
-/

namespace DodgingInfinity.GrokBot

open Values LogicalLines

/-! ## Lines around a proposal -/

def OpensWith (first : Char) (line : Text) : Prop := line.head? = some (ofChar first)

instance (first : Char) (line : Text) : Decidable (OpensWith first line) :=
  inferInstanceAs (Decidable (_ = _))

variable {first : Char} {line rest path : Text}

theorem opens_append (first : Char) (h : OpensWith first line) (rest : Text) :
    OpensWith first (line ++ rest) := by
  unfold OpensWith at h ⊢
  obtain ⟨tail, rfl⟩ := List.head?_eq_some_iff.mp h
  rfl

theorem opens_joined {text : String} (h : OpensWith first (ofString text)) (more : String) :
    OpensWith first (ofString (text ++ more)) := by
  have happend : ofString (text ++ more) = ofString text ++ ofString more := by
    simp [ofString]
  rw [happend]
  exact opens_append first h _

theorem OpensWith.oneLine (h : OpensWith first line) (hplain : ¬ IsEscaped (ofChar first)) :
    OpensWith first (oneLine line) := by
  obtain ⟨tail, rfl⟩ := List.head?_eq_some_iff.mp h
  rw [oneLine_cons, oneLinePoint, if_neg hplain]
  rfl

/-- A line that opens with another letter is none of the path. -/
def Outside (path line : Text) : Prop := (oneLine line).head? ≠ (oneLine path).head?

theorem OpensWith.outside (h : OpensWith first line) (hplain : ¬ IsEscaped (ofChar first))
    (hother : some (ofChar first) ≠ (GrokBot.oneLine path).head?) : Outside path line := by
  unfold Outside
  rw [h.oneLine hplain]
  exact hother

/-- A line that opens with a letter is not empty. -/
theorem oneLine_ne_nil (first : Char) (h : OpensWith first line)
    (hplain : ¬ IsEscaped (ofChar first)) : oneLine line ≠ [] := by
  intro hnil
  have hopens := h.oneLine hplain
  rw [hnil] at hopens
  cases hopens

/-! ## Mission proposals -/

theorem mission_outside (binding : MissionBinding) :
    ∀ line ∈ missionHeader binding ++ missionFooter, Outside (ofString "proposal") line := by
  have houtside : ∀ first ∈ ['D', 'M', 'R', 'P', 'A', 'T'], ∀ line, OpensWith first line →
      Outside (ofString "proposal") line := by
    intro first hfirst line hopens
    have hplain : ∀ first ∈ ['D', 'M', 'R', 'P', 'A', 'T'], ¬ IsEscaped (ofChar first) ∧
        some (ofChar first) ≠ (oneLine (ofString "proposal")).head? := by decide
    exact hopens.outside (hplain first hfirst).1 (hplain first hfirst).2
  have hremedy : OpensWith 'T' (ofString legacyReauthorizationRemedy) := by
    unfold legacyReauthorizationRemedy
    repeat apply opens_joined
    decide +kernel
  have hempty : Outside (ofString "proposal") [] := by
    unfold Outside
    decide
  have hopens : ∀ first ∈ ['D', 'M', 'R', 'P', 'A', 'T'], ∀ line rest, OpensWith first line →
      Outside (ofString "proposal") (line ++ rest) :=
    fun first hfirst line rest h => houtside first hfirst _ (opens_append first h rest)
  simp only [missionHeader, missionFooter, List.cons_append, List.nil_append, List.forall_mem_cons]
  refine ⟨?_, ?_, ?_, ?_, ?_, ?_, ?_, hempty, ?_, hempty, ?_, ?_, ?_, by simp⟩
  · exact houtside 'D' (by decide) _ (by decide +kernel)
  · exact hopens 'M' (by decide) _ _ (by decide +kernel)
  · exact hopens 'R' (by decide) _ _ (by decide +kernel)
  · exact hopens 'P' (by decide) _ _ (by decide +kernel)
  · exact hopens 'A' (by decide) _ _ (by decide +kernel)
  · exact hopens 'A' (by decide) _ _ (by decide +kernel)
  · exact hopens 'R' (by decide) _ _ (by decide +kernel)
  · exact houtside 'T' (by decide) _ (by decide +kernel)
  · exact houtside 'T' (by decide) _ (by decide +kernel)
  · exact houtside 'T' (by decide) _ hremedy
  · exact houtside 'D' (by decide) _ (by decide +kernel)

theorem mission_frames (binding : MissionBinding) :
    Frames (ofString "proposal") (missionHeader binding) missionFooter where
  apart := mission_outside binding
  named := by decide
  ended := by
    refine ⟨[_, _, _], _, rfl, ?_⟩
    exact oneLine_ne_nil 'D' (by decide +kernel) (by decide)

/-! ## Delivery proposals -/

section

variable [FloatText] {proposal binding : Value} {digest : Text} {header summary : List Text}

/-- The letters that the lines around a delivery proposal open with. -/
def deliveryLetters : List Char := ['D', 'P', 'A', 'E', 'S', 'C', 'N', 'T']

omit [FloatText] in
theorem delivery_letter (hfirst : first ∈ deliveryLetters) (h : OpensWith first line) :
    Outside (ofString "delivery_proposal") line := by
  have hplain : ∀ first ∈ deliveryLetters, ¬ IsEscaped (ofChar first) ∧
      some (ofChar first) ≠ (oneLine (ofString "delivery_proposal")).head? := by decide
  exact h.outside (hplain first hfirst).1 (hplain first hfirst).2

/-- The summary of an update has six lines, and names its kind first. -/
structure SummaryLines (summary : List Text) : Prop where
  outside : ∀ line ∈ summary, Outside (ofString "delivery_proposal") line
  first : ∃ line others, summary = line :: others ∧ others.length = 5 ∧ OpensWith 'D' line

omit [FloatText] in
/-- A text that opens a line, with what it is followed by. -/
theorem delivery_opens (first : Char) (hfirst : first ∈ deliveryLetters)
    (h : OpensWith first line) (rest : Text) :
    Outside (ofString "delivery_proposal") (line ++ rest) :=
  delivery_letter hfirst (opens_append first h rest)

theorem updateSummary_shape (h : updateSummaryLines binding = some summary) :
    summary = [] ∨ SummaryLines summary := by
  unfold updateSummaryLines at h
  split at h
  · exact Or.inl (Option.some.inj h).symm
  · obtain ⟨candidate, -, h⟩ := Option.bind_eq_some_iff.mp h
    obtain ⟨source, -, h⟩ := Option.bind_eq_some_iff.mp h
    obtain ⟨base, -, h⟩ := Option.bind_eq_some_iff.mp h
    obtain ⟨baseline, -, h⟩ := Option.bind_eq_some_iff.mp h
    obtain ⟨mode, -, h⟩ := Option.bind_eq_some_iff.mp h
    obtain ⟨number, -, h⟩ := Option.bind_eq_some_iff.mp h
    obtain ⟨deliveryId, -, h⟩ := Option.bind_eq_some_iff.mp h
    obtain ⟨branch, -, h⟩ := Option.bind_eq_some_iff.mp h
    obtain ⟨baseBranch, -, h⟩ := Option.bind_eq_some_iff.mp h
    obtain ⟨head, -, h⟩ := Option.bind_eq_some_iff.mp h
    obtain ⟨staged, -, h⟩ := Option.bind_eq_some_iff.mp h
    obtain ⟨identity, -, h⟩ := Option.bind_eq_some_iff.mp h
    obtain ⟨count, -, h⟩ := Option.bind_eq_some_iff.mp h
    obtain rfl := Option.some.inj h
    have hkind : OpensWith 'D' (ofString "Delivery kind: " ++ mode ++
        ofString " (one new commit on existing open pull request #" ++ number ++
        ofString ", a strict fast-forward of its head)") := by
      repeat apply opens_append
      decide +kernel
    refine Or.inr ⟨?_, _, _, rfl, rfl, hkind⟩
    intro line hline
    simp only [List.mem_cons, List.not_mem_nil, or_false] at hline
    rcases hline with rfl | rfl | rfl | rfl | rfl | rfl
    · exact delivery_letter (by decide) hkind
    · exact delivery_opens 'D' (by decide) (by decide +kernel) _
    · simp only [List.append_assoc]
      exact delivery_opens 'P' (by decide) (by decide +kernel) _
    · exact delivery_opens 'E' (by decide) (by decide +kernel) _
    · exact delivery_opens 'S' (by decide) (by decide +kernel) _
    · simp only [List.append_assoc]
      exact delivery_opens 'C' (by decide) (by decide +kernel) _

/-- The lines before those of a delivery proposal: four, the summary of an update if it
is one, and four more. -/
structure HeaderShape (header : List Text) : Prop where
  title : header.head? = some (ofString
    ("DODGING INFINITY DELIVERY PROPOSAL (separate from any engineering" ++ " approval)"))
  outside : ∀ line ∈ header, Outside (ofString "delivery_proposal") line
  shape : ∃ opening summary closing line, header = opening ++ (summary ++ line :: closing) ∧
    opening.length = 4 ∧ closing.length = 3 ∧ OpensWith 'A' line ∧
    (summary = [] ∨ SummaryLines summary)

theorem deliveryHeader_shape (h : deliveryHeader proposal digest = some header) :
    HeaderShape header := by
  unfold deliveryHeader at h
  obtain ⟨binding, -, h⟩ := Option.bind_eq_some_iff.mp h
  obtain ⟨presentedAt, -, h⟩ := Option.bind_eq_some_iff.mp h
  obtain ⟨expiresAt, -, h⟩ := Option.bind_eq_some_iff.mp h
  obtain ⟨summary, hsummary, h⟩ := Option.bind_eq_some_iff.mp h
  obtain ⟨allowed, -, h⟩ := Option.bind_eq_some_iff.mp h
  obtain rfl := Option.some.inj h
  have hshape := updateSummary_shape hsummary
  have hallowed : OpensWith 'A' (ofString "Authorizes only: " ++
      (ofString ", ").intercalate allowed ++ ofString ", for exactly this candidate") := by
    repeat apply opens_append
    decide +kernel
  refine ⟨rfl, ?_, _, summary, _, _, List.append_assoc .., rfl, rfl, hallowed, hshape⟩
  intro line hline
  rcases List.mem_append.mp hline with hbefore | hafter
  · rcases List.mem_append.mp hbefore with hopening | hmiddle
    · clear hline hbefore
      revert line
      simp only [List.forall_mem_cons]
      refine ⟨?_, ?_, ?_, ?_, by simp⟩
      · exact delivery_letter (by decide) (by decide +kernel : OpensWith 'D' _)
      · exact delivery_opens 'P' (by decide) (by decide +kernel) _
      · exact delivery_opens 'P' (by decide) (by decide +kernel) _
      · exact delivery_opens 'A' (by decide) (by decide +kernel) _
    · rcases hshape with rfl | hupdate
      · cases hmiddle
      · exact hupdate.outside line hmiddle
  · clear hline
    revert line
    simp only [List.forall_mem_cons]
    refine ⟨?_, ?_, ?_, ?_, by simp⟩
    · exact delivery_letter (by decide) hallowed
    · exact delivery_opens 'N' (by decide) (by decide +kernel) _
    · unfold Outside
      decide
    · exact delivery_letter (by decide) (by decide +kernel : OpensWith 'T' _)

theorem delivery_frames (h : deliveryHeader proposal digest = some header) :
    Frames (ofString "delivery_proposal") header deliveryFooter where
  apart := by
    intro line hline
    rcases List.mem_append.mp hline with hheader | hfooter
    · exact (deliveryHeader_shape h).outside line hheader
    · clear hline
      revert line
      simp only [deliveryFooter, List.forall_mem_cons]
      refine ⟨?_, ?_, ?_, ?_, ?_, by simp⟩
      · decide
      · exact delivery_letter (by decide) (by decide +kernel : OpensWith 'T' _)
      · exact delivery_letter (by decide) (by decide +kernel : OpensWith 'T' _)
      · exact delivery_letter (by decide) (by decide +kernel : OpensWith 'A' _)
      · exact delivery_letter (by decide) (by decide +kernel : OpensWith 'A' _)
  named := by decide
  ended := by
    refine ⟨[_, _, _, _], _, rfl, ?_⟩
    exact oneLine_ne_nil 'A' (by decide +kernel) (by decide)

omit [FloatText] in
/-- A summary is where the authorized actions would be. -/
theorem summary_ne_none {line : Text} {more rest : List Text} (hsummary : SummaryLines summary)
    (hline : OpensWith 'A' line)
    (h : (summary.map oneLine) ++ rest = oneLine line :: more) : False := by
  obtain ⟨first, others, rfl, -, hfirst⟩ := hsummary.first
  have hshown := (List.cons.inj h).1
  have hupdate := hfirst.oneLine (by decide)
  rw [hshown, OpensWith, hline.oneLine (by decide)] at hupdate
  revert hupdate
  decide

omit [FloatText] in
/-- Headers that are shown alike are as long. -/
theorem header_length {header other rest more : List Text} (hheader : HeaderShape header)
    (hother : HeaderShape other) (h : header.map oneLine ++ rest = other.map oneLine ++ more) :
    header.length = other.length := by
  obtain ⟨opening, summary, closing, line, rfl, hopening, hclosing, hline, hsummary⟩ :=
    hheader.shape
  obtain ⟨opening', summary', closing', line', rfl, hopening', hclosing', hline', hsummary'⟩ :=
    hother.shape
  simp only [List.map_append, List.map_cons, List.append_assoc, List.cons_append] at h
  obtain ⟨-, htail⟩ := List.append_inj h (by simp [hopening, hopening'])
  have hlength : summary.length = summary'.length := by
    rcases hsummary with rfl | hsummary
    · rcases hsummary' with rfl | hsummary'
      · rfl
      · exact (summary_ne_none hsummary' hline htail.symm).elim
    · rcases hsummary' with rfl | hsummary'
      · exact (summary_ne_none hsummary hline' htail).elim
      · obtain ⟨first, others, rfl, hothers, -⟩ := hsummary.first
        obtain ⟨first', others', rfl, hothers', -⟩ := hsummary'.first
        simp [hothers, hothers']
  simp [hopening, hopening', hclosing, hclosing', hlength]

end

/-! ## Both -/

section

variable [FloatReads] {Digest : Type} {sha256 : Framing.Bytes → Digest}
  {proposal other : Value}

/-- The digest of a text is that of its UTF-8 bytes; none of one without that form. -/
def textDigest (sha256 : Framing.Bytes → Digest) (text : Text) : Option Digest :=
  (toString? text).map fun characters => sha256 (Encoding.encodeUtf8 characters)

/-- A displayed Mission proposal is told from every other one by its text. -/
theorem mission_shown (hproposal : Displayable proposal) (hother : Displayable other)
    (binding otherBinding : MissionBinding)
    (h : displayText proposal binding = displayText other otherBinding) :
    sortKeys proposal = sortKeys other := by
  have hlength : (missionHeader binding).length = (missionHeader otherBinding).length := rfl
  exact same_shown hproposal hother (mission_frames binding) hlength h

/-- A displayed delivery proposal is told from every other one by its text. -/
theorem delivery_shown (hproposal : Displayable proposal) (hother : Displayable other)
    {digest otherDigest text : Text} (htext : deliveryDisplayText proposal digest = some text)
    (h : deliveryDisplayText other otherDigest = some text) :
    sortKeys proposal = sortKeys other := by
  obtain ⟨lines, hlines, rfl⟩ := Option.map_eq_some_iff.mp htext
  obtain ⟨others, hothers, hsame⟩ := Option.map_eq_some_iff.mp h
  obtain ⟨header, hheader, hlines⟩ := Option.bind_eq_some_iff.mp hlines
  obtain ⟨otherHeader, hotherHeader, hothers⟩ := Option.bind_eq_some_iff.mp hothers
  obtain rfl := Option.some.inj hlines
  obtain rfl := Option.some.inj hothers
  have hframes := delivery_frames hheader
  obtain ⟨footer, last, hfooter, hlast⟩ := hframes.ended
  have hlength : header.length = otherHeader.length := by
    have hsplit := congrArg split hsame
    rw [hfooter, ← List.append_assoc, ← List.append_assoc, split_joinedDisplay _ hlast,
      split_joinedDisplay _ hlast] at hsplit
    simp only [List.map_append, List.append_assoc] at hsplit
    exact header_length (deliveryHeader_shape hheader) (deliveryHeader_shape hotherHeader)
      hsplit.symm
  exact same_shown hproposal hother hframes hlength hsame.symm

/-- A Mission proposal and a delivery proposal are never shown alike. -/
theorem mission_ne_delivery (binding : MissionBinding) {digest : Text}
    (h : deliveryDisplayText other digest = some (displayText proposal binding)) : False := by
  obtain ⟨lines, hlines, hsame⟩ := Option.map_eq_some_iff.mp h
  obtain ⟨header, hheader, hlines⟩ := Option.bind_eq_some_iff.mp hlines
  obtain rfl := Option.some.inj hlines
  obtain ⟨rest, rfl⟩ := List.head?_eq_some_iff.mp (deliveryHeader_shape hheader).title
  have hmission := (mission_frames binding).ended
  obtain ⟨footer, last, hfooter, hlast⟩ := hmission
  obtain ⟨closing, final, hclosing, hfinal⟩ := (delivery_frames hheader).ended
  have hsplit := congrArg (fun text => (split text).head?) hsame
  simp only [displayText, missionLines] at hsplit
  rw [hfooter, hclosing, ← List.append_assoc, ← List.append_assoc, split_joinedDisplay _ hlast,
    split_joinedDisplay _ hfinal] at hsplit
  have hfirst := Option.some.inj hsplit
  revert hfirst
  decide +kernel

/-- The text is one that the proposal is displayed by. -/
inductive DisplayedBy (proposal : Value) : Text → Prop
  | mission (binding : MissionBinding) : DisplayedBy proposal (displayText proposal binding)
  | delivery {digest text : Text} (htext : deliveryDisplayText proposal digest = some text) :
      DisplayedBy proposal text

/-- A text that a proposal is displayed by shows all of it and nothing twice. -/
theorem DisplayedBy.shown {text : Text} (hproposal : Displayable proposal)
    (h : DisplayedBy proposal text) : ∃ lines path, Shown text lines path proposal := by
  cases h with
  | mission binding => exact ⟨_, _, shown_between hproposal (mission_frames binding)⟩
  | delivery htext =>
      obtain ⟨lines, hlines, rfl⟩ := Option.map_eq_some_iff.mp htext
      obtain ⟨header, hheader, hlines⟩ := Option.bind_eq_some_iff.mp hlines
      obtain rfl := Option.some.inj hlines
      exact ⟨_, _, shown_between hproposal (delivery_frames hheader)⟩

theorem DisplayedBy.unique {text : Text} (hproposal : Displayable proposal)
    (hother : Displayable other) (h : DisplayedBy proposal text) (hshown : DisplayedBy other text) :
    sortKeys proposal = sortKeys other := by
  cases h with
  | mission binding =>
      generalize hsame : displayText proposal binding = text at hshown
      cases hshown with
      | mission otherBinding => exact mission_shown hproposal hother binding otherBinding hsame
      | delivery htext =>
          rw [← hsame] at htext
          exact (mission_ne_delivery binding htext).elim
  | delivery htext =>
      cases hshown with
      | mission binding => exact (mission_ne_delivery binding htext).elim
      | delivery hshown => exact delivery_shown hproposal hother htext hshown

end

/-! ## Runs -/

end DodgingInfinity.GrokBot
