import Mathlib.Data.List.Basic
import Mathlib.Data.String.Basic

/-!
# Lines of text

Fields that a separator ends, decimal numbers, and lines joined by a separator
that none of them contains: each is recovered from the text that it is written
into.
-/

namespace DodgingInfinity

namespace Lines

universe u

section

variable {α : Type u} {separator : α} {first second rest more : List α}

/-- A field that ends at the first separator is recovered. -/
theorem delimited (hfirst : separator ∉ first) (hsecond : separator ∉ second)
    (h : first ++ separator :: rest = second ++ separator :: more) :
    first = second ∧ rest = more := by
  induction first generalizing second with
  | nil =>
      cases second with
      | nil => exact ⟨rfl, (List.cons.inj h).2⟩
      | cons head tail =>
          obtain ⟨rfl, -⟩ := List.cons.inj h
          exact absurd (List.mem_cons_self ..) hsecond
  | cons head tail ih =>
      cases second with
      | nil =>
          obtain ⟨rfl, -⟩ := List.cons.inj h
          exact absurd (List.mem_cons_self ..) hfirst
      | cons other others =>
          obtain ⟨rfl, htails⟩ := List.cons.inj h
          obtain ⟨rfl, hrest⟩ := ih (fun hmem => hfirst (List.mem_cons_of_mem _ hmem))
            (fun hmem => hsecond (List.mem_cons_of_mem _ hmem)) htails
          exact ⟨rfl, hrest⟩

/-- A word that ends before the first stop is recovered, and so is what follows it. -/
theorem stopped {stops : α → Prop} {ending other : α} (hfirst : ∀ item ∈ first, ¬ stops item)
    (hsecond : ∀ item ∈ second, ¬ stops item) (hending : stops ending) (hother : stops other)
    (h : first ++ ending :: rest = second ++ other :: more) :
    first = second ∧ ending = other ∧ rest = more := by
  induction first generalizing second with
  | nil =>
      cases second with
      | nil =>
          obtain ⟨rfl, rfl⟩ := List.cons.inj h
          exact ⟨rfl, rfl, rfl⟩
      | cons head tail =>
          obtain ⟨rfl, -⟩ := List.cons.inj h
          exact absurd hending (hsecond ending (List.mem_cons_self ..))
  | cons head tail ih =>
      cases second with
      | nil =>
          obtain ⟨rfl, -⟩ := List.cons.inj h
          exact absurd hother (hfirst head (List.mem_cons_self ..))
      | cons next others =>
          obtain ⟨rfl, htails⟩ := List.cons.inj h
          obtain ⟨rfl, hsame, hrest⟩ := ih
            (fun item hmem => hfirst item (List.mem_cons_of_mem _ hmem))
            (fun item hmem => hsecond item (List.mem_cons_of_mem _ hmem)) htails
          exact ⟨rfl, hsame, hrest⟩

/-- What is written letter by letter is recovered, where no letter is written as the
beginning of another. -/
theorem written {β : Type u} {word : β → List α} {p : β → Prop} {letters others : List β}
    (hcode : ∀ letter other rest more, p letter → p other →
      word letter ++ rest = word other ++ more → letter = other)
    (hsome : ∀ letter, p letter → word letter ≠ [])
    (hletters : ∀ letter ∈ letters, p letter) (hothers : ∀ letter ∈ others, p letter)
    (h : letters.flatMap word = others.flatMap word) : letters = others := by
  induction letters generalizing others with
  | nil =>
      cases others with
      | nil => rfl
      | cons other others =>
          rw [List.flatMap_nil, List.flatMap_cons] at h
          exact absurd (List.append_eq_nil_iff.mp h.symm).1
            (hsome other (hothers other (List.mem_cons_self ..)))
  | cons letter letters ih =>
      have hletter := hletters letter (List.mem_cons_self ..)
      cases others with
      | nil =>
          rw [List.flatMap_nil, List.flatMap_cons] at h
          exact absurd (List.append_eq_nil_iff.mp h).1 (hsome letter hletter)
      | cons other others =>
          have hother := hothers other (List.mem_cons_self ..)
          rw [List.flatMap_cons, List.flatMap_cons] at h
          obtain rfl := hcode letter other _ _ hletter hother h
          rw [ih (fun held hheld => hletters held (List.mem_cons_of_mem _ hheld))
            (fun held hheld => hothers held (List.mem_cons_of_mem _ hheld))
            (List.append_cancel_left h)]

/-- Lines joined by a separator that none of them contains are recovered. -/
theorem joined {lines others : List (List α)} (hlines : ∀ line ∈ lines, separator ∉ line)
    (hothers : ∀ line ∈ others, separator ∉ line) (hsome : lines ≠ []) (hmore : others ≠ [])
    (h : [separator].intercalate lines = [separator].intercalate others) :
    lines = others := by
  induction lines generalizing others with
  | nil => exact absurd rfl hsome
  | cons line lines ih =>
      cases others with
      | nil => exact absurd rfl hmore
      | cons other others =>
          have hline := hlines line (List.mem_cons_self ..)
          have hother := hothers other (List.mem_cons_self ..)
          cases lines with
          | nil =>
              cases others with
              | nil =>
                  rw [List.intercalate_singleton, List.intercalate_singleton] at h
                  rw [h]
              | cons next others =>
                  rw [List.intercalate_singleton, List.intercalate_cons_cons,
                    List.append_assoc] at h
                  refine absurd ?_ hline
                  rw [h]
                  exact List.mem_append_right _ (List.mem_cons_self ..)
          | cons second lines =>
              cases others with
              | nil =>
                  rw [List.intercalate_singleton, List.intercalate_cons_cons,
                    List.append_assoc] at h
                  refine absurd ?_ hother
                  rw [← h]
                  exact List.mem_append_right _ (List.mem_cons_self ..)
              | cons next others =>
                  rw [List.intercalate_cons_cons, List.intercalate_cons_cons,
                    List.append_assoc, List.append_assoc] at h
                  obtain ⟨rfl, hrest⟩ := delimited hline hother h
                  rw [ih (fun held hheld => hlines held (List.mem_cons_of_mem _ hheld))
                    (fun held hheld => hothers held (List.mem_cons_of_mem _ hheld))
                    (List.cons_ne_nil _ _) (List.cons_ne_nil _ _) hrest]

/-- Lines joined with further lines are the two joins with a separator between
them. -/
theorem intercalate_append {lines more : List (List α)} (hlines : lines ≠ []) (hmore : more ≠ []) :
    [separator].intercalate (lines ++ more) =
      [separator].intercalate lines ++ separator :: [separator].intercalate more := by
  induction lines with
  | nil => exact absurd rfl hlines
  | cons line rest ih =>
      cases rest with
      | nil =>
          cases more with
          | nil => exact absurd rfl hmore
          | cons next others =>
              rw [List.singleton_append, List.intercalate_cons_cons,
                List.intercalate_singleton, List.append_assoc, List.singleton_append]
      | cons second rest =>
          have hrest := ih (List.cons_ne_nil second rest)
          rw [List.cons_append, List.cons_append, List.intercalate_cons_cons,
            ← List.cons_append, hrest, List.intercalate_cons_cons, List.append_assoc,
            List.append_assoc, List.append_assoc]

end

end Lines

end DodgingInfinity
