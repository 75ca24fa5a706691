import Mathlib.Logic.Basic

/-!
# Checked computations

A guard either lets a computation continue or refuses it with a problem.  The
lemmas here invert a successful run: what it returned, and that every guard on
the way let it pass.
-/

namespace DodgingInfinity

universe u

-- A quantifier over the members of a list is decided along the list, also where
-- the whole type could be enumerated.
instance (priority := high) decidableSomeMember {α : Type u} {p : α → Prop}
    [DecidablePred p] (values : List α) : Decidable (∃ value ∈ values, p value) :=
  List.decidableBEx p values

instance (priority := high) decidableEveryMember {α : Type u} {p : α → Prop}
    [DecidablePred p] (values : List α) : Decidable (∀ value ∈ values, p value) :=
  List.decidableBAll p values

namespace Checked

variable {ε : Type u} {α β : Type}

/-- Refuse with `problem` when `bad` holds. -/
def failIf (bad : Prop) [Decidable bad] (problem : ε) : Except ε Unit :=
  if bad then .error problem else .ok ()

/-- The value of an optional, or the refusal `problem`. -/
def orFail (value : Option α) (problem : ε) : Except ε α :=
  match value with
  | none => .error problem
  | some held => .ok held

@[simp] theorem failIf_eq_ok (bad : Prop) [Decidable bad] (problem : ε)
    (passed : Unit) :
    failIf bad problem = .ok passed ↔ ¬ bad := by
  unfold failIf
  split <;> simp [*]

@[simp] theorem orFail_eq_ok (value : Option α) (problem : ε) (held : α) :
    orFail value problem = .ok held ↔ value = some held := by
  cases value <;> simp [orFail]

@[simp] theorem bind_eq_ok (first : Except ε α) (next : α → Except ε β)
    (result : β) :
    (first >>= next) = .ok result ↔
      ∃ middle, first = .ok middle ∧ next middle = .ok result := by
  cases first <;> simp [bind, Except.bind]

/-- A guard returns nothing, so there is nothing to quantify over. -/
theorem exists_passed (p : Unit → Prop) : (∃ passed, p passed) ↔ p () :=
  ⟨fun ⟨_, h⟩ => h, fun h => ⟨(), h⟩⟩

/-- A guard returns nothing, so its inversion leaves no value behind. -/
@[simp high] theorem bind_unit_eq_ok (first : Except ε Unit) (next : Unit → Except ε β)
    (result : β) :
    (first >>= next) = .ok result ↔ first = .ok () ∧ next () = .ok result := by
  cases first <;> simp [bind, Except.bind]

@[simp] theorem pure_eq_ok (value result : α) :
    (pure value : Except ε α) = .ok result ↔ value = result := by
  simp [pure, Except.pure]

@[simp] theorem map_eq_ok (f : α → β) (first : Except ε α) (result : β) :
    (f <$> first) = .ok result ↔ ∃ middle, first = .ok middle ∧ f middle = result := by
  cases first <;> simp [Functor.map, Except.map]

theorem exists_of_isOk {first : Except ε α} (h : first.isOk = true) :
    ∃ value, first = .ok value := by
  cases first with
  | error problem => cases h
  | ok value => exact ⟨value, rfl⟩

/-- Run a check on every element of a list, in order. -/
def checkAll (check : α → Except ε Unit) : List α → Except ε Unit
  | [] => .ok ()
  | item :: rest => do
      check item
      checkAll check rest

@[simp] theorem checkAll_eq_ok (check : α → Except ε Unit)
    (items : List α) (passed : Unit) :
    checkAll check items = .ok passed ↔ ∀ item ∈ items, check item = .ok () := by
  induction items with
  | nil => simp [checkAll]
  | cons item rest ih => simp [checkAll, ih]

/-- Fold a checked step over a list, from the left. -/
def foldChecked (step : β → α → Except ε β) : β → List α → Except ε β
  | state, [] => .ok state
  | state, item :: rest => do
      let next ← step state item
      foldChecked step next rest

@[simp] theorem foldChecked_nil (step : β → α → Except ε β) (state : β) :
    foldChecked step state [] = .ok state := rfl

theorem foldChecked_cons_eq_ok (step : β → α → Except ε β) (state result : β)
    (item : α) (rest : List α) : foldChecked step state (item :: rest) = .ok result ↔
      ∃ next, step state item = .ok next ∧ foldChecked step next rest = .ok result := by
  simp [foldChecked]

theorem foldChecked_append_eq_ok (step : β → α → Except ε β) (state result : β)
    (first second : List α) : foldChecked step state (first ++ second) = .ok result ↔
      ∃ middle, foldChecked step state first = .ok middle ∧
        foldChecked step middle second = .ok result := by
  induction first generalizing state with
  | nil => simp [foldChecked]
  | cons item rest ih =>
      simp only [List.cons_append, foldChecked, bind_eq_ok, ih]
      constructor
      · rintro ⟨next, hnext, middle, hmiddle, hresult⟩
        exact ⟨middle, ⟨next, hnext, hmiddle⟩, hresult⟩
      · rintro ⟨middle, ⟨next, hnext, hmiddle⟩, hresult⟩
        exact ⟨next, hnext, middle, hmiddle, hresult⟩

theorem foldChecked_snoc_eq_ok (step : β → α → Except ε β) (state result : β)
    (items : List α) (last : α) : foldChecked step state (items ++ [last]) = .ok result ↔
      ∃ middle, foldChecked step state items = .ok middle ∧
        step middle last = .ok result := by
  simp [foldChecked_append_eq_ok, foldChecked]

variable {step : β → α → Except ε β} {items : List α} {state result : β}

/-- Every item of a successful fold was stepped over. -/
theorem foldChecked_mem (hrun : foldChecked step state items = .ok result)
    {item : α} (hitem : item ∈ items) :
    ∃ before after, step before item = .ok after := by
  induction items generalizing state with
  | nil => cases hitem
  | cons first rest ih =>
      obtain ⟨next, hnext, hrest⟩ := (foldChecked_cons_eq_ok ..).mp hrun
      rcases List.mem_cons.mp hitem with rfl | hlater
      · exact ⟨state, next, hnext⟩
      · exact ih hrest hlater

/--
What holds of the processed prefix and the state, holds of the whole list at
the end of a successful fold, once every step keeps it.
-/
theorem foldChecked_invariant
    (invariant : List α → β → Prop) (hstep : ∀ done state item next, invariant done state →
      step state item = .ok next → invariant (done ++ [item]) next) {done : List α}
    (hinit : invariant done state) (hrun : foldChecked step state items = .ok result) :
    invariant (done ++ items) result := by
  induction items generalizing done state with
  | nil =>
      simp only [foldChecked_nil, Except.ok.injEq] at hrun
      simpa [hrun] using hinit
  | cons item rest ih =>
      obtain ⟨next, hnext, hrest⟩ := (foldChecked_cons_eq_ok ..).mp hrun
      simpa using ih (hstep done state item next hinit hnext) hrest

/-- A fold succeeds alike under a second step that follows the first on every
item of the list. -/
theorem foldChecked_agree {other : β → α → Except ε β}
    (hagree : ∀ item ∈ items, ∀ state next, step state item = .ok next →
      other state item = .ok next) (hrun : foldChecked step state items = .ok result) :
    foldChecked other state items = .ok result := by
  induction items generalizing state with
  | nil => exact hrun
  | cons item rest ih =>
      obtain ⟨next, hnext, hrest⟩ := (foldChecked_cons_eq_ok ..).mp hrun
      exact (foldChecked_cons_eq_ok ..).mpr
        ⟨next, hagree item (List.mem_cons_self ..) state next hnext,
          ih (fun other hother => hagree other (List.mem_cons_of_mem _ hother)) hrest⟩

/-- A fold succeeds alike under a second step that follows the first wherever
an invariant of the processed prefix and the state holds. -/
theorem foldChecked_transfer {other : β → α → Except ε β} (invariant : List α → β → Prop)
    (hstep : ∀ done state item next, invariant done state →
      step state item = .ok next → invariant (done ++ [item]) next)
    (hagree : ∀ done state item next, invariant done state →
      step state item = .ok next → other state item = .ok next) {done : List α}
    (hinit : invariant done state) (hrun : foldChecked step state items = .ok result) :
    foldChecked other state items = .ok result := by
  induction items generalizing done state with
  | nil => exact hrun
  | cons item rest ih =>
      obtain ⟨next, hnext, hrest⟩ := (foldChecked_cons_eq_ok ..).mp hrun
      exact (foldChecked_cons_eq_ok ..).mpr ⟨next, hagree done state item next hinit hnext,
          ih (hstep done state item next hinit hnext) hrest⟩

end Checked

end DodgingInfinity
