import DodgingInfinity.Library.Finishing
import DodgingInfinity.MissionCore.Shape
import Mathlib.Data.List.Dedup
import Mathlib.Data.List.TakeWhile

/-!
# The dependency graph

The depth-first walk over the MISSION dependencies of every state record finds a
cycle exactly when there is one.  What it has finished is an order in which every
Mission comes after those it depends on; what it has open is a path.
-/

namespace DodgingInfinity.MissionCore

open Relation

/-- A node leads to the children it lists that are nodes themselves. -/
def Leads (edges : Dict String (List String)) (node child : String) : Prop :=
  child ∈ (edges.get? node).getD [] ∧ (edges.get? child).isSome

/-- A walk that is let run until nothing is open or a cycle is met, with no bound on
its turns. -/
inductive Visits (edges : Dict String (List String)) :
    Walk → Except (List String) (Dict String Colour) → Prop
  | closed (walk : Walk) (hstack : walk.stack = []) :
      Visits edges walk (.ok walk.colour)
  | turned (walk next : Walk) (result : Except (List String) (Dict String Colour))
      (hstack : walk.stack ≠ []) (hstep : walkStep edges walk = .ok next)
      (hrest : Visits edges next result) : Visits edges walk result
  | cycle (walk : Walk) (path : List String) (hstack : walk.stack ≠ [])
      (hstep : walkStep edges walk = .error path) : Visits edges walk (.error path)

/-- The walks from every node not visited yet, each let run to its end. -/
inductive Searches (edges : Dict String (List String)) : Dict String Colour → List String →
      Except (List String) (Dict String Colour) → Prop
  | done (colour : Dict String Colour) : Searches edges colour [] (.ok colour)
  | visited (colour : Dict String Colour) (start : String) (rest : List String)
      (result : Except (List String) (Dict String Colour))
      (hvisited : colour.get? start ≠ some .white) (hrest : Searches edges colour rest result) :
      Searches edges colour (start :: rest) result
  | walked (colour visited : Dict String Colour) (start : String)
      (rest : List String) (result : Except (List String) (Dict String Colour))
      (hwhite : colour.get? start = some .white) (hwalk : Visits edges {
        colour := colour.set start .grey
        stack := [(start, (edges.get? start).getD [])] } (.ok visited))
      (hrest : Searches edges visited rest result) :
      Searches edges colour (start :: rest) result
  | cycle (colour : Dict String Colour) (start : String) (rest path : List String)
      (hwhite : colour.get? start = some .white)
      (hwalk : Visits edges {
        colour := colour.set start .grey
        stack := [(start, (edges.get? start).getD [])] } (.error path)) :
      Searches edges colour (start :: rest) (.error path)

/-! ## What a walk keeps -/

/-- What is still to be visited of every open node: a child that is a node is among
the remaining ones, is finished, or is the node opened above. -/
def Explored (edges : Dict String (List String)) (order : List String) :
    Option String → List (String × List String) → Prop
  | _, [] => True
  | opened, (node, remaining) :: rest =>
      (∀ child, Leads edges node child → child ∈ remaining ∨ child ∈ order ∨ opened = some child) ∧
      (∀ child ∈ remaining, child ∈ (edges.get? node).getD []) ∧
      (∀ child, opened = some child → Leads edges node child) ∧
      Explored edges order (some node) rest

/-- The invariant of a walk, with the nodes it finished, the last first. -/
structure Standing (edges : Dict String (List String)) (walk : Walk)
    (order : List String) : Prop where
  coloured : ∀ name, (walk.colour.get? name).isSome = (edges.get? name).isSome
  grey : ∀ name, walk.colour.get? name = some .grey ↔ name ∈ walk.stack.map Prod.fst
  black : ∀ name, walk.colour.get? name = some .black ↔ name ∈ order
  finished : Finished (Leads edges) order
  nodup : order.Nodup
  opened_nodup : (walk.stack.map Prod.fst).Nodup
  explored : Explored edges order none walk.stack

section

variable {edges : Dict String (List String)} {walk next : Walk}
  {order earlier : List String} {opened : Option String}
  {stack : List (String × List String)} {node child : String}

theorem Explored.mono (h : Explored edges earlier opened stack)
    (hsub : ∀ name ∈ earlier, name ∈ order) : Explored edges order opened stack := by
  induction stack generalizing opened with
  | nil => trivial
  | cons entry rest ih =>
      obtain ⟨node, remaining⟩ := entry
      obtain ⟨hleft, hchildren, hopened, hrest⟩ := h
      refine ⟨?_, hchildren, hopened, ih hrest⟩
      intro child hleads
      rcases hleft child hleads with hremaining | hfinished | heq
      · exact .inl hremaining
      · exact .inr (.inl (hsub child hfinished))
      · exact .inr (.inr heq)

/-- Once the node opened above is finished, nothing above is open. -/
theorem Explored.closed (h : Explored edges order (some node) stack)
    (hfinished : node ∈ order) : Explored edges order none stack := by
  cases stack with
  | nil => trivial
  | cons entry rest =>
      obtain ⟨below, remaining⟩ := entry
      obtain ⟨hleft, hchildren, -, hrest⟩ := h
      refine ⟨?_, hchildren, ?_, hrest⟩
      · intro child hleads
        rcases hleft child hleads with hremaining | hchild | heq
        · exact .inl hremaining
        · exact .inr (.inl hchild)
        · rw [Option.some.injEq] at heq
          exact .inr (.inl (heq ▸ hfinished))
      · intro child heq
        cases heq

/-- The open nodes lead one to the next, the innermost first. -/
theorem Explored.linked (h : Explored edges order opened stack) :
    (stack.map Prod.fst).IsChain fun above below => Leads edges below above := by
  induction stack generalizing opened with
  | nil => exact .nil
  | cons entry rest ih =>
      obtain ⟨node, remaining⟩ := entry
      obtain ⟨-, -, -, hrest⟩ := h
      cases rest with
      | nil => exact .singleton _
      | cons below rest =>
          obtain ⟨under, others⟩ := below
          simp only [List.map_cons]
          rw [List.isChain_cons_cons]
          exact ⟨hrest.2.2.1 node rfl, ih hrest⟩

/-! ## One turn -/

/-- A child the walk passes over. -/
def Passed (colour : Dict String Colour) (child : String) : Prop :=
  colour.get? child = none ∨ colour.get? child = some .black

variable {colour : Dict String Colour} {children others : List String}

theorem nextChild_eq_nil (h : nextChild colour children = []) :
    ∀ child ∈ children, Passed colour child := by
  intro child hchild
  have hpassed := List.dropWhile_eq_nil_iff.mp h child hchild
  rwa [decide_eq_true_eq] at hpassed

/-- The child a turn comes to: those before it are passed over. -/
theorem nextChild_eq_cons (h : nextChild colour children = child :: others) :
    child ∈ children ∧ ¬ Passed colour child ∧ (∀ other ∈ others, other ∈ children) ∧
      ∀ other ∈ children, Passed colour other ∨ other = child ∨ other ∈ others := by
  unfold nextChild at h
  induction children with
  | nil => cases h
  | cons first rest ih =>
      by_cases hfirst : Passed colour first
      · rw [List.dropWhile_cons_of_pos (by simpa [Passed] using hfirst)] at h
        obtain ⟨hmem, hnext, hothers, hrest⟩ := ih h
        refine ⟨List.mem_cons_of_mem _ hmem, hnext, ?_, ?_⟩
        · intro other hother
          exact List.mem_cons_of_mem _ (hothers other hother)
        · intro other hother
          rcases List.mem_cons.mp hother with rfl | hother
          · exact .inl hfirst
          · exact hrest other hother
      · rw [List.dropWhile_cons_of_neg (by simpa [Passed] using hfirst),
          List.cons.injEq] at h
        obtain ⟨rfl, rfl⟩ := h
        refine ⟨List.mem_cons_self, hfirst, ?_, ?_⟩
        · intro other hother
          exact List.mem_cons_of_mem _ hother
        · intro other hother
          exact .inr (List.mem_cons.mp hother)

/-- A child that is passed over is no node, or is finished. -/
theorem Standing.passed (h : Standing edges walk order)
    (hpassed : Passed walk.colour child) (hleads : Leads edges node child) :
    child ∈ order := by
  rcases hpassed with hnone | hblack
  · have hcoloured := h.coloured child
    rw [hnone, hleads.2] at hcoloured
    cases hcoloured
  · exact (h.black child).mp hblack

/-- The innermost node is finished when all its children were passed over. -/
theorem Standing.close {rest : List (String × List String)}
    (h : Standing edges walk order) (hstack : walk.stack = (node, children) :: rest)
    (hpassed : ∀ child ∈ children, Passed walk.colour child) : Standing edges {
      colour := walk.colour.set node .black
      stack := rest } (node :: order) := by
  have hexplored := h.explored
  rw [hstack] at hexplored
  obtain ⟨hleft, -, -, hrest⟩ := hexplored
  have hgrey : walk.colour.get? node = some .grey := by
    rw [h.grey, hstack]
    exact List.mem_cons_self
  have hnew : node ∉ order := by
    intro hfinished
    rw [← h.black, hgrey] at hfinished
    cases hfinished
  have hopened := h.opened_nodup
  rw [hstack, List.map_cons, List.nodup_cons] at hopened
  have hdone : ∀ child, Leads edges node child → child ∈ order := by
    intro child hleads
    rcases hleft child hleads with hremaining | hfinished | hnone
    · exact h.passed (hpassed child hremaining) hleads
    · exact hfinished
    · cases hnone
  exact {
    coloured := by
      intro name
      dsimp only
      rw [Dict.get?_set]
      split_ifs with heq
      · rw [heq, ← h.coloured node, hgrey]
        rfl
      · exact h.coloured name
    grey := by
      intro name
      dsimp only
      rw [Dict.get?_set]
      split_ifs with heq
      · subst heq
        simpa using hopened.1
      · rw [h.grey, hstack, List.map_cons, List.mem_cons]
        simp [heq]
    black := by
      intro name
      dsimp only
      rw [Dict.get?_set]
      split_ifs with heq
      · simp [heq]
      · rw [h.black, List.mem_cons]
        simp [heq]
    finished := ⟨hdone, h.finished⟩
    nodup := List.nodup_cons.mpr ⟨hnew, h.nodup⟩
    opened_nodup := hopened.2
    explored := by
      have hmono := hrest.mono fun name hname => List.mem_cons_of_mem node hname
      exact hmono.closed List.mem_cons_self }

/-- A white child is opened above the innermost node. -/
theorem Standing.open {rest : List (String × List String)}
    (h : Standing edges walk order) (hstack : walk.stack = (node, children) :: rest)
    (hnext : nextChild walk.colour children = child :: others)
    (hwhite : walk.colour.get? child = some .white) : Standing edges {
      colour := walk.colour.set child .grey
      stack := (child, (edges.get? child).getD []) :: (node, others) :: rest }
      order := by
  have hexplored := h.explored
  rw [hstack] at hexplored
  obtain ⟨hleft, hchildren, -, hrest⟩ := hexplored
  obtain ⟨hmem, -, hothers, hsplit⟩ := nextChild_eq_cons hnext
  have hnode : (edges.get? child).isSome := by
    rw [← h.coloured child, hwhite]
    rfl
  exact {
    coloured := by
      intro name
      dsimp only
      rw [Dict.get?_set]
      split_ifs with heq
      · rw [heq, ← h.coloured child, hwhite]
        rfl
      · exact h.coloured name
    grey := by
      intro name
      dsimp only
      rw [Dict.get?_set]
      split_ifs with heq
      · simp [heq]
      · rw [h.grey, hstack]
        simp [heq]
    black := by
      intro name
      dsimp only
      rw [Dict.get?_set]
      split_ifs with heq
      · rw [heq, ← h.black, hwhite]
        simp
      · exact h.black name
    finished := h.finished
    nodup := h.nodup
    opened_nodup := by
      have hopened := h.opened_nodup
      rw [hstack] at hopened
      refine List.nodup_cons.mpr ⟨?_, hopened⟩
      intro hgrey
      have := (h.grey child).mpr (by rw [hstack]; exact hgrey)
      rw [hwhite] at this
      cases this
    explored := by
      refine ⟨fun next hleads => .inl hleads.1, fun next hnext => hnext, ?_, ?_⟩
      · intro next hnone
        cases hnone
      · refine ⟨?_, ?_, ?_, hrest⟩
        · intro next hleads
          rcases hleft next hleads with hremaining | hfinished | hnone
          · rcases hsplit next hremaining with hpassed | rfl | hother
            · exact .inr (.inl (h.passed hpassed hleads))
            · exact .inr (.inr rfl)
            · exact .inl hother
          · exact .inr (.inl hfinished)
          · cases hnone
        · intro next hother
          exact hchildren next (hothers next hother)
        · intro next heq
          rw [Option.some.injEq] at heq
          exact heq ▸ ⟨hchildren child hmem, hnode⟩ }

/-- An open child closes a cycle with the nodes opened above it. -/
theorem Standing.cyclic {rest : List (String × List String)}
    (h : Standing edges walk order) (hstack : walk.stack = (node, children) :: rest)
    (hnext : nextChild walk.colour children = child :: others)
    (hgrey : walk.colour.get? child = some .grey) : CyclicPath (Leads edges)
      (walk.path.dropWhile (fun name => name ≠ child) ++ [child]) := by
  have hexplored := h.explored
  have hlinked := hexplored.linked
  rw [hstack] at hexplored
  have hnode : (edges.get? child).isSome := by
    rw [← h.coloured child, hgrey]
    rfl
  have hleads : Leads edges node child :=
    ⟨hexplored.2.1 child (nextChild_eq_cons hnext).1, hnode⟩
  apply cyclicPath_of_isChain
  · unfold Walk.path
    rw [← List.reverse_cons, List.isChain_reverse]
    rw [hstack] at hlinked ⊢
    simp only [List.map_cons] at hlinked ⊢
    exact List.isChain_cons_cons.mpr ⟨hleads, hlinked⟩
  · unfold Walk.path
    rw [List.mem_reverse]
    exact (h.grey child).mp hgrey

/-! ## Turns -/

def isWhite (colour : Dict String Colour) (name : String) : Bool :=
  colour.get? name = some .white

/-- The turns a walk can still take: each opens a white node or closes an open one. -/
def turnsLeft (edges : Dict String (List String)) (walk : Walk) : Nat :=
  2 * edges.keys.countP (isWhite walk.colour) + walk.stack.length

/-- No node turns white again. -/
def Darkens (colour later : Dict String Colour) : Prop :=
  ∀ name, colour.get? name ≠ some .white → later.get? name ≠ some .white

theorem darkens_set (colour : Dict String Colour) (node : String) {shade : Colour}
    (hshade : shade ≠ .white) : Darkens colour (colour.set node shade) := by
  intro name hname
  rw [Dict.get?_set]
  split_ifs with heq
  · rw [ne_eq, Option.some.injEq]
    exact hshade
  · exact hname

theorem isWhite_set (name : String) {shade : Colour} (hshade : shade ≠ .white) :
    isWhite (colour.set node shade) name =
      decide (name ≠ node ∧ isWhite colour name = true) := by
  unfold isWhite
  rw [Dict.get?_set]
  split_ifs with heq
  · simp [heq, hshade]
  · simp [heq]

theorem countP_isWhite_set_le (keys : List String) {shade : Colour} (hshade : shade ≠ .white) :
    keys.countP (isWhite (colour.set node shade)) ≤ keys.countP (isWhite colour) := by
  apply List.countP_mono_left
  intro name _ hwhite
  rw [isWhite_set name hshade, decide_eq_true_eq] at hwhite
  exact hwhite.2

theorem countP_isWhite_set_lt {keys : List String} {shade : Colour}
    (hshade : shade ≠ .white) (hmem : node ∈ keys) (hwhite : isWhite colour node = true) :
    keys.countP (isWhite (colour.set node shade)) < keys.countP (isWhite colour) := by
  induction keys with
  | nil => cases hmem
  | cons first rest ih =>
      by_cases hfirst : first = node
      · subst hfirst
        have hnot : isWhite (colour.set first shade) first ≠ true := by
          simp [isWhite_set first hshade]
        rw [List.countP_cons_of_pos hwhite, List.countP_cons_of_neg hnot]
        exact Nat.lt_succ_of_le (countP_isWhite_set_le rest hshade)
      · have hrest := ih ((List.mem_cons.mp hmem).resolve_left (Ne.symm hfirst))
        have hsame : isWhite (colour.set node shade) first = isWhite colour first := by
          simp [isWhite_set first hshade, hfirst]
        rw [List.countP_cons, List.countP_cons, hsame]
        omega

theorem Standing.mem_keys (h : Standing edges walk order)
    (hcoloured : (walk.colour.get? node).isSome) : node ∈ edges.keys := by
  rw [h.coloured node] at hcoloured
  rw [Dict.mem_keys_iff]
  exact hcoloured

/-- One turn keeps the invariant and takes one of the turns left, or names a cycle. -/
theorem Standing.step (h : Standing edges walk order) (hstack : walk.stack ≠ []) :
    (∃ next later, walkStep edges walk = .ok next ∧ Standing edges next later ∧
        turnsLeft edges next < turnsLeft edges walk ∧ Darkens walk.colour next.colour) ∨
      ∃ path, walkStep edges walk = .error path ∧
        CyclicPath (Leads edges) path := by
  cases hentries : walk.stack with
  | nil => exact absurd hentries hstack
  | cons entry rest =>
      obtain ⟨node, children⟩ := entry
      cases hnext : nextChild walk.colour children with
      | nil =>
          refine .inl ⟨_, node :: order, ?_, h.close hentries (nextChild_eq_nil hnext), ?_, ?_⟩
          · simp only [walkStep, hentries, hnext]
          · have hwhite := @countP_isWhite_set_le node walk.colour edges.keys .black
              (by decide)
            simp only [turnsLeft, hentries, List.length_cons]
            omega
          · exact darkens_set walk.colour node (by decide)
      | cons child others =>
          have hpassed := (nextChild_eq_cons hnext).2.1
          by_cases hgrey : walk.colour.get? child = some .grey
          · refine .inr ⟨_, ?_, h.cyclic hentries hnext hgrey⟩
            simp only [walkStep, hentries, hnext, if_pos hgrey]
          · have hwhite : walk.colour.get? child = some .white := by
              cases hcolour : walk.colour.get? child with
              | none => exact absurd (.inl hcolour) hpassed
              | some shade =>
                  cases shade with
                  | white => rfl
                  | grey => exact absurd hcolour hgrey
                  | black => exact absurd (.inr hcolour) hpassed
            refine .inl ⟨_, order, ?_, h.open hentries hnext hwhite, ?_,
              darkens_set walk.colour child (by decide)⟩
            · simp only [walkStep, hentries, hnext, if_neg hgrey]
            · have hmem : child ∈ edges.keys := by
                apply h.mem_keys
                rw [hwhite]
                rfl
              have hfewer := @countP_isWhite_set_lt _ walk.colour _ .grey (by decide) hmem
                (by simp [isWhite, hwhite])
              simp only [turnsLeft, hentries, List.length_cons]
              omega

theorem Standing.start (h : Standing edges { colour := colour, stack := [] } order)
    (hwhite : colour.get? node = some .white) :
    Standing edges {
      colour := colour.set node .grey
      stack := [(node, (edges.get? node).getD [])] } order where
  coloured := by
    intro name
    dsimp only
    rw [Dict.get?_set]
    split_ifs with heq
    · rw [heq, ← h.coloured node, hwhite]
      rfl
    · exact h.coloured name
  grey := by
    intro name
    dsimp only
    rw [Dict.get?_set]
    split_ifs with heq
    · simp [heq]
    · rw [h.grey]
      simp [heq]
  black := by
    intro name
    dsimp only
    rw [Dict.get?_set]
    split_ifs with heq
    · rw [heq, ← h.black, hwhite]
      simp
    · exact h.black name
  finished := h.finished
  nodup := h.nodup
  opened_nodup := by simp
  explored := by
    refine ⟨fun next hleads => .inl hleads.1, fun next hnext => hnext, ?_, trivial⟩
    intro next hnone
    cases hnone

/-- How a search ends: with nothing open, or at a cycle. -/
def Ended (edges : Dict String (List String)) (colour : Dict String Colour)
    (result : Except (List String) (Dict String Colour)) : Prop :=
  (∃ visited later, result = .ok visited ∧ Standing edges { colour := visited, stack := [] } later ∧
      Darkens colour visited) ∨ ∃ path, result = .error path ∧ CyclicPath (Leads edges) path

/-- A walk with nothing open is at its end. -/
theorem Standing.still (h : Standing edges walk order) (hstack : walk.stack = []) :
    Visits edges walk (.ok walk.colour) ∧
      Ended edges walk.colour (.ok walk.colour) := by
  refine ⟨.closed walk hstack, .inl ⟨walk.colour, order, rfl, ?_, fun name hname => hname⟩⟩
  obtain ⟨colour, stack⟩ := walk
  subst hstack
  exact h

/-- With turns enough, a walk is let run to its end. -/
theorem Standing.ended {turns : Nat} (h : Standing edges walk order)
    (hturns : turnsLeft edges walk ≤ turns) : Visits edges walk (walkFrom edges turns walk) ∧
      Ended edges walk.colour (walkFrom edges turns walk) := by
  induction turns generalizing walk order with
  | zero =>
      have hstack : walk.stack = [] := by
        rw [← List.length_eq_zero_iff]
        unfold turnsLeft at hturns
        omega
      exact h.still hstack
  | succ turns ih =>
      cases hstack : walk.stack with
      | nil =>
          simp only [walkFrom, hstack]
          exact h.still hstack
      | cons entry rest =>
          have hopen : walk.stack ≠ [] := by
            rw [hstack]
            exact List.cons_ne_nil _ _
          rcases h.step hopen with
            ⟨next, later, hstep, hnext, hfewer, hdarkens⟩ | ⟨path, hstep, hcycle⟩
          · have hrun : walkFrom edges (turns + 1) walk = walkFrom edges turns next := by
              simp only [walkFrom, hstack, hstep]
              rfl
            obtain ⟨hvisits, hended⟩ := ih hnext (by omega)
            rw [hrun]
            refine ⟨.turned walk next _ hopen hstep hvisits, ?_⟩
            rcases hended with ⟨visited, last, hresult, hlast, hdarker⟩ | hcycle
            · exact .inl ⟨visited, last, hresult, hlast,
                fun name hname => hdarker name (hdarkens name hname)⟩
            · exact .inr hcycle
          · have hrun : walkFrom edges (turns + 1) walk = .error path := by
              simp only [walkFrom, hstack, hstep]
              rfl
            rw [hrun]
            exact ⟨.cycle walk path hopen hstep, .inr ⟨path, rfl, hcycle⟩⟩

/-- The turns a walk is given are enough. -/
theorem turnsLeft_start_le : turnsLeft edges {
      colour := colour.set node .grey
      stack := [(node, (edges.get? node).getD [])] } ≤
        2 * edges.entries.length + 1 := by
  have hcount := List.countP_le_length (p := isWhite (colour.set node .grey))
    (l := edges.keys)
  have hkeys : edges.keys.length = edges.entries.length := List.length_map _
  simp only [turnsLeft, List.length_singleton]
  omega

/-- A search from a list of nodes leaves none of them white. -/
theorem Standing.searched {starts : List String}
    (h : Standing edges { colour := colour, stack := [] } order) :
    Searches edges colour starts (walkAll edges colour starts) ∧
      ((∃ visited later, walkAll edges colour starts = .ok visited ∧
          Standing edges { colour := visited, stack := [] } later ∧ Darkens colour visited ∧
          ∀ start ∈ starts, visited.get? start ≠ some .white) ∨
        ∃ path, walkAll edges colour starts = .error path ∧
          CyclicPath (Leads edges) path) := by
  induction starts generalizing colour order with
  | nil =>
      refine ⟨.done colour, .inl ⟨colour, order, rfl, h, fun name hname => hname, ?_⟩⟩
      intro start hstart
      cases hstart
  | cons start rest ih =>
      by_cases hwhite : colour.get? start = some .white
      · obtain ⟨hvisits, hended⟩ := (h.start hwhite).ended (@turnsLeft_start_le edges start colour)
        rcases hended with ⟨visited, later, hresult, hlater, hdarkens⟩ | ⟨path, hresult, hcycle⟩
        · have hrun : walkAll edges colour (start :: rest) =
              walkAll edges visited rest := by
            simp only [walkAll, hwhite, ne_eq, not_true_eq_false, if_false, hresult]
            rfl
          rw [hresult] at hvisits
          obtain ⟨hsearches, hends⟩ := ih hlater
          rw [hrun]
          refine ⟨.walked colour visited start rest _ hwhite hvisits hsearches, ?_⟩
          rcases hends with ⟨seen, last, hseen, hlast, hdarker, hall⟩ | hcycle
          · have hstart : (colour.set start .grey).get? start ≠ some .white := by
              simp
            refine .inl ⟨seen, last, hseen, hlast, ?_, ?_⟩
            · intro name hname
              exact hdarker name (hdarkens name
                (darkens_set colour start (by decide) name hname))
            · intro name hname
              rcases List.mem_cons.mp hname with rfl | hname
              · exact hdarker name (hdarkens name hstart)
              · exact hall name hname
          · exact .inr hcycle
        · have hrun : walkAll edges colour (start :: rest) = .error path := by
            simp only [walkAll, hwhite, ne_eq, not_true_eq_false, if_false, hresult]
            rfl
          rw [hresult] at hvisits
          rw [hrun]
          exact ⟨.cycle colour start rest path hwhite hvisits, .inr ⟨path, rfl, hcycle⟩⟩
      · have hrun : walkAll edges colour (start :: rest) =
            walkAll edges colour rest := by
          simp only [walkAll, ne_eq, hwhite, not_false_eq_true, if_true]
        obtain ⟨hsearches, hends⟩ := ih h
        rw [hrun]
        refine ⟨.visited colour start rest _ hwhite hsearches, ?_⟩
        rcases hends with ⟨visited, later, hresult, hlater, hdarkens, hall⟩ | hcycle
        · refine .inl ⟨visited, later, hresult, hlater, hdarkens, ?_⟩
          intro name hname
          rcases List.mem_cons.mp hname with rfl | hname
          · exact hdarkens name hwhite
          · exact hall name hname
        · exact .inr hcycle

/-- A node a finished search did not leave white is finished. -/
theorem Standing.mem_of_dark
    (h : Standing edges { colour := colour, stack := [] } order)
    (hdark : colour.get? node ≠ some .white) (hnode : (edges.get? node).isSome) :
    node ∈ order := by
  have hcoloured := h.coloured node
  rw [hnode] at hcoloured
  cases hcolour : colour.get? node with
  | none =>
      rw [hcolour] at hcoloured
      cases hcoloured
  | some shade =>
      cases shade with
      | white => exact absurd hcolour hdark
      | grey => exact absurd ((h.grey node).mp hcolour) List.not_mem_nil
      | black => exact (h.black node).mp hcolour

/-- The colours a search starts from. -/
def uncoloured (edges : Dict String (List String)) : Dict String Colour :=
  .ofEntries (edges.keys.map fun name => (name, Colour.white))

theorem get?_uncoloured (name : String) : (uncoloured edges).get? name =
      if (edges.get? name).isSome then some .white else none := by
  have hnodup : ((edges.keys.map fun name => (name, Colour.white)).map
      Prod.fst).Nodup := by
    rw [List.map_map]
    exact (List.map_id edges.keys).symm ▸ edges.nodup
  split_ifs with hnode
  · rw [← Dict.mem_entries_iff, uncoloured, Dict.entries_ofEntries hnodup]
    exact List.mem_map_of_mem ((Dict.mem_keys_iff edges name).mpr hnode)
  · rw [← Dict.contains_eq_false_iff, ← Bool.not_eq_true, ← Dict.mem_keys_iff]
    intro hkey
    apply hnode
    unfold Dict.keys at hkey
    rw [uncoloured, Dict.entries_ofEntries hnodup, List.map_map] at hkey
    have hmem : name ∈ edges.keys := (List.map_id edges.keys) ▸ hkey
    exact (Dict.mem_keys_iff edges name).mp hmem

theorem standing_uncoloured :
    Standing edges { colour := uncoloured edges, stack := [] } [] where
  coloured := by
    intro name
    dsimp only
    rw [get?_uncoloured]
    split_ifs with hnode
    · simp [hnode]
    · simp [hnode]
  grey := by
    intro name
    dsimp only
    rw [get?_uncoloured]
    split_ifs <;> simp
  black := by
    intro name
    dsimp only
    rw [get?_uncoloured]
    split_ifs <;> simp
  finished := trivial
  nodup := List.nodup_nil
  opened_nodup := List.nodup_nil
  explored := trivial

/-- The search over every node finds a cycle exactly when there is one. -/
theorem walkAll_uncoloured : (∃ visited, walkAll edges (uncoloured edges) edges.keys = .ok visited ∧
        ∀ name, ¬ TransGen (Leads edges) name name) ∨
      ∃ path, walkAll edges (uncoloured edges) edges.keys = .error path ∧
        CyclicPath (Leads edges) path := by
  rcases @Standing.searched edges _ _ edges.keys (@standing_uncoloured edges) with
    ⟨-, ⟨visited, order, hresult, hstanding, -, hall⟩ | hcycle⟩
  · refine .inl ⟨visited, hresult, ?_⟩
    intro name hcycle
    have hnode : (edges.get? name).isSome := by
      obtain ⟨before, -, hlast⟩ := TransGen.tail'_iff.mp hcycle
      exact hlast.2
    have hkey : name ∈ edges.keys := (Dict.mem_keys_iff edges name).mpr hnode
    exact hstanding.finished.acyclic hstanding.nodup
      (hstanding.mem_of_dark (hall name hkey) hnode) hcycle
  · exact .inr hcycle

end

/-! ## The dependencies of the state records -/

/-- A Mission depends on another that has a state record, resolved or not. -/
def DependsOn (states : Dict String StateRecord) (missionId reference : String) : Prop :=
  ∃ state, states.get? missionId = some state ∧
    reference ∈ missionReferences state ∧ (states.get? reference).isSome

/-- No Mission depends on itself. -/
def NoneOnItself (states : Dict String StateRecord) : Prop :=
  ∀ missionId state, states.get? missionId = some state → missionId ∉ missionReferences state

/-- The dependencies over the Missions with state records close no cycle. -/
def Acyclic (states : Dict String StateRecord) : Prop :=
  ∀ missionId, ¬ TransGen (DependsOn states) missionId missionId

/-- The path a dependency cycle is reported with. -/
def namedCycle (states : Dict String StateRecord) : Option (List String) :=
  match walkAll (dependencyEdges states) (uncoloured (dependencyEdges states))
      (dependencyEdges states).keys with
  | .ok _ => none
  | .error path => some path

section

variable {states : Dict String StateRecord} {missionId reference : String}

theorem mem_dependencyEdges {entry : String × List String} :
    entry ∈ (dependencyEdges states).entries ↔ ∃ state, states.get? entry.1 = some state ∧
        entry.2 = sortedBy id (missionReferences state).dedup := by
  have hnodup : (((sortedBy Prod.fst states.entries).map fun entry =>
      (entry.1, sortedBy id (missionReferences entry.2).dedup)).map
        Prod.fst).Nodup := by
    rw [List.map_map]
    have hperm := (sortedBy_perm Prod.fst states.entries).map Prod.fst
    exact hperm.nodup_iff.mpr states.nodup
  unfold dependencyEdges
  rw [Dict.entries_ofEntries hnodup, List.mem_map]
  constructor
  · rintro ⟨⟨missionId, state⟩, hheld, rfl⟩
    rw [mem_sortedBy, Dict.mem_entries_iff] at hheld
    exact ⟨state, hheld, rfl⟩
  · rintro ⟨state, hheld, hchildren⟩
    refine ⟨(entry.1, state), ?_, Prod.ext rfl hchildren.symm⟩
    rw [mem_sortedBy, Dict.mem_entries_iff]
    exact hheld

theorem get?_dependencyEdges : (dependencyEdges states).get? missionId =
      (states.get? missionId).map fun state =>
        sortedBy id (missionReferences state).dedup := by
  apply Option.ext
  intro children
  rw [← Dict.mem_entries_iff, mem_dependencyEdges, Option.map_eq_some_iff]
  simp only [eq_comm]

theorem leads_dependencyEdges : Leads (dependencyEdges states) missionId reference ↔
      DependsOn states missionId reference := by
  unfold Leads DependsOn
  rw [get?_dependencyEdges, get?_dependencyEdges]
  cases states.get? missionId with
  | none => simp
  | some state => simp [List.mem_dedup]

theorem leads_eq_dependsOn (states : Dict String StateRecord) :
    Leads (dependencyEdges states) = DependsOn states := by
  funext missionId reference
  exact propext leads_dependencyEdges

theorem forall_entries_iff : (¬ ∃ entry ∈ states.entries, entry.1 ∈ missionReferences entry.2) ↔
      NoneOnItself states := by
  constructor
  · intro h missionId state hheld hself
    exact h ⟨(missionId, state), (Dict.mem_entries_iff ..).mpr hheld, hself⟩
  · rintro h ⟨⟨missionId, state⟩, hentry, hself⟩
    exact h missionId state ((Dict.mem_entries_iff ..).mp hentry) hself

theorem dependencyGraphProblem_eq_none :
    dependencyGraphProblem states = none ↔ NoneOnItself states ∧ Acyclic states := by
  unfold dependencyGraphProblem
  split_ifs with hself
  · rw [← forall_entries_iff]
    simp [hself]
  · have hnone := forall_entries_iff.mp hself
    rcases @walkAll_uncoloured (dependencyEdges states) with
      ⟨visited, hresult, hacyclic⟩ | ⟨path, hresult, hcycle⟩
    · rw [leads_eq_dependsOn] at hacyclic
      unfold uncoloured at hresult
      simp only [hresult, true_iff]
      exact ⟨hnone, hacyclic⟩
    · rw [leads_eq_dependsOn] at hcycle
      unfold uncoloured at hresult
      simp only [hresult, reduceCtorEq, false_iff]
      rintro ⟨-, hacyclic⟩
      obtain ⟨missionId, hreach⟩ := hcycle.reach
      exact hacyclic missionId hreach

/-- A cycle is reported exactly with a path, and the path is one of them. -/
theorem dependencyGraphProblem_eq_cycle : dependencyGraphProblem states = some .dependencyCycle ↔
      NoneOnItself states ∧ ∃ path, namedCycle states = some path := by
  unfold dependencyGraphProblem namedCycle uncoloured
  split_ifs with hself
  · rw [← forall_entries_iff]
    simp [hself]
  · have hnone := forall_entries_iff.mp hself
    dsimp only
    split
    · rename_i visited hresult
      simp [hresult]
    · rename_i path hresult
      simp [hresult, hnone]

theorem namedCycle_cyclic {path : List String} (h : namedCycle states = some path) :
    CyclicPath (DependsOn states) path := by
  rw [← leads_eq_dependsOn]
  unfold namedCycle at h
  rcases @walkAll_uncoloured (dependencyEdges states) with
    ⟨visited, hresult, -⟩ | ⟨found, hresult, hcycle⟩
  · rw [hresult] at h
    cases h
  · rw [hresult, Option.some.injEq] at h
    exact h ▸ hcycle

/-! ## The graph of a reachable document -/

variable {changed state : StateRecord}

/-- The graph is read off the references of each record. -/
theorem dependsOn_set_congr (hsame : missionReferences changed = missionReferences state) :
    DependsOn (states.set missionId changed) =
      DependsOn (states.set missionId state) := by
  funext dependent reference
  apply propext
  have hisSome : ((states.set missionId changed).get? reference).isSome =
      ((states.set missionId state).get? reference).isSome := by
    rw [Dict.get?_set, Dict.get?_set]
    split_ifs <;> rfl
  unfold DependsOn
  rw [hisSome]
  by_cases heq : dependent = missionId
  · subst heq
    simp only [Dict.get?_set_self, Option.some.injEq, exists_eq_left', hsame]
  · rw [Dict.get?_set_of_ne _ _ heq, Dict.get?_set_of_ne _ _ heq]

/-- A new record that depends on nothing closes no cycle. -/
theorem Acyclic.set_of_fresh (h : Acyclic states) (hnone : missionReferences changed = []) :
    Acyclic (states.set missionId changed) := by
  have hstep : ∀ dependent reference, DependsOn (states.set missionId changed) dependent reference →
        dependent ≠ missionId ∧
          (reference = missionId ∨ DependsOn states dependent reference) := by
    rintro dependent reference ⟨held, hheld, hreference, hknown⟩
    rw [Dict.get?_set] at hheld
    split_ifs at hheld with hdependent
    · obtain rfl := Option.some.inj hheld
      rw [hnone] at hreference
      cases hreference
    · refine ⟨hdependent, ?_⟩
      rw [Dict.get?_set] at hknown
      split_ifs at hknown with hnew
      · exact .inl hnew
      · exact .inr ⟨held, hheld, hreference, hknown⟩
  have hreach : ∀ dependent reference,
      TransGen (DependsOn (states.set missionId changed)) dependent reference →
        dependent ≠ missionId ∧
          (reference = missionId ∨ TransGen (DependsOn states) dependent reference) := by
    intro dependent reference hpath
    induction hpath with
    | single hfirst =>
        obtain ⟨hne, hend⟩ := hstep _ _ hfirst
        exact ⟨hne, hend.imp_right TransGen.single⟩
    | tail _ hlast ih =>
        obtain ⟨hmiddle, hend⟩ := hstep _ _ hlast
        refine ⟨ih.1, hend.imp_right fun hold => ?_⟩
        exact TransGen.tail (ih.2.resolve_left hmiddle) hold
  intro dependent hcycle
  obtain ⟨hne, hend⟩ := hreach dependent dependent hcycle
  exact h dependent (hend.resolve_left hne)

theorem missionReferences_resolveDependencyIn (dependencies : List Dependency)
    (dependencyId : String) (resolution : Resolution) :
    missionReferences { state with
        dependencies := resolveDependencyIn dependencies dependencyId resolution } =
      missionReferences { state with dependencies := dependencies } := by
  have hresolved : ∀ held : Dependency,
      (if held.dependencyId = dependencyId then
        { held with resolution := some resolution } else held).kind = held.kind ∧
      (if held.dependencyId = dependencyId then
        { held with resolution := some resolution } else held).reference =
          held.reference := by
    intro held
    split_ifs <;> exact ⟨rfl, rfl⟩
  simp only [missionReferences, resolveDependencyIn, List.filter_map, List.map_map,
    Function.comp_def, hresolved]

end

section

variable [JsonDigest] {call : StateCall} {kind : OperationKind}
  {effected : StateRecord} {body : OutcomeBody}

/-- An effect keeps the references of its record, or the graph they make was checked. -/
theorem RecordEffect.references (h : RecordEffect call kind effected body) :
    missionReferences effected = missionReferences call.state ∨ dependencyGraphProblem
        (call.document.missionState.set call.state.missionId effected) = none := by
  cases h with
  | bound dependency hstamp hopen hfresh body hbody hacyclic =>
      by_cases hkind : dependency.kind = .mission
      · exact .inr (hacyclic hkind)
      · left
        simp [missionReferences, hkind]
  | resolved dependency resolution =>
      exact .inl (missionReferences_resolveDependencyIn ..)
  | activated => exact .inl rfl
  | claimed => exact .inl rfl
  | recorded => exact .inl rfl
  | attested => exact .inl rfl
  | submitted => exact .inl rfl
  | accepted => exact .inl rfl
  | invalidated => exact .inl rfl
  | opened => exact .inl rfl
  | cleared => exact .inl rfl
  | rebound => exact .inl rfl
  | observed => exact .inl rfl
  | continued => exact .inl rfl
  | checkpointed => exact .inl rfl
  | closed => exact .inl rfl
  | reconciled => exact .inl rfl

/-- Every record is under its own Mission, and no dependency closes a cycle. -/
structure GraphSound (states : Dict String StateRecord) : Prop where
  keyed : ∀ missionId state, states.get? missionId = some state → state.missionId = missionId
  acyclic : Acyclic states

variable [ReconciliationPlanner] {env : Env} {document next : Document}
  {invocation : StateInvocation} {entry : AppliedOperation} {finished : StateRecord}

theorem GraphSound.applied (h : GraphSound document.missionState)
    (happlied : Applied env document invocation
      (stateOrNew (document.missionState.get? invocation.missionId)
        invocation.missionId env.now) entry call effected body finished) :
    GraphSound (document.missionState.set invocation.missionId finished) := by
  have hbefore : (stateOrNew (document.missionState.get? invocation.missionId)
      invocation.missionId env.now).missionId = invocation.missionId := by
    cases hheld : document.missionState.get? invocation.missionId with
    | none => rfl
    | some before => exact h.keyed _ before hheld
  obtain ⟨-, -, -, -, hmission, -⟩ := happlied.effect.frame
  have hcalled : call.state.missionId = invocation.missionId := by
    rw [happlied.state_eq]
    exact hbefore
  obtain ⟨outcome, snapshot, contract, -, hfinished, -, -⟩ := happlied.finish
  have hreferences : missionReferences finished = missionReferences effected := by
    rw [hfinished]
    rfl
  constructor
  · intro missionId state hheld
    rw [Dict.get?_set] at hheld
    split_ifs at hheld with heq
    · obtain rfl := Option.some.inj hheld
      rw [heq, hfinished]
      exact hmission.trans hcalled
    · exact h.keyed missionId state hheld
  · unfold Acyclic
    rw [dependsOn_set_congr hreferences]
    rcases happlied.effect.references with hsame | hchecked
    · rw [happlied.state_eq] at hsame
      cases hheld : document.missionState.get? invocation.missionId with
      | none =>
          apply h.acyclic.set_of_fresh
          rw [hsame, hheld]
          rfl
      | some before =>
          have hkept : missionReferences effected = missionReferences before := by
            rw [hsame, hheld]
            rfl
          rw [dependsOn_set_congr hkept, Dict.set_eq_self hheld]
          exact h.acyclic
    · rw [happlied.document_eq, hcalled] at hchecked
      exact (dependencyGraphProblem_eq_none.mp hchecked).2

theorem Change.graphSound (h : Change document next)
    (hsound : GraphSound document.missionState) : GraphSound next.missionState := by
  rcases h.missionState_eq with hsame | ⟨env, invocation, finished, hoperation, hset⟩
  · rw [hsame]
    exact hsound
  · obtain ⟨entry, call, effected, body, happlied⟩ := hoperation.applied
    rw [hset]
    exact hsound.applied happlied

theorem Reachable.graphSound (h : Reachable document) :
    GraphSound document.missionState := by
  refine (h.invariant (p := fun document => GraphSound document.missionState) ?_
    fun _ _ _ hsound hchange => hchange.graphSound hsound).2
  constructor
  · intro missionId state hheld
    cases hheld
  · intro missionId hcycle
    obtain ⟨_, ⟨_, hheld, -⟩, -⟩ := TransGen.head'_iff.mp hcycle
    cases hheld

end

/-- The search ends, finds a cycle exactly when there is one, and reports one there
is; and no reachable document has any. -/
theorem dependency_cycles_found_exactly [JsonDigest] [ReconciliationPlanner] :
    (∀ edges, Searches edges (uncoloured edges) edges.keys
      (walkAll edges (uncoloured edges) edges.keys)) ∧
    (∀ states, dependencyGraphProblem states = none ↔ NoneOnItself states ∧ Acyclic states) ∧
    (∀ states, dependencyGraphProblem states = some .dependencyCycle ↔
      NoneOnItself states ∧ ∃ path, namedCycle states = some path) ∧
    (∀ states path, namedCycle states = some path → CyclicPath (DependsOn states) path) ∧
    ∀ document, Reachable document →
      NoneOnItself document.missionState ∧ Acyclic document.missionState := by
  refine ⟨fun edges => (standing_uncoloured.searched).1, fun _ => dependencyGraphProblem_eq_none,
    fun _ => dependencyGraphProblem_eq_cycle,
    fun _ _ => namedCycle_cyclic, ?_⟩
  intro document hreachable
  have hsound := hreachable.graphSound
  refine ⟨?_, hsound.acyclic⟩
  intro missionId state hheld hself
  apply hsound.acyclic missionId
  refine TransGen.single ⟨state, hheld, hself, ?_⟩
  rw [hheld]
  rfl

end DodgingInfinity.MissionCore
