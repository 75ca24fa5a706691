import DodgingInfinity.Herdr.ClearContexts

/-!
# Contexts are cleared in proven panes

Every command of a reset goes to the agent of a role that was proven in the same
reset: found present or with its session replaced, or found again as the only agent
in the pane it was recorded in.
-/

namespace DodgingInfinity.Herdr

open Clearing Procedure

/-- What a reset has asked and was answered, the latest first. -/
abbrev ClearHistory := List (Heard ClearQuestion ClearAnswer)

/-- The role was proven with a record, against the binding it was loaded with, and
goes by the agent. -/
inductive Proven (history : ClearHistory) (logical : String) (agent binding record : Json) : Prop
  | observed {agents : Agents} {roles : Dict String Json} {name : String} {info : AgentInfo}
      {verdict : Verdict}
      (hagents : (⟨.loadRuntime, some agents⟩ : Heard ClearQuestion ClearAnswer) ∈ history)
      (hroles : (⟨.loadBindings, .holds roles⟩ : Heard ClearQuestion ClearAnswer) ∈ history)
      (hname : agents.get? logical = some name) (hbinding : binding = bindingOf roles logical)
      (hinfo : (⟨.agentInfo name, info⟩ : Heard ClearQuestion ClearAnswer) ∈ history)
      (hverdict : classify logical binding info.toJson = some verdict)
      (hkind : verdict.kind = .present ∨ verdict.kind = .replaced)
      (hrecord : agentRecord info.toJson = some record) (hagent : agent = .text name)
  | rediscovered {agents : Agents} {roles : Dict String Json} {name : String} {info : AgentInfo}
      {verdict : Verdict} {listing : Json}
      (hagents : (⟨.loadRuntime, some agents⟩ : Heard ClearQuestion ClearAnswer) ∈ history)
      (hroles : (⟨.loadBindings, .holds roles⟩ : Heard ClearQuestion ClearAnswer) ∈ history)
      (hname : agents.get? logical = some name) (hbinding : binding = bindingOf roles logical)
      (hinfo : (⟨.agentInfo name, info⟩ : Heard ClearQuestion ClearAnswer) ∈ history)
      (hverdict : classify logical binding info.toJson = some verdict)
      (hkind : verdict.kind = .missing)
      (hlisting : (⟨.listAgents, some listing⟩ : Heard ClearQuestion ClearAnswer) ∈ history)
      (hmatch : rediscover binding listing = .ok record) (hagent : agent = agentOf record name)

theorem Proven.grow {history : ClearHistory} {logical : String} {agent binding record : Json}
    (heard : Heard ClearQuestion ClearAnswer) (h : Proven history logical agent binding record) :
    Proven (heard :: history) logical agent binding record := by
  cases h with
  | observed hagents hroles hname hbinding hinfo hverdict hkind hrecord hagent =>
      exact .observed (List.mem_cons_of_mem _ hagents) (List.mem_cons_of_mem _ hroles) hname
        hbinding (List.mem_cons_of_mem _ hinfo) hverdict hkind hrecord hagent
  | rediscovered hagents hroles hname hbinding hinfo hverdict hkind hlisting hmatch hagent =>
      exact .rediscovered (List.mem_cons_of_mem _ hagents) (List.mem_cons_of_mem _ hroles) hname
        hbinding (List.mem_cons_of_mem _ hinfo) hverdict hkind (List.mem_cons_of_mem _ hlisting)
        hmatch hagent

/-- A proven role is in the pane it was recorded in, where one was recorded. -/
theorem Proven.pane {history : ClearHistory} {logical : String} {agent binding record : Json}
    {pane : String × String} (h : Proven history logical agent binding record)
    (hpane : recordedPane binding = some pane) : paneOf record = some pane := by
  cases h with
  | observed _ _ _ _ _ hverdict hkind hrecord _ =>
      obtain ⟨found, hfound, hstable, -⟩ := classify_evidence hverdict hkind
      obtain rfl := Option.some.inj (hrecord.symm.trans hfound)
      exact hstable.pane hpane
  | rediscovered _ _ _ _ _ _ _ _ hmatch _ =>
      obtain ⟨found, hfound, hrecord⟩ := (rediscover_match hmatch).pane
      obtain rfl := Option.some.inj (hpane.symm.trans hfound)
      exact hrecord

/-- The role of a command was proven, and the command goes to its agent. -/
def Warranted (history : ClearHistory) : ClearQuestion → Prop
  | .sendReset agent _ => ∃ logical binding record, Proven history logical agent binding record
  | .reseed agent logical => ∃ binding record, Proven history logical agent binding record
  | _ => True

def warranting : Protocol ClearQuestion ClearAnswer where
  State := ClearHistory
  allows := Warranted
  hears history question answer := ⟨question, answer⟩ :: history

/-! ## Steps that send nothing -/

section

variable {inv : Dict String Json → ClearHistory → Prop} {logical : String}

def Holding (inv : Dict String Json → ClearHistory → Prop) (state : ClearState)
    (history : ClearHistory) : Prop := inv state.bindings history

/-- What is only added to keeps holding. -/
def Grows (inv : Dict String Json → ClearHistory → Prop) : Prop :=
  ∀ bindings history heard, inv bindings history → inv bindings (heard :: history)

/-- The procedure sends nothing unwarranted, and keeps what holds. -/
abbrev Sends {α : Type} (pre : ClearState → ClearHistory → Prop) (procedure : Clearing α)
    (post : α → ClearState → ClearHistory → Prop) : Prop :=
  Keeps warranting pre procedure post (fun _ _ _ => True)

section

variable {α β : Type} {pre : ClearState → ClearHistory → Prop}
  {post : α → ClearState → ClearHistory → Prop} {procedure : Clearing α}

theorem sends_bind {post : β → ClearState → ClearHistory → Prop} {next : α → Clearing β}
    (middle : α → ClearState → ClearHistory → Prop) (hfirst : Sends pre procedure middle)
    (hnext : ∀ value, Sends (middle value) (next value) post) :
    Sends pre (procedure >>= next) post := hfirst.bind hnext

theorem sends_weaken {strong : ClearState → ClearHistory → Prop}
    (pre : ClearState → ClearHistory → Prop) (h : Sends pre procedure post)
    (hpre : ∀ state history, strong state history → pre state history) :
    Sends strong procedure post := h.weaken hpre

theorem sends_mono {more : α → ClearState → ClearHistory → Prop}
    (post : α → ClearState → ClearHistory → Prop) (h : Sends pre procedure post)
    (hpost : ∀ value state history, post value state history → more value state history) :
    Sends pre procedure more := h.mono hpost fun _ _ _ _ => trivial

end

theorem sends_raise {α : Type} {pre : ClearState → ClearHistory → Prop}
    {post : α → ClearState → ClearHistory → Prop} (fault : ClearFault) :
    Sends pre (Procedure.stop fault) post :=
  keeps_stop fault fun _ _ _ => trivial

/-- A question that is always allowed. -/
theorem sends_ask {pre : ClearState → ClearHistory → Prop} (question : ClearQuestion)
    (hquestion : ∀ history, Warranted history question)
    {post : ClearAnswer question → ClearState → ClearHistory → Prop}
    (h : ∀ state history answer, pre state history →
      post answer state (⟨question, answer⟩ :: history)) : Sends pre (ask question) post :=
  keeps_put question (fun _ history _ => hquestion history) h

/-- Go on with an answer that is no exception. -/
theorem sends_attempted {α β : Type} {pre : ClearState → ClearHistory → Prop}
    {post : β → ClearState → ClearHistory → Prop} {held : Option α} {next : α → Clearing β}
    (h : ∀ value, held = some value → Sends pre (next value) post) :
    Sends pre (attempted held >>= next) post := by
  cases held with
  | none =>
      refine sends_bind (fun _ _ _ => False) (sends_raise .raised) fun _ => ?_
      exact fun _ _ hfalse => hfalse.elim
  | some value =>
      refine sends_bind (fun found state history => found = value ∧
        pre state history) (keeps_pure value fun _ _ hpre => ⟨rfl, hpre⟩) fun found => ?_
      rintro state history ⟨rfl, hpre⟩
      exact h found rfl state history hpre

theorem sends_record (phase : ResetPhase) (update : ResetEntry → ResetEntry) :
    Sends (Holding inv) (record logical phase update) (fun _ => Holding inv) :=
  keeps_change _ fun _ _ h => h

theorem sends_saveResetState (hgrows : Grows inv) :
    Sends (Holding inv) saveResetState (fun _ => Holding inv) := by
  refine Keeps.bind (keeps_read (fun _ _ h => h) : Sends _ _ (fun _ => Holding inv)) ?_
  intro state
  refine sends_bind (fun _ => Holding inv)
    (sends_ask (.saveResetState state.document) (fun _ => trivial) fun _ _ _ h =>
      hgrows _ _ _ h) ?_
  intro saved
  unfold orRaise
  split
  · exact keeps_pure _ fun _ _ h => h
  · exact sends_raise .raised

/-- The role, where one was selected, was proven. -/
def SelectedWell (history : ClearHistory) (role : SelectedRole) : Prop :=
  ∃ binding record, Proven history role.logical role.agent binding record

theorem SelectedWell.grow {history : ClearHistory} {role : SelectedRole}
    (heard : Heard ClearQuestion ClearAnswer) (h : SelectedWell history role) :
    SelectedWell (heard :: history) role := by
  obtain ⟨binding, record, hproven⟩ := h
  exact ⟨binding, record, hproven.grow heard⟩

def Chosen (inv : Dict String Json → ClearHistory → Prop) (selected : Option SelectedRole)
    (state : ClearState) (history : ClearHistory) : Prop :=
  Holding inv state history ∧ ∀ role, selected = some role → SelectedWell history role

theorem sends_block (hgrows : Grows inv) (agent : Json) (problem : Option ResetProblem)
    (verdict : Option VerdictKind) :
    Sends (Holding inv) (block logical agent problem verdict) (Chosen inv) := by
  refine Keeps.bind (sends_record _ _) fun _ => ?_
  refine Keeps.bind (sends_saveResetState hgrows) fun _ => ?_
  refine sends_bind (fun _ => Holding inv) (keeps_change _ fun _ _ h => h) fun _ => ?_
  exact keeps_pure none fun _ _ h => ⟨h, fun role hrole => by cases hrole⟩

theorem sends_plan (hgrows : Grows inv) (agent : Json) (reset : String) (verdict : VerdictKind)
    (hproven : ∀ bindings history, inv bindings history →
      SelectedWell history ⟨logical, agent, reset⟩) :
    Sends (Holding inv) (plan logical agent reset verdict) (Chosen inv) := by
  refine Keeps.bind (sends_record _ _) fun _ => ?_
  refine Keeps.bind (sends_saveResetState hgrows) fun _ => ?_
  refine keeps_pure _ fun state history h => ⟨h, fun role hrole => ?_⟩
  obtain rfl := Option.some.inj hrole
  exact hproven _ _ h

/-! ## Choosing -/

/-- What the choice of one role leaves as it was: all but the binding of the role. -/
structure Steady (logical : String) (inv : Dict String Json → ClearHistory → Prop) : Prop where
  grows : Grows inv
  bound : ∀ bindings history value, inv bindings history → inv (bindings.set logical value) history

theorem sends_adopt (hsteady : Steady logical inv) (agent reset : String) (record : Json)
    (hproven : ∀ bindings history, inv bindings history →
      SelectedWell history ⟨logical, agentOf record agent, reset⟩) :
    Sends (Holding inv) (adopt logical agent reset record) (Chosen inv) := by
  unfold adopt
  split
  · exact sends_raise _
  · refine sends_bind (fun _ => Holding inv)
      (keeps_change _ fun _ _ h => hsteady.bound _ _ _ h) fun _ => ?_
    refine Keeps.bind (keeps_read (fun _ _ h => h) : Sends _ _ (fun _ => Holding inv)) ?_
    intro state
    refine sends_bind (fun _ => Holding inv)
      (sends_ask (.saveBindings state.bindings) (fun _ => trivial) fun _ _ _ h =>
        hsteady.grows _ _ _ h) fun saved => ?_
    refine sends_bind (fun _ => Holding inv) ?_ fun _ =>
      sends_plan hsteady.grows _ _ _ hproven
    unfold orRaise
    split
    · exact keeps_pure _ fun _ _ h => h
    · exact sends_raise .raised

/-- What is known of a reset once its agents and its bindings are loaded. -/
structure LoadedHerd (agents : Agents) (roles : Dict String Json) (history : ClearHistory) :
    Prop where
  agents : (⟨.loadRuntime, some agents⟩ : Heard ClearQuestion ClearAnswer) ∈ history
  roles : (⟨.loadBindings, .holds roles⟩ : Heard ClearQuestion ClearAnswer) ∈ history

variable {agents : Agents} {roles : Dict String Json} {agent : String}

theorem sends_followVerdict (hsteady : Steady logical inv)
    (hloaded : ∀ bindings history, inv bindings history → LoadedHerd agents roles history)
    (hname : agents.get? logical = some agent) (reset : String) {info : AgentInfo}
    (hinfo : ∀ bindings history, inv bindings history →
      (⟨.agentInfo agent, info⟩ : Heard ClearQuestion ClearAnswer) ∈ history)
    {verdict : Verdict}
    (hverdict : classify logical (bindingOf roles logical) info.toJson = some verdict) :
    Sends (Holding inv)
      (followVerdict logical agent reset (bindingOf roles logical) verdict) (Chosen inv) := by
  obtain ⟨hproceed, hrebootstrap, hrediscover⟩ := classify_action hverdict
  -- a role that is present, or whose session was replaced, was read with its record
  have hobserved : verdict.kind = .present ∨ verdict.kind = .replaced →
      Sends (Holding inv) (plan logical (.text agent) reset verdict.kind) (Chosen inv) := by
    intro hkind
    obtain ⟨record, hrecord, -, -⟩ := classify_evidence hverdict hkind
    refine sends_plan hsteady.grows _ _ _ fun bindings history h => ?_
    have hherd := hloaded bindings history h
    exact ⟨_, record, .observed hherd.agents hherd.roles hname rfl (hinfo bindings history h)
      hverdict hkind hrecord rfl⟩
  unfold followVerdict
  split
  · rename_i haction
    have hkind := hrediscover.mp haction
    refine sends_bind (fun answer => Holding fun bindings history =>
      inv bindings history ∧ (⟨.listAgents, answer⟩ : Heard ClearQuestion ClearAnswer) ∈ history)
      (sends_ask .listAgents (fun _ => trivial) fun _ _ _ h =>
        ⟨hsteady.grows _ _ _ h, List.mem_cons_self ..⟩) fun answer => ?_
    refine sends_attempted fun listing hlisting => ?_
    subst hlisting
    -- what is known now is steady as well
    have hlisted : Steady logical fun bindings history => inv bindings history ∧
        (⟨.listAgents, some listing⟩ : Heard ClearQuestion ClearAnswer) ∈ history :=
      ⟨fun _ _ _ h => ⟨hsteady.grows _ _ _ h.1, List.mem_cons_of_mem _ h.2⟩,
        fun _ _ _ h => ⟨hsteady.bound _ _ _ h.1, h.2⟩⟩
    have hweaken : ∀ (selected : Option SelectedRole) (state : ClearState)
        (history : ClearHistory), Chosen (fun bindings history => inv bindings history ∧
          (⟨.listAgents, some listing⟩ : Heard ClearQuestion ClearAnswer) ∈ history)
            selected state history → Chosen inv selected state history :=
      fun _ _ _ h => ⟨h.1.1, h.2⟩
    refine sends_mono (Chosen fun bindings history => inv bindings history ∧
      (⟨.listAgents, some listing⟩ : Heard ClearQuestion ClearAnswer) ∈ history) ?_ hweaken
    cases hfound : rediscover (bindingOf roles logical) listing with
    | error fault =>
        cases fault with
        | problem code => exact sends_block hlisted.grows _ _ _
        | raised => exact sends_raise _
    | ok record =>
        refine sends_adopt hlisted _ _ _ fun bindings history h => ?_
        have hherd := hloaded bindings history h.1
        exact ⟨_, record, .rediscovered hherd.agents hherd.roles hname rfl
          (hinfo bindings history h.1) hverdict hkind h.2 hfound rfl⟩
  · exact sends_block hsteady.grows _ _ _
  · exact sends_block hsteady.grows _ _ _
  · rename_i haction
    exact hobserved (Or.inl (hproceed.mp haction))
  · rename_i haction
    exact hobserved (Or.inr (hrebootstrap.mp haction))

theorem sends_selectRole (hsteady : Steady logical inv)
    (hloaded : ∀ bindings history, inv bindings history → LoadedHerd agents roles history)
    (hname : agents.get? logical = some agent) (config : ClearConfig) :
    Sends (fun state history => Holding inv state history ∧
        state.bindings.get? logical = roles.get? logical)
      (selectRole config logical agent) (Chosen inv) := by
  unfold selectRole
  split
  · exact keeps_pure none fun _ _ h => ⟨h.1, fun role hrole => by cases hrole⟩
  · split
    · exact (sends_block hsteady.grows _ _ _).weaken fun _ _ h => h.1
    · rename_i reset hreset
      refine sends_bind (fun (info : AgentInfo) state (history : ClearHistory) =>
          (Holding inv state history ∧
          (⟨.agentInfo agent, info⟩ : Heard ClearQuestion ClearAnswer) ∈ history) ∧
          state.bindings.get? logical = roles.get? logical)
        (sends_ask (.agentInfo agent) (fun _ => trivial) fun _ _ _ h =>
          ⟨⟨hsteady.grows _ _ _ h.1, List.mem_cons_self ..⟩, h.2⟩) fun info => ?_
      unfold identifyRole
      split
      · exact sends_raise _
      · intro state history hpre
        obtain ⟨⟨hinv, hasked⟩, hbound⟩ := hpre
        have hbinding : bindingOf state.bindings logical = bindingOf roles logical := by
          rw [bindingOf, bindingOf, hbound]
        have hheard : Steady logical fun bindings history => inv bindings history ∧
            (⟨.agentInfo agent, info⟩ : Heard ClearQuestion ClearAnswer) ∈ history :=
          ⟨fun _ _ _ h => ⟨hsteady.grows _ _ _ h.1, List.mem_cons_of_mem _ h.2⟩,
            fun _ _ _ h => ⟨hsteady.bound _ _ _ h.1, h.2⟩⟩
        refine sends_bind (fun now current past => now = state ∧ current = state ∧
          past = history) (keeps_read fun _ _ h => ⟨h.1, h⟩) ?_ state history ⟨rfl, rfl⟩
        intro now
        refine sends_attempted fun verdict hverdict => ?_
        rintro current past ⟨rfl, rfl, rfl⟩
        rw [hbinding] at hverdict ⊢
        exact sends_mono _ (sends_followVerdict hheard (fun bindings history h =>
          hloaded bindings history h.1) hname reset (fun _ _ h => h.2) hverdict)
          (fun _ _ _ h => ⟨h.1.1, h.2⟩) _ _ ⟨hinv, hasked⟩

end

section

variable {agents : Agents} {roles : Dict String Json} {frame : ClearHistory → Prop}

/-- The roles that are still to be chosen are bound as they were loaded. -/
structure Unchosen (agents : Agents) (roles : Dict String Json) (frame : ClearHistory → Prop)
    (rest : List (String × String)) (bindings : Dict String Json) (history : ClearHistory) :
    Prop where
  herd : LoadedHerd agents roles history
  frame : frame history
  bound : ∀ entry ∈ rest, bindings.get? entry.1 = roles.get? entry.1

theorem unchosen_steady {rest : List (String × String)} {logical : String}
    (hframe : ∀ history heard, frame history → frame (heard :: history))
    (hfresh : logical ∉ rest.map Prod.fst) :
    Steady logical (Unchosen agents roles frame rest) where
  grows := fun _ _ _ h => ⟨⟨List.mem_cons_of_mem _ h.herd.agents,
    List.mem_cons_of_mem _ h.herd.roles⟩, hframe _ _ h.frame, h.bound⟩
  bound := by
    intro bindings history value h
    refine ⟨h.herd, h.frame, fun entry hentry => ?_⟩
    rw [Dict.get?_set, if_neg]
    · exact h.bound entry hentry
    · rintro rfl
      exact hfresh (List.mem_map_of_mem hentry)

/-- Every role that is chosen was proven. -/
theorem sends_selectRoles (config : ClearConfig) (rest : List (String × String)) :
    ∀ frame : ClearHistory → Prop, (∀ history heard, frame history → frame (heard :: history)) →
      (rest.map Prod.fst).Nodup → (∀ entry ∈ rest, agents.get? entry.1 = some entry.2) →
      Sends (Holding (Unchosen agents roles frame rest)) (selectRoles config rest)
        (fun selected _ history => frame history ∧
          ∀ role ∈ selected, SelectedWell history role) := by
  induction rest with
  | nil =>
      intro frame _ _ _
      exact keeps_pure [] fun _ _ h => ⟨h.frame, by simp⟩
  | cons entry rest ih =>
      intro frame hframe hdistinct hnames
      rw [List.map_cons, List.nodup_cons] at hdistinct
      obtain ⟨hfresh, hrest⟩ := hdistinct
      have hsteady : Steady entry.1 (Unchosen agents roles frame rest) :=
        unchosen_steady hframe hfresh
      have hfirst := sends_selectRole hsteady (fun _ _ h => h.herd)
        (hnames entry (List.mem_cons_self ..)) config
      refine Keeps.bind (hfirst.weaken fun state history h => ⟨⟨h.herd, h.frame,
        fun other hother => h.bound other (List.mem_cons_of_mem _ hother)⟩,
        h.bound entry (List.mem_cons_self ..)⟩) fun first => ?_
      -- what was chosen first stays proven while the others are chosen
      have hothers := ih (fun history => frame history ∧ ∀ role, first = some role →
          SelectedWell history role)
        (fun history heard h => ⟨hframe _ _ h.1, fun role hrole => (h.2 role hrole).grow heard⟩)
        hrest (fun other hother => hnames other (List.mem_cons_of_mem _ hother))
      refine Keeps.bind (hothers.weaken fun state history h =>
        ⟨h.1.herd, ⟨h.1.frame, h.2⟩, h.1.bound⟩) fun others => ?_
      refine keeps_pure _ fun _ _ h => ⟨h.1.1, fun role hrole => ?_⟩
      rcases List.mem_append.mp hrole with hrole | hrole
      · exact h.1.2 role (Option.mem_toList.mp hrole)
      · exact h.2 role hrole

end

/-! ## Sending -/

section

variable {all : List SelectedRole}

/-- Every role that was chosen was proven. -/
def AllProven (all : List SelectedRole) (_ : Dict String Json) (history : ClearHistory) : Prop :=
  ∀ role ∈ all, SelectedWell history role

theorem allProven_grows : Grows (AllProven all) :=
  fun _ _ heard h role hrole => (h role hrole).grow heard

theorem sends_clearRoles (rest : List SelectedRole) (hrest : ∀ role ∈ rest, role ∈ all) :
    Sends (Holding (AllProven all)) (clearRoles rest) (fun _ => Holding (AllProven all)) := by
  induction rest with
  | nil => exact keeps_pure _ fun _ _ h => h
  | cons role rest ih =>
      have hmem := hrest role (List.mem_cons_self ..)
      refine sends_bind (fun _ => Holding (AllProven all)) (keeps_put _ ?_ ?_) fun answer => ?_
      · intro state history h
        obtain ⟨binding, record, hproven⟩ := h role hmem
        exact ⟨role.logical, binding, record, hproven⟩
      · exact fun _ _ _ h => allProven_grows _ _ _ h
      · refine sends_bind (fun _ => Holding (AllProven all)) ?_
          fun _ => ih fun other hother => hrest other (List.mem_cons_of_mem _ hother)
        cases answer with
        | raised =>
            refine Keeps.bind (sends_record _ _) fun _ => ?_
            refine Keeps.bind (sends_saveResetState allProven_grows) fun _ => ?_
            exact sends_raise _
        | returned code =>
            refine keeps_ite (code ≠ 0) (fun _ => ?_) fun _ => ?_
            · refine Keeps.bind (sends_record _ _) fun _ => ?_
              refine Keeps.bind (sends_saveResetState allProven_grows) fun _ => ?_
              exact sends_raise _
            · refine Keeps.bind (sends_record _ _) fun _ => ?_
              exact sends_saveResetState allProven_grows

theorem sends_reseedRoles (rest : List SelectedRole) (hrest : ∀ role ∈ rest, role ∈ all) :
    Sends (Holding (AllProven all)) (reseedRoles rest) (fun _ => Holding (AllProven all)) := by
  induction rest with
  | nil => exact keeps_pure _ fun _ _ h => h
  | cons role rest ih =>
      have hmem := hrest role (List.mem_cons_self ..)
      refine sends_bind (fun _ => Holding (AllProven all)) (keeps_put _ ?_ ?_) fun answer => ?_
      · intro state history h
        exact h role hmem
      · exact fun _ _ _ h => allProven_grows _ _ _ h
      · refine sends_bind (fun _ => Holding (AllProven all)) ?_
          fun _ => ih fun other hother => hrest other (List.mem_cons_of_mem _ hother)
        cases answer with
        | raised =>
            refine Keeps.bind (sends_record _ _) fun _ => ?_
            refine Keeps.bind (sends_saveResetState allProven_grows) fun _ => ?_
            exact sends_raise _
        | returned code =>
            refine keeps_ite (code ≠ 0) (fun _ => ?_) fun _ => ?_
            · refine Keeps.bind (sends_record _ _) fun _ => ?_
              exact sends_saveResetState allProven_grows
            · refine Keeps.bind (sends_record _ _) fun _ => ?_
              exact sends_saveResetState allProven_grows

end

section

variable {inv : Dict String Json → ClearHistory → Prop}

theorem sends_finishReset (hgrows : Grows inv) :
    Sends (Holding inv) finishReset (fun _ _ _ => True) := by
  refine sends_bind (fun _ => Holding inv) (keeps_change _ fun _ _ h => h) fun _ => ?_
  refine Keeps.bind (sends_saveResetState hgrows) fun _ => ?_
  refine Keeps.bind (keeps_read (fun _ _ h => h) : Sends _ _ (fun _ => Holding inv)) fun _ => ?_
  exact keeps_pure _ fun _ _ _ => trivial

theorem sends_blockAll (rest : List (String × String)) :
    Sends (Holding inv) (blockAll rest) (fun _ => Holding inv) := by
  induction rest with
  | nil => exact keeps_pure _ fun _ _ h => h
  | cons entry rest ih =>
      refine Keeps.bind (sends_record _ _) fun _ => ?_
      exact sends_bind (fun _ => Holding inv) (keeps_change _ fun _ _ h => h) fun _ => ih

theorem sends_clearBound (config : ClearConfig) (agents : Agents) (bindings : BindingsFile) :
    Sends (fun _ history =>
        (⟨.loadRuntime, some agents⟩ : Heard ClearQuestion ClearAnswer) ∈ history ∧
        (⟨.loadBindings, bindings⟩ : Heard ClearQuestion ClearAnswer) ∈ history)
      (clearBound config agents bindings) (fun _ _ _ => True) := by
  cases bindings with
  | corrupt =>
      have hgrows : Grows fun _ _ => True := fun _ _ _ _ => trivial
      refine sends_weaken (Holding fun _ _ => True) ?_ fun _ _ _ => trivial
      exact Keeps.bind (sends_blockAll _) fun _ => sends_finishReset hgrows
  | holds roles =>
      refine sends_bind (fun _ => Holding
        (Unchosen agents roles (fun _ => True) agents.entries)) (keeps_change _ ?_) fun _ => ?_
      · exact fun _ _ h => ⟨⟨h.1, h.2⟩, trivial, fun _ _ => rfl⟩
      · refine Keeps.bind (sends_selectRoles config agents.entries (fun _ => True)
          (fun _ _ _ => trivial) agents.nodup fun entry hentry =>
            (Dict.mem_entries_iff agents entry.1 entry.2).mp hentry) fun selected => ?_
        refine sends_weaken (Holding (AllProven selected)) ?_ fun _ _ h => h.2
        refine Keeps.bind (sends_clearRoles selected fun _ h => h) fun _ => ?_
        refine sends_attempted fun _ _ => ?_
        refine Keeps.bind (sends_reseedRoles selected fun _ h => h) fun _ => ?_
        exact sends_finishReset allProven_grows

/-- Every command of a reset goes to the agent of a role that it has proven. -/
theorem sends_clearContexts :
    Sends (fun _ _ => True) clearContexts (fun _ _ _ => True) := by
  unfold clearContexts
  refine sends_bind (fun _ _ _ => True)
    (sends_ask .loadConfig (fun _ => trivial) fun _ _ _ _ => trivial) fun configAnswer => ?_
  refine sends_attempted fun config _ => ?_
  refine sends_bind (fun answer => Holding fun _ history =>
      (⟨.loadRuntime, answer⟩ : Heard ClearQuestion ClearAnswer) ∈ history)
    (sends_ask .loadRuntime (fun _ => trivial) fun _ _ _ _ => List.mem_cons_self ..) ?_
  intro runtimeAnswer
  refine sends_attempted fun agents hagents => ?_
  subst hagents
  have hgrows : Grows fun _ history =>
      (⟨.loadRuntime, some agents⟩ : Heard ClearQuestion ClearAnswer) ∈ history :=
    fun _ _ _ h => List.mem_cons_of_mem _ h
  refine sends_bind (fun _ => Holding fun _ history =>
      (⟨.loadRuntime, some agents⟩ : Heard ClearQuestion ClearAnswer) ∈ history)
    (sends_ask .readTask (fun _ => trivial) fun _ _ _ h => List.mem_cons_of_mem _ h)
    fun file => ?_
  refine sends_attempted fun task _ => ?_
  refine sends_bind (fun _ => Holding fun _ history =>
      (⟨.loadRuntime, some agents⟩ : Heard ClearQuestion ClearAnswer) ∈ history) ?_ fun _ => ?_
  · unfold refuseActive
    split
    · exact sends_raise _
    · exact keeps_pure _ fun _ _ h => h
  · refine Keeps.bind (sends_saveResetState hgrows) fun _ => ?_
    refine sends_bind (fun bindings _ history =>
        (⟨.loadRuntime, some agents⟩ : Heard ClearQuestion ClearAnswer) ∈ history ∧
        (⟨.loadBindings, bindings⟩ : Heard ClearQuestion ClearAnswer) ∈ history)
      (sends_ask .loadBindings (fun _ => trivial) fun _ _ _ h =>
        ⟨List.mem_cons_of_mem _ h, List.mem_cons_self ..⟩) fun bindings => ?_
    exact sends_clearBound config agents bindings

end

/--
A role is found present only where every recorded stable field is the observed one and
both sessions are known and equal; a rediscovery returns the only agent observed in the
recorded pane; a reset sends a command only to a role proven one of these ways; and two
roles that were recorded in different panes are never proven in one.
-/
theorem contexts_cleared_in_proven_panes :
    (∀ logical binding info verdict, classify logical binding info = some verdict →
      verdict.kind = .present → ∃ record, agentRecord info = some record ∧
        StableHolds binding record ∧ SameSession binding record) ∧
    (∀ binding listing record, rediscover binding listing = .ok record →
      OnlyMatch binding listing record) ∧
    (clearContexts clearStart).Keeps warranting (fun _ _ => True) [] ∧
    (∀ history logical other agent otherAgent binding otherBinding record otherRecord,
      Proven history logical agent binding record →
      Proven history other otherAgent otherBinding otherRecord →
      ∀ pane otherPane, recordedPane binding = some pane →
        recordedPane otherBinding = some otherPane → pane ≠ otherPane →
          paneOf record ≠ paneOf otherRecord) := by
  refine ⟨?_, fun _ _ _ h => rediscover_match h, ?_, ?_⟩
  · intro logical binding info verdict h hkind
    obtain ⟨record, hrecord, hstable, hsession⟩ := classify_evidence h (Or.inl hkind)
    exact ⟨record, hrecord, hstable, hsession.mp hkind⟩
  · exact (sends_clearContexts clearStart [] trivial).mono fun _ _ _ => trivial
  · intro history logical other agent otherAgent binding otherBinding record otherRecord hfirst
      hsecond pane otherPane hpane hotherPane hdiffers hsame
    rw [hfirst.pane hpane, hsecond.pane hotherPane] at hsame
    exact hdiffers (Option.some.inj hsame)

/-! ## Two roles recorded in one pane -/

/-- The questions of a program that is always answered alike. -/
def askedOf {α : Type} (answers : (question : ClearQuestion) → ClearAnswer question) :
    Program ClearQuestion ClearAnswer α → List ClearQuestion
  | .done _ => []
  | .ask question next => question :: askedOf answers (next (answers question))

/-- The agents that are sent a reset command. -/
def resetAgents (questions : List ClearQuestion) : List String :=
  questions.filterMap fun question => match question with
    | .sendReset agent _ => textOf agent
    | _ => none

/-- The one agent that is alive, in the second pane. -/
def leadRecord : Json :=
  .object [("name", .text "lead-a"), ("cwd", .text "/repo"), ("workspace_id", .text "w1"),
    ("pane_id", .text "w1:p2"), ("agent_status", .text "idle"),
    ("agent_session", .object [("value", .text "s-1")])]

def executorRecord : Json :=
  .object [("name", .text "exec-a"), ("cwd", .text "/repo"), ("workspace_id", .text "w1"),
    ("pane_id", .text "w1:p2"), ("agent_session", .object [("value", .text "s-0")])]

/-- Two roles that were recorded in the second pane, one after the other. -/
def sharedBindings : Dict String Json :=
  Dict.ofEntries [("lead1", bindingFor "lead1" (.text "lead-a") leadRecord),
    ("executor1", bindingFor "executor1" (.text "exec-a") executorRecord)]

def sharedHerd : (question : ClearQuestion) → ClearAnswer question
  | .loadConfig => some ⟨none, none, Dict.ofEntries [("lead", "claude"), ("executor", "claude")],
      some 600000⟩
  | .loadRuntime => some (Dict.ofEntries [("lead1", "lead-a"), ("executor1", "exec-a")])
  | .readTask => .absent
  | .loadBindings => .holds sharedBindings
  | .saveResetState _ => true
  | .agentInfo agent =>
      if agent = "lead-a" then
        ⟨"idle", .object [("result", .object [("agent", leadRecord)])]⟩
      else ⟨"missing", .null⟩
  | .listAgents => some (.object [("result", .object [("agents", .list [leadRecord])])])
  | .saveBindings _ => true
  | .sendReset _ _ => .returned 0
  | .reseed _ _ => .returned 0

/-- Two roles recorded in one pane are both proven in it, and its agent is reset for each. -/
theorem one_pane_reset_for_two_roles :
    recordedPane (bindingOf sharedBindings "lead1") = some ("w1", "w1:p2") ∧
    recordedPane (bindingOf sharedBindings "executor1") = some ("w1", "w1:p2") ∧
    resetAgents (askedOf sharedHerd (clearContexts clearStart)) = ["lead-a", "lead-a"] := by
  decide +kernel

end DodgingInfinity.Herdr
