import DodgingInfinity.Herdr.Tasks

/-!
# Role identity

A role is a name that outlives the process behind it.  What was recorded of a role
is compared with what the multiplexer shows now, field by field, and a role whose
agent is gone is looked for on the pane it was recorded in.
-/

namespace DodgingInfinity.Herdr

open Dict (lookupEntries)

/-! ## Records as the multiplexer shows them -/

/-- A member of an object; a missing one reads as null, as it does of anything else. -/
def memberOf (value : Json) (key : String) : Json :=
  match value with
  | .object fields => (lookupEntries key fields).getD .null
  | _ => .null

def isObject : Json → Bool
  | .object _ => true
  | _ => false

/-- Whether a value stands for itself in `value or default`. -/
def truthy : Json → Bool
  | .null => false
  | .bool value => value
  | .number value => value ≠ 0
  | .text value => value ≠ ""
  | .list items => ¬ items.isEmpty
  | .object fields => ¬ fields.isEmpty

/-- A text that is not empty. -/
def namedText (value : Json) : Option String := (textOf value).filter fun text => text ≠ ""

def membersOf : Json → List (String × Json)
  | .object fields => fields
  | _ => []

def stableFields : List String := ["name", "cwd", "workspace_id", "pane_id"]

def rediscoveryFields : List String := ["workspace_id", "pane_id"]

/-- The agent record inside what the multiplexer says of one agent. -/
def agentRecord (info : Json) : Option Json :=
  let record := memberOf (memberOf (memberOf info "raw") "result") "agent"
  if isObject record then some record else none

def sessionValue (record : Json) : Option String :=
  namedText (memberOf (memberOf record "agent_session") "value")

/-- The part of a record that survives the session being replaced. -/
def stableIdentity (record : Json) : List (String × String) :=
  stableFields.filterMap fun field =>
    (textOf (memberOf record field)).map fun text => (field, text)

/-- Whether a recorded value is the observed one; nothing observed reads as null. -/
def agrees (observed : Option String) (recorded : Json) : Bool :=
  match observed, recorded with
  | some text, .text other => text = other
  | none, .null => true
  | _, _ => false

/-! ## Bindings -/

inductive BindingGap where
  | notRecorded
  | fieldsMissing (fields : List String)
  | noStableIdentity

def bindingRequiredFields : List String := ["logical", "agent", "session"]

/-- Why a binding cannot be compared with anything, if so. -/
def bindingGap (binding : Json) : Option BindingGap :=
  if membersOf binding = [] then some .notRecorded
  else
    let missing := bindingRequiredFields.filter fun field =>
      (namedText (memberOf binding field)).isNone
    if missing ≠ [] then some (.fieldsMissing missing)
    else if membersOf (memberOf binding "stable") = [] then some .noStableIdentity
    else none

/-- The stable fields as they were recorded. -/
def recordedStable (binding : Json) : List (String × Json) := membersOf (memberOf binding "stable")

/-- What is recorded of a role that a record was observed for. -/
def bindingFor (logical : String) (agent record : Json) : Json :=
  .object [("logical", .text logical), ("agent", agent),
    ("stable", .object ((stableIdentity record).map fun entry => (entry.1, .text entry.2))),
    ("session", Json.optional .text (sessionValue record))]

/-! ## Verdicts -/

inductive VerdictKind where
  | present
  | replaced
  | missing
  | degraded
  | unbound
  deriving DecidableEq

inductive IdentityAction where
  | proceed
  | rebootstrap
  | rediscover
  | block
  | bind
  deriving DecidableEq

inductive IdentityProblem where
  | agentMissing
  | agentDegraded
  | sessionReplaced
  | stableMismatch
  | noCandidate
  | ambiguous
  | candidateConflict
  | bindingIncomplete
  | roleUnbound
  | bindingsCorrupt
  deriving DecidableEq

/-- The decision about one role; a present one names the session that confirmed it. -/
structure Verdict where
  logical : String
  kind : VerdictKind
  action : IdentityAction
  problem : Option IdentityProblem
  observed : Option (List (String × String))
  boundSession : Option String
  confirmed : kind = .present → ∃ session, boundSession = some session ∧ session ≠ ""

/-- A verdict other than that the role is present. -/
def Verdict.other (logical : String) (kind : VerdictKind) (action : IdentityAction)
    (problem : IdentityProblem) (observed : Option (List (String × String)))
    (hkind : kind ≠ .present) : Verdict where
  logical := logical
  kind := kind
  action := action
  problem := some problem
  observed := observed
  boundSession := none
  confirmed h := absurd h hkind

def Verdict.present (logical : String) (observed : List (String × String)) (session : String)
    (hsession : session ≠ "") : Verdict where
  logical := logical
  kind := .present
  action := .proceed
  problem := none
  observed := some observed
  boundSession := some session
  confirmed _ := ⟨session, rfl, hsession⟩

/-- The recorded fields that are not what is observed. -/
def conflicting (recorded : List (String × Json)) (record : Json) : List String :=
  (recorded.filter fun entry => ¬ agrees (lookupEntries entry.1 (stableIdentity record))
    entry.2).map
    Prod.fst

/-- The session of a role whose stable identity holds. -/
def compareSessions (logical : String) (bound : String) (hbound : bound ≠ "") (record : Json) :
    Verdict :=
  match sessionValue record with
  | none => .other logical .degraded .block .agentDegraded (some (stableIdentity record))
      (by decide)
  | some live =>
      if bound ≠ live then
        .other logical .replaced .rebootstrap .sessionReplaced (some (stableIdentity record))
          (by decide)
      else .present logical (stableIdentity record) bound hbound

/-- A live record against the binding of its role. -/
def compareRecord (logical : String) (binding record : Json) : Verdict :=
  if (bindingGap binding).isSome then
    .other logical .unbound .bind .roleUnbound (some (stableIdentity record)) (by decide)
  else if conflicting (recordedStable binding) record ≠ [] then
    .other logical .degraded .block .stableMismatch (some (stableIdentity record)) (by decide)
  else
    let bound := (textOf (memberOf binding "session")).getD ""
    if hbound : bound ≠ "" then compareSessions logical bound hbound record
    -- a binding without a gap has a session
    else .other logical .unbound .bind .roleUnbound (some (stableIdentity record)) (by decide)

/-- The identity of one role from its binding and a fresh probe; nothing where the
binding is read as an object and is none. -/
def classify (logical : String) (binding info : Json) : Option Verdict :=
  match agentRecord info with
  | some record => some (compareRecord logical binding record)
  | none =>
      if truthy binding ∧ ¬ isObject binding then none
      else if textOf (memberOf info "status") = some "missing" then
        some (.other logical .missing .rediscover .agentMissing none (by decide))
      else some (.other logical .degraded .block .agentDegraded none (by decide))

/-! ## Rediscovery -/

/-- The agents of a listing; one of another shape lists nothing. -/
def listedAgents (listing : Json) : List Json :=
  match memberOf (memberOf listing "result") "agents" with
  | .list agents => agents.filter isObject
  | _ => []

inductive RediscoveryFault where
  | problem (code : IdentityProblem)
  | raised
  deriving DecidableEq

/-- The pane that a record names: a workspace in the multiplexer and a pane in it. -/
def paneOf (stable : Json) : Option (String × String) :=
  match textOf (memberOf stable "workspace_id"), textOf (memberOf stable "pane_id") with
  | some workspace, some pane => some (workspace, pane)
  | _, _ => none

/-- The pane in which a role was recorded. -/
def recordedPane (binding : Json) : Option (String × String) := paneOf (memberOf binding "stable")

/-- The observed agents in the pane. -/
def candidates (pane : String × String) (listing : Json) : List Json :=
  (listedAgents listing).filter fun record => paneOf record = some pane

/-- The recorded fields, the name and the pane aside, that the candidate disagrees on. -/
def candidateConflicts (binding candidate : Json) : List String :=
  conflicting ((recordedStable binding).filter fun entry =>
    entry.1 ∉ rediscoveryFields ∧ entry.1 ≠ "name") candidate

/-- Whether reading the recorded identity of a role raises. -/
def unreadableBinding (binding : Json) : Prop :=
  (truthy binding ∧ ¬ isObject binding) ∨
    (truthy (memberOf binding "stable") ∧ ¬ isObject (memberOf binding "stable"))

instance (binding : Json) : Decidable (unreadableBinding binding) :=
  inferInstanceAs (Decidable (_ ∨ _))

/-- The agent that now holds the role, on exact evidence. -/
def rediscover (binding listing : Json) : Except RediscoveryFault Json :=
  if unreadableBinding binding then .error .raised
  else match recordedPane binding with
    | none => .error (.problem .bindingIncomplete)
    | some pane => match candidates pane listing with
        | [] => .error (.problem .noCandidate)
        | [candidate] =>
            if candidateConflicts binding candidate ≠ [] then
              .error (.problem .candidateConflict)
            else .ok candidate
        | _ :: _ :: _ => .error (.problem .ambiguous)

/-! ## What the comparisons say -/

variable {binding info listing record : Json} {logical field : String} {verdict : Verdict}

theorem agrees_eq_true {observed : Option String} {recorded : Json} :
    agrees observed recorded = true ↔ recorded = Json.optional .text observed := by
  cases observed with
  | none => cases recorded <;> simp [agrees, Json.optional]
  | some text => cases recorded <;> simp [agrees, Json.optional, eq_comm]

theorem textOf_eq_some {value : Json} {text : String} :
    textOf value = some text ↔ value = .text text := by
  cases value <;> simp [textOf]

/-- What is observed under a field of a record; only stable fields are. -/
def observedAt (record : Json) (field : String) : Option String :=
  if field ∈ stableFields then textOf (memberOf record field) else none

theorem lookup_stableIdentity (fields : List String) :
    lookupEntries field (fields.filterMap fun name =>
      (textOf (memberOf record name)).map fun text =>
      (name, text)) = if field ∈ fields then textOf (memberOf record field) else none := by
  induction fields with
  | nil => rfl
  | cons name rest ih =>
      by_cases hname : field = name
      · subst hname
        cases htext : textOf (memberOf record field) with
        | none =>
            simp only [List.filterMap_cons, htext, Option.map_none, ih, List.mem_cons, true_or,
              ite_self]
        | some text => simp [htext, lookupEntries]
      · have hmem : field ∈ name :: rest ↔ field ∈ rest := by simp [hname]
        simp only [hmem, ← ih]
        cases htext : textOf (memberOf record name) with
        | none => simp only [List.filterMap_cons, htext, Option.map_none]
        | some text => simp [htext, lookupEntries, Ne.symm hname]

theorem lookup_stable : lookupEntries field (stableIdentity record) = observedAt record field :=
  lookup_stableIdentity stableFields

/-- Every recorded stable field is what is observed. -/
def StableHolds (binding record : Json) : Prop :=
  ∀ entry ∈ recordedStable binding, entry.2 = Json.optional .text (observedAt record entry.1)

theorem conflicting_eq_nil {recorded : List (String × Json)} : conflicting recorded record = [] ↔
      ∀ entry ∈ recorded, entry.2 = Json.optional .text (observedAt record entry.1) := by
  simp only [conflicting, List.map_eq_nil_iff, List.filter_eq_nil_iff, lookup_stable,
    ← agrees_eq_true, decide_eq_true_eq, not_not]

/-- Both sessions are known and are one. -/
def SameSession (binding record : Json) : Prop :=
  ∃ session, session ≠ "" ∧ textOf (memberOf binding "session") = some session ∧
    sessionValue record = some session

theorem bindingGap_eq_none (h : bindingGap binding = none) :
    ∃ session, textOf (memberOf binding "session") = some session ∧ session ≠ "" := by
  simp only [bindingGap] at h
  split at h
  · cases h
  · split at h
    · cases h
    · rename_i hmissing
      rw [ne_eq, not_not, List.filter_eq_nil_iff] at hmissing
      have hsession := hmissing "session" (by simp [bindingRequiredFields])
      cases htext : textOf (memberOf binding "session") with
      | none => simp [namedText, htext] at hsession
      | some session =>
          refine ⟨session, rfl, ?_⟩
          rintro rfl
          simp [namedText, htext] at hsession

/-- What a live record is found to be, one case for each verdict. -/
inductive Compared (binding record : Json) : VerdictKind → IdentityAction → Prop
  | unbound : Compared binding record .unbound .bind
  | conflict (hconflict : ¬ StableHolds binding record) : Compared binding record .degraded .block
  | unknown (hstable : StableHolds binding record) (hsession : sessionValue record = none) :
      Compared binding record .degraded .block
  | replaced (hstable : StableHolds binding record)
      (hsession : ¬ SameSession binding record) : Compared binding record .replaced .rebootstrap
  | present (hstable : StableHolds binding record)
      (hsession : SameSession binding record) : Compared binding record .present .proceed

theorem compareRecord_cases : Compared binding record (compareRecord logical binding record).kind
      (compareRecord logical binding record).action := by
  unfold compareRecord
  split
  · exact .unbound
  · rename_i hgap
    rw [Option.not_isSome_iff_eq_none] at hgap
    obtain ⟨session, hbound, hnonempty⟩ := bindingGap_eq_none hgap
    split
    · rename_i hconflict
      exact .conflict fun hholds => hconflict (conflicting_eq_nil.mpr hholds)
    · rename_i hagrees
      rw [ne_eq, not_not, conflicting_eq_nil] at hagrees
      simp only [hbound, Option.getD_some]
      rw [dif_pos hnonempty, compareSessions]
      split
      · rename_i hnone
        exact .unknown hagrees hnone
      · rename_i live hlive
        split
        · rename_i hdiffers
          refine .replaced hagrees ?_
          rintro ⟨same, -, hsame, hsameLive⟩
          rw [hbound] at hsame
          rw [hlive] at hsameLive
          exact hdiffers ((Option.some.inj hsame).trans (Option.some.inj hsameLive).symm)
        · rename_i hsame
          rw [ne_eq, not_not] at hsame
          subst hsame
          exact .present hagrees ⟨session, hnonempty, hbound, hlive⟩

/-- A present role, and one whose session was replaced, was read with a record that
every recorded field agrees with. -/
theorem classify_evidence (h : classify logical binding info = some verdict)
    (hkind : verdict.kind = .present ∨ verdict.kind = .replaced) :
    ∃ record, agentRecord info = some record ∧ StableHolds binding record ∧
      (verdict.kind = .present ↔ SameSession binding record) := by
  unfold classify at h
  split at h
  · rename_i record hrecord
    obtain rfl := Option.some.inj h
    have hcases : Compared binding record (compareRecord logical binding record).kind
        (compareRecord logical binding record).action := compareRecord_cases
    refine ⟨record, hrecord, ?_⟩
    generalize (compareRecord logical binding record).kind = kind at hcases hkind ⊢
    generalize (compareRecord logical binding record).action = action at hcases
    cases hcases with
    | present hstable hsession => exact ⟨hstable, by simp [hsession]⟩
    | replaced hstable hsession => exact ⟨hstable, by simp [hsession]⟩
    | unbound => simp at hkind
    | conflict _ => simp at hkind
    | unknown _ _ => simp at hkind
  · split at h
    · cases h
    · split at h <;> obtain rfl := Option.some.inj h <;> simp [Verdict.other] at hkind

/-- Which action follows which verdict. -/
theorem classify_action (h : classify logical binding info = some verdict) :
    (verdict.action = .proceed ↔ verdict.kind = .present) ∧
      (verdict.action = .rebootstrap ↔ verdict.kind = .replaced) ∧
      (verdict.action = .rediscover ↔ verdict.kind = .missing) := by
  unfold classify at h
  split at h
  · rename_i record hrecord
    obtain rfl := Option.some.inj h
    have hcases : Compared binding record (compareRecord logical binding record).kind
        (compareRecord logical binding record).action := compareRecord_cases
    generalize (compareRecord logical binding record).kind = kind at hcases ⊢
    generalize (compareRecord logical binding record).action = action at hcases ⊢
    cases hcases <;> simp
  · split at h
    · cases h
    · split at h <;> obtain rfl := Option.some.inj h <;> simp [Verdict.other]

/-- A text member of an object is one of its members. -/
theorem mem_of_textOf {value : Json} {text : String}
    (h : textOf (memberOf value field) = some text) : (field, .text text) ∈ membersOf value := by
  rw [textOf_eq_some] at h
  cases value with
  | object fields =>
      apply Dict.mem_of_lookupEntries
      cases hlookup : lookupEntries field fields with
      | none => simp [memberOf, hlookup] at h
      | some found =>
          simp only [memberOf, hlookup, Option.getD_some] at h
          rw [← h]
          exact hlookup
  | null => simp [memberOf] at h
  | bool flag => simp [memberOf] at h
  | number value => simp [memberOf] at h
  | text value => simp [memberOf] at h
  | list items => simp [memberOf] at h

theorem StableHolds.observed {text : String} (h : StableHolds binding record)
    (hfield : field ∈ stableFields)
    (hrecorded : textOf (memberOf (memberOf binding "stable") field) = some text) :
    textOf (memberOf record field) = some text := by
  have hvalue := h (field, .text text) (mem_of_textOf hrecorded)
  rw [observedAt, if_pos hfield] at hvalue
  cases hobserved : textOf (memberOf record field) with
  | none => simp [hobserved, Json.optional] at hvalue
  | some found =>
      simp only [hobserved, Json.optional, Json.text.injEq] at hvalue
      rw [hvalue]

theorem paneOf_eq_some {value : Json} {pane : String × String} :
    paneOf value = some pane ↔ textOf (memberOf value "workspace_id") = some pane.1 ∧
      textOf (memberOf value "pane_id") = some pane.2 := by
  unfold paneOf
  cases textOf (memberOf value "workspace_id") with
  | none => simp
  | some workspace =>
      cases textOf (memberOf value "pane_id") with
      | none => simp
      | some name =>
          simp only [Option.some.injEq]
          constructor
          · rintro rfl
            exact ⟨rfl, rfl⟩
          · rintro ⟨rfl, rfl⟩
            rfl

/-- A record that agrees with the recorded identity is in the recorded pane. -/
theorem StableHolds.pane {pane : String × String} (h : StableHolds binding record)
    (hpane : recordedPane binding = some pane) : paneOf record = some pane := by
  obtain ⟨hworkspace, hname⟩ := paneOf_eq_some.mp hpane
  exact paneOf_eq_some.mpr
    ⟨h.observed (by decide) hworkspace, h.observed (by decide) hname⟩

/-- What a rediscovery returns is the one agent observed in the recorded pane, and it
agrees with everything recorded but the name. -/
structure OnlyMatch (binding listing record : Json) : Prop where
  only : ∃ pane, recordedPane binding = some pane ∧ candidates pane listing = [record]
  agrees : ∀ entry ∈ recordedStable binding, entry.1 ∉ rediscoveryFields → entry.1 ≠ "name" →
    entry.2 = Json.optional .text (observedAt record entry.1)

theorem OnlyMatch.pane (h : OnlyMatch binding listing record) :
    ∃ pane, recordedPane binding = some pane ∧ paneOf record = some pane := by
  obtain ⟨pane, hpane, honly⟩ := h.only
  have hmem : record ∈ candidates pane listing := by
    rw [honly]
    exact List.mem_singleton_self record
  refine ⟨pane, hpane, ?_⟩
  simpa using (List.mem_filter.mp hmem).2

theorem rediscover_match (h : rediscover binding listing = .ok record) :
    OnlyMatch binding listing record := by
  unfold rediscover at h
  split at h
  · cases h
  · split at h
    · cases h
    · rename_i pane hpane
      split at h
      · cases h
      · rename_i candidate honly
        split at h
        · cases h
        · rename_i hagrees
          obtain rfl := Except.ok.inj h
          rw [ne_eq, not_not, candidateConflicts, conflicting_eq_nil] at hagrees
          refine ⟨⟨pane, hpane, honly⟩, ?_⟩
          intro entry hentry hfield hname
          exact hagrees entry (List.mem_filter.mpr ⟨hentry, by simp [hfield, hname]⟩)
      · cases h

end DodgingInfinity.Herdr
