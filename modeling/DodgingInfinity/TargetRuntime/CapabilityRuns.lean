import DodgingInfinity.Library.Checked
import DodgingInfinity.Library.Dict
import Mathlib.Data.List.Sort
import Mathlib.Order.Defs.LinearOrder

/-!
# The capability store

A capability is minted for one workflow, action and revision, and spent by the
first presentation that names exactly these before it expires.  Forgetting is
fail closed: beside what is spent or expired, an entry leaves only on an answer
of the caller's oracle that is exactly true.
-/

namespace DodgingInfinity.TargetRuntime

open Checked

/-- The most entries the store holds. -/
def maxCapabilities : Nat := 256

/-- Seconds until a capability that was not spent expires. -/
def capabilityValiditySeconds : Nat := 900

inductive CapabilityProblem where
  | missing
  | unknown
  | consumed
  | expired
  | mismatch
  | store
  deriving DecidableEq

/-- What a capability is minted for, under any values a caller may name. -/
structure Bound (Value : Type) where
  workflowId : Value
  action : Value
  revision : Value
  deriving DecidableEq

structure Capability (Value Time : Type) where
  bound : Bound Value
  issuedAt : Time
  expiresAt : Time
  consumedAt : Option Time
  deriving DecidableEq

/-- The document of the store: an entry for each nonce. -/
abbrev Capabilities (Value Time : Type) := Dict String (Capability Value Time)

/-- What a caller presents: a text, or something that is none. -/
inductive Presented where
  | text (nonce : String)
  | other
  deriving DecidableEq

/-- What an oracle answers for an entry. -/
inductive Verdict where
  | exactlyTrue
  | other
  | raised
  deriving DecidableEq

/-- The answers of the caller's oracle in one compaction.  It is asked at most
once for each entry, so an answer for each is all that it can give, whatever it
remembers in between. -/
abbrev Oracle (Value : Type) := String → Bound Value → Verdict

section

variable {Value Time : Type} [DecidableEq Value] [LinearOrder Time]

/-! ## Forgetting -/

/-- Why an entry goes, or that it stays. -/
inductive Finding where
  | stale
  | kept
  | oracleFailed
  deriving DecidableEq

def findingOf (answer : Verdict) : Finding :=
  match answer with
  | .exactlyTrue => .stale
  | .other => .kept
  | .raised => .oracleFailed

/-- Spent or expired, which no other store need say. -/
def selfEvident (now : Time) (entry : Capability Value Time) : Bool :=
  entry.consumedAt ≠ none ∨ entry.expiresAt ≤ now

def judge (now : Time) (nonActionable : Option (Oracle Value)) (nonce : String)
    (entry : Capability Value Time) : Finding :=
  if selfEvident now entry then .stale
  else match nonActionable with
    | none => .kept
    | some oracle => findingOf (oracle nonce entry.bound)

/-- The nonces with one finding, in sorted order. -/
def noncesFound (held : Capabilities Value Time) (now : Time)
    (nonActionable : Option (Oracle Value)) (finding : Finding) : List String :=
  ((held.entries.filter fun entry =>
    judge now nonActionable entry.1 entry.2 = finding).map Prod.fst).insertionSort (· ≤ ·)

structure Pruned (Value Time : Type) where
  removed : List String
  oracleErrors : List String
  remaining : Capabilities Value Time

/-- Drop the entries that are provably of no use. -/
def prune (held : Capabilities Value Time) (now : Time)
    (nonActionable : Option (Oracle Value)) : Pruned Value Time where
  removed := noncesFound held now nonActionable .stale
  oracleErrors := noncesFound held now nonActionable .oracleFailed
  remaining := (noncesFound held now nonActionable .stale).foldl Dict.erase held

/-! ## Minting and spending -/

variable [Add Time] [NatCast Time]

def mintedAt (bound : Bound Value) (now : Time) : Capability Value Time where
  bound := bound
  issuedAt := now
  expiresAt := now + (capabilityValiditySeconds : Time)
  consumedAt := none

/-- Whether the bound leaves room for one more after pruning. -/
def hasRoom (held : Capabilities Value Time) (now : Time) : Bool :=
  (prune held now none).remaining.entries.length < maxCapabilities

/-- The store a mint saves. -/
def mintInto (held : Capabilities Value Time) (bound : Bound Value) (now : Time)
    (nonce : String) : Capabilities Value Time :=
  (prune held now none).remaining.set nonce (mintedAt bound now)

/-- A text that is not empty. -/
def requireNonce (presented : Presented) : Except CapabilityProblem String :=
  match presented with
  | .other => .error .missing
  | .text nonce => if nonce = "" then .error .missing else .ok nonce

/-- The entry a presentation may spend. -/
def presentable (held : Capabilities Value Time) (nonce : String)
    (bound : Bound Value) (now : Time) :
    Except CapabilityProblem (Capability Value Time) := do
  let entry ← orFail (held.get? nonce) .unknown
  failIf (entry.consumedAt ≠ none) .consumed
  failIf (entry.expiresAt ≤ now) .expired
  failIf (entry.bound ≠ bound) .mismatch
  pure entry

/-- The nonce of a presentation, and the store that its consumption saves. -/
def validateAndConsume (held : Capabilities Value Time) (presented : Presented)
    (bound : Bound Value) (now : Time) :
    Except CapabilityProblem (Capabilities Value Time) := do
  let nonce ← requireNonce presented
  let entry ← presentable held nonce bound now
  pure (held.set nonce { entry with consumedAt := some now })

end

end DodgingInfinity.TargetRuntime

/-!
## Runs of the capability store

The three operations under one lock, in any order, each with its own clock
reading.  A save may be cut off on either side of the replacement of the file,
so an operation that was cut off may have left what it meant to.
-/

namespace DodgingInfinity.TargetRuntime

open Checked

variable {Value Time : Type} [DecidableEq Value] [LinearOrder Time]

/-! ## What forgetting leaves -/

theorem mem_noncesFound (held : Capabilities Value Time) (now : Time)
    (nonActionable : Option (Oracle Value)) (finding : Finding) (nonce : String) :
    nonce ∈ noncesFound held now nonActionable finding ↔ ∃ entry,
      held.get? nonce = some entry ∧ judge now nonActionable nonce entry = finding := by
  rw [noncesFound, (List.perm_insertionSort _ _).mem_iff]
  simp only [List.mem_map, List.mem_filter, decide_eq_true_eq, Prod.exists,
    exists_and_right, exists_eq_right, Dict.mem_entries_iff]

/-- The entries that remain are those that no finding calls stale. -/
theorem get?_remaining (held : Capabilities Value Time) (now : Time)
    (nonActionable : Option (Oracle Value)) (nonce : String) (entry : Capability Value Time) :
    (prune held now nonActionable).remaining.get? nonce = some entry ↔
      held.get? nonce = some entry ∧
        judge now nonActionable nonce entry ≠ .stale := by
  rw [prune, Dict.get?_foldl_erase]
  split
  · rename_i hstale
    obtain ⟨other, hother, hjudge⟩ := (mem_noncesFound ..).mp hstale
    constructor
    · intro h
      cases h
    · rintro ⟨hheld, hkept⟩
      obtain rfl := Option.some.inj (hheld.symm.trans hother)
      exact absurd hjudge hkept
  · rename_i hkept
    constructor
    · intro hheld
      exact ⟨hheld, fun hstale => hkept ((mem_noncesFound ..).mpr ⟨entry, hheld, hstale⟩)⟩
    · rintro ⟨hheld, -⟩
      exact hheld

theorem length_remaining (held : Capabilities Value Time) (now : Time)
    (nonActionable : Option (Oracle Value)) :
    (prune held now nonActionable).remaining.entries.length ≤ held.entries.length :=
  Dict.length_entries_foldl_erase _ _

/-- Neither spent nor expired. -/
def Live (now : Time) (entry : Capability Value Time) : Prop :=
  entry.consumedAt = none ∧ now < entry.expiresAt

theorem selfEvident_iff (now : Time) (entry : Capability Value Time) :
    selfEvident now entry = true ↔ ¬ Live now entry := by
  simp only [selfEvident, Live, decide_eq_true_eq, not_and_or, not_lt, ne_eq]

variable {now : Time} {nonActionable : Option (Oracle Value)} {nonce : String}
  {entry : Capability Value Time}

/-- A live entry is stale on an answer that is exactly true, and on no other. -/
theorem judge_live (hlive : Live now entry) :
    judge now nonActionable nonce entry = .stale ↔ ∃ oracle,
      nonActionable = some oracle ∧ oracle nonce entry.bound = .exactlyTrue := by
  have hno : ¬ selfEvident now entry = true := fun h =>
    (selfEvident_iff now entry).mp h hlive
  unfold judge
  rw [if_neg hno]
  cases nonActionable with
  | none => simp
  | some oracle => cases hanswer : oracle nonce entry.bound <;> simp [findingOf, hanswer]

/-! ## What a presentation spends -/

variable {held : Capabilities Value Time} {bound : Bound Value}

theorem mem_presentable : presentable held nonce bound now = .ok entry ↔
      held.get? nonce = some entry ∧ Live now entry ∧ entry.bound = bound := by
  simp only [presentable, bind_eq_ok, exists_passed, orFail_eq_ok, failIf_eq_ok,
    pure_eq_ok, ne_eq, not_not, not_le, Live]
  constructor
  · rintro ⟨found, hheld, hunspent, hlive, hbound, rfl⟩
    exact ⟨hheld, ⟨hunspent, hlive⟩, hbound⟩
  · rintro ⟨hheld, ⟨hunspent, hlive⟩, hbound⟩
    exact ⟨entry, hheld, hunspent, hlive, hbound, rfl⟩

/-- A presentation that passes names a live entry of exactly its bound. -/
structure Spends (held : Capabilities Value Time) (presented : Presented)
    (bound : Bound Value) (now : Time) (saved : Capabilities Value Time)
    (nonce : String) (entry : Capability Value Time) : Prop where
  named : presented = .text nonce
  found : held.get? nonce = some entry
  live : Live now entry
  bound_eq : entry.bound = bound
  saved_eq : saved = held.set nonce { entry with consumedAt := some now }

variable {presented : Presented}

theorem spends_of_validated {saved : Capabilities Value Time}
    (h : validateAndConsume held presented bound now = .ok saved) :
    ∃ nonce entry, Spends held presented bound now saved nonce entry := by
  simp only [validateAndConsume, bind_eq_ok, pure_eq_ok] at h
  obtain ⟨nonce, hnonce, entry, hentry, rfl⟩ := h
  obtain ⟨hfound, hlive, hbound⟩ := mem_presentable.mp hentry
  refine ⟨nonce, entry, ?_, hfound, hlive, hbound, rfl⟩
  cases presented with
  | other => cases hnonce
  | text name =>
      simp only [requireNonce] at hnonce
      split at hnonce
      · cases hnonce
      · rw [Except.ok.inj hnonce]

/-! ## Calls and their fates -/

variable [Add Time] [NatCast Time]

inductive CapabilityCall (Value Time : Type) where
  | mint (bound : Bound Value) (now : Time) (nonce : String)
  | consume (presented : Presented) (bound : Bound Value) (now : Time)
  | compact (now : Time) (nonActionable : Option (Oracle Value))

/-- What may happen to a call: its store is unreadable, its save fails before
the file is replaced, the directory is not synced afterwards, or the process
stops on either side of the replacement. -/
inductive Fate where
  | undisturbed
  | unreadable
  | unsaved
  | unsynced
  | stoppedBefore
  | stoppedAfter
  deriving DecidableEq

/-- The fates in which the file is replaced. -/
def Fate.replaces : Fate → Bool
  | .undisturbed | .unsynced | .stoppedAfter => true
  | .unreadable | .unsaved | .stoppedBefore => false

inductive Outcome where
  | minted (nonce : String)
  | accepted
  | refused (problem : CapabilityProblem)
  | compacted (removed oracleErrors : List String)
  | raised
  | stopped
  deriving DecidableEq

/-- What a call answers whose save meets its fate. -/
def Fate.answer (fate : Fate) (completed failed : Outcome) : Outcome :=
  match fate with
  | .undisturbed => completed
  | .unreadable | .unsaved | .unsynced => failed
  | .stoppedBefore | .stoppedAfter => .stopped

/-- A save that meets its fate. -/
def settle (fate : Fate) (held saved : Capabilities Value Time)
    (completed failed : Outcome) : Outcome × Capabilities Value Time :=
  (fate.answer completed failed, if fate.replaces then saved else held)

/-- The refusal of a presentation: an unreadable store is found after the
presentation itself. -/
def refusalOf (fate : Fate) (problem : CapabilityProblem) : CapabilityProblem :=
  if fate = .unreadable ∧ problem ≠ .missing then .store else problem

/-- One call: its answer, and the store it leaves. -/
def perform (held : Capabilities Value Time) (fate : Fate) :
    CapabilityCall Value Time → Outcome × Capabilities Value Time
  | .mint bound now nonce =>
      if fate = .unreadable ∨ hasRoom held now = false then (.raised, held)
      else settle fate held (mintInto held bound now nonce) (.minted nonce) .raised
  | .consume presented bound now =>
      match validateAndConsume held presented bound now with
      | .error problem => (.refused (refusalOf fate problem), held)
      | .ok saved => settle fate held saved .accepted (.refused .store)
  | .compact now nonActionable =>
      if fate = .unreadable then (.raised, held)
      else
        let pruned := prune held now nonActionable
        if pruned.removed = [] then (.compacted [] pruned.oracleErrors, held)
        else settle fate held pruned.remaining
          (.compacted pruned.removed pruned.oracleErrors) .raised

/-- A call as it went. -/
structure Event (Value Time : Type) where
  before : Capabilities Value Time
  call : CapabilityCall Value Time
  fate : Fate
  outcome : Outcome
  after : Capabilities Value Time

/-- A call as the store runs it. -/
def occurring (held : Capabilities Value Time) (fate : Fate)
    (call : CapabilityCall Value Time) : Event Value Time :=
  ⟨held, call, fate, (perform held fate call).1, (perform held fate call).2⟩

/-- The store after the calls of a run, from the one that no file holds. -/
inductive Run : List (Event Value Time) → Capabilities Value Time → Prop where
  | start : Run [] Dict.empty
  | call {events : List (Event Value Time)} {held : Capabilities Value Time}
      (hrun : Run events held) (fate : Fate) (call : CapabilityCall Value Time) :
      Run (events ++ [occurring held fate call]) (perform held fate call).2

namespace Event

/-- The nonce a mint put into the file. -/
def issued (event : Event Value Time) : Option String :=
  match event.call with
  | .mint _ now nonce =>
      if event.fate.replaces ∧ hasRoom event.before now then some nonce else none
  | _ => none

/-- The nonce of a presentation that was accepted. -/
def accepted (event : Event Value Time) : Option String :=
  match event.call, event.outcome with
  | .consume (.text nonce) _ _, .accepted => some nonce
  | _, _ => none

/-- The mint that put a nonce into the file for a bound, until an expiry. -/
def Issues (event : Event Value Time) (nonce : String) (bound : Bound Value)
    (expiresAt : Time) : Prop :=
  ∃ now, event.call = .mint bound now nonce ∧ event.issued = some nonce ∧
    expiresAt = now + (capabilityValiditySeconds : Time)

end Event

def issuedNonces (events : List (Event Value Time)) : List String :=
  events.filterMap Event.issued

def acceptedNonces (events : List (Event Value Time)) : List String :=
  events.filterMap Event.accepted

/-! ## One call -/

/-- Where an entry of the store a call leaves comes from. -/
inductive Origin (held : Capabilities Value Time) (fate : Fate)
    (call : CapabilityCall Value Time) (nonce : String)
    (entry : Capability Value Time) : Prop where
  | kept (hheld : held.get? nonce = some entry)
  | minted {bound : Bound Value} {now : Time} (hcall : call = .mint bound now nonce)
      (hreplaces : fate.replaces = true) (hroom : hasRoom held now = true)
      (hentry : entry = mintedAt bound now)
  | spent {presented : Presented} {bound : Bound Value} {now : Time}
      {old : Capability Value Time} (hcall : call = .consume presented bound now)
      (hheld : held.get? nonce = some old)
      (hentry : entry = { old with consumedAt := some now })

omit [DecidableEq Value] [LinearOrder Time] [Add Time] [NatCast Time] in
theorem settle_snd (fate : Fate) (held saved : Capabilities Value Time)
    (completed failed : Outcome) : (settle fate held saved completed failed).2 =
      if fate.replaces then saved else held := rfl

variable {fate : Fate}

theorem origin_of_held
    {call : CapabilityCall Value Time} (h : (perform held fate call).2.get? nonce = some entry) :
    Origin held fate call nonce entry := by
  cases call with
  | mint bound now fresh =>
      simp only [perform] at h
      split at h
      · exact .kept h
      · rename_i hgoes
        rw [settle_snd] at h
        split at h
        · rename_i hreplaces
          rw [mintInto, Dict.get?_set] at h
          split at h
          · rename_i hnonce
            refine .minted (by rw [hnonce]) hreplaces ?_ (Option.some.inj h).symm
            by_contra hfull
            exact hgoes (.inr (Bool.not_eq_true _ ▸ hfull))
          · exact .kept ((get?_remaining ..).mp h).1
        · exact .kept h
  | consume presented bound now =>
      simp only [perform] at h
      split at h
      · exact .kept h
      · rename_i saved hsaved
        rw [settle_snd] at h
        split at h
        · obtain ⟨name, old, hspends⟩ := spends_of_validated hsaved
          rw [hspends.saved_eq, Dict.get?_set] at h
          split at h
          · rename_i hnonce
            rw [← hnonce] at hspends
            exact .spent rfl hspends.found (Option.some.inj h).symm
          · exact .kept h
        · exact .kept h
  | compact now nonActionable =>
      simp only [perform] at h
      split at h
      · exact .kept h
      · split at h
        · exact .kept h
        · rw [settle_snd] at h
          split at h
          · exact .kept ((get?_remaining ..).mp h).1
          · exact .kept h

/-- The bound holds after every call that it held before. -/
theorem perform_bounded
    {call : CapabilityCall Value Time} (h : held.entries.length ≤ maxCapabilities) :
    (perform held fate call).2.entries.length ≤ maxCapabilities := by
  cases call with
  | mint bound now fresh =>
      simp only [perform]
      split
      · exact h
      · rename_i hgoes
        rw [settle_snd]
        split
        · have hroom : hasRoom held now = true := by
            by_contra hfull
            exact hgoes (.inr (Bool.not_eq_true _ ▸ hfull))
          have hfew := of_decide_eq_true hroom
          have hset := Dict.length_entries_set (prune held now none).remaining fresh
            (mintedAt bound now)
          exact hset.trans hfew
        · exact h
  | consume presented bound now =>
      simp only [perform]
      split
      · exact h
      · rename_i saved hsaved
        rw [settle_snd]
        split
        · obtain ⟨name, old, hspends⟩ := spends_of_validated hsaved
          rw [hspends.saved_eq, Dict.length_entries_set_of_held hspends.found]
          exact h
        · exact h
  | compact now nonActionable =>
      simp only [perform]
      split
      · exact h
      · split
        · exact h
        · rw [settle_snd]
          split
          · exact (length_remaining held now nonActionable).trans h
          · exact h

theorem Fate.undisturbed_of_answer {completed failed : Outcome}
    (h : fate.answer completed failed = completed) (hfailed : failed ≠ completed)
    (hstopped : completed ≠ .stopped) : fate = .undisturbed := by
  cases fate with
  | undisturbed => rfl
  | unreadable => exact absurd h hfailed
  | unsaved => exact absurd h hfailed
  | unsynced => exact absurd h hfailed
  | stoppedBefore => exact absurd h.symm hstopped
  | stoppedAfter => exact absurd h.symm hstopped

/-- An accepted presentation spent its entry in the store that it left. -/
theorem spends_of_accepted (h : (perform held fate (.consume presented bound now)).1 = .accepted) :
    ∃ nonce entry, Spends held presented bound now
      (perform held fate (.consume presented bound now)).2 nonce entry := by
  simp only [perform] at h ⊢
  split at h
  · cases h
  · rename_i saved hsaved
    have hfate := Fate.undisturbed_of_answer h (by decide) (by decide)
    obtain ⟨nonce, entry, hspends⟩ := spends_of_validated hsaved
    simp only [hfate, settle_snd, Fate.replaces, if_true]
    exact ⟨nonce, entry, hspends⟩

/-- A refused presentation leaves the store as it was, but for one whose save
replaced the file and was not synced. -/
theorem refused_keeps
    {call : CapabilityCall Value Time} {problem : CapabilityProblem}
    (h : (perform held fate call).1 = .refused problem) (hsynced : fate ≠ .unsynced) :
    (perform held fate call).2 = held := by
  cases call with
  | mint bound now fresh =>
      simp only [perform] at h
      split at h
      · cases h
      · cases fate <;> cases h
  | consume presented bound now =>
      simp only [perform] at h ⊢
      split at h
      · rfl
      · rename_i saved hsaved
        cases fate with
        | undisturbed => cases h
        | unreadable => simp [settle, Fate.replaces]
        | unsaved => simp [settle, Fate.replaces]
        | unsynced => exact absurd rfl hsynced
        | stoppedBefore => cases h
        | stoppedAfter => cases h
  | compact now nonActionable =>
      simp only [perform] at h
      split at h
      · cases h
      · split at h
        · cases h
        · cases fate <;> cases h

/-- A compaction drops a live entry only on an answer for it that is exactly
true. -/
theorem compact_proven (hheld : held.get? nonce = some entry) (hlive : Live now entry)
    (hgone : (perform held fate (.compact now nonActionable)).2.get? nonce ≠ some entry) :
    ∃ oracle, nonActionable = some oracle ∧
      oracle nonce entry.bound = .exactlyTrue := by
  rw [← judge_live hlive]
  by_contra hkept
  apply hgone
  simp only [perform]
  split
  · exact hheld
  · split
    · exact hheld
    · rw [settle_snd]
      split
      · exact (get?_remaining ..).mpr ⟨hheld, hkept⟩
      · exact hheld

/-- A mint drops no live entry, but for one under the nonce that it draws. -/
theorem mint_keeps_live {fresh : String} (hheld : held.get? nonce = some entry)
    (hlive : Live now entry)
    (hother : (occurring held fate (.mint bound now fresh)).issued ≠ some nonce) :
    (perform held fate (.mint bound now fresh)).2.get? nonce = some entry := by
  simp only [perform]
  split
  · exact hheld
  · rename_i hgoes
    rw [settle_snd]
    split
    · rename_i hreplaces
      have hroom : hasRoom held now = true := by
        by_contra hfull
        exact hgoes (.inr (Bool.not_eq_true _ ▸ hfull))
      have hne : nonce ≠ fresh := by
        rintro rfl
        exact hother (by simp [occurring, Event.issued, hreplaces, hroom])
      rw [mintInto, Dict.get?_set_of_ne _ _ hne, get?_remaining, ne_eq, judge_live hlive]
      refine ⟨hheld, ?_⟩
      rintro ⟨oracle, hnone, -⟩
      cases hnone
    · exact hheld

/-! ## Whole runs -/

/-- What a run leaves behind for its next call. -/
structure Tracked (events : List (Event Value Time)) (held : Capabilities Value Time) :
    Prop where
  bounded : held.entries.length ≤ maxCapabilities
  traced : ∀ nonce entry, held.get? nonce = some entry →
    ∃ mint ∈ events, mint.Issues nonce entry.bound entry.expiresAt
  spent : ∀ nonce entry, nonce ∈ acceptedNonces events →
    held.get? nonce = some entry → entry.consumedAt ≠ none
  accepted : ∀ nonce ∈ acceptedNonces events, nonce ∈ issuedNonces events

variable {events : List (Event Value Time)}

theorem mem_issuedNonces {mint : Event Value Time} {expiresAt : Time} (hmem : mint ∈ events)
    (h : mint.Issues nonce bound expiresAt) : nonce ∈ issuedNonces events := by
  obtain ⟨now, -, hissued, -⟩ := h
  exact List.mem_filterMap.mpr ⟨mint, hmem, hissued⟩

theorem accepted_occurring
    {call : CapabilityCall Value Time}
    (h : (occurring held fate call).accepted = some nonce) :
    ∃ bound now, call = .consume (.text nonce) bound now ∧
      (perform held fate call).1 = .accepted := by
  simp only [occurring, Event.accepted] at h
  split at h
  · rename_i name bound now houtcome
    obtain rfl := Option.some.inj h
    exact ⟨bound, now, rfl, houtcome⟩
  · cases h

/-- What is accepted was live under its nonce, and is spent in the store left. -/
theorem spends_occurring
    {call : CapabilityCall Value Time}
    (h : (occurring held fate call).accepted = some nonce) :
    ∃ bound now entry, call = .consume (.text nonce) bound now ∧
      Spends held (.text nonce) bound now (perform held fate call).2 nonce entry := by
  obtain ⟨bound, now, rfl, houtcome⟩ := accepted_occurring h
  obtain ⟨name, entry, hspends⟩ := spends_of_accepted houtcome
  obtain rfl := Presented.text.inj hspends.named
  exact ⟨bound, now, entry, rfl, hspends⟩

theorem Tracked.call (h : Tracked events held) (fate : Fate) (call : CapabilityCall Value Time)
    (hfresh : (issuedNonces (events ++ [occurring held fate call])).Nodup) :
    Tracked (events ++ [occurring held fate call]) (perform held fate call).2 := by
  have htraced : ∀ nonce entry, (perform held fate call).2.get? nonce = some entry →
      ∃ mint ∈ events ++ [occurring held fate call],
        mint.Issues nonce entry.bound entry.expiresAt := by
    intro nonce entry hentry
    cases origin_of_held hentry with
    | kept hheld =>
        obtain ⟨mint, hmem, hissues⟩ := h.traced nonce entry hheld
        exact ⟨mint, List.mem_append_left _ hmem, hissues⟩
    | @minted bound now hcall hreplaces hroom hminted =>
        refine ⟨occurring held fate call, by simp, now, ?_, ?_, ?_⟩
        · rw [hminted]
          exact hcall
        · simp [occurring, Event.issued, hcall, hreplaces, hroom]
        · rw [hminted]
          rfl
    | spent hcall hheld hspent =>
        obtain ⟨mint, hmem, hissues⟩ := h.traced nonce _ hheld
        rw [hspent]
        exact ⟨mint, List.mem_append_left _ hmem, hissues⟩
  refine ⟨perform_bounded h.bounded, htraced, ?_, ?_⟩
  · intro nonce entry hnonce hentry
    rw [acceptedNonces, List.filterMap_append, List.mem_append] at hnonce
    rcases hnonce with hbefore | hnow
    · cases origin_of_held hentry with
      | kept hheld => exact h.spent nonce entry hbefore hheld
      | minted hcall hreplaces hroom hminted =>
          rw [issuedNonces, List.filterMap_append, List.nodup_append] at hfresh
          have hissued : (occurring held fate call).issued = some nonce := by
            simp [occurring, Event.issued, hcall, hreplaces, hroom]
          exact absurd rfl (hfresh.2.2 nonce (h.accepted nonce hbefore) nonce
            (by simp [hissued]))
      | spent hcall hheld hspent =>
          rw [hspent]
          simp
    · have haccepted : (occurring held fate call).accepted = some nonce := by
        simpa using hnow
      obtain ⟨bound, now, old, -, hspends⟩ := spends_occurring haccepted
      rw [hspends.saved_eq, Dict.get?_set_self] at hentry
      obtain rfl := Option.some.inj hentry
      simp
  · intro nonce hnonce
    rw [acceptedNonces, List.filterMap_append, List.mem_append] at hnonce
    rw [issuedNonces, List.filterMap_append, List.mem_append]
    rcases hnonce with hbefore | hnow
    · exact .inl (h.accepted nonce hbefore)
    · have haccepted : (occurring held fate call).accepted = some nonce := by
        simpa using hnow
      obtain ⟨bound, now, old, -, hspends⟩ := spends_occurring haccepted
      obtain ⟨mint, hmem, hissues⟩ := h.traced nonce old hspends.found
      exact .inl (mem_issuedNonces hmem hissues)

theorem Run.tracked (hrun : Run events held) (hfresh : (issuedNonces events).Nodup) :
    Tracked events held := by
  induction hrun with
  | start => exact ⟨by simp [maxCapabilities], by simp, by simp, by simp [acceptedNonces]⟩
  | @call events held hrun fate call ih =>
      have hbefore : (issuedNonces events).Nodup := by
        rw [issuedNonces, List.filterMap_append, List.nodup_append] at hfresh
        exact hfresh.1
      exact (ih hbefore).call fate call hfresh

/-- Every event of a run happened to the store that the run before it left. -/
theorem Run.reached {before after : List (Event Value Time)} {event : Event Value Time}
    (hrun : Run events held) (hsplit : events = before ++ event :: after) :
    Run before event.before ∧ event = occurring event.before event.fate event.call := by
  induction hrun generalizing after with
  | start => simp at hsplit
  | @call events held hrun fate call ih =>
      rcases List.eq_nil_or_concat after with rfl | ⟨rest, last, rfl⟩
      · obtain ⟨rfl, hlast⟩ := List.append_inj' hsplit rfl
        obtain ⟨rfl, -⟩ := List.cons.inj hlast
        exact ⟨hrun, rfl⟩
      · rw [List.concat_eq_append, ← List.cons_append, ← List.append_assoc] at hsplit
        obtain ⟨hrest, -⟩ := List.append_inj' hsplit rfl
        exact ih hrest

/-- What one call of a run may do, after the calls before it. -/
structure OneShot (before : List (Event Value Time)) (event : Event Value Time) :
    Prop where
  once : ∀ nonce, event.accepted = some nonce → nonce ∉ acceptedNonces before
  asMinted : ∀ nonce bound now, event.call = .consume (.text nonce) bound now →
    event.outcome = .accepted → ∃ mint ∈ before, ∃ expiresAt,
      mint.Issues nonce bound expiresAt ∧ now < expiresAt
  refusalKeeps : ∀ problem, event.outcome = .refused problem →
    event.fate ≠ .unsynced → event.after = event.before
  compactionProven : ∀ now nonActionable nonce entry, event.call = .compact now nonActionable →
    event.before.get? nonce = some entry → Live now entry →
    event.after.get? nonce ≠ some entry → ∃ oracle, nonActionable = some oracle ∧
      oracle nonce entry.bound = .exactlyTrue
  bounded : event.after.entries.length ≤ maxCapabilities
  mintKeeps : ∀ bound now fresh nonce entry, event.call = .mint bound now fresh →
    event.before.get? nonce = some entry → Live now entry → event.after.get? nonce = some entry

/-- Capabilities are one-shot over every run whose nonces are drawn afresh. -/
theorem capabilities_one_shot {events : List (Event Value Time)}
    {held : Capabilities Value Time} (hrun : Run events held)
    (hfresh : (issuedNonces events).Nodup) (before after : List (Event Value Time))
    (event : Event Value Time) (hsplit : events = before ++ event :: after) :
    OneShot before event := by
  obtain ⟨hreached, hevent⟩ := hrun.reached hsplit
  rw [hsplit, issuedNonces, List.filterMap_append, List.nodup_append] at hfresh
  obtain ⟨hbefore, hafter, hapart⟩ := hfresh
  have htracked := hreached.tracked hbefore
  refine ⟨?_, ?_, ?_, ?_, ?_, ?_⟩
  · intro nonce haccepted hmem
    rw [hevent] at haccepted
    obtain ⟨bound, now, entry, -, hspends⟩ := spends_occurring haccepted
    exact htracked.spent nonce entry hmem hspends.found hspends.live.1
  · intro nonce bound now hcall houtcome
    rw [hevent, occurring] at houtcome
    simp only [hcall] at houtcome
    obtain ⟨name, entry, hspends⟩ := spends_of_accepted houtcome
    obtain rfl := Presented.text.inj hspends.named
    obtain ⟨mint, hmem, hissues⟩ := htracked.traced nonce entry hspends.found
    rw [hspends.bound_eq] at hissues
    exact ⟨mint, hmem, entry.expiresAt, hissues, hspends.live.2⟩
  · intro problem houtcome hsynced
    rw [hevent] at houtcome ⊢
    exact refused_keeps houtcome hsynced
  · intro now nonActionable nonce entry hcall hheld hlive hgone
    rw [hevent, occurring] at hgone
    simp only [hcall] at hgone
    exact compact_proven hheld hlive hgone
  · rw [hevent]
    exact perform_bounded htracked.bounded
  · intro bound now fresh nonce entry hcall hheld hlive
    rw [hevent, occurring]
    simp only [hcall]
    refine mint_keeps_live hheld hlive fun hissued => ?_
    obtain ⟨mint, hmem, hissues⟩ := htracked.traced nonce entry hheld
    have hsame : event.issued = some nonce := by
      rw [hevent, occurring]
      simp only [hcall]
      exact hissued
    exact hapart nonce (mem_issuedNonces hmem hissues) nonce
      (List.mem_filterMap.mpr ⟨event, by simp, hsame⟩) rfl

/-! A capability that is spent, and presented once more. -/

def sampleBound : Bound String := ⟨"wf-1", "prepare_workspace", "1"⟩

def sampleMint : Event String Nat :=
  occurring Dict.empty .undisturbed (.mint sampleBound 100 "c0ffee")

def sampleSpend : Event String Nat :=
  occurring sampleMint.after .undisturbed (.consume (.text "c0ffee") sampleBound 200)

def sampleReplay : Event String Nat :=
  occurring sampleSpend.after .undisturbed (.consume (.text "c0ffee") sampleBound 201)

theorem capabilities_one_shot_replayed : sampleSpend.accepted = some "c0ffee" ∧
      sampleReplay.outcome = .refused .consumed ∧ OneShot [sampleMint, sampleSpend] sampleReplay :=
  ⟨by decide +kernel, by decide +kernel,
    capabilities_one_shot (((Run.start.call .undisturbed _).call .undisturbed _).call
      .undisturbed _) (by decide +kernel) [sampleMint, sampleSpend] [] sampleReplay rfl⟩

end DodgingInfinity.TargetRuntime
