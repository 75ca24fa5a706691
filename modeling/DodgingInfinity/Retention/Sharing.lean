import DodgingInfinity.MissionCore.Runs
import DodgingInfinity.Retention.Reclaim

/-!
# Histories of passes

The coordinator lock runs the passes one after another.  Each may be cut off at
any question, any store may fail it, and others change the payload stores
during a pass and between two.
-/

namespace DodgingInfinity.Retention

open MissionCore Procedure

section

variable [SnapshotDigest]

/-- The answer of a pass. -/
inductive PassReply where
  | swept (report : PassReport)
  | deleted (tombstone : Tombstone)

inductive PassCall where
  | sweep (now : Nat)
  | delete (storeIdentity missionId displayedState : String)
      (requestedStore : Option String) (now : Nat)

def PassCall.now : PassCall → Nat
  | .sweep now => now
  | .delete _ _ _ _ now => now

/-- The Mission a pass deletes. -/
def PassCall.deleting : PassCall → Option String
  | .sweep _ => none
  | .delete _ missionId _ _ _ => some missionId

omit [SnapshotDigest] in
@[simp] theorem PassCall.now_sweep (now : Nat) : (PassCall.sweep now).now = now :=
  rfl

omit [SnapshotDigest] in
@[simp] theorem PassCall.deleting_sweep (now : Nat) :
    (PassCall.sweep now).deleting = none := rfl

def PassCall.pass : PassCall → Pass PassReply
  | .sweep now => do
      let report ← Retention.sweep now
      pure (.swept report)
  | .delete storeIdentity missionId displayedState requestedStore now => do
      let tombstone ← Retention.delete storeIdentity missionId displayedState
        requestedStore now
      pure (.deleted tombstone)

abbrev Result := Except Raised PassReply × RetentionDocument

def PassCall.program (call : PassCall) : Program Call Call.Answer Result :=
  call.pass defaultDocument

abbrev Question := Asked Call Call.Answer World

/-- One pass from its start to its end. -/
structure Passage where
  call : PassCall
  start : World
  trace : List Question
  ending : Ending Result
  final : World

def Passage.Real (passage : Passage) : Prop :=
  Executes surroundings passage.call.program passage.start passage.trace
    passage.ending passage.final

/-- A pass that no store fails, nobody cuts off and nothing else disturbs. -/
def PassCall.undisturbed (call : PassCall) (world : World) : Passage where
  call := call
  start := world
  trace := call.program.asks perform world
  ending := .finished (call.program.run perform world).1
  final := (call.program.run perform world).2

@[simp] theorem PassCall.undisturbed_call (call : PassCall) (world : World) :
    (call.undisturbed world).call = call := rfl

theorem PassCall.undisturbed_real (call : PassCall) (world : World) :
    (call.undisturbed world).Real :=
  call.program.run_executes (fun _ _ => Answers.performed) world

/-- Passes one after another, with the changes of others between them. -/
inductive History (start : World) : List Passage → World → Prop
  | start : History start [] start
  | drift {passages : List Passage} {world next : World}
      (hrun : History start passages world)
      (hdrift : next.retention = world.retention) : History start passages next
  | pass {passages : List Passage} {world : World} {passage : Passage}
      (hrun : History start passages world) (hstart : passage.start = world)
      (hreal : passage.Real) : History start (passages ++ [passage]) passage.final

theorem History.undisturbed (call : PassCall) (world : World) :
    History world [call.undisturbed world] (call.undisturbed world).final :=
  .pass .start rfl (call.undisturbed_real world)

theorem History.real {start final : World} {passages : List Passage}
    (hrun : History start passages final) :
    ∀ passage ∈ passages, passage.Real := by
  induction hrun with
  | start => simp
  | drift hrun hdrift ih => exact ih
  | pass hrun hstart hreal ih =>
      intro passage hmem
      rcases List.mem_append.mp hmem with hbefore | hlast
      · exact ih passage hbefore
      · rw [List.mem_singleton.mp hlast]
        exact hreal

/-! ## Consulting a store

What a pass asks, and what it raises when the answer is a fault. -/

variable {protocol : Protocol Call Call.Answer}
  {pre : RetentionDocument → protocol.State → Prop}
  {fails : Raised → RetentionDocument → protocol.State → Prop}

theorem keeps_consult (call : Call)
    {post : call.Reply → RetentionDocument → protocol.State → Prop}
    (hallowed : ∀ working state, pre working state → protocol.allows state call)
    (hreply : ∀ working state reply, pre working state →
      post reply working (protocol.hears state call (.ok reply)))
    (hfault : ∀ working state fault, pre working state →
      fails (.store fault) working (protocol.hears state call (.error fault))) :
    Keeps protocol pre (consult call) post fails := by
  intro working state hpre
  refine ⟨hallowed working state hpre, fun answer => ?_⟩
  cases answer with
  | ok reply => exact hreply working state reply hpre
  | error fault => exact hfault working state fault hpre

theorem keeps_save {post : Unit → RetentionDocument → protocol.State → Prop}
    (hallowed : ∀ working state, pre working state → protocol.allows state (.saveRetention working))
    (hreply : ∀ working state, pre working state →
      post () working (protocol.hears state (.saveRetention working) (.ok ())))
    (hfault : ∀ working state fault, pre working state → fails (.store fault) working
        (protocol.hears state (.saveRetention working) (.error fault))) :
    Keeps protocol pre save post fails := by
  intro working state hpre
  refine ⟨hallowed working state hpre, fun answer => ?_⟩
  cases answer with
  | ok reply => exact hreply working state hpre
  | error fault => exact hfault working state fault hpre

end

/-! ## Rejected Missions -/

/-- A minted id with two digits. -/
def numberedId (kind : IdPrefix) (number : Nat) : String :=
  kind.text ++ "-" ++ String.ofList (List.replicate 30 '0' ++
    [Nat.digitChar (number / 16), Nat.digitChar (number % 16)])

def numberedEnv (now : Nat) : Env where
  receivedAt := now
  checkedAt := now
  now := now
  answeredAt := now
  mintId := fun kind taken _ => numberedId kind taken

def panelProposal : Proposal :=
  { sampleProposal with
    proofContract := none
    requestedActionScope := [.repositoryRead] }

def panelContext : Context := .authenticated {
  transport := "panel"
  principalKind := .unauthenticatedLocalCaller
  principalRef := "local"
  configuredSubject := none }

def operatorContext : Context := .operatorAttested {
  transport := "panel"
  principalKind := .operatorAttested
  principalRef := "operator"
  configuredSubject := none }

def proposeNumbered (number : Nat) : List (Env × ServiceCall) :=
  [(numberedEnv 1, .mint .request panelContext), (numberedEnv 1, .propose {
      requestId := numberedId .request number
      proposal := panelProposal
      context := panelContext
      withdrawalKeyDigestSha256 := none
      withdrawalKeyExpiresAt := none })]

def rejectNumbered (count number : Nat) : List (Env × ServiceCall) :=
  [(numberedEnv 2, .mint .decision operatorContext), (numberedEnv 2, .attested {
      context := operatorContext
      decisionId := numberedId .decision (count + number)
      missionId := numberedId .mission number
      revision := 1
      proposalDigestSha256 := sampleProposalDigest
      outcome := .reject
      reason := none })]

/-- Missions that were proposed and then rejected. -/
def rejectedMissions (count : Nat) : Document :=
  @attemptAll sampleRunDigest samplePlanner MissionCore.defaultDocument
    ((List.range count).flatMap proposeNumbered ++
      (List.range count).flatMap (rejectNumbered count))

/-- A settled turn whose draft was submitted as a numbered request. -/
def sampleTurn (number conversation : Nat) : Turn where
  turnId := numberedId .request number
  conversationId := numberedId .decision conversation
  sequence := number + 1
  createdAt := 1
  finishedAt := some 1
  state := .completed
  userText := some "fix the parser"
  assistantText := some "here is a proposal"
  gatewayRequestId := none
  outcome := none
  draft := some {
    proposal := some panelProposal
    proposalDigestSha256 := sampleProposalDigest }
  draftProblem := none
  submission := some {
    state := .submitted
    reservedAt := 1
    finishedAt := some 1
    requestRef := some (numberedId .request number)
    supersedes := none
    problem := none }
  questions := none
  reclaimed := none

/-- The request that became a numbered Mission. -/
def sampleRequest (number : Nat) : Request where
  requestRef := numberedId .request number
  missionId := some (numberedId .mission number)
  proposal := some panelProposal
  proposalDigestSha256 := sampleProposalDigest
  attestedOutcome := none
  reclaimed := none

/-- The record of a numbered rejected Mission, observed at its rejection. -/
def sampleRecord (number : Nat) : RetentionRecord :=
  observedRecord (numberedId .mission number) (noStartRecorded none) 2

/-- Rejected Missions, each of a conversation of its own, with these records. -/
def sampleWorld (records : List RetentionRecord) (count : Nat) : World where
  retention := Dict.ofEntries (records.map fun record => (record.key, record))
  missions := rejectedMissions count
  turns := Dict.ofEntries ((List.range count).map fun number =>
    ((sampleTurn number number).turnId, sampleTurn number number))
  requests := Dict.ofEntries ((List.range count).map fun number =>
    ((sampleRequest number).requestRef, sampleRequest number))
  delivery := .notConfigured
  guarded := []

/-- When the sample records fall due. -/
def sampleDue : Nat := 2 + retentionSeconds

/-- A deletion that a crash left in progress. -/
def interruptedWorld : World :=
  sampleWorld [deletingRecord sampleDue (sampleRecord 0)] 1

set_option maxRecDepth 100000 in
/-- The sixth question of the sweep that resumes it reduces the conversation. -/
theorem resumption_reduces : letI := sampleSnapshotDigest
    (((PassCall.sweep sampleDue).undisturbed interruptedWorld).trace[5]?).any
      (fun asked => conversationTurns asked.before.turns (numberedId .decision 0) ≠
        conversationTurns asked.after.turns (numberedId .decision 0)) = true := by
  decide +kernel

end DodgingInfinity.Retention

/-!
## A shared conversation is reduced only when nothing needs it

What a pass has read decides which conversations it may ask the journal to
reduce.  The journal reduces only the snapshot that was judged, so the judgement
is about the very turns that lose their words.
-/

namespace DodgingInfinity.Retention

open MissionCore Procedure

/-! ## The relation between conversations and Missions -/

variable {turns : Turns} {conversationId : String}

theorem mem_conversationTurns
    {turn : Turn} : turn ∈ conversationTurns turns conversationId ↔
      turn ∈ turns.values ∧ turn.conversationId = conversationId := by
  simp [conversationTurns]

variable {requests : Requests} {missionId : Option String}

/-- The Missions of a conversation are read from its turns alone. -/
theorem mem_conversationMissions : missionId ∈ conversationMissions turns requests conversationId ↔
      ∃ turn ∈ conversationTurns turns conversationId, ∃ ref, turn.requestRef = some ref ∧
          (requests.get? ref).bind Request.missionId = missionId := by
  simp only [conversationMissions, List.mem_filterMap, List.mem_filter,
    decide_eq_true_eq, mem_conversationTurns, Option.map_eq_some_iff]

theorem mem_conversationMissions_congr {first second : Turns}
    (h : conversationTurns first conversationId = conversationTurns second conversationId) :
    missionId ∈ conversationMissions first requests conversationId ↔
      missionId ∈ conversationMissions second requests conversationId := by
  rw [mem_conversationMissions, mem_conversationMissions, h]

/-- A change of other conversations leaves the turns of this one. -/
theorem conversationTurns_mapValues
    {f : String → Turn → Turn}
    (hkept : ∀ key turn, (f key turn).conversationId = turn.conversationId)
    (hsame : ∀ key turn, turn.conversationId = conversationId → f key turn = turn) :
    conversationTurns (turns.mapValues f) conversationId =
      conversationTurns turns conversationId := by
  have hfilter : ∀ entries : List (String × Turn),
      ((entries.map fun entry => (entry.1, f entry.1 entry.2)).map
        Prod.snd).filter (fun turn => turn.conversationId = conversationId) =
      (entries.map Prod.snd).filter fun turn =>
        turn.conversationId = conversationId := by
    intro entries
    induction entries with
    | nil => rfl
    | cons entry rest ih =>
        simp only [List.map_cons, List.filter_cons, hkept]
        by_cases h : entry.2.conversationId = conversationId
        · simp only [h, decide_true, if_true, hsame entry.1 entry.2 h, ih]
        · simp only [h, decide_false, Bool.false_eq_true, if_false, ih]
  exact congrArg (sortedBy Turn.turnId) (hfilter turns.entries)

theorem reduceTurn_conversationId (reclaimedAt : Nat) (outcome : ReclaimOutcome) (turn : Turn) :
    (reduceTurn reclaimedAt outcome turn).conversationId = turn.conversationId := by
  unfold reduceTurn
  split
  · rfl
  · split <;> rfl

section

variable [SnapshotDigest]

theorem reclaimConversations_eq_ok {turns next : Turns}
    {conversationIds : List String} {reclaimedAt changed : Nat}
    {outcome : ReclaimOutcome} {checked : Dict String SnapshotDigest.Digest}
    (h : reclaimConversations turns conversationIds reclaimedAt outcome checked =
      .ok (changed, next)) : (∀ conversationId ∈ conversationIds, checked.get? conversationId =
      some (conversationSnapshot turns conversationId)) ∧
    ∀ conversationId, conversationId ∉ conversationIds → conversationTurns next conversationId =
        conversationTurns turns conversationId := by
  simp only [reclaimConversations, checkConversations, Checked.bind_eq_ok,
    Checked.exists_passed, Checked.failIf_eq_ok, Checked.pure_eq_ok,
    Prod.mk.injEq, not_exists, not_and, not_not, ne_eq] at h
  obtain ⟨⟨-, hchecked⟩, -, rfl⟩ := h
  refine ⟨hchecked, fun conversationId hother => ?_⟩
  refine conversationTurns_mapValues (fun key turn => ?_) fun key turn hsame => ?_
  · split
    · exact reduceTurn_conversationId reclaimedAt outcome turn
    · rfl
  · rw [if_neg (hsame ▸ hother)]

variable {next world : World} {call : Call}

/-- Only a reduction of a conversation changes its turns, and it reduces what
was checked. -/
theorem turns_change {answer : call.Answer}
    {conversationId : String} (h : Answers world call answer next)
    (hchanged : conversationTurns world.turns conversationId ≠
      conversationTurns next.turns conversationId) : ∃ conversationIds reclaimedAt outcome checked,
      call = .reclaimConversations conversationIds reclaimedAt outcome checked ∧
      conversationId ∈ conversationIds ∧ checked.get? conversationId =
        some (conversationSnapshot world.turns conversationId) := by
  have heffect : conversationTurns world.turns conversationId ≠
      conversationTurns (perform call world).2.turns conversationId := by
    cases h with
    | performed => exact hchanged
    | failed fault => exact absurd rfl hchanged
    | late => exact hchanged
  cases call with
  | reclaimConversations conversationIds reclaimedAt outcome checked =>
      simp only [perform, World.reclaimConversations] at heffect
      split at heffect
      · split at heffect
        · rename_i changed turns hreclaimed
          obtain ⟨hchecked, hothers⟩ := reclaimConversations_eq_ok hreclaimed
          have hmem : conversationId ∈ conversationIds := by
            by_contra hother
            exact heffect (hothers conversationId hother).symm
          exact ⟨conversationIds, reclaimedAt, outcome, checked, rfl, hmem,
            hchecked conversationId hmem⟩
        · exact absurd rfl heffect
      · exact absurd rfl heffect
  | saveRetention document =>
      simp only [perform, World.saveRetention] at heffect
      split at heffect <;> exact absurd rfl heffect
  | _ => exact absurd rfl heffect

/-! ## What a pass has read -/

/-- The stores as a pass read them last, and the retention document as it first
loaded and as it last loaded or saved it. -/
structure Memory where
  loaded : Option RetentionDocument
  stored : Option RetentionDocument
  missions : Option Document
  turns : Option Turns
  requests : Option Requests

def Memory.blank : Memory := ⟨none, none, none, none, none⟩

/-- A save that may or may not have taken effect leaves the stored document
unknown. -/
def Memory.hear (memory : Memory) : (call : Call) → call.Answer → Memory
  | .loadRetention, .ok records => { memory with
      loaded := memory.loaded.or (some records.1)
      stored := some records.1 }
  | .saveRetention records, .ok _ => { memory with stored := some records }
  | .saveRetention _, .error .other => { memory with stored := none }
  | .loadMissions, .ok missions => { memory with missions := some missions.1 }
  | .loadJournal, .ok turns => { memory with turns := some turns }
  | .loadRequests, .ok requests => { memory with requests := some requests.1 }
  | _, _ => memory

/-- What a pass has read when it has asked a trace. -/
def heard (trace : List Question) : Memory :=
  trace.foldl (fun memory asked => memory.hear asked.question asked.answer) .blank

/-- Every Mission of the conversation is safe, or the one being deleted is its
only one. -/
def Releasable (deleting : Option String) (records : RetentionDocument)
    (missions : Document) (turns : Turns) (requests : Requests) (now : Nat)
    (conversationId : String) : Prop :=
  (∀ missionId ∈ conversationMissions turns requests conversationId,
    safe records missions missionId now = true) ∨ ∃ missionId, deleting = some missionId ∧
    ∀ other ∈ conversationMissions turns requests conversationId, other = some missionId

/-- The reading that releases the conversations named, on the snapshots
given. -/
structure Memory.Releases (memory : Memory) (deleting : Option String)
    (now : Nat) (conversationIds : List String)
    (checked : Dict String SnapshotDigest.Digest) (records : RetentionDocument)
    (missions : Document) (turns : Turns) (requests : Requests) : Prop where
  storedRead : memory.stored = some records
  missionsRead : memory.missions = some missions
  turnsRead : memory.turns = some turns
  requestsRead : memory.requests = some requests
  snapshot : ∀ conversationId ∈ conversationIds, checked.get? conversationId =
    some (conversationSnapshot turns conversationId)
  release : ∀ conversationId ∈ conversationIds,
    Releasable deleting records missions turns requests now conversationId

/-- No record is lost, a tombstone never changes, and a reduced Mission is never
observed again. -/
def Forward (first second : RetentionDocument) : Prop :=
  ∀ key record, first.get? key = some record → ∃ next,
    second.get? key = some next ∧ (record.phase = .deleted → next = record) ∧
      (record.phase.reduced = true → next.phase.reduced = true)

omit [SnapshotDigest] in
theorem Forward.refl (records : RetentionDocument) : Forward records records :=
  fun _ record h => ⟨record, h, fun _ => rfl, id⟩

omit [SnapshotDigest] in
theorem Forward.trans {first second third : RetentionDocument}
    (h : Forward first second) (hnext : Forward second third) :
    Forward first third := by
  intro key record hheld
  obtain ⟨middle, hmiddle, hsame, hreduced⟩ := h key record hheld
  obtain ⟨last, hlast, hlastSame, hlastReduced⟩ := hnext key middle hmiddle
  refine ⟨last, hlast, fun hdeleted => ?_, fun h => hlastReduced (hreduced h)⟩
  have hmiddleSame := hsame hdeleted
  rw [hlastSame (hmiddleSame ▸ hdeleted), hmiddleSame]

/-- A pass asks for no reduction but of what its reading releases, and a sweep
saves no document but one that goes on from the document it loaded. -/
def sharing (deleting : Option String) (now : Nat) :
    Protocol Call Call.Answer where
  State := Memory
  allows memory call :=
    (∀ conversationIds reclaimedAt outcome checked,
      call = .reclaimConversations conversationIds reclaimedAt outcome checked →
        ∃ records missions turns requests, memory.Releases deleting now
          conversationIds checked records missions turns requests) ∧
    ∀ records, call = .saveRetention records → deleting = none →
      ∃ loaded, memory.loaded = some loaded ∧ Forward loaded records
  hears := Memory.hear

/-- What is remembered of the retention document is true of the world, and what
a sweep leaves of it goes on from what it found. -/
structure Memory.Agrees (deleting : Option String) (start : RetentionDocument)
    (memory : Memory) (world : World) : Prop where
  stored : ∀ records, memory.stored = some records → world.retention = records
  unread : deleting = none → memory.loaded = none → world.retention = start
  loaded : deleting = none → ∀ records, memory.loaded = some records → records = start
  forward : deleting = none → Forward start world.retention

omit [SnapshotDigest] in
/-- What is remembered stays true while the document is kept. -/
theorem Memory.Agrees.kept {deleting : Option String} {start : RetentionDocument}
    {memory heard : Memory} (h : memory.Agrees deleting start world)
    (hkept : next.retention = world.retention) (hstored : heard.stored = memory.stored)
    (hloaded : heard.loaded = memory.loaded) : heard.Agrees deleting start next :=
  ⟨fun records hread => hkept.trans (h.stored records (hstored ▸ hread)),
    fun hsweep hunread => hkept.trans (h.unread hsweep (hloaded ▸ hunread)),
    fun hsweep records hread => h.loaded hsweep records (hloaded ▸ hread),
    fun hsweep => hkept ▸ h.forward hsweep⟩

omit [SnapshotDigest] in
theorem Memory.agrees_blank (deleting : Option String) (world : World) :
    Memory.blank.Agrees deleting world.retention world :=
  ⟨fun _ h => (by cases h), fun _ _ => rfl, fun _ _ h => (by cases h),
    fun _ => Forward.refl _⟩

theorem perform_retention (call : Call) (world : World)
    (h : ∀ document, call ≠ .saveRetention document) :
    (perform call world).2.retention = world.retention := by
  cases call with
  | saveRetention document => exact absurd rfl (h document)
  | reclaimConversations conversationIds reclaimedAt outcome checked =>
      simp only [perform, World.reclaimConversations]
      split
      · split <;> rfl
      · rfl
  | _ => rfl

theorem perform_saveRetention (document : RetentionDocument) (world : World) :
    ((perform (.saveRetention document) world).1 = .ok () ∧
      (perform (.saveRetention document) world).2 =
        { world with retention := document } ∧ Valid document) ∨
    (∃ error, (perform (.saveRetention document) world).1 =
      .error (.retention error) ∧
      (perform (.saveRetention document) world).2 = world ∧ ¬ Valid document) := by
  simp only [perform, World.saveRetention]
  cases h : validateDocument document with
  | ok passed =>
      exact .inl ⟨rfl, rfl, (validateDocument_eq_ok document passed).mp h⟩
  | error error =>
      refine .inr ⟨error, rfl, rfl, fun hvalid => ?_⟩
      rw [(validateDocument_eq_ok document ()).mpr hvalid] at h
      cases h

variable {records : LoadedRetention}

omit [SnapshotDigest] in
theorem loadRetention_eq_ok
    (h : world.loadRetention = .ok records) : records.1 = world.retention := by
  unfold World.loadRetention at h
  split at h
  · obtain rfl := Except.ok.inj h
    rfl
  · cases h

/-- A question that is no save leaves the retention document as it is. -/
theorem retention_kept {answer : call.Answer}
    (h : Answers world call answer next) (hcall : ∀ document, call ≠ .saveRetention document) :
    next.retention = world.retention := by
  cases h with
  | performed => exact perform_retention call world hcall
  | failed fault => rfl
  | late => exact perform_retention call world hcall

/-- A save leaves the document saved, or the one before it. -/
theorem retention_saved {document : RetentionDocument}
    {answer : (Call.saveRetention document).Answer}
    (h : Answers world (.saveRetention document) answer next) :
    (next.retention = document ∨ next.retention = world.retention) ∧
      (answer = .ok () → next.retention = document) ∧
      (∀ fault, answer = .error fault → fault ≠ .other →
        next.retention = world.retention) := by
  rcases perform_saveRetention document world with
    ⟨hreply, hworld, -⟩ | ⟨error, hreply, hworld, -⟩
  · cases h with
    | performed =>
        rw [hreply, hworld]
        exact ⟨.inl rfl, fun _ => rfl, fun _ h => (by cases h)⟩
    | failed fault => exact ⟨.inr rfl, fun h => (by cases h), fun _ _ _ => rfl⟩
    | late =>
        rw [hworld]
        refine ⟨.inl rfl, fun h => (by cases h), fun fault h hne => ?_⟩
        exact absurd (Except.error.inj h).symm hne
  · cases h with
    | performed =>
        rw [hreply, hworld]
        exact ⟨.inr rfl, fun h => (by cases h), fun _ _ _ => rfl⟩
    | failed fault => exact ⟨.inr rfl, fun h => (by cases h), fun _ _ _ => rfl⟩
    | late =>
        rw [hworld]
        exact ⟨.inr rfl, fun h => (by cases h), fun _ _ _ => rfl⟩

/-- A load answers the document of the world. -/
theorem loaded_retention (h : Answers world .loadRetention (.ok records) next) :
    records.1 = world.retention := by
  generalize hanswer : (Except.ok records : Call.loadRetention.Answer) = answer at h
  cases h with
  | performed => exact loadRetention_eq_ok hanswer.symm
  | failed fault => cases hanswer
  | late => cases hanswer

theorem sharing_faithful (deleting : Option String) (now : Nat) (start : RetentionDocument) :
    Faithful surroundings (sharing deleting now)
      (Memory.Agrees deleting start) where
  drift := by
    intro memory world next h hdrift
    exact h.kept hdrift rfl rfl
  answer := by
    intro memory world call answer next h hallowed hanswer
    cases call with
    | loadRetention =>
        have hkept := retention_kept hanswer (fun _ h => by cases h)
        cases answer with
        | error fault => exact h.kept hkept rfl rfl
        | ok records =>
            have hloaded := loaded_retention hanswer
            refine ⟨fun stored hstored => ?_, fun _ hunread => ?_,
              fun hsweep loaded hfirst => ?_, fun hsweep => hkept ▸ h.forward hsweep⟩
            · obtain rfl := Option.some.inj hstored
              exact hkept.trans hloaded.symm
            · cases hfirst : memory.loaded <;> simp [sharing, Memory.hear, hfirst] at hunread
            · cases hbefore : memory.loaded with
              | none =>
                  simp only [sharing, Memory.hear, hbefore, Option.none_or,
                    Option.some.injEq] at hfirst
                  rw [← hfirst, hloaded]
                  exact h.unread hsweep hbefore
              | some before =>
                  simp only [sharing, Memory.hear, hbefore, Option.some_or,
                    Option.some.injEq] at hfirst
                  rw [← hfirst]
                  exact h.loaded hsweep before hbefore
    | saveRetention document =>
        obtain ⟨heither, hdone, hrefused⟩ := retention_saved hanswer
        have hforward : deleting = none → Forward start next.retention := by
          intro hsweep
          obtain ⟨loaded, hloaded, honward⟩ := hallowed.2 document rfl hsweep
          rw [h.loaded hsweep loaded hloaded] at honward
          rcases heither with hnext | hnext
          · exact hnext ▸ honward
          · exact hnext ▸ h.forward hsweep
        have hread : deleting = none → memory.loaded ≠ none := by
          intro hsweep hunread
          obtain ⟨loaded, hloaded, -⟩ := hallowed.2 document rfl hsweep
          rw [hunread] at hloaded
          cases hloaded
        cases answer with
        | ok reply =>
            refine ⟨fun stored hstored => ?_,
              fun hsweep hunread => absurd hunread (hread hsweep), h.loaded, hforward⟩
            rw [← Option.some.inj hstored]
            exact hdone rfl
        | error fault =>
            by_cases hother : fault = .other
            · subst hother
              exact ⟨fun stored hstored => (by cases hstored),
                fun hsweep hunread => absurd hunread (hread hsweep), h.loaded, hforward⟩
            · have hkept : memory.Agrees deleting start next :=
                h.kept (hrefused fault rfl hother) rfl rfl
              cases fault with
              | other => exact absurd rfl hother
              | _ => exact hkept
    | loadMissions =>
        have hkept := retention_kept hanswer (fun _ h => by cases h)
        cases answer <;> exact h.kept hkept rfl rfl
    | loadJournal =>
        have hkept := retention_kept hanswer (fun _ h => by cases h)
        cases answer <;> exact h.kept hkept rfl rfl
    | loadRequests =>
        have hkept := retention_kept hanswer (fun _ h => by cases h)
        cases answer <;> exact h.kept hkept rfl rfl
    | _ => exact h.kept (retention_kept hanswer (fun _ h => by cases h)) rfl rfl

end

end DodgingInfinity.Retention
