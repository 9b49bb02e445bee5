import Splinter.Scabbard.Audit
import Splinter.Services.PendingChange

/-!
# The state roots that proposals name

The id of a scabbard proposal is the state root that its batch leads to.  A commit
moves the service from the root of its last check to the root that the check has
computed, which the proposal names if the check has reported it as valid.
-/

namespace Splinter.ScabbardService

open Library Service Consensus TwoPhase Services ScabbardState

/-- The Merkle state computes the same root when it prepares changes and when it
commits them, and the storage works. -/
structure Reliable (formats : Formats) (around : Surroundings) : Prop where
  commits : ∀ root changes next, around.commitState root changes = .ok next →
    next = formats.machine.computeStateId root changes
  hexadecimal : ∀ root changes, ∃ bytes,
    parseHex (formats.machine.computeStateId root changes) = .ok bytes
  writes : ∀ bytes, around.writeStateRoot bytes = .ok ()
  appends : ∀ receipts, around.appendReceipts receipts = .ok ()
  stores : ∀ changes, around.storeHistory changes = .ok ()

namespace ScabbardState

variable {formats : Formats} {around : Surroundings}

def preparedRoot (machine : Machine) (state : ScabbardState) : Option String :=
  state.pendingChanges.map fun pending =>
    machine.computeStateId state.currentStateRoot (receiptsIntoStateChanges pending.2)

theorem prepareChange_root (batch : BatchPair) (state : ScabbardState) :
    Ends (prepareChange formats.machine around batch) state
      (fun hash after =>
        after.currentStateRoot = state.currentStateRoot ∧
          after.preparedRoot formats.machine = some hash)
      fun _ after =>
        after.currentStateRoot = state.currentStateRoot ∧
          after.pendingChanges = state.pendingChanges := by
  unfold prepareChange
  simp only [ends_bind, ends_fromExcept, ends_get, ends_set, ends_pure,
    true_and, implies_true, and_true]
  intro _ _ txnReceipts _ _ _
  rfl

/-- A commit moves the state to the root that the pending change leads to, or fails
and leaves nothing pending. -/
theorem commit_root (reliable : Reliable formats around) (state : ScabbardState) :
    Ends (commit around) state
      (fun _ after =>
        state.preparedRoot formats.machine = some after.currentStateRoot ∧
          after.pendingChanges = none)
      fun _ after =>
        after.currentStateRoot = state.currentStateRoot ∧ after.pendingChanges = none := by
  unfold commit
  rw [ends_bind, ends_get, ends_bind, ends_set]
  unfold preparedRoot
  cases pending : state.pendingChanges with
  | none => exact ⟨rfl, rfl⟩
  | some entry =>
    obtain ⟨signature, txnReceipts⟩ := entry
    obtain ⟨bytes, parsed⟩ := reliable.hexadecimal state.currentStateRoot
      (receiptsIntoStateChanges txnReceipts)
    unfold commitChanges writeCurrentStateRoot
    cases committed : around.commitState state.currentStateRoot
        (receiptsIntoStateChanges txnReceipts) with
    | error => simp [committed, ends_bind, ends_fromExcept, ends_get, Except.mapError]
    | ok next =>
      have same := reliable.commits _ _ _ committed
      subst same
      simp only [ends_bind, ends_fromExcept, ends_get, ends_modify,
        committed, reliable.writes, reliable.appends, reliable.stores,
        Except.mapError, parsed, Except.ok.injEq, reduceCtorEq,
        false_implies, implies_true, and_true, forall_eq', Option.map_some,
        and_self, forall_const]

end ScabbardState

namespace Scabbard

variable {formats : Formats} {around : Surroundings}

def held (service : Scabbard) :=
  (service.shared.state.currentStateRoot, service.shared.state.pendingChanges)

def lastUpdate (service : Scabbard) : Option ProposalUpdate :=
  service.consensus.bind (·.proposalUpdates.getLast?)

variable {service : Scabbard} {channels : Channels} {stateRoot : String}

theorem sendUpdate_last {Failure : Type} (connected : service.consensus = some channels)
    (update : ProposalUpdate) {failed : Failure → Scabbard → Prop} :
    Ends (sendUpdate update : EStateM Failure Scabbard Unit) service
      (fun _ after =>
        after.shared = service.shared ∧ after.lastUpdate = some update)
      failed := by
  unfold sendUpdate
  rw [ends_modify]
  refine ⟨rfl, ?_⟩
  unfold lastUpdate
  rw [connected]
  exact List.getLast?_concat

/-- A check leaves the change of its proposal behind, and reports whether the
proposal names the root that the change leads to. -/
theorem checkProposal_root (connected : service.consensus = some channels) (id : ProposalId) :
    Ends (checkProposal formats around id) service
      (fun _ after =>
        after.shared.state.currentStateRoot = service.shared.state.currentStateRoot ∧ ∃ hash,
          after.shared.state.preparedRoot formats.machine = some hash ∧
            (after.lastUpdate = some (.proposalValid id) ↔ id = ⟨asBytes hash⟩))
      fun _ after => after.held = service.held := by
  unfold checkProposal
  rw [ends_bind, ends_get]
  split
  · rfl
  · rename_i batch registered
    rw [ends_bind]
    unfold onState
    rw [ends_zoom, ends_mapError]
    refine (prepareChange_root batch service.shared.state).mono
      (fun hash state prepared => ?_) fun _ state kept => ?_
    · obtain ⟨sameRoot, computed⟩ := prepared
      have stillConnected : Scabbard.consensus
          { service with shared := { service.shared with state := state } } =
        some channels :=
        connected
      split
      · rename_i mismatch
        refine (sendUpdate_last stillConnected (.proposalInvalid id)).mono
          (fun _ after sent => ?_) fun _ _ impossible => impossible
        obtain ⟨sameShared, told⟩ := sent
        rw [sameShared, told]
        refine ⟨sameRoot, hash, computed, iff_of_false ?_ ?_⟩
        · exact fun impossible => by cases impossible
        · rintro rfl
          exact mismatch rfl
      · rename_i found
        refine (sendUpdate_last stillConnected (.proposalValid id)).mono
          (fun _ after sent => ?_) fun _ _ impossible => impossible
        obtain ⟨sameShared, told⟩ := sent
        rw [sameShared, told]
        refine ⟨sameRoot, hash, computed, iff_of_true rfl ?_⟩
        rw [not_not.mp found]
    · exact Prod.ext kept.1 kept.2

theorem prepareChange_keeps_root (batch : BatchPair) : Keeps ScabbardState.currentStateRoot
    (ScabbardState.prepareChange formats.machine around batch) :=
  fun state =>
    (prepareChange_root batch state).mono (fun _ _ prepared => prepared.1) fun _ _ kept => kept.1

theorem rejectProposal_root (service : Scabbard) (id : ProposalId) :
    Ends (rejectProposal id) service
      (fun _ after =>
        after.held = (service.shared.state.currentStateRoot, none))
      fun _ after => after.held = service.held := by
  unfold rejectProposal removeProposedBatch
  rw [ends_bind, ends_bind, ends_get]
  split
  · rfl
  · rfl

theorem root_of_respond {call : Call} {answer : Answer} {after : Scabbard}
    (unasked : ∀ id data, call ≠ .acceptProposal id data)
    (responded : respond formats around call service = (answer, after)) :
    after.shared.state.currentStateRoot = service.shared.state.currentStateRoot := by
  have recorded := congrArg (fun record => record.2.2.currentStateRoot) (record_respond responded)
  have prepared (batch : BatchPair) :=
    (@prepareChange_keeps_root formats around batch service.shared.state).finalState
  refine Eq.trans recorded ?_
  unfold recordAfter
  cases call with
  | createProposal _ _ =>
    dsimp only
    split
    · rfl
    · exact prepared _
  | checkProposal _ =>
    dsimp only
    split
    · rfl
    · exact prepared _
  | acceptProposal id data => exact absurd rfl (unasked id data)
  | rejectProposal _ =>
    dsimp only
    split <;> rfl
  | sendTo _ _ | broadcast _ => rfl

/-- Accepting a proposal moves the service to the root that the pending change
leads to, or fails and does not move it. -/
theorem acceptProposal_root (reliable : Reliable formats around)
    (service : Scabbard) (id : ProposalId) :
    Ends (acceptProposal around id) service
      (fun _ after =>
        service.shared.state.preparedRoot formats.machine =
          some after.shared.state.currentStateRoot)
      fun _ after =>
        after.held = service.held ∨ after.held = (service.shared.state.currentStateRoot, none) := by
  unfold acceptProposal removeProposedBatch
  rw [ends_bind, ends_bind, ends_get]
  split
  · exact Or.inl rfl
  · rw [ends_set, ends_bind]
    unfold onState
    rw [ends_zoom, ends_mapError]
    refine (commit_root reliable service.shared.state).mono
      (fun _ state moved => ?_) fun _ state kept => ?_
    · exact moved.1
    · exact Or.inr (Prod.ext kept.1 kept.2)

/-! ## Observed services -/

/-- A check of a proposal: the root it was made on, the root it has computed,
and what it has reported. -/
structure Check where
  id : ProposalId
  root : String
  hash : Option String
  report : Option ProposalUpdate
  deriving DecidableEq

/-- A commit of an accepted proposal, with the last check before it. -/
structure Commit where
  id : ProposalId
  check : Option Check
  before : String
  after : String
  deriving DecidableEq

/-- A service with its last check and its commits. -/
structure Observed where
  service : Scabbard
  check : Option Check
  commits : List Commit

variable (formats)

def Observed.after (before : Observed) (call : Call) (answer : Answer)
    (service : Scabbard) : Observed :=
  match call, answer with
  | .checkProposal id, .ok _ =>
    { service := service
      check := some
        ⟨id, before.service.shared.state.currentStateRoot,
          service.shared.state.preparedRoot formats.machine,
          service.lastUpdate⟩
      commits := before.commits }
  | .acceptProposal id _, .ok _ =>
    { service := service
      check := before.check
      commits := before.commits ++
        [⟨id, before.check, before.service.shared.state.currentStateRoot,
          service.shared.state.currentStateRoot⟩] }
  | _, _ => { before with service := service }

def observedHost : Host Observed Operation where
  channels observed := observed.service.consensus
  withChannels channels observed :=
    { observed with service := { observed.service with consensus := some channels } }
  Answers call before answer after := ∃ around service, Reliable formats around ∧
    respond formats around call before.service = (answer, service) ∧
    after = before.after formats call answer service
  Operates operation before after :=
    after = { before with service := operate formats operation before.service }

def observedStart (timeout : Nat) (now : TwoPhase.Instant)
    (serviceId circuitId : String) (peerServices : List String)
    (stateRoot : String) : Participant Observed where
  engine := .startup timeout now ⟨asBytes serviceId⟩ (peerServices.map fun peer => ⟨asBytes peer⟩)
  service := ⟨(Scabbard.new serviceId circuitId peerServices stateRoot).start, none, []⟩

/-! ## What a call does -/

section Calls

variable {formats} {fed after : Observed} {answer : Answer} {id : ProposalId}

def Observed.root (observed : Observed) : String := observed.service.shared.state.currentStateRoot

theorem kept_of_network {call : Call} (network : isNetworkCall call = true)
    (answered : (observedHost formats).Answers call fed answer after) :
    after.service.held = fed.service.held ∧ after.check = fed.check ∧
      after.commits = fed.commits := by
  obtain ⟨around, service, _, responded, rfl⟩ := answered
  have kept := congrArg (fun kept => kept.slot.2) (unmailed_of_network network responded)
  cases call with
  | createProposal _ _ | checkProposal _ | acceptProposal _ _
  | rejectProposal _ => cases network
  | sendTo _ _ | broadcast _ => exact ⟨kept, rfl, rfl⟩

theorem kept_of_unasked {call : Call}
    (answered : (observedHost formats).Answers call fed answer after)
    (unasked : ∀ id data, call ≠ .acceptProposal id data) :
    after.root = fed.root ∧ after.commits = fed.commits := by
  obtain ⟨around, service, _, responded, rfl⟩ := answered
  have kept := root_of_respond unasked responded
  cases call with
  | acceptProposal id data => exact absurd rfl (unasked id data)
  | checkProposal _ => cases answer <;> exact ⟨kept, rfl⟩
  | _ => exact ⟨kept, rfl⟩

/-- Accepting a proposal moves the service to the root that the pending change
leads to and is noted, or it fails. -/
theorem accept_cases {data : Option Bytes}
    (answered : (observedHost formats).Answers (.acceptProposal id data) fed answer after) :
    answer = .ok () ∧ fed.service.shared.state.preparedRoot formats.machine = some after.root ∧
      after.commits = fed.commits ++ [⟨id, fed.check, fed.root, after.root⟩] ∨
      (∃ error, answer = .error error) ∧
        (after.service.held = fed.service.held ∨ after.service.held = (fed.root, none)) ∧
        after.check = fed.check ∧ after.commits = fed.commits := by
  obtain ⟨around, service, reliable, responded, rfl⟩ := answered
  cases answer with
  | ok _ =>
    have moved := returned_of_answer (acceptProposal_root reliable fed.service id) responded
    exact Or.inl ⟨rfl, moved, rfl⟩
  | error error =>
    obtain ⟨_, kept⟩ := failed_of_answer (acceptProposal_root reliable fed.service id) responded
    exact Or.inr ⟨⟨error, rfl⟩, kept, rfl, rfl⟩

end Calls

/-! ## What is pending while a proposal is evaluated -/

/-- The last check was one of the proposal on the current root, and the pending
change leads to the root that it has computed. -/
structure Pends (observed : Observed) (id : ProposalId) (check : Check)
    (hash : String) : Prop where
  last : observed.check = some check
  own : check.id = id
  here : check.root = observed.root
  computed : check.hash = some hash
  reported : check.report = some (.proposalValid id) ↔ id = ⟨asBytes hash⟩
  pending : ∀ root, observed.service.shared.state.preparedRoot formats.machine = some root →
    root = hash

section Pending

variable {formats} {fed after : Observed} {id : ProposalId} {check : Check} {hash : String}

theorem preparedRoot_of_held {service other : Scabbard} (same : service.held = other.held) :
    service.shared.state.preparedRoot formats.machine =
      other.shared.state.preparedRoot formats.machine := by
  obtain ⟨sameRoot, samePending⟩ := Prod.mk.inj same
  unfold preparedRoot
  rw [sameRoot, samePending]

theorem Pends.kept (pends : Pends formats fed id check hash) (sameCheck : after.check = fed.check)
    (kept : after.service.held = fed.service.held ∨ after.service.held = (fed.root, none)) :
    Pends formats after id check hash := by
  have sameRoot : after.root = fed.root := by
    rcases kept with same | lost
    · exact congrArg Prod.fst same
    · exact congrArg Prod.fst lost
  refine
    { last := sameCheck.trans pends.last
      own := pends.own
      here := pends.here.trans sameRoot.symm
      computed := pends.computed
      reported := pends.reported
      pending := ?_ }
  intro root prepared
  rcases kept with same | lost
  · rw [preparedRoot_of_held same] at prepared
    exact pends.pending root prepared
  · have empty : after.service.shared.state.pendingChanges = none := congrArg Prod.snd lost
    unfold preparedRoot at prepared
    rw [empty] at prepared
    cases prepared

theorem pends_of_check {channels : Channels} (connected : fed.service.consensus = some channels)
    (answered : (observedHost formats).Answers (.checkProposal id) fed (.ok ()) after) :
    ∃ check hash, Pends formats after id check hash := by
  obtain ⟨around, service, _, responded, rfl⟩ := answered
  obtain ⟨sameRoot, hash, computed, reported⟩ :=
    returned_of_answer (checkProposal_root connected id) responded
  refine ⟨_, hash, rfl, rfl, sameRoot.symm, computed, reported, ?_⟩
  intro root prepared
  exact Option.some.inj (prepared.symm.trans computed)

theorem Pends.continued {codecs : TwoPhase.Codecs} {input : TwoPhaseEngine.Input}
    {exchanges : List Exchange} (pends : Pends formats fed id check hash)
    (continued : Continued codecs input id exchanges)
    (answered : Interaction.Answered (observedHost formats).Answers fed exchanges after) :
    Pends formats after id check hash := by
  refine Continued.keeps answered
    (fun observed => Pends formats observed id check hash) continued pends
    ?_ ?_ ?_ ?_
  · intro call answer after network responded
    obtain ⟨kept, sameCheck, _⟩ := kept_of_network network responded
    exact pends.kept sameCheck (Or.inl kept)
  · intro error after responded
    rcases accept_cases responded with ⟨impossible, _⟩ | failed
    · cases impossible
    · obtain ⟨_, kept, sameCheck, _⟩ := failed
      exact pends.kept sameCheck kept
  · rintro other error after ⟨around, service, _, responded, rfl⟩
    obtain ⟨_, kept⟩ := failed_of_answer (rejectProposal_root fed.service other) responded
    exact pends.kept rfl (Or.inl kept)
  · rintro other after _ ⟨around, service, _, responded, rfl⟩
    have lost := returned_of_answer (rejectProposal_root fed.service other) responded
    exact pends.kept rfl (Or.inr lost)

end Pending

/-! ## Runs -/

/-- The commit moves the service from the root of the last check to the root
that the check has computed. -/
structure Follows (commit : Commit) (check : Check) : Prop where
  last : commit.check = some check
  own : check.id = commit.id
  here : check.root = commit.before
  computed : check.hash = some commit.after
  reported : check.report = some (.proposalValid commit.id) ↔ commit.id = ⟨asBytes commit.after⟩

structure Traced (stateRoot : String) (participant : Participant Observed) :
    Prop where
  kept : participant.engine.WellKept
  evaluated : ∀ proposal, participant.engine.state = .evaluatingProposal proposal → ∃ check hash,
    Pends formats participant.service proposal.proposalId check hash
  followed : ∀ commit ∈ participant.service.commits, ∃ check, Follows commit check
  current : participant.service.root =
    (participant.service.commits.getLast?.map Commit.after).getD stateRoot

section Runs

variable {formats} {codecs : TwoPhase.Codecs} {stateRoot : String}
  {before after : Participant Observed} {event : Event Operation} {now : TwoPhase.Instant}

theorem moved_of_transition {input : TwoPhaseEngine.Input}
    {engine reached : TwoPhaseEngine} {exchanges : List Exchange} {fed last : Observed}
    (transition : TwoPhaseEngine.Transition codecs now engine input exchanges reached)
    (answered : Interaction.Answered (observedHost formats).Answers fed exchanges last) :
    last.root = fed.root ∧ last.commits = fed.commits ∨ ∃ id, engine.Evaluates id ∧
      fed.service.shared.state.preparedRoot formats.machine = some last.root ∧
      last.commits = fed.commits ++ [⟨id, fed.check, fed.root, last.root⟩] := by
  rcases unasked_or_accepted answered transition with
    unasked | ⟨id, answer, between, accepts, _, responded, announced⟩
  · left
    refine answered.guarded
      (fun observed =>
        observed.root = fed.root ∧ observed.commits = fed.commits)
      (fun call => ∀ id data, call ≠ .acceptProposal id data) ?_ ?_
      ⟨rfl, rfl⟩
    · rintro ⟨call, answer⟩ member id data rfl
      exact unasked id data answer member
    · intro call answer earlier later other responded same
      obtain ⟨sameRoot, sameCommits⟩ := kept_of_unasked responded other
      exact ⟨sameRoot.trans same.1, sameCommits.trans same.2⟩
  · have evaluates := evaluates_of_accept transition accepts
    have kept : last.root = between.root ∧ last.commits = between.commits := by
      rcases announced with rfl | ⟨_, sent⟩
      · exact ⟨rfl, rfl⟩
      · exact kept_of_unasked sent nofun
    rw [kept.1, kept.2]
    rcases accept_cases responded with ⟨_, moved⟩ | ⟨_, held, _, same⟩
    · exact Or.inr ⟨id, evaluates, moved⟩
    · left
      refine ⟨?_, same⟩
      rcases held with same | lost
      · exact congrArg Prod.fst same
      · exact congrArg Prod.fst lost

theorem operate_keeps_held (formats : Formats) (operation : Operation) (service : Scabbard) :
    (operate formats operation service).held = service.held := by
  have same : (operate formats operation service).slot = _ := operate_slot service operation
  unfold slotAfter at same
  split at same
  · exact congrArg Prod.snd same
  · exact congrArg Prod.snd same

theorem Traced.step (traced : Traced formats stateRoot before)
    (step : before.Step codecs (observedHost formats) event after) :
    Traced formats stateRoot after := by
  cases event with
  | operation operation =>
    obtain ⟨sameEngine, operated⟩ := step
    have kept := operate_keeps_held formats operation before.service.service
    obtain ⟨engine, observed⟩ := after
    obtain rfl : engine = before.engine := sameEngine
    obtain rfl := operated
    refine ⟨traced.kept, ?_, traced.followed, ?_⟩
    · intro proposal evaluating
      obtain ⟨check, hash, pends⟩ := traced.evaluated proposal evaluating
      exact ⟨check, hash, pends.kept rfl (Or.inl kept)⟩
    · exact (congrArg Prod.fst kept).trans traced.current
  | engine record =>
    obtain ⟨⟨returned, trace⟩, channels, remaining, _, _, answered⟩ := step
    have transition := TwoPhaseEngine.transition_of_trace trace
    have evaluated : ∀ proposal, before.engine.state = .evaluatingProposal proposal → ∃ check hash,
        Pends formats ((observedHost formats).withChannels remaining before.service)
          proposal.proposalId check hash := by
      intro proposal evaluating
      obtain ⟨check, hash, pends⟩ := traced.evaluated proposal evaluating
      exact ⟨check, hash, pends.kept rfl (Or.inl rfl)⟩
    have moved := moved_of_transition transition answered
    refine ⟨traced.kept.transition transition, ?_, ?_, ?_⟩
    · intro proposal evaluating
      rcases checked_or_continued answered traced.kept transition evaluating with
        checked | ⟨⟨current, evaluates, sameId⟩, continued⟩
      · exact pends_of_check rfl checked
      · obtain ⟨check, hash, pends⟩ := evaluated current evaluates
        rw [sameId] at pends
        exact ⟨check, hash, pends.continued continued answered⟩
    · intro commit member
      rcases moved with ⟨_, same⟩ | ⟨id, evaluates, prepared, noted⟩
      · rw [same] at member
        exact traced.followed commit member
      · rw [noted, List.mem_append, List.mem_singleton] at member
        rcases member with earlier | rfl
        · exact traced.followed commit earlier
        · obtain ⟨current, evaluating, rfl⟩ := evaluates
          obtain ⟨check, hash, pends⟩ := evaluated current evaluating
          obtain rfl := pends.pending _ prepared
          exact ⟨check, pends.last, pends.own, pends.here, pends.computed, pends.reported⟩
    · rcases moved with ⟨sameRoot, same⟩ | ⟨id, _, _, noted⟩
      · rw [same]
        exact sameRoot.trans traced.current
      · rw [noted, List.getLast?_concat]
        rfl

theorem traced_of_run {timeout : Nat} {serviceId circuitId : String} {peerServices : List String}
    {path : List (Participant Observed × Event Operation)}
    (run : Run (Participant.Step codecs (observedHost formats))
      (observedStart timeout now serviceId circuitId peerServices stateRoot)
      path after) :
    Traced formats stateRoot after := by
  refine run.invariant ?_ fun _ _ _ traced step => traced.step step
  refine ⟨Node.wellKept_boot _ _ _ _, ?_, List.forall_mem_nil _, rfl⟩
  intro proposal evaluating
  cases evaluating

end Runs

/-- Every accepted proposal names the root that the service has moved to. -/
def Named (participant : Participant Observed) : Prop := ∀ commit ∈ participant.service.commits,
    commit.id = ⟨asBytes commit.after⟩

/-- Every accepted proposal has been reported as valid by the last check before
its commit. -/
def Confirmed (participant : Participant Observed) : Prop :=
  ∀ commit ∈ participant.service.commits, ∃ check, commit.check = some check ∧
    check.report = some (.proposalValid commit.id)

theorem named_iff_confirmed {participant : Participant Observed}
    (followed : ∀ commit ∈ participant.service.commits, ∃ check, Follows commit check) :
    Named participant ↔ Confirmed participant := by
  refine forall_congr' fun commit => imp_congr_right fun member => ?_
  obtain ⟨check, follows⟩ := followed commit member
  constructor
  · intro named
    exact ⟨check, follows.last, follows.reported.mpr named⟩
  · rintro ⟨other, last, valid⟩
    cases (follows.last.symm.trans last)
    exact follows.reported.mp valid

theorem root_eq_of_ids_eq {left right : Participant Observed}
    (leftTraced : Traced formats stateRoot left) (rightTraced : Traced formats stateRoot right)
    (leftNamed : Named left) (rightNamed : Named right)
    (same : left.service.commits.map Commit.id = right.service.commits.map Commit.id) :
    left.service.root = right.service.root := by
  have lastIds := congrArg List.getLast? same
  rw [List.getLast?_map, List.getLast?_map] at lastIds
  rw [leftTraced.current, rightTraced.current]
  cases leftLast : left.service.commits.getLast? with
  | none =>
    rw [leftLast] at lastIds
    rw [Option.map_eq_none_iff.mp lastIds.symm]
  | some commit =>
    rw [leftLast] at lastIds
    obtain ⟨other, rightLast, sameId⟩ := Option.map_eq_some_iff.mp lastIds.symm
    rw [rightLast]
    have leftName := leftNamed commit (List.mem_of_getLast? leftLast)
    have rightName := rightNamed other (List.mem_of_getLast? rightLast)
    rw [leftName, rightName] at sameId
    exact (asBytes_injective (congrArg ProposalId.bytes sameId)).symm

/-- A batch is committed on the root on which it has been prepared.  The root
afterwards is the one that the accepted proposal names exactly if the last
check has reported the proposal as valid.  Services for which this holds
throughout, from the same root and with the same accepted proposals, have the
same root. -/
theorem accepted_roots_named_iff {codecs : TwoPhase.Codecs} {timeout : Nat} {now : TwoPhase.Instant}
    {serviceId circuitId : String} {peerServices : List String} {last : Participant Observed}
    {path : List (Participant Observed × Event Operation)}
    (run : Run (Participant.Step codecs (observedHost formats))
        (observedStart timeout now serviceId circuitId peerServices stateRoot)
        path last) :
    (∀ commit ∈ last.service.commits, ∃ check, commit.check = some check ∧ check.id = commit.id ∧
        check.root = commit.before ∧ check.hash = some commit.after ∧
        (commit.id = ⟨asBytes commit.after⟩ ↔ check.report = some (.proposalValid commit.id))) ∧
      (Named last ↔ Confirmed last) ∧
      ∀ otherTimeout otherNow otherId otherCircuit otherPeers otherPath other,
        Run (Participant.Step codecs (observedHost formats))
            (observedStart otherTimeout otherNow otherId otherCircuit otherPeers stateRoot)
            otherPath other →
          Confirmed last → Confirmed other → last.service.commits.map Commit.id =
                other.service.commits.map Commit.id →
              last.service.root = other.service.root := by
  have traced := traced_of_run run
  refine ⟨?_, named_iff_confirmed traced.followed, ?_⟩
  · intro commit member
    obtain ⟨check, follows⟩ := traced.followed commit member
    exact ⟨check, follows.last, follows.own, follows.here, follows.computed, follows.reported.symm⟩
  · intro _ _ _ _ _ _ other otherRun confirmed otherConfirmed same
    have otherTraced := traced_of_run otherRun
    exact root_eq_of_ids_eq formats traced otherTraced
        ((named_iff_confirmed traced.followed).mpr confirmed)
        ((named_iff_confirmed otherTraced.followed).mpr otherConfirmed) same

/-! ## A batch -/

section Entry

theorem reliable_workingStorage : Reliable entryBatches workingStorage where
  commits root changes next committed := by
    simp only [workingStorage, entryBatches, entryMachine] at committed ⊢
    split at committed <;> grind
  hexadecimal root changes := by
    simp only [entryBatches, entryMachine]
    split
    · exact ⟨[], by decide⟩
    · exact ⟨[10], by decide⟩
  writes _ := rfl
  appends _ := rfl
  stores _ := rfl

def observedScabbard : Responder (observedHost entryBatches) where
  respond call observed :=
    let responded := respond entryBatches workingStorage call observed.service
    some (responded.1, observed.after entryBatches call responded.1 responded.2)
  operate operation observed :=
    { observed with service := operate entryBatches operation observed.service }
  answers responded := by
    cases responded
    exact ⟨workingStorage, _, reliable_workingStorage, rfl, rfl⟩
  operates _ _ := rfl

/-- Service `y` hears of a batch of `x` under some id, is asked to
verify it and then told to apply it. -/
def applyingEntry (root : String) : List (Stimulus Operation) :=
  let proposal := consensusProposal root
  [toldByX
    (entryBatches.scabbardMessage.write
      (serviceX.proposedBatchMessage entryBatches proposal (entryBatch 1))),
    nextUpdate 0,
    toldByX
      (serviceX.consensusEnvelope entryBatches
        (Codecs.protobuf.twoPhaseMessage.write (verificationRequest proposal.id))),
    nextMessage 0,
    toldByX
      (serviceX.consensusEnvelope entryBatches
        (Codecs.protobuf.twoPhaseMessage.write (resultMessage proposal.id .apply))),
    nextMessage 0]

def observedY : Participant Observed :=
  observedStart 30 0 "y" "circuit" ["x"] "00"

def acceptedRoots (participant : Participant Observed) : List (ProposalId × String × String) :=
  participant.service.commits.map fun commit =>
    (commit.id, commit.before, commit.after)

theorem named_iff_acceptedRoots (participant : Participant Observed) : Named participant ↔
    ∀ accepted ∈ acceptedRoots participant, accepted.1 = ⟨asBytes accepted.2.2⟩ := by
  unfold acceptedRoots
  rw [List.forall_mem_map]
  exact Iff.rfl

/-- The root `ff` that `x` names is not the one that its batch leads to.  The
check says so in an update, and `y` still applies the batch and moves to the
root `0a`. -/
theorem accepted_root_not_named : ∃ path last,
      Run (Participant.Step .protobuf (observedHost entryBatches)) observedY path last ∧
        acceptedRoots last = [(⟨asBytes "ff"⟩, "00", "0a")] ∧
        last.service.root = "0a" ∧ ¬ Named last := by
  have played : observedY.plays .protobuf observedScabbard (applyingEntry "ff")
        (fun _ last =>
          acceptedRoots last = [(⟨asBytes "ff"⟩, "00", "0a")] ∧
            last.service.root = "0a") = true := by
    decide +kernel
  obtain ⟨path, last, run, checked⟩ := Participant.exists_run _ _ played
  obtain ⟨accepted, moved⟩ := of_decide_eq_true checked
  refine ⟨path, last, run, accepted, moved, ?_⟩
  rw [named_iff_acceptedRoots, accepted]
  decide

/-- Under the root `0a` that the batch leads to, the same batch is confirmed,
and `y` ends on the root that the proposal names. -/
theorem accepted_root_named : ∃ path last,
      Run (Participant.Step .protobuf (observedHost entryBatches)) observedY path last ∧
        acceptedRoots last = [(⟨asBytes "0a"⟩, "00", "0a")] ∧
        Confirmed last := by
  have played : observedY.plays .protobuf observedScabbard (applyingEntry "0a")
        (fun _ last =>
          acceptedRoots last = [(⟨asBytes "0a"⟩, "00", "0a")]) = true := by
    decide +kernel
  obtain ⟨path, last, run, checked⟩ := Participant.exists_run _ _ played
  have accepted := of_decide_eq_true checked
  refine ⟨path, last, run, accepted, ?_⟩
  refine (accepted_roots_named_iff entryBatches run).2.1.mp ?_
  rw [named_iff_acceptedRoots, accepted]
  decide

/-- The root that commits lead to, each of them on the root that the one before has left. -/
def replay (commits : List Commit) (root : String) : Option String :=
  commits.foldlM (fun root commit => if commit.before = root then some commit.after else none) root

/-- In every run the commits of a service lead from the root it has started on to its current
root: no commit is left out, repeated or made on another root. -/
theorem commits_replayed {codecs : TwoPhase.Codecs} {timeout : Nat} {now : TwoPhase.Instant}
    {serviceId circuitId : String} {peerServices : List String} {last : Participant Observed}
    {path : List (Participant Observed × Event Operation)}
    (run : Run (Participant.Step codecs (observedHost formats))
      (observedStart timeout now serviceId circuitId peerServices stateRoot) path last) :
    replay last.service.commits stateRoot = some last.service.root := by
  induction run with
  | start => rfl
  | @snoc path before after event _ step replayed =>
    cases event with
    | operation operation =>
      obtain ⟨_, operated⟩ := step
      have kept := operate_keeps_held formats operation before.service.service
      rw [operated]
      exact replayed.trans (congrArg (fun held => some held.1) kept.symm)
    | engine record =>
      obtain ⟨⟨_, trace⟩, channels, remaining, _, _, answered⟩ := step
      have transition := TwoPhaseEngine.transition_of_trace trace
      rcases moved_of_transition transition answered with ⟨sameRoot, same⟩ | ⟨id, _, _, noted⟩
      · rw [same, sameRoot]
        exact replayed
      · unfold replay at replayed ⊢
        rw [noted, List.foldlM_append]
        exact (congrArg (· >>= _) replayed).trans (by simp [Observed.root, observedHost])

theorem commits_replayed_at_y : ∃ path last,
    Run (Participant.Step .protobuf (observedHost entryBatches)) observedY path last ∧
      last.service.commits ≠ [] ∧ replay last.service.commits "00" = some last.service.root := by
  have played : observedY.plays .protobuf observedScabbard (applyingEntry "0a")
      (fun _ last => last.service.commits ≠ []) = true := by
    decide +kernel
  obtain ⟨path, last, run, checked⟩ := Participant.exists_run _ _ played
  exact ⟨path, last, run, of_decide_eq_true checked, commits_replayed entryBatches run⟩

end Entry

end Scabbard

end Splinter.ScabbardService
