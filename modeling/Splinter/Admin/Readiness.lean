import Splinter.Admin.Requests
import Splinter.Library.Rendezvous

/-!
# When the services of a circuit start

The uninitialised circuits of a node are rendezvous: `receive_of_perform` says that
the methods of the shared state treat the entry of a circuit as a rendezvous does,
and run `initialize_services` when it releases the proposal.
-/

namespace Splinter.Admin

open Library AdminServiceShared
open Rendezvous (Gathered deposits receive released slotAfter)
open Protos (CircuitManagementPayload CircuitProposal)

def membersOf (proposal : CircuitProposal) : Finset String :=
  (proposal.getCircuitProposal.members.map Protos.SplinterNode.nodeId).toFinset

/-- A call of the shared state, or the handling of a MEMBER_READY message. -/
inductive NodeCall where
  | shared (call : SharedCall)
  | addReadyMember (around : Surroundings) (circuitId memberNodeId : String)

namespace AdminServiceShared

variable (formats : Formats) (around : Surroundings)

def slotOf (shared : AdminServiceShared) (circuitId : String) :
    Option (Rendezvous.Entry CircuitProposal String) :=
  (shared.uninitializedCircuits.lookup circuitId).map fun waiting =>
    ⟨waiting.circuit, waiting.readyMembers⟩

/-- The proposal a commit accepts, and the state in which it adds the circuit
to the uninitialised ones, if it gets there. -/
def accepting (shared : AdminServiceShared) : Option (CircuitProposal × AdminServiceShared) :=
  match shared.pendingChanges with
  | none => none
  | some context =>
    match checkApproved context.circuitProposal with
    | .accepted =>
      match (acceptance formats around context).run
        { shared with pendingChanges := none } with
      | .ok _ between => some (context.circuitProposal, between)
      | .error _ _ => none
    | _ => none

/-- The state after a signal for a circuit has been entered. -/
def withSignal (shared : AdminServiceShared) (circuitId : String)
    (signal : Signal CircuitProposal String) : AdminServiceShared :=
  let entry := ((shared.slotOf circuitId).getD Rendezvous.Entry.empty).arrive signal
  { shared with
    uninitializedCircuits := shared.uninitializedCircuits.insert circuitId
      ⟨entry.item, entry.ready⟩ }

end AdminServiceShared

namespace NodeCall

variable (formats : Formats)

/-- The state a call leaves behind, whether it fails or not. -/
def perform : NodeCall → AdminServiceShared → AdminServiceShared
  | .shared call => call.perform formats
  | .addReadyMember around circuitId memberNodeId =>
    finalState (AdminServiceShared.addReadyMember around circuitId memberNodeId)

def Step (before : AdminServiceShared) (call : NodeCall) (after : AdminServiceShared) : Prop :=
  after = call.perform formats before

/-- The circuit a call sends a signal to, the state in which the signal
arrives, the signal, and the surroundings of the call. -/
structure Notice where
  around : Surroundings
  circuitId : String
  arrival : AdminServiceShared
  signal : Signal CircuitProposal String

/-- What a call tells the uninitialised circuits, if anything. -/
def notice (before : AdminServiceShared) : NodeCall → Option Notice
  | .addReadyMember around circuitId memberNodeId =>
    some ⟨around, circuitId, before, .mark memberNodeId⟩
  | .shared (.commit around) =>
    (before.accepting formats around).map fun accepted =>
      ⟨around, accepted.1.circuitId, accepted.2, .deposit accepted.1 before.nodeId⟩
  | .shared _ => none

def signalTo (circuitId : String) (before : AdminServiceShared)
    (call : NodeCall) : Option (Signal CircuitProposal String) :=
  (call.notice formats before).bind fun notice =>
    if notice.circuitId = circuitId then some notice.signal else none

/-- The proposal of a circuit whose services are initialised in the course of a
call: `initialize_services_if_members_ready` finds it ready. -/
def starts (circuitId : String) (before : AdminServiceShared)
    (call : NodeCall) : Option CircuitProposal :=
  (call.notice formats before).bind fun notice =>
    if notice.circuitId = circuitId then
      (notice.arrival.withSignal circuitId notice.signal).readyProposal circuitId
    else
      none

end NodeCall

namespace AdminServiceShared

variable {formats : Formats} {around : Surroundings}
  {shared : AdminServiceShared} {circuitId : String}

theorem readyProposal_eq (shared : AdminServiceShared) (circuitId : String) :
    shared.readyProposal circuitId = (shared.slotOf circuitId).bind (·.complete membersOf) := by
  unfold readyProposal slotOf
  cases shared.uninitializedCircuits.lookup circuitId with
  | none => rfl
  | some waiting =>
    obtain ⟨circuit, readyMembers⟩ := waiting
    cases circuit <;> rfl

theorem slotOf_withSignal (shared : AdminServiceShared) (circuitId : String)
    (signal : Signal CircuitProposal String) :
    (shared.withSignal circuitId signal).slotOf circuitId = some
      (((shared.slotOf circuitId).getD Rendezvous.Entry.empty).arrive signal) := by
  simp [slotOf, withSignal]

variable {other : String} {View : Type}

theorem slotOf_withSignal_of_ne (different : circuitId ≠ other) (shared : AdminServiceShared)
    (signal : Signal CircuitProposal String) :
    (shared.withSignal other signal).slotOf circuitId = shared.slotOf circuitId := by
  simp [slotOf, withSignal, Finmap.lookup_insert_of_ne _ different]

theorem run_addReadyMember (shared : AdminServiceShared) (circuitId memberNodeId : String) :
    (addReadyMember around circuitId memberNodeId).run shared =
      (initializeServicesIfMembersReady around circuitId).run
        (shared.withSignal circuitId (.mark memberNodeId)) := by
  have entered : (addReadyMember around circuitId memberNodeId).run shared =
      (initializeServicesIfMembersReady around circuitId).run
        { shared with
          uninitializedCircuits := shared.uninitializedCircuits.insert circuitId
            (let uninitialized := (shared.uninitializedCircuits.lookup circuitId).getD ⟨none, ∅⟩
            { uninitialized with
              readyMembers := insert memberNodeId uninitialized.readyMembers }) } := rfl
  rw [entered]
  unfold withSignal slotOf
  cases shared.uninitializedCircuits.lookup circuitId <;> rfl

theorem run_addUninitializedCircuit (shared : AdminServiceShared) (proposal : CircuitProposal) :
    (addUninitializedCircuit around proposal).run shared =
      (initializeServicesIfMembersReady around proposal.circuitId).run
        (shared.withSignal proposal.circuitId (.deposit proposal shared.nodeId)) := by
  have entered : (addUninitializedCircuit around proposal).run shared =
      (initializeServicesIfMembersReady around proposal.circuitId).run
        { shared with
          uninitializedCircuits := shared.uninitializedCircuits.insert proposal.circuitId
            { circuit := some proposal
              readyMembers := insert shared.nodeId
                ((shared.uninitializedCircuits.lookup
                  proposal.circuitId).getD ⟨none, ∅⟩).readyMembers } } :=
    rfl
  rw [entered]
  unfold withSignal slotOf
  cases shared.uninitializedCircuits.lookup proposal.circuitId <;> rfl

/-! ## Initialising the services -/

/-- Run the services of a proposed circuit and report that it is ready. -/
def initialization (around : Surroundings) (proposal : CircuitProposal) :
    Method Unit := do
  initializeServices around proposal.getCircuitProposal
  let reported ← reported proposal
  sendEvent around proposal.getCircuitProposal.circuitManagementType (.circuitReady reported)

theorem run_initializeServicesIfMembersReady (shared : AdminServiceShared) (circuitId : String) :
    (initializeServicesIfMembersReady around circuitId).run shared =
      match shared.readyProposal circuitId with
      | none => .ok () shared
      | some proposal =>
        (initialization around proposal).run
          { shared with
            uninitializedCircuits := shared.uninitializedCircuits.erase circuitId } := by
  have reading (program : AdminServiceShared → Method Unit) :
      (get >>= program).run shared = (program shared).run shared := rfl
  unfold initializeServicesIfMembersReady
  rw [reading]
  cases shared.readyProposal circuitId <;> rfl

theorem initialization_keeps_uninitialized (proposal : CircuitProposal) :
    Keeps uninitializedCircuits (initialization around proposal) := by
  refine Keeps.bind (initializeServices_keeps around _ fun _ _ _ => rfl) fun _ => ?_
  refine Keeps.bind (Keeps.fromExcept _) fun _ => ?_
  exact (sendEvent_keeps_unsent around _ _).map uninitializedCircuits

theorem finalState_initializeServicesIfMembersReady
    (shared : AdminServiceShared) (circuitId : String) :
    finalState (initializeServicesIfMembersReady around circuitId) shared =
      match shared.readyProposal circuitId with
      | none => shared
      | some proposal =>
        finalState (initialization around proposal)
          { shared with
            uninitializedCircuits := shared.uninitializedCircuits.erase circuitId } := by
  unfold finalState
  rw [run_initializeServicesIfMembersReady]
  cases shared.readyProposal circuitId <;> rfl

theorem uninitialized_initializeServicesIfMembersReady
    (shared : AdminServiceShared) (circuitId : String) :
    (finalState (initializeServicesIfMembersReady around circuitId) shared).uninitializedCircuits =
      match shared.readyProposal circuitId with
      | none => shared.uninitializedCircuits
      | some _ => shared.uninitializedCircuits.erase circuitId := by
  rw [finalState_initializeServicesIfMembersReady]
  cases shared.readyProposal circuitId with
  | none => rfl
  | some proposal => exact Ends.finalState (initialization_keeps_uninitialized proposal _)

theorem slotOf_congr {other : AdminServiceShared}
    (same : shared.uninitializedCircuits = other.uninitializedCircuits) :
    shared.slotOf circuitId = other.slotOf circuitId := by
  unfold slotOf
  rw [same]

theorem slotOf_initializeServicesIfMembersReady {entry : Rendezvous.Entry CircuitProposal String}
    (kept : shared.slotOf circuitId = some entry) :
    ((finalState (initializeServicesIfMembersReady around circuitId) shared).slotOf circuitId,
      shared.readyProposal circuitId) =
      entry.settle membersOf := by
  have remaining :
      (finalState (initializeServicesIfMembersReady around circuitId)
        shared).uninitializedCircuits = _ :=
    uninitialized_initializeServicesIfMembersReady shared circuitId
  have ready := readyProposal_eq shared circuitId
  rw [kept, Option.bind_some] at ready
  rw [ready] at remaining ⊢
  unfold Rendezvous.Entry.settle
  cases completed : entry.complete membersOf with
  | none =>
    rw [completed] at remaining
    rw [slotOf_congr remaining, kept]
  | some proposal =>
    rw [completed] at remaining
    simp [slotOf, remaining]

theorem slotOf_initializeServicesIfMembersReady_of_ne (different : circuitId ≠ other) :
    (finalState (initializeServicesIfMembersReady around other)
      shared).slotOf circuitId = shared.slotOf circuitId := by
  unfold slotOf
  rw [uninitialized_initializeServicesIfMembersReady]
  cases shared.readyProposal other with
  | none => rfl
  | some proposal => rw [Finmap.lookup_erase_ne different]

/-! ## Commits -/

theorem finalState_commit (shared : AdminServiceShared) :
    finalState (commit formats around) shared =
      match shared.pendingChanges with
      | some context =>
        finalState (commitChange formats around context) { shared with pendingChanges := none }
      | none => { shared with pendingChanges := none } := by
  have reading : (commit formats around).run shared =
      (match shared.pendingChanges with
        | some context => commitChange formats around context
        | none => throw .noPendingChanges : Method Unit).run
        { shared with pendingChanges := none } := rfl
  unfold finalState
  rw [reading]
  cases shared.pendingChanges <;> rfl

theorem accepting_eq_some_iff (proposal : CircuitProposal) (between : AdminServiceShared) :
    shared.accepting formats around = some (proposal, between) ↔ ∃ context,
      shared.pendingChanges = some context ∧ context.circuitProposal = proposal ∧
        checkApproved proposal = .accepted ∧
        (acceptance formats around context).run
          { shared with pendingChanges := none } = .ok () between := by
  unfold accepting
  constructor
  · intro accepts
    split at accepts
    · cases accepts
    · rename_i context pending
      split at accepts
      · rename_i accepted
        split at accepts
        · rename_i ran
          cases accepts
          exact ⟨context, pending, rfl, accepted, ran⟩
        · cases accepts
      · cases accepts
  · intro accepts
    obtain ⟨context, pending, rfl, accepted, ran⟩ := accepts
    simp only [pending, accepted, ran]

theorem commit_of_accepting {view : AdminServiceShared → View}
    (keeps : ∀ context, Keeps view (acceptance formats around context))
    {proposal : CircuitProposal} {between : AdminServiceShared}
    (accepts : shared.accepting formats around = some (proposal, between)) :
    view between = view { shared with pendingChanges := none } ∧
      finalState (commit formats around) shared =
        finalState (addUninitializedCircuit around proposal) between := by
  obtain ⟨context, pending, rfl, accepted, ran⟩ :=
    (accepting_eq_some_iff proposal between).mp accepts
  have kept := keeps context { shared with pendingChanges := none }
  unfold Ends at kept
  rw [ran] at kept
  refine ⟨kept, ?_⟩
  rw [finalState_commit]
  simp only [pending]
  rw [commitChange_of_accepted formats around accepted, finalState_bind, ran]

theorem commit_of_not_accepting {view : AdminServiceShared → View}
    (keeps : ∀ context, Keeps view (acceptance formats around context))
    (otherwise : ∀ context, checkApproved context.circuitProposal ≠ .accepted →
      Keeps view (commitChange formats around context))
    (refuses : shared.accepting formats around = none) :
    view (finalState (commit formats around) shared) =
      view { shared with pendingChanges := none } := by
  rw [finalState_commit]
  unfold accepting at refuses
  split at refuses
  · rename_i empty
    simp only [empty]
  · rename_i context pending
    simp only [pending]
    split at refuses
    · rename_i accepted
      split at refuses
      · cases refuses
      · rename_i ran
        have kept := keeps context { shared with pendingChanges := none }
        unfold Ends at kept
        rw [commitChange_of_accepted formats around accepted, finalState_bind, ran]
        rw [ran] at kept
        exact kept
    · rename_i unaccepted
      exact Ends.finalState (otherwise context unaccepted _)

end AdminServiceShared

/-! ## Calls and signals -/

namespace NodeCall

variable {formats : Formats} {before : AdminServiceShared} {call : NodeCall} {circuitId : String}

theorem perform_of_notice {notice : Notice} (noticed : call.notice formats before = some notice) :
    notice.arrival.uninitializedCircuits = before.uninitializedCircuits ∧
      call.perform formats before = finalState
        (AdminServiceShared.initializeServicesIfMembersReady notice.around notice.circuitId)
        (notice.arrival.withSignal notice.circuitId notice.signal) := by
  cases call with
  | addReadyMember around circuit member =>
    cases noticed
    exact ⟨rfl, finalState_congr (run_addReadyMember before circuit member)⟩
  | shared shared =>
    cases shared with
    | commit around =>
      obtain ⟨⟨proposal, between⟩, accepts, rfl⟩ := Option.map_eq_some_iff.mp noticed
      obtain ⟨kept, committed⟩ := commit_of_accepting (acceptance_keeps_undecided formats around)
        accepts
      have sameCircuits := congrArg uninitializedCircuits kept
      have sameNode : between.undecided.nodeId = _ := congrArg nodeId kept
      have entered : finalState (addUninitializedCircuit around proposal) between = _ :=
        finalState_congr (run_addUninitializedCircuit between proposal)
      change between.nodeId = before.nodeId at sameNode
      rw [sameNode] at entered
      exact ⟨sameCircuits, committed.trans entered⟩
    | submit _ _ | proposeChange _ _ | rollback => cases noticed

theorem uninitialized_of_not_notice (silent : call.notice formats before = none) :
    (call.perform formats before).uninitializedCircuits = before.uninitializedCircuits := by
  cases call with
  | addReadyMember around circuit member => cases silent
  | shared shared =>
    cases shared with
    | submit around payload =>
      have kept := submit_keeps_unqueued formats around payload before
      have same := congrArg uninitializedCircuits kept.finalState
      exact same
    | proposeChange around payload =>
      have kept := proposeChange_keeps_unproposed formats around payload before
      have same := congrArg uninitializedCircuits kept.finalState
      exact same
    | commit around =>
      have refuses := Option.map_eq_none_iff.mp silent
      have same := congrArg uninitializedCircuits
        (commit_of_not_accepting (acceptance_keeps_undecided formats around)
          (fun _ =>
            commitChange_keeps_undecided formats around)
          refuses)
      exact same
    | rollback => rfl

theorem receive_of_perform {signal : Signal CircuitProposal String}
    (signals : call.signalTo formats circuitId before = some signal) :
    ((call.perform formats before).slotOf circuitId, call.starts formats circuitId before) =
      receive membersOf (before.slotOf circuitId) signal := by
  obtain ⟨notice, noticed, addressed⟩ := Option.bind_eq_some_iff.mp signals
  split at addressed
  · rename_i same
    subst same
    cases addressed
    obtain ⟨sameCircuits, performed⟩ := perform_of_notice noticed
    have entered := slotOf_withSignal notice.arrival notice.circuitId notice.signal
    rw [slotOf_congr sameCircuits] at entered
    have started : call.starts formats notice.circuitId before =
        (notice.arrival.withSignal notice.circuitId
          notice.signal).readyProposal notice.circuitId := by
      simp [starts, noticed]
    rw [performed, started]
    exact slotOf_initializeServicesIfMembersReady entered
  · cases addressed

theorem slotOf_of_not_signal (silent : call.signalTo formats circuitId before = none) :
    (call.perform formats before).slotOf circuitId = before.slotOf circuitId ∧
      call.starts formats circuitId before = none := by
  cases noticed : call.notice formats before with
  | none =>
    refine ⟨slotOf_congr (uninitialized_of_not_notice noticed), ?_⟩
    simp [starts, noticed]
  | some notice =>
    have different : circuitId ≠ notice.circuitId := by
      intro same
      simp [signalTo, noticed, same] at silent
    obtain ⟨sameCircuits, performed⟩ := perform_of_notice noticed
    constructor
    · rw [performed, slotOf_initializeServicesIfMembersReady_of_ne different,
        slotOf_withSignal_of_ne different,
        slotOf_congr sameCircuits]
    · simp [starts, noticed, different.symm]

/-! ## Runs -/

/-- The signals of the steps of a run to a circuit. -/
def signals (formats : Formats) (circuitId : String) (path : List (AdminServiceShared × NodeCall)) :
    List (Signal CircuitProposal String) :=
  path.filterMap fun visited =>
    visited.2.signalTo formats circuitId visited.1

section Runs

variable {first last : AdminServiceShared}
  {path earlier later : List (AdminServiceShared × NodeCall)}

theorem slotOf_eq_slotAfter (run : Run (Step formats) first path last)
    (fresh : first.slotOf circuitId = none) :
    last.slotOf circuitId = slotAfter membersOf (signals formats circuitId path) := by
  induction run with
  | start => exact fresh
  | @snoc path before after call _ taken ih =>
    rw [taken]
    cases signalled : call.signalTo formats circuitId before with
    | none =>
      rw [(slotOf_of_not_signal signalled).1, ih]
      simp [signals, signalled]
    | some signal =>
      have received := congrArg Prod.fst (receive_of_perform signalled)
      dsimp only at received
      rw [received, ih]
      simp [signals, signalled, Rendezvous.slotAfter_append]

/-- A step starts the services of a circuit exactly if its signal makes the
rendezvous release the proposal. -/
theorem starts_eq_released (run : Run (Step formats) first path last)
    (fresh : first.slotOf circuitId = none) (split : path = earlier ++ (before, call) :: later) :
    call.starts formats circuitId before = (call.signalTo formats circuitId before).bind
      (released membersOf (signals formats circuitId earlier)) := by
  obtain ⟨prior, _⟩ := run.cut split
  cases signalled : call.signalTo formats circuitId before with
  | none => exact (slotOf_of_not_signal signalled).2
  | some signal =>
    have received := congrArg Prod.snd (receive_of_perform signalled)
    rw [slotOf_eq_slotAfter prior fresh] at received
    exact received

end Runs

end NodeCall

end Splinter.Admin
