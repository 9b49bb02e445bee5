import Splinter.Admin.Ledger
import Splinter.Admin.Readiness

/-!
# The services of a circuit start once

A circuit that is committed once is started once, by the first call after which
it is committed and all its members are ready.  The calls the orchestrator has
answered and the events that have been sent show this.
-/

namespace Splinter.Admin

open Library AdminServiceShared Rendezvous
open Rendezvous (Gathered deposits released)
open Protos (CircuitManagementPayload CircuitProposal)

namespace AdminServiceShared

def readyEvents (circuitId : String) (shared : AdminServiceShared) :
    List Messages.CircuitProposal :=
  shared.sentEvents.filterMap fun sent =>
    match sent.2 with
    | .circuitReady proposal =>
      if proposal.circuitId = circuitId then some proposal else none
    | _ => none

/-- What shows which services a node has started: the node, the calls its
orchestrator has answered, and the CircuitReady events for a circuit. -/
def progress (circuitId : String) (shared : AdminServiceShared) : String ×
    List (Service.ServiceDefinition × Circuits.TextMap String) × List Messages.CircuitProposal :=
  (shared.nodeId, shared.initializedServices, shared.readyEvents circuitId)

/-- Proposals that wait for members are kept under their own circuit ids. -/
def Filed (shared : AdminServiceShared) : Prop := ∀ circuitId entry proposal,
    shared.slotOf circuitId = some entry → entry.item = some proposal →
      proposal.circuitId = circuitId

variable {formats : Formats} {around : Surroundings}
  {shared : AdminServiceShared} {circuitId : String}

/-! ## Calls that start nothing -/

theorem sendEvent_keeps_progress {circuitManagementType : String}
    {event : Messages.AdminServiceEvent}
    (foreign : ∀ proposal, event = .circuitReady proposal → proposal.circuitId ≠ circuitId) :
    Keeps (progress circuitId) (sendEvent around circuitManagementType event) := by
  apply Keeps.modify
  intro shared
  by_cases stored : around.storesEvent event = true
  · cases event with
    | circuitReady proposal =>
      have different := foreign proposal rfl
      simp [stored, progress, readyEvents, different]
    | _ => simp [stored, progress, readyEvents]
  · simp [stored]

theorem acceptance_keeps_progress (context : CircuitProposalContext) :
    Keeps (progress circuitId) (acceptance formats around context) := by
  have updates :=
    (updateSplinterState_keeps_unstored
      context.circuitProposal.getCircuitProposal).map (progress circuitId)
  refine Keeps.bind updates fun _ => ?_
  refine Keeps.bind ((onOpenProposals_keeps_unstored _).map (progress circuitId)) fun _ => ?_
  refine Keeps.bind (Keeps.fromExcept _) fun _ => ?_
  refine Keeps.bind (sendEvent_keeps_progress nofun) fun _ => ?_
  exact (sendMemberReady_keeps_unmailed formats around _).map (progress circuitId)

theorem commitChange_keeps_progress {context : CircuitProposalContext}
    (unaccepted : checkApproved context.circuitProposal ≠ .accepted) :
    Keeps (progress circuitId) (commitChange formats around context) := by
  have stores {Result : Type} (program : EStateM OpenProposalError OpenProposals Result) :=
    (onOpenProposals_keeps_unstored program).map (progress circuitId)
  have reports {event : Messages.CircuitProposal → Messages.AdminServiceEvent}
      {managementType : String}
      (foreign : ∀ proposal other, event proposal ≠ .circuitReady other) :
      Keeps (progress circuitId) (do
        let proposal ← reported context.circuitProposal
        sendEvent around managementType (event proposal)) :=
    Keeps.bind (Keeps.fromExcept _) fun proposal =>
      sendEvent_keeps_progress fun other same =>
        (foreign proposal other same).elim
  unfold commitChange
  dsimp only
  cases status : checkApproved context.circuitProposal with
  | accepted => exact (unaccepted status).elim
  | pending =>
    refine Keeps.bind (stores _) fun _ => ?_
    split
    · exact reports nofun
    · exact reports nofun
    · exact Keeps.throw _
  | rejected =>
    refine Keeps.bind (stores _) fun _ => ?_
    exact reports nofun

variable {proposal : CircuitProposal}

theorem initialization_keeps_readyEvents (foreign : proposal.circuitId ≠ circuitId) :
    Keeps (readyEvents circuitId) (initialization around proposal) := by
  refine Keeps.bind (initializeServices_keeps around _ fun _ _ _ => rfl) fun _ => ?_
  intro shared
  unfold reported
  rw [ends_bind, ends_fromExcept]
  refine ⟨fun converted ran => ?_, fun _ _ => rfl⟩
  rw [mapError_eq_ok_iff] at ran
  have same := (Messages.CircuitProposal.parts_of_fromProto ran).2.2.2.1
  refine (sendEvent_keeps_progress (fun other shape => ?_)).map (fun shown => shown.2.2) shared
  injection shape with equal
  rw [← equal, same]
  exact foreign

/-! ## The initialisation succeeds -/

/-- The orchestrator has been asked once for each local service of a proposed
circuit, and the CircuitReady event of the circuit has been sent once. -/
def Started (around : Surroundings) (circuitId : String) (proposal : CircuitProposal)
    (before after : AdminServiceShared) : Prop :=
  let circuit := proposal.getCircuitProposal
  after.initializedServices = before.initializedServices ++
      (before.localServices around circuit).map (serviceCall circuit) ∧
    ∃ message, Messages.CircuitProposal.fromProto proposal = .ok message ∧
      after.readyEvents circuitId = before.readyEvents circuitId ++
        if around.storesEvent (.circuitReady message) then [message] else []

variable
  (initializes : ∀ definition arguments, around.initializeService definition arguments = .ok ())
include initializes

theorem initializeServices_starts (circuit : Protos.Circuit) (shared : AdminServiceShared) :
    Ends (initializeServices around circuit) shared
      (fun _ after =>
        after.initializedServices = shared.initializedServices ++
            (shared.localServices around circuit).map (serviceCall circuit) ∧
          after.sentEvents = shared.sentEvents)
      fun _ _ => False := by
  unfold initializeServices
  rw [ends_bind, ends_get]
  generalize (shared.localServices around circuit).map (serviceCall circuit) = calls
  induction calls generalizing shared with
  | nil => exact ⟨(List.append_nil _).symm, rfl⟩
  | cons call calls ih =>
    rw [List.forM_cons, ends_bind]
    unfold initializeService
    rw [ends_bind, ends_fromExcept, initializes]
    refine ⟨fun _ _ => ?_, nofun⟩
    refine (ih _).mono (fun _ after started => ?_) fun _ _ impossible => impossible
    exact ⟨started.1.trans (List.append_assoc ..), started.2⟩

theorem started_of_initialization {message : Messages.CircuitProposal}
    (converted : Messages.CircuitProposal.fromProto proposal = .ok message)
    (filed : proposal.circuitId = circuitId) (shared : AdminServiceShared) :
    EndsIn (initialization around proposal) shared
      (Started around circuitId proposal shared) := by
  have named := (Messages.CircuitProposal.parts_of_fromProto converted).2.2.2.1.trans filed
  unfold EndsIn initialization reported
  rw [ends_bind]
  refine (initializeServices_starts initializes _ shared).mono
    (fun _ initialized started => ?_) fun _ _ impossible => impossible.elim
  rw [ends_bind, ends_fromExcept, converted]
  refine ⟨fun _ same => ?_, nofun⟩
  cases same
  unfold sendEvent
  rw [ends_modify]
  obtain ⟨called, unsent⟩ := started
  refine ⟨?_, message, converted, ?_⟩
  · split <;> exact called
  · split <;> simp [readyEvents, unsent, named]

omit initializes

theorem Started.congr {between after : AdminServiceShared}
    (started : Started around circuitId proposal between after)
    (same : between.progress circuitId = shared.progress circuitId) :
    Started around circuitId proposal shared after := by
  obtain ⟨node, rest⟩ := Prod.mk.inj same
  obtain ⟨called, sent⟩ := Prod.mk.inj rest
  unfold Started localServices at started ⊢
  rw [← node, ← called, ← sent]
  exact started

theorem fromProto_of_accepting {between : AdminServiceShared}
    (accepts : shared.accepting formats around = some (proposal, between)) :
    ∃ reported, Messages.CircuitProposal.fromProto proposal = .ok reported := by
  obtain ⟨context, _, rfl, _, ran⟩ := (accepting_eq_some_iff proposal between).mp accepts
  have ends : Ends (acceptance formats around context) { shared with pendingChanges := none }
    (fun _ _ =>
      ∃ reported, Messages.CircuitProposal.fromProto context.circuitProposal = .ok reported)
    fun _ _ => True := by
    unfold acceptance
    rw [ends_bind]
    refine Ends.always (fun _ updated => ?_) fun _ _ => trivial
    rw [ends_bind]
    refine Ends.always (fun _ removed => ?_) fun _ _ => trivial
    unfold reported
    rw [ends_bind, ends_fromExcept]
    refine ⟨fun message ran => ?_, fun _ _ => trivial⟩
    rw [mapError_eq_ok_iff] at ran
    exact Ends.always (fun _ _ => ⟨message, ran⟩) fun _ _ => trivial
  unfold Ends at ends
  rw [ran] at ends
  exact ends

end AdminServiceShared

namespace NodeCall

variable {formats : Formats} {before : AdminServiceShared} {call : NodeCall} {circuitId : String}

/-- The surroundings of a call initialise every service. -/
def InitializesServices : NodeCall → Prop
  | .addReadyMember around _ _ | .shared (.commit around) =>
    ∀ definition arguments, around.initializeService definition arguments = .ok ()
  | .shared _ => True

theorem nodeId_perform (call : NodeCall) (before : AdminServiceShared) :
    (call.perform formats before).nodeId = before.nodeId := by
  cases call with
  | addReadyMember around circuit member =>
    have kept := (addReadyMember_keeps_core around circuit member).map nodeId before
    exact kept.finalState
  | shared shared =>
    cases shared with
    | submit around payload =>
      have kept := (submit_keeps_unqueued formats around payload).map nodeId before
      exact kept.finalState
    | proposeChange around payload =>
      have kept := (proposeChange_keeps_unproposed formats around payload).map nodeId before
      exact kept.finalState
    | commit around =>
      have emptied := commit_ends formats around before
      have same := congrArg nodeId emptied.finalState
      exact same
    | rollback => rfl

variable {proposal : CircuitProposal}

theorem accepting_of_deposit {own : String}
    (signalled : call.signalTo formats circuitId before = some (.deposit proposal own)) :
    proposal.circuitId = circuitId ∧ own = before.nodeId ∧ ∃ around between,
      before.accepting formats around = some (proposal, between) := by
  obtain ⟨notice, noticed, addressed⟩ := Option.bind_eq_some_iff.mp signalled
  split at addressed
  · rename_i same
    have signal := Option.some.inj addressed
    cases call with
    | addReadyMember around circuit member =>
      cases noticed
      cases signal
    | shared shared =>
      cases shared with
      | commit around =>
        obtain ⟨⟨accepted, between⟩, accepts, rfl⟩ := Option.map_eq_some_iff.mp noticed
        injection signal with sameProposal sameNode
        subst sameProposal
        exact ⟨same, sameNode.symm, around, between, accepts⟩
      | submit _ _ | proposeChange _ _ | rollback => cases noticed
  · cases addressed

theorem circuitId_of_arrive (filed : before.Filed) {signal : Signal CircuitProposal String}
    (signalled : call.signalTo formats circuitId before = some signal) (stored :
      (((before.slotOf circuitId).getD Rendezvous.Entry.empty).arrive
        signal).item = some proposal) :
    proposal.circuitId = circuitId := by
  cases signal with
  | deposit deposited own =>
    cases stored
    exact (accepting_of_deposit signalled).1
  | mark member =>
    cases waiting : before.slotOf circuitId with
    | none =>
      rw [waiting] at stored
      cases stored
    | some entry =>
      rw [waiting] at stored
      exact filed circuitId entry proposal waiting stored

theorem filed_perform (filed : before.Filed) : (call.perform formats before).Filed := by
  intro circuitId entry proposal kept stored
  cases signalled : call.signalTo formats circuitId before with
  | none =>
    rw [(slotOf_of_not_signal signalled).1] at kept
    exact filed circuitId entry proposal kept stored
  | some signal =>
    have received := congrArg Prod.fst (receive_of_perform signalled)
    rw [kept] at received
    have arrived := eq_arrive_of_receive membersOf received.symm
    rw [arrived] at stored
    exact circuitId_of_arrive filed signalled stored

theorem progress_arrival {notice : Notice} (noticed : call.notice formats before = some notice) :
    notice.arrival.progress circuitId = before.progress circuitId := by
  cases call with
  | addReadyMember around circuit member =>
    cases noticed
    rfl
  | shared shared =>
    cases shared with
    | commit around =>
      obtain ⟨⟨proposal, between⟩, accepts, rfl⟩ := Option.map_eq_some_iff.mp noticed
      exact (commit_of_accepting acceptance_keeps_progress accepts).1
    | submit _ _ | proposeChange _ _ | rollback => cases noticed

theorem progress_of_not_notice (silent : call.notice formats before = none) :
    (call.perform formats before).progress circuitId = before.progress circuitId := by
  cases call with
  | addReadyMember around circuit member => cases silent
  | shared shared =>
    cases shared with
    | submit around payload =>
      have kept := (submit_keeps_unqueued formats around payload).map (progress circuitId) before
      exact kept.finalState
    | proposeChange around payload =>
      have kept :=
        (proposeChange_keeps_unproposed formats around payload).map (progress circuitId) before
      exact kept.finalState
    | commit around =>
      have refuses := Option.map_eq_none_iff.mp silent
      exact commit_of_not_accepting acceptance_keeps_progress
        (fun _ => commitChange_keeps_progress)
        refuses
    | rollback => rfl

/-- The call does not start a circuit: it sends no CircuitReady event for it,
and if it asks the orchestrator for services, it starts another circuit. -/
structure PassesOver (formats : Formats) (circuitId : String)
    (before : AdminServiceShared) (call : NodeCall) : Prop where
  idle : call.starts formats circuitId before = none
  unsent : (call.perform formats before).readyEvents circuitId = before.readyEvents circuitId
  uncalled : (call.perform formats before).initializedServices = before.initializedServices ∨
    ∃ other ≠ circuitId, (call.starts formats other before).isSome

theorem passesOver_of_progress (idle : call.starts formats circuitId before = none)
    (same : (call.perform formats before).progress circuitId = before.progress circuitId) :
    PassesOver formats circuitId before call :=
  ⟨idle, (Prod.mk.inj (Prod.mk.inj same).2).2, Or.inl (Prod.mk.inj (Prod.mk.inj same).2).1⟩

theorem passesOver_of_not_starts (filed : before.Filed)
    (idle : call.starts formats circuitId before = none) :
    PassesOver formats circuitId before call := by
  cases noticed : call.notice formats before with
  | none => exact passesOver_of_progress idle (progress_of_not_notice noticed)
  | some notice =>
    obtain ⟨sameCircuits, performed⟩ := perform_of_notice noticed
    have arrived : (notice.arrival.withSignal notice.circuitId notice.signal).progress circuitId =
        before.progress circuitId :=
      progress_arrival noticed
    rw [finalState_initializeServicesIfMembersReady] at performed
    cases ready :
      (notice.arrival.withSignal notice.circuitId notice.signal).readyProposal notice.circuitId with
    | none =>
      refine passesOver_of_progress idle ?_
      rw [performed, ready]
      exact arrived
    | some proposal =>
      have started : call.starts formats notice.circuitId before = some proposal := by
        simp [starts, noticed, ready]
      have elsewhere : notice.circuitId ≠ circuitId := by
        rintro rfl
        cases idle.symm.trans started
      have signalled : call.signalTo formats notice.circuitId before = some notice.signal := by
        simp [signalTo, noticed]
      refine ⟨idle, ?_, Or.inr ⟨_, elsewhere, by rw [started]; rfl⟩⟩
      rw [performed, ready]
      rw [readyProposal_eq, slotOf_withSignal, slotOf_congr sameCircuits] at ready
      have own := circuitId_of_arrive filed signalled
        (Rendezvous.Entry.item_of_complete membersOf ready)
      have foreign : proposal.circuitId ≠ circuitId := by
        rw [own]
        exact elsewhere
      rw [← (Prod.mk.inj (Prod.mk.inj arrived).2).2]
      exact Ends.finalState (initialization_keeps_readyEvents foreign _)

/-! ## Runs -/

section Runs

variable {first last : AdminServiceShared}
  {path earlier later : List (AdminServiceShared × NodeCall)}

theorem signals_append (formats : Formats) (circuitId : String)
    (earlier later : List (AdminServiceShared × NodeCall)) :
    signals formats circuitId (earlier ++ later) =
      signals formats circuitId earlier ++ signals formats circuitId later :=
  List.filterMap_append

variable (run : Run (Step formats) first path last)
include run

/-- A step of a run that commits a circuit at most once starts it exactly if
the circuit is gathered after the step and not before. -/
theorem starts_iff (fresh : first.slotOf circuitId = none)
    (once : (deposits (signals formats circuitId path)).length ≤ 1)
    (split : path = earlier ++ (before, call) :: later) (proposal : CircuitProposal) :
    call.starts formats circuitId before = some proposal ↔ Gathered membersOf
      (signals formats circuitId (earlier ++ [(before, call)])) ∧
      ¬ Gathered membersOf (signals formats circuitId earlier) ∧
      ∃ own, deposits (signals formats circuitId (earlier ++ [(before, call)])) =
        [(proposal, own)] := by
  rw [starts_eq_released run fresh split, signals_append]
  cases signalled : call.signalTo formats circuitId before with
  | none =>
    have silent : signals formats circuitId [(before, call)] = [] := by simp [signals, signalled]
    rw [silent, List.append_nil]
    constructor
    · intro started
      cases started
    · intro gathers
      exact (gathers.2.1 gathers.1).elim
  | some signal =>
    have shown : signals formats circuitId [(before, call)] = [signal] := by
      simp [signals, signalled]
    rw [shown, Option.bind_some]
    refine released_iff ?_ proposal
    have part : signals formats circuitId path = signals formats circuitId earlier ++ [signal] ++
        signals formats circuitId later := by
      rw [split, ← List.singleton_append, signals_append, signals_append, shown, List.append_assoc]
    rw [part, deposits_append, List.length_append] at once
    omega

variable {proposal : CircuitProposal}

omit run in
theorem started_of_starts (initializes : call.InitializesServices)
    (own : proposal.circuitId = circuitId)
    (reportable : ∃ message, Messages.CircuitProposal.fromProto proposal = .ok message)
    (starting : call.starts formats circuitId before = some proposal) :
    ∃ notice, call.notice formats before = some notice ∧
      AdminServiceShared.Started notice.around circuitId proposal before
        (call.perform formats before) := by
  obtain ⟨notice, noticed, ready⟩ := Option.bind_eq_some_iff.mp starting
  obtain ⟨_, performed⟩ := perform_of_notice noticed
  obtain ⟨message, converted⟩ := reportable
  refine ⟨notice, noticed, ?_⟩
  split at ready
  · rename_i same
    subst same
    rw [performed, finalState_initializeServicesIfMembersReady]
    simp only [ready]
    refine (Ends.finalState (started_of_initialization ?_ converted own _)).congr
      (progress_arrival noticed)
    cases call with
    | addReadyMember around circuit member =>
      cases noticed
      exact initializes
    | shared shared =>
      cases shared with
      | commit around =>
        obtain ⟨_, _, rfl⟩ := Option.map_eq_some_iff.mp noticed
        exact initializes
      | submit _ _ | proposeChange _ _ | rollback => cases noticed
  · cases ready

theorem throughout_filed (filed : first.Filed) : Run.Throughout
    (fun shared =>
      shared.Filed ∧ shared.nodeId = first.nodeId) path last := by
  refine run.guarded ⟨filed, rfl⟩ (fun before call after held (_ : True) taken => ?_)
    fun _ _ => trivial
  obtain ⟨filed, same⟩ := held
  rw [taken]
  exact ⟨filed_perform filed, (nodeId_perform call before).trans same⟩

theorem passesOver_of_gathered_or_missing (fresh : first.slotOf circuitId = none)
    (filed : first.Filed)
    (once : (deposits (signals formats circuitId path)).length ≤ 1)
    (split : path = earlier ++ (before, call) :: later)
    (apart : Gathered membersOf (signals formats circuitId earlier) ∨ ¬ Gathered membersOf
      (signals formats circuitId (earlier ++ [(before, call)]))) :
    PassesOver formats circuitId before call := by
  have idle : call.starts formats circuitId before = none := by
    rw [Option.eq_none_iff_forall_ne_some]
    intro proposal started
    obtain ⟨gathered, missing, _⟩ := (starts_iff run fresh once split proposal).mp started
    rcases apart with before | after
    · exact missing before
    · exact after gathered
  have visited : (before, call) ∈ path := by
    rw [split]
    exact List.mem_append_right _ (List.mem_cons_self ..)
  obtain ⟨filed, _⟩ := (throughout_filed run filed).1 _ visited
  exact passesOver_of_not_starts filed idle

theorem reportable_of_deposit {own : String} (filed : first.Filed)
    (deposited : .deposit proposal own ∈ signals formats circuitId path) :
    proposal.circuitId = circuitId ∧ own = first.nodeId ∧
      ∃ message, Messages.CircuitProposal.fromProto proposal = .ok message := by
  obtain ⟨⟨before, call⟩, visited, signalled⟩ := List.mem_filterMap.mp deposited
  obtain ⟨named, same, around, between, accepts⟩ := accepting_of_deposit signalled
  obtain ⟨_, sameNode⟩ := (throughout_filed run filed).1 _ visited
  exact ⟨named, same.trans sameNode, fromProto_of_accepting accepts⟩

end Runs

end NodeCall

open NodeCall (signals)

/-- In a run that commits a circuit once and in which every other member is
marked ready, one call starts the services: the first after which the circuit is
committed and all its members are ready.  It asks the orchestrator once for each
local service and sends the CircuitReady event once; all other calls pass over
the circuit. -/
theorem services_start_once (formats : Formats) (circuitId : String) (proposal : CircuitProposal)
    (first last : AdminServiceShared) (path : List (AdminServiceShared × NodeCall))
    (run : Run (NodeCall.Step formats) first path last)
    (fresh : first.uninitializedCircuits.lookup circuitId = none) (filed : first.Filed)
    (committed : (deposits (signals formats circuitId path)).map Prod.fst = [proposal])
    (heard : ∀ member ∈ membersOf proposal, member ≠ first.nodeId →
        .mark member ∈ signals formats circuitId path)
    (initializes : ∀ visited ∈ path, visited.2.InitializesServices) :
    ∃ earlier before call later, path = earlier ++ (before, call) :: later ∧ Gathered membersOf
          (signals formats circuitId (earlier ++ [(before, call)])) ∧
        ¬ Gathered membersOf (signals formats circuitId earlier) ∧
        call.starts formats circuitId before = some proposal ∧
        (∃ notice, call.notice formats before = some notice ∧
            AdminServiceShared.Started notice.around circuitId proposal before
              (call.perform formats before)) ∧
        ∀ visited ∈ earlier ++ later,
          NodeCall.PassesOver formats circuitId visited.1 visited.2 := by
  have empty : first.slotOf circuitId = none := by
    simp [slotOf, fresh]
  obtain ⟨⟨stored, own⟩, single, rfl⟩ := List.map_eq_singleton_iff.mp committed
  have once : (deposits (signals formats circuitId path)).length ≤ 1 := by
    rw [single]
    exact le_refl 1
  have deposited : .deposit stored own ∈ signals formats circuitId path := by
    rw [← mem_deposits_iff, single]
    exact List.mem_singleton.mpr rfl
  obtain ⟨named, sameNode, reportable⟩ := NodeCall.reportable_of_deposit run filed deposited
  have complete : Gathered membersOf (signals formats circuitId path) := by
    refine ⟨stored, own, deposited, fun member needed => ?_⟩
    by_cases itself : member = own
    · exact Or.inl itself
    · exact Or.inr (heard member needed (sameNode ▸ itself))
  have initially : ¬ Gathered membersOf (signals formats circuitId []) := by
    rintro ⟨_, _, absent, _⟩
    cases absent
  obtain ⟨earlier, ⟨before, call⟩, later, split, missing, gathered⟩ := exists_first_point
      (fun steps => Gathered membersOf (signals formats circuitId steps))
      initially complete
  have starting : call.starts formats circuitId before = some stored := by
    refine (NodeCall.starts_iff run empty once split stored).mpr ⟨gathered, missing, own, ?_⟩
    have parts : deposits
            (signals formats circuitId (earlier ++ [(before, call)]) ++
              signals formats circuitId later) = [(stored, own)] := by
      rw [← single, split, ← NodeCall.signals_append, List.append_assoc, List.singleton_append]
    exact deposits_of_gathered gathered parts
  have taken : (before, call) ∈ path := by
    rw [split]
    exact List.mem_append_right _ (List.mem_cons_self ..)
  have started := NodeCall.started_of_starts (initializes _ taken) named reportable starting
  refine ⟨earlier, before, call, later, split, gathered, missing, starting, started, ?_⟩
  rintro ⟨other, another⟩ visited
  rcases List.mem_append.mp visited with visitedBefore | visitedAfter
  · obtain ⟨start, rest, rfl⟩ := List.append_of_mem visitedBefore
    refine NodeCall.passesOver_of_gathered_or_missing run empty filed once
        (split.trans (List.append_assoc ..)) (Or.inr fun already => ?_)
    apply missing
    rw [← List.singleton_append, ← List.append_assoc, NodeCall.signals_append _ _ _ rest]
    exact already.append _
  · obtain ⟨start, rest, rfl⟩ := List.append_of_mem visitedAfter
    refine NodeCall.passesOver_of_gathered_or_missing run empty filed once
        (split.trans (List.append_assoc _ ((before, call) :: start) _).symm)
        (Or.inl ?_)
    rw [← List.singleton_append, ← List.append_assoc, NodeCall.signals_append _ _ _ start]
    exact gathered.append _

/-- Node `b` is ready before node `a` commits their circuit, and says so once
more afterwards; it is also ready for another circuit. -/
def readyEarly : List NodeCall := [.addReadyMember .working "c" "b"] ++
    (voting ["a", "b"] [("b", .accept)]).map .shared ++
    [.addReadyMember .working "c" "b", .addReadyMember .working "e" "b"]

theorem initializesServices_of_mem_readyEarly {call : NodeCall}
    (member : call ∈ readyEarly) : call.InitializesServices := by
  simp only [readyEarly, voting, proposeAndCommit, List.flatMap_cons,
    List.flatMap_nil, List.append_nil, List.cons_append, List.nil_append,
    List.map_cons, List.map_nil, List.mem_cons, List.not_mem_nil,
    or_false] at member
  rcases member with rfl | rfl | rfl | rfl | rfl | rfl | rfl
  all_goals first | trivial | exact fun _ _ => rfl

/-- The commit starts the circuit of `a` and `b`, and nothing else does. -/
theorem services_start_once_early : ∃ proposal path last earlier before call later,
      Run (NodeCall.Step .standard) (emptyNode "a") path last ∧ membersOf proposal = {"a", "b"} ∧
        path = earlier ++ (before, call) :: later ∧
        call.starts .standard "c" before = some proposal ∧
        ∀ visited ∈ earlier ++ later, visited.2.starts .standard "c" visited.1 = none := by
  have run := Run.run_follow (NodeCall.perform .standard) readyEarly (emptyNode "a")
  have checked :
      (let sent :=
        signals .standard "c" (Run.follow (NodeCall.perform .standard) readyEarly (emptyNode "a")).1
      (deposits sent).length = 1 ∧ (∀ deposit ∈ deposits sent, membersOf deposit.1 = {"a", "b"}) ∧
        .mark "b" ∈ sent) := by
    decide +kernel
  obtain ⟨single, members, marked⟩ := checked
  obtain ⟨⟨proposal, own⟩, alone⟩ := List.length_eq_one_iff.mp single
  rw [alone] at members
  have nodes := members _ (List.mem_singleton.mpr rfl)
  obtain ⟨earlier, before, call, later, split, _, _, starting, _, others⟩ :=
    services_start_once .standard "c" proposal (emptyNode "a") _ _ run rfl
      (by
        rintro _ _ _ absent _
        cases absent)
      (by rw [alone]; rfl)
      (by
        rw [nodes]
        intro member needed different
        rcases Finset.mem_insert.mp needed with rfl | second
        · exact (different rfl).elim
        · rw [Finset.mem_singleton.mp second]
          exact marked)
      fun visited member =>
        initializesServices_of_mem_readyEarly (Run.mem_labels_of_mem_follow member)
  exact
    ⟨proposal, _, _, earlier, before, call, later, run, nodes, split, starting,
      fun visited member => (others visited member).idle⟩

end Splinter.Admin
