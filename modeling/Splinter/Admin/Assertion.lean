import Splinter.Admin.PendingChange
import Splinter.Admin.Startup

/-!
# Who says that a node is ready

A MEMBER_READY message names the node that is ready, and the admin service does
not compare it with the sender.  A circuit starts only on the word of its members
exactly if every message that makes a node ready comes from this node.
-/

namespace Splinter.Admin

open Library AdminService AdminServiceShared
open Service (ServiceError ServiceMessageContext)
open Protos (CircuitProposal)

/-- The nodes that are ready for a circuit which has not started. -/
def AdminServiceShared.readyMembers (shared : AdminServiceShared)
    (circuitId : String) : Finset String :=
  ((shared.slotOf circuitId).getD Rendezvous.Entry.empty).ready

structure ReadyMessage where
  sender : String
  circuitId : String
  memberNodeId : String
  deriving DecidableEq

inductive Arrival where
  | message (around : Surroundings) (context : ServiceMessageContext) (messageBytes : Bytes)
  | shared (call : SharedCall)

namespace Arrival

variable (formats : Formats)

def perform : Arrival → AdminService → AdminService
  | .message around context messageBytes, service =>
    AdminService.operate formats (.handleMessage around context messageBytes) service
  | .shared call, service => { service with shared := call.perform formats service.shared }

def Step (before : AdminService) (arrival : Arrival) (after : AdminService) : Prop :=
  after = arrival.perform formats before

def readyMessage : Arrival → Option ReadyMessage
  | .message _ context messageBytes =>
    match formats.protos.adminMessage.parse messageBytes with
    | .error _ => none
    | .ok adminMessage =>
      match adminMessage.messageType with
      | .memberReady =>
        some
          ⟨context.sender, adminMessage.getMemberReady.circuitId,
            adminMessage.getMemberReady.memberNodeId⟩
      | _ => none
  | .shared _ => none

/-- The call that may have to do with the readiness of circuits. -/
def nodeCall (arrival : Arrival) : Option NodeCall :=
  match arrival with
  | .message around _ _ =>
    (arrival.readyMessage formats).map fun message =>
      .addReadyMember around message.circuitId message.memberNodeId
  | .shared call => some (.shared call)

/-- The proposal of a circuit for which `initialize_services` is run. -/
def starts (circuitId : String) (before : AdminService) (arrival : Arrival) :
    Option CircuitProposal :=
  (arrival.nodeCall formats).bind (·.starts formats circuitId before.shared)

def signalTo (circuitId : String) (before : AdminService)
    (arrival : Arrival) : Option (Signal CircuitProposal String) :=
  (arrival.nodeCall formats).bind (·.signalTo formats circuitId before.shared)

/-- The nodes that count as ready when the service looks whether it can start
the circuit. -/
def counted (circuitId : String) (before : AdminService) (arrival : Arrival) : Finset String :=
  match arrival.signalTo formats circuitId before with
  | some signal =>
    (((before.shared.slotOf circuitId).getD Rendezvous.Entry.empty).arrive signal).ready
  | none => before.shared.readyMembers circuitId

/-! ## What an arrival does to the shared state -/

variable {formats} {before : AdminService} {arrival : Arrival} {circuitId : String}

theorem shared_of_nodeCall {call : NodeCall} (called : arrival.nodeCall formats = some call) :
    (arrival.perform formats before).shared = call.perform formats before.shared := by
  cases arrival with
  | shared shared =>
    cases called
    rfl
  | message around context messageBytes =>
    obtain ⟨message, received, rfl⟩ := Option.map_eq_some_iff.mp called
    unfold readyMessage at received
    dsimp only at received
    split at received
    · cases received
    · rename_i adminMessage parsed
      split at received
      · rename_i typed
        cases received
        unfold perform operate handleMessage
        simp only [parsed, typed]
        exact congrArg AdminService.shared (finalState_onShared _ _ _)
      · cases received

def waiting (shared : AdminServiceShared) := (shared.uninitializedCircuits, shared.nodeId)

theorem waiting_of_not_nodeCall (uncalled : arrival.nodeCall formats = none) :
    waiting (arrival.perform formats before).shared = waiting before.shared := by
  cases arrival with
  | shared shared => cases uncalled
  | message around context messageBytes =>
    have unready := Option.map_eq_none_iff.mp uncalled
    have operated := operated_operate formats (.handleMessage around context messageBytes) before
    change waiting (operate formats _ before).shared = _
    generalize operate formats _ before = after at operated ⊢
    cases operated with
    | refused _ | delivered _ _ _ | announced _ => rfl
    | readied parsed typed => simp [readyMessage, parsed, typed] at unready

theorem nodeId_perform (arrival : Arrival) (before : AdminService) :
    (arrival.perform formats before).shared.nodeId = before.shared.nodeId := by
  cases called : arrival.nodeCall formats with
  | none => exact congrArg Prod.snd (waiting_of_not_nodeCall called)
  | some call =>
    rw [shared_of_nodeCall called]
    exact NodeCall.nodeId_perform call before.shared

theorem slotOf_of_not_signal (silent : arrival.signalTo formats circuitId before = none) :
    (arrival.perform formats before).shared.slotOf circuitId = before.shared.slotOf circuitId ∧
      arrival.starts formats circuitId before = none := by
  unfold signalTo at silent
  unfold starts
  cases called : arrival.nodeCall formats with
  | none =>
    refine ⟨slotOf_congr ?_, rfl⟩
    exact congrArg Prod.fst (waiting_of_not_nodeCall called)
  | some call =>
    rw [called, Option.bind_some] at silent
    rw [shared_of_nodeCall called, Option.bind_some]
    exact NodeCall.slotOf_of_not_signal silent

variable {signal : Signal CircuitProposal String} {member : String}
  (signalled : arrival.signalTo formats circuitId before = some signal)
include signalled

theorem receive_of_perform :
    ((arrival.perform formats before).shared.slotOf circuitId,
      arrival.starts formats circuitId before) =
      Rendezvous.receive membersOf (before.shared.slotOf circuitId) signal := by
  obtain ⟨call, called, signalled⟩ := Option.bind_eq_some_iff.mp signalled
  unfold starts
  rw [shared_of_nodeCall called, called, Option.bind_some]
  exact NodeCall.receive_of_perform signalled

/-! ## Who counts as ready -/

theorem maker_of_signal :
    Rendezvous.maker signal = before.shared.nodeId ∨ ∃ sender, arrival.readyMessage formats =
      some ⟨sender, circuitId, Rendezvous.maker signal⟩ := by
  obtain ⟨call, called, signalled⟩ := Option.bind_eq_some_iff.mp signalled
  cases arrival with
  | shared shared =>
    cases called
    cases signal with
    | deposit proposal own => exact Or.inl (NodeCall.accepting_of_deposit signalled).2.1
    | mark member =>
      obtain ⟨notice, noticed, addressed⟩ := Option.bind_eq_some_iff.mp signalled
      split at addressed
      · cases shared with
        | commit around =>
          obtain ⟨_, _, rfl⟩ := Option.map_eq_some_iff.mp noticed
          cases addressed
        | submit _ _ | proposeChange _ _ | rollback => cases noticed
      · cases addressed
  | message around context messageBytes =>
    obtain ⟨message, received, rfl⟩ := Option.map_eq_some_iff.mp called
    obtain ⟨notice, noticed, addressed⟩ := Option.bind_eq_some_iff.mp signalled
    cases noticed
    split at addressed
    · rename_i same
      cases addressed
      subst same
      exact Or.inr ⟨message.sender, received⟩
    · cases addressed

omit signalled in
theorem signalTo_of_readyMessage {message : ReadyMessage}
    (received : arrival.readyMessage formats = some message) :
    arrival.signalTo formats message.circuitId before = some (.mark message.memberNodeId) := by
  cases arrival with
  | shared shared => cases received
  | message around context messageBytes =>
    have called : (Arrival.message around context messageBytes).nodeCall formats = some
        (.addReadyMember around message.circuitId message.memberNodeId) :=
      Option.map_eq_some_iff.mpr ⟨message, received, rfl⟩
    unfold signalTo
    rw [called]
    exact if_pos rfl

theorem counted_of_signal :
    arrival.counted formats circuitId before = insert (Rendezvous.maker signal)
      (before.shared.readyMembers circuitId) := by
  unfold counted
  rw [signalled]
  cases signal <;> rfl

omit signalled

theorem counted_of_not_signal (silent : arrival.signalTo formats circuitId before = none) :
    arrival.counted formats circuitId before = before.shared.readyMembers circuitId := by
  unfold counted
  rw [silent]

theorem mem_counted_cases (ready : member ∈ arrival.counted formats circuitId before) :
    member ∈ before.shared.readyMembers circuitId ∨ member = before.shared.nodeId ∨ ∃ sender,
      arrival.readyMessage formats = some ⟨sender, circuitId, member⟩ := by
  cases signalled : arrival.signalTo formats circuitId before with
  | none =>
    rw [counted_of_not_signal signalled] at ready
    exact Or.inl ready
  | some signal =>
    rw [counted_of_signal signalled, Finset.mem_insert] at ready
    rcases ready with rfl | earlier
    · exact Or.inr (maker_of_signal signalled)
    · exact Or.inl earlier

theorem mem_counted_of_readyMembers
    (ready : member ∈ (arrival.perform formats before).shared.readyMembers circuitId) :
    member ∈ arrival.counted formats circuitId before := by
  unfold readyMembers at ready
  cases signalled : arrival.signalTo formats circuitId before with
  | none =>
    rw [(slotOf_of_not_signal signalled).1] at ready
    rw [counted_of_not_signal signalled]
    exact ready
  | some signal =>
    have received := congrArg Prod.fst (receive_of_perform signalled)
    unfold counted
    rw [signalled]
    dsimp only
    cases kept : (arrival.perform formats before).shared.slotOf circuitId with
    | none =>
      rw [kept] at ready
      cases ready
    | some entry =>
      rw [kept] at received ready
      rw [← Rendezvous.eq_arrive_of_receive membersOf received.symm]
      exact ready

theorem mem_counted_of_starts {proposal : CircuitProposal}
    (started : arrival.starts formats circuitId before = some proposal)
    (needed : member ∈ membersOf proposal) :
    member ∈ arrival.counted formats circuitId before := by
  cases signalled : arrival.signalTo formats circuitId before with
  | none =>
    rw [(slotOf_of_not_signal signalled).2] at started
    cases started
  | some signal =>
    have released := congrArg Prod.snd (receive_of_perform signalled)
    unfold Rendezvous.receive at released
    rw [Rendezvous.Entry.snd_settle, started] at released
    unfold counted
    rw [signalled]
    exact Rendezvous.Entry.required_of_complete membersOf released.symm needed

end Arrival

/-! ## Runs -/

/-- A MEMBER_READY message for the circuit has been received from the admin
service of the node. -/
def Heard (formats : Formats) (path : List (AdminService × Arrival))
    (circuitId member : String) : Prop :=
  ∃ visited ∈ path, ∃ message, visited.2.readyMessage formats = some message ∧
    message.circuitId = circuitId ∧
    message.sender = adminServiceId member

/-- A circuit is started after all its other members have been heard, and only
a message of the node itself makes another node count as ready. -/
structure Asserted (formats : Formats)
    (earlier : List (AdminService × Arrival)) (before : AdminService)
    (arrival : Arrival) : Prop where
  started : ∀ circuitId proposal, arrival.starts formats circuitId before = some proposal →
    ∀ member ∈ membersOf proposal, member ≠ before.shared.nodeId →
      Heard formats (earlier ++ [(before, arrival)]) circuitId member
  counted : ∀ circuitId, ∀ member ∈ arrival.counted formats circuitId before,
    member ∉ before.shared.readyMembers circuitId → member ≠ before.shared.nodeId →
      ∃ message, arrival.readyMessage formats = some message ∧ message.circuitId = circuitId ∧
        message.sender = adminServiceId member

/-- A MEMBER_READY message is sent by the node it names, unless it names this
node or one that counts as ready already. -/
def Identified (formats : Formats) (before : AdminService) (arrival : Arrival) : Prop :=
  ∀ message, arrival.readyMessage formats = some message →
    message.sender = adminServiceId message.memberNodeId ∨
      message.memberNodeId = before.shared.nodeId ∨
      message.memberNodeId ∈ before.shared.readyMembers message.circuitId

section Runs

variable {formats : Formats} {first last before : AdminService}
  {arrival : Arrival} {path earlier : List (AdminService × Arrival)}

theorem identified_of_asserted (asserted : Asserted formats earlier before arrival) :
    Identified formats before arrival := by
  intro message received
  by_cases own : message.memberNodeId = before.shared.nodeId
  · exact Or.inr (Or.inl own)
  by_cases already : message.memberNodeId ∈ before.shared.readyMembers message.circuitId
  · exact Or.inr (Or.inr already)
  have counted : message.memberNodeId ∈ arrival.counted formats message.circuitId before := by
    rw [Arrival.counted_of_signal (Arrival.signalTo_of_readyMessage received)]
    exact Finset.mem_insert_self _ _
  obtain ⟨other, received', _, named⟩ := asserted.counted _ _ counted already own
  cases (received.symm.trans received')
  exact Or.inl named

variable {circuitId member : String}

theorem sender_of_identified (identified : Identified formats before arrival)
    (counted : member ∈ arrival.counted formats circuitId before)
    (new : member ∉ before.shared.readyMembers circuitId) (other : member ≠ before.shared.nodeId) :
    ∃ message, arrival.readyMessage formats = some message ∧ message.circuitId = circuitId ∧
      message.sender = adminServiceId member := by
  rcases Arrival.mem_counted_cases counted with
    already | own | ⟨sender, received⟩
  · exact absurd already new
  · exact absurd own other
  · refine ⟨_, received, rfl, ?_⟩
    rcases identified _ received with named | own | already
    · exact named
    · exact absurd own other
    · exact absurd already new

theorem Heard.append (heard : Heard formats earlier circuitId member)
    (later : List (AdminService × Arrival)) :
    Heard formats (earlier ++ later) circuitId member := by
  obtain ⟨visited, present, rest⟩ := heard
  exact ⟨visited, List.mem_append_left _ present, rest⟩

theorem heard_of_counted
    (known : ∀ member ∈ before.shared.readyMembers circuitId, member ≠ before.shared.nodeId →
      Heard formats earlier circuitId member)
    (identified : Identified formats before arrival)
    (counted : member ∈ arrival.counted formats circuitId before)
    (other : member ≠ before.shared.nodeId) :
    Heard formats (earlier ++ [(before, arrival)]) circuitId member := by
  by_cases already : member ∈ before.shared.readyMembers circuitId
  · exact (known member already other).append _
  · obtain ⟨message, received, rest⟩ := sender_of_identified identified counted already other
    exact
      ⟨(before, arrival), List.mem_append_right _ (List.mem_singleton.mpr rfl),
        message, received, rest⟩

theorem heard_of_run (run : Run (Arrival.Step formats) first path last)
    (fresh : first.shared.uninitializedCircuits = ∅)
    (identified : Run.Meets (Identified formats) path) :
    ∀ circuitId, ∀ member ∈ last.shared.readyMembers circuitId, member ≠ last.shared.nodeId →
      Heard formats path circuitId member := by
  induction run with
  | start =>
    intro circuitId member ready
    unfold readyMembers slotOf at ready
    rw [fresh] at ready
    cases ready
  | @snoc path before after arrival _ taken ih =>
    rw [Run.meets_snoc] at identified
    have known := ih identified.1
    intro circuitId member ready other
    rw [taken] at ready other
    rw [Arrival.nodeId_perform] at other
    exact heard_of_counted (known circuitId) identified.2
      (Arrival.mem_counted_of_readyMembers ready) other

end Runs

/-- In every run, readiness is asserted by the nodes themselves exactly if
every MEMBER_READY message that makes another node ready is sent by the node it
names. -/
theorem readiness_asserted_by_node_iff {formats : Formats} {first last : AdminService}
    {path : List (AdminService × Arrival)} (run : Run (Arrival.Step formats) first path last)
    (fresh : first.shared.uninitializedCircuits = ∅) :
    (∀ earlier before arrival later, path = earlier ++ (before, arrival) :: later →
          Asserted formats earlier before arrival) ↔
      Run.Meets (Identified formats) path := by
  constructor
  · rintro asserted ⟨before, arrival⟩ visited
    obtain ⟨earlier, later, split⟩ := List.append_of_mem visited
    exact identified_of_asserted (asserted earlier before arrival later split)
  · intro identified earlier before arrival later split
    obtain ⟨begun, _⟩ := run.cut split
    have own : Identified formats before arrival := by
      refine identified (before, arrival) ?_
      rw [split]
      exact List.mem_append_right _ (List.mem_cons_self ..)
    have meets : Run.Meets (Identified formats) earlier := by
      intro visited member
      refine identified visited ?_
      rw [split]
      exact List.mem_append_left _ member
    have known := heard_of_run begun fresh meets
    refine ⟨?_, ?_⟩
    · intro circuitId proposal started member needed other
      exact heard_of_counted (known circuitId) own
          (Arrival.mem_counted_of_starts started needed) other
    · intro circuitId member counted new other
      exact sender_of_identified own counted new other

/-- The vote of `b` on the circuit `c` of `a` and `b` is committed. -/
def agreed : List Arrival := (voting ["a", "b"] [("b", .accept)]).map .shared

/-- A service says that node `b` is ready for the circuit `c`. -/
def readiness : Protos.AdminMessage :=
  { Protos.AdminMessage.new with
    messageType := .memberReady
    memberReady := some ⟨"c", "b"⟩ }

def readyOfB (sender : String) : Arrival := .message .working ⟨sender, "admin", ""⟩
    (Protos.Codecs.protobuf.adminMessage.write readiness)

theorem readyMessage_readyOfB (sender : String) :
    (readyOfB sender).readyMessage .standard = some ⟨sender, "c", "b"⟩ := by
  have parsed : Formats.standard.protos.adminMessage.parse
      (Protos.Codecs.protobuf.adminMessage.write readiness) =
      .ok readiness :=
    Protos.Codecs.protobuf.adminMessage.parse_write readiness
  unfold readyOfB Arrival.readyMessage
  dsimp only
  rw [parsed]
  rfl

/-- Node `a` up to the commit of the circuit. -/
def agreeing : List (AdminService × Arrival) × AdminService :=
  Run.follow (Arrival.perform .standard) agreed (AdminService.new "a" .new (.new .new)).start

theorem run_agreeing : Run (Arrival.Step .standard)
    (AdminService.new "a" .new (.new .new)).start agreeing.1 agreeing.2 :=
  Run.run_follow _ _ _

theorem readyMessage_of_mem_agreeing {visited : AdminService × Arrival}
    (member : visited ∈ agreeing.1) :
    visited.2.readyMessage .standard = none := by
  have listed := Run.mem_labels_of_mem_follow member
  obtain ⟨call, _, same⟩ := List.mem_map.mp listed
  rw [← same]
  rfl

theorem starts_readyOfB (sender : String) : ∃ proposal,
    (readyOfB sender).starts .standard "c" agreeing.2 = some proposal ∧
      membersOf proposal = {"a", "b"} := by
  have ready :
      ((NodeCall.addReadyMember .working "c" "b").starts .standard "c" agreeing.2.shared).any
        (fun proposal => membersOf proposal = {"a", "b"}) = true := by
    decide +kernel
  obtain ⟨proposal, started, members⟩ := (Option.any_eq_true _ _).mp ready
  refine ⟨proposal, ?_, of_decide_eq_true members⟩
  have called : (readyOfB sender).nodeCall .standard = some (.addReadyMember .working "c" "b") := by
    have received := readyMessage_readyOfB sender
    unfold readyOfB at received ⊢
    unfold Arrival.nodeCall
    rw [received]
    rfl
  unfold Arrival.starts
  rw [called, Option.bind_some]
  exact started

/-- Node `x`, which is not a member, makes node `a` start the circuit of `a` and
`b`. -/
theorem circuit_started_by_outsider : ∃ path before proposal, Run (Arrival.Step .standard)
          (AdminService.new "a" .new (.new .new)).start path before ∧
        (readyOfB (adminServiceId "x")).starts .standard "c" before = some proposal ∧
        membersOf proposal = {"a", "b"} ∧
        ¬ Heard .standard (path ++ [(before, readyOfB (adminServiceId "x"))])
          "c" "b" := by
  obtain ⟨proposal, started, members⟩ := starts_readyOfB (adminServiceId "x")
  refine ⟨agreeing.1, agreeing.2, proposal, run_agreeing, started, members, ?_⟩
  rintro ⟨visited, present, message, received, _, sent⟩
  rcases List.mem_append.mp present with earlier | last
  · rw [readyMessage_of_mem_agreeing earlier] at received
    cases received
  · rw [List.mem_singleton.mp last] at received
    cases ((readyMessage_readyOfB _).symm.trans received)
    revert sent
    decide

/-- The word of node `b` itself makes node `a` start the circuit. -/
theorem circuit_started_by_member : ∃ path before proposal, Run (Arrival.Step .standard)
          (AdminService.new "a" .new (.new .new)).start path before ∧
        (readyOfB (adminServiceId "b")).starts .standard "c" before = some proposal ∧
        membersOf proposal = {"a", "b"} ∧
        Heard .standard (path ++ [(before, readyOfB (adminServiceId "b"))])
          "c" "b" := by
  obtain ⟨proposal, started, members⟩ := starts_readyOfB (adminServiceId "b")
  refine ⟨agreeing.1, agreeing.2, proposal, run_agreeing, started, members, ?_⟩
  have identified : Run.Meets (Identified .standard)
        (agreeing.1 ++ [(agreeing.2, readyOfB (adminServiceId "b"))]) := by
    intro visited present message received
    rcases List.mem_append.mp present with earlier | last
    · rw [readyMessage_of_mem_agreeing earlier] at received
      cases received
    · rw [List.mem_singleton.mp last] at received
      cases ((readyMessage_readyOfB _).symm.trans received)
      exact Or.inl rfl
  have asserted := (readiness_asserted_by_node_iff (Run.snoc run_agreeing rfl) rfl).mpr
      identified agreeing.1 agreeing.2 _ [] rfl
  refine asserted.started "c" proposal started "b" ?_ ?_
  · rw [members]
    decide
  · have own : agreeing.2.shared.nodeId = "a" := by decide +kernel
    rw [own]
    decide

end Splinter.Admin
