import Splinter.Admin.PendingChange
import Splinter.Scabbard.PendingChange

/-!
# How messages reach the engine

A consensus message reaches the engine inside a service message: a handler
takes it out and puts it into the channel.  `Relay` states this for a host, and
`adminRelay` and `scabbardRelay` are the two services that do so.
-/

namespace Splinter.Services

open Library Service Consensus TwoPhase TwoPhaseEngine

variable {Service Operation : Type} {codecs : TwoPhase.Codecs}

def messagesIn (channels : Option Channels) : List (ServiceMessageContext × ConsensusMessage) :=
  match channels with
  | some channels => channels.consensusMessages
  | none => []

theorem messagesIn_sendUpdate (channels : Option Channels) (update : ProposalUpdate) :
    messagesIn (channels.map (·.sendUpdate update)) = messagesIn channels := by
  cases channels <;> rfl

variable {message : ConsensusMessage} {channels remaining : Channels}

theorem mem_messagesIn_sendMessage {channels : Option Channels} {context : ServiceMessageContext}
    {entry : ServiceMessageContext × ConsensusMessage}
    (member : entry ∈ messagesIn (channels.map (·.sendMessage context message))) :
    entry ∈ messagesIn channels ∨ entry = (context, message) := by
  cases channels with
  | none => cases member
  | some channels =>
    rcases List.mem_append.mp member with earlier | new
    · exact Or.inl earlier
    · exact Or.inr (List.mem_singleton.mp new)

def Arrived (waiting : Service → List (ServiceMessageContext × ConsensusMessage))
    (carried : Option (ServiceMessageContext × ConsensusMessage)) (before after : Service) : Prop :=
  ∀ entry ∈ waiting after, entry ∈ waiting before ∨ carried = some entry

/-- The consensus messages that wait for the engine. -/
def Host.queued (host : Host Service Operation) (service : Service) :
    List (ServiceMessageContext × ConsensusMessage) :=
  messagesIn (host.channels service)

/-- A host whose operations carry the consensus messages to the engine, each
with the context of its service message. -/
structure Relay (host : Host Service Operation) where
  carried : Operation → Option (ServiceMessageContext × ConsensusMessage)
  channels_withChannels : ∀ channels service,
    host.channels (host.withChannels channels service) = some channels
  answered : ∀ {call answer before after}, host.Answers call before answer after →
    host.queued after = host.queued before
  operated : ∀ {operation before after}, host.Operates operation before after →
    Arrived host.queued (carried operation) before after

theorem receive_message
    (received : channels.receive (.handleConsensusMsg message) = some remaining) :
    ∃ context, channels.consensusMessages = (context, message) :: remaining.consensusMessages := by
  unfold Channels.receive at received
  dsimp only at received
  split at received
  · rename_i context first rest queued
    split at received
    · rename_i same
      cases received
      exact ⟨context, by rw [queued, same]⟩
    · cases received
  · cases received

theorem receive_sublist {input : Input} (received : channels.receive input = some remaining) :
    remaining.consensusMessages.Sublist channels.consensusMessages := by
  cases input with
  | handleConsensusMsg message =>
    obtain ⟨context, queued⟩ := receive_message received
    rw [queued]
    exact List.sublist_cons_self _ _
  | handleProposalUpdate update =>
    unfold Channels.receive at received
    dsimp only at received
    split at received
    · split at received
      · cases received
        exact List.Sublist.refl _
      · cases received
    · cases received
  | abortProposalIfTimedOut | handleBackloggedVerificationRequest
  | getNextProposal =>
    cases received
    exact List.Sublist.refl _

namespace Relay

variable {host : Host Service Operation} (relay : Relay host)
  {entry : ServiceMessageContext × ConsensusMessage}

theorem queued_step {before after : Participant Service} {event : Event Operation}
    (step : before.Step codecs host event after) (queued : entry ∈ host.queued after.service) :
    entry ∈ host.queued before.service ∨ ∃ operation, event = .operation operation ∧
      relay.carried operation = some entry := by
  cases event with
  | operation operation =>
    rcases relay.operated step.2 entry queued with earlier | carried
    · exact Or.inl earlier
    · exact Or.inr ⟨operation, rfl, carried⟩
  | engine record =>
    obtain ⟨_, channels, remaining, connected, received, answered⟩ := step
    left
    have unchanged : host.queued after.service =
        host.queued (host.withChannels remaining before.service) :=
      answered.invariant
        (fun _ _ _ _ responded same =>
          (relay.answered responded).trans same)
        rfl
    rw [unchanged] at queued
    unfold Host.queued at queued ⊢
    rw [relay.channels_withChannels] at queued
    rw [connected]
    exact (receive_sublist received).subset queued

theorem carried_of_queued {first last : Participant Service}
    {path : List (Participant Service × Event Operation)}
    (run : Run (Participant.Step codecs host) first path last)
    (empty : host.queued first.service = []) (queued : entry ∈ host.queued last.service) :
    ∃ visited ∈ path, ∃ operation, visited.2 = .operation operation ∧
      relay.carried operation = some entry := by
  induction run with
  | start =>
    rw [empty] at queued
    cases queued
  | @snoc path before after event continued taken ih =>
    rcases relay.queued_step taken queued with earlier | carried
    · obtain ⟨visited, member, carried⟩ := ih earlier
      exact ⟨visited, List.mem_append_left _ member, carried⟩
    · exact ⟨(before, event), List.mem_append_right _ (List.mem_singleton.mpr rfl), carried⟩

end Relay

/-! ## The admin service -/

section AdminRelay

open Admin

def adminWaiting (service : AdminService) : List (ServiceMessageContext × ConsensusMessage) :=
  messagesIn service.consensus

variable (formats : Admin.Formats) (around : Admin.Surroundings)

theorem onShared_keeps_waiting {Failure Other Result : Type} (change : Failure → Other)
    (program : EStateM Failure AdminServiceShared Result) :
    Keeps adminWaiting (AdminService.onShared change program) :=
  Keeps.zoom fun _ _ => rfl

theorem sendUpdate_keeps_waiting {Failure : Type} (update : ProposalUpdate) : Keeps adminWaiting
    (AdminService.sendUpdate update : EStateM Failure AdminService Unit) :=
  Keeps.modify fun _ => messagesIn_sendUpdate _ _

theorem createFrom_keeps_waiting (payload : Protos.CircuitManagementPayload) :
    Keeps adminWaiting (AdminService.createFrom formats around payload) := by
  refine Keeps.bind (onShared_keeps_waiting _ _) fun proposed => ?_
  refine Keeps.bind (Keeps.fromExcept _) fun hash => ?_
  refine Keeps.bind (Keeps.modify fun _ => rfl) fun _ => ?_
  refine Keeps.bind ?_ fun _ => sendUpdate_keeps_waiting _
  refine Keeps.get fun service => Keeps.forM fun member => ?_
  split
  · exact onShared_keeps_waiting _ _
  · exact Keeps.pure _

theorem createProposal_keeps_waiting :
    Keeps adminWaiting (AdminService.createProposal formats around) := by
  intro service
  unfold AdminService.createProposal
  rw [ends_bind, ends_get]
  dsimp only
  split
  · rfl
  · split
    · exact Keeps.set (createFrom_keeps_waiting formats around _) rfl
    · exact sendUpdate_keeps_waiting _ service

variable (id : ProposalId)

theorem checkProposal_keeps_waiting :
    Keeps adminWaiting (AdminService.checkProposal formats around id) := by
  refine Keeps.get fun service => ?_
  split
  · exact Keeps.throw _
  · refine Keeps.bind (onShared_keeps_waiting _ _) fun proposed => ?_
    split <;> exact sendUpdate_keeps_waiting _

theorem acceptProposal_keeps_waiting :
    Keeps adminWaiting (AdminService.acceptProposal formats around id) := by
  intro service
  unfold AdminService.acceptProposal
  rw [ends_bind, ends_get]
  split
  · split
    · split
      · exact Keeps.set (Keeps.modify fun _ => rfl) rfl
      · exact Keeps.set (sendUpdate_keeps_waiting _) rfl
    · exact sendUpdate_keeps_waiting _ service
  · exact sendUpdate_keeps_waiting _ service

theorem rejectProposal_keeps_waiting : Keeps adminWaiting (AdminService.rejectProposal id) := by
  refine Keeps.get fun service => ?_
  split
  · exact Keeps.throw _
  · refine Keeps.bind (Keeps.modify fun _ => rfl) fun _ => ?_
    exact onShared_keeps_waiting _ _

theorem respond_waiting {call : Call} {answer : Answer} {before after : AdminService}
    (responded : AdminService.respond formats around call before = some (answer, after)) :
    adminWaiting after = adminWaiting before := by
  cases call with
  | createProposal _ _ =>
    rw [← AdminService.finalState_of_respond_createProposal responded]
    exact (createProposal_keeps_waiting formats around before).finalState
  | checkProposal id =>
    exact kept_of_answer (checkProposal_keeps_waiting formats around id) (Option.some.inj responded)
  | acceptProposal id _ =>
    exact kept_of_answer (acceptProposal_keeps_waiting formats around id)
      (Option.some.inj responded)
  | rejectProposal id =>
    exact kept_of_answer (rejectProposal_keeps_waiting id) (Option.some.inj responded)
  | sendTo _ _ | broadcast _ =>
    have same := congrArg adminWaiting (AdminService.unmailed_of_network rfl responded)
    exact same

def adminCarried : AdminService.Operation → Option (ServiceMessageContext × ConsensusMessage)
  | .handleMessage _ context messageBytes =>
    match formats.protos.adminMessage.parse messageBytes with
    | .error _ => none
    | .ok message =>
      match message.messageType with
      | .consensusMessage =>
        match formats.consensus.consensusMessage.parse
          message.consensusMessage with
        | .error _ => none
        | .ok consensusMessage => some (context, consensusMessage)
      | _ => none
  | _ => none

/-- The service messages of an admin service carry its consensus messages. -/
def adminRelay : Relay (AdminService.host formats) where
  carried := adminCarried formats
  channels_withChannels _ _ := rfl
  answered := by
    rintro call answer before after ⟨around, responded⟩
    exact respond_waiting formats around responded
  operated := by
    rintro operation before after rfl
    have operated := AdminService.operated_operate formats operation before
    intro entry member
    generalize AdminService.operate formats operation before = after at operated member
    cases operated with
    | refused _ | readied _ _ | submitted | authorized => exact Or.inl member
    | announced _ =>
      exact Or.inl ((congrArg (entry ∈ ·) (messagesIn_sendUpdate before.consensus _)).mp member)
    | delivered parsed typed read =>
      rcases mem_messagesIn_sendMessage member with earlier | rfl
      · exact Or.inl earlier
      · right
        simp only [adminCarried, parsed, typed, read]

end AdminRelay

/-! ## Scabbard -/

section ScabbardRelay

open ScabbardService

def scabbardWaiting (service : Scabbard) : List (ServiceMessageContext × ConsensusMessage) :=
  messagesIn service.consensus

variable (formats : ScabbardService.Formats) (around : ScabbardService.Surroundings)
  {Failure : Type}

theorem onState_keeps_waiting {Result : Type} (change : ScabbardStateError → Failure)
    (program : EStateM ScabbardStateError ScabbardState Result) :
    Keeps scabbardWaiting (Scabbard.onState change program) :=
  Keeps.zoom fun _ _ => rfl

theorem update_keeps_waiting (update : ProposalUpdate) : Keeps scabbardWaiting
    (Scabbard.sendUpdate update : EStateM Failure Scabbard Unit) :=
  Keeps.modify fun _ => messagesIn_sendUpdate _ _

variable (id : ProposalId)

theorem removeProposedBatch_keeps_waiting :
    Keeps scabbardWaiting (Scabbard.removeProposedBatch id) := by
  intro service
  unfold Scabbard.removeProposedBatch
  rw [ends_bind, ends_get]
  split <;> rfl

theorem create_keeps_waiting : Keeps scabbardWaiting (Scabbard.createProposal formats around) := by
  have created (batch : BatchPair) :
      Keeps scabbardWaiting (Scabbard.createFrom formats around batch) := by
    refine Keeps.bind (onState_keeps_waiting _ _) fun hash => ?_
    refine Keeps.bind (Keeps.modify fun _ => rfl) fun _ => ?_
    refine Keeps.get fun service => Keeps.refuse ?_
    refine Keeps.bind (Keeps.forM fun peer => ?_) fun _ => ?_
    · exact (Scabbard.send_keeps_unmailed around _ _ _).map scabbardWaiting
    · exact update_keeps_waiting _
  intro service
  unfold Scabbard.createProposal
  rw [ends_bind, ends_get]
  split
  · exact Keeps.set (created _) rfl
  · exact update_keeps_waiting _ service

theorem check_keeps_waiting : Keeps scabbardWaiting (Scabbard.checkProposal formats around id) := by
  refine Keeps.get fun service => ?_
  split
  · exact Keeps.throw _
  · refine Keeps.bind (onState_keeps_waiting _ _) fun hash => ?_
    split <;> exact update_keeps_waiting _

theorem accept_keeps_waiting : Keeps scabbardWaiting (Scabbard.acceptProposal around id) := by
  refine Keeps.bind (removeProposedBatch_keeps_waiting id) fun _ => ?_
  refine Keeps.bind (onState_keeps_waiting _ _) fun _ => ?_
  exact update_keeps_waiting _

theorem scabbardRespond_waiting {call : Call} {answer : Answer} {before after : Scabbard}
    (responded : Scabbard.respond formats around call before = (answer, after)) :
    scabbardWaiting after = scabbardWaiting before := by
  cases call with
  | createProposal _ _ => exact kept_of_answer (create_keeps_waiting formats around) responded
  | checkProposal id => exact kept_of_answer (check_keeps_waiting formats around id) responded
  | acceptProposal id _ => exact kept_of_answer (accept_keeps_waiting around id) responded
  | rejectProposal id =>
    refine kept_of_answer (Keeps.bind (removeProposedBatch_keeps_waiting id) fun _ => ?_) responded
    exact onState_keeps_waiting _ _
  | sendTo _ _ | broadcast _ =>
    have same := congrArg scabbardWaiting (Scabbard.unmailed_of_network rfl responded)
    exact same

def scabbardCarried : Scabbard.Operation → Option (ServiceMessageContext × ConsensusMessage)
  | .handleMessage context messageBytes =>
    match formats.scabbardMessage.parse messageBytes with
    | .error _ => none
    | .ok message =>
      match message.messageType with
      | .consensusMessage =>
        match formats.consensus.consensusMessage.parse
          message.consensusMessage with
        | .error _ => none
        | .ok consensusMessage => some (context, consensusMessage)
      | _ => none
  | .addBatches _ _ => none

/-- The service messages of a scabbard service carry its consensus
messages. -/
def scabbardRelay : Relay (Scabbard.host formats) where
  carried := scabbardCarried formats
  channels_withChannels _ _ := rfl
  answered := by
    rintro call answer before after ⟨around, responded⟩
    exact scabbardRespond_waiting formats around responded
  operated := by
    rintro operation before after rfl
    have operated := Scabbard.operated_operate formats operation before
    intro entry member
    generalize Scabbard.operate formats operation before = after at operated member
    cases operated with
    | refused _ _ | queued _ => exact Or.inl member
    | registered _ _ =>
      exact Or.inl ((congrArg (entry ∈ ·) (messagesIn_sendUpdate before.consensus _)).mp member)
    | delivered parsed typed read =>
      rcases mem_messagesIn_sendMessage member with earlier | rfl
      · exact Or.inl earlier
      · right
        simp only [scabbardCarried, parsed, typed, read]

end ScabbardRelay

end Splinter.Services
