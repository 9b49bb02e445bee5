import Splinter.Admin.Restart
import Splinter.Circuits.Connecting
import Splinter.Circuits.Ownership

/-!
# The directory of services

Entries are made when circuits are committed, when the node starts and when
services connect, and removed when services disconnect, whichever node they are on.
`directory_complete_iff` says when the services of other nodes stay entered.
-/

namespace Splinter.Admin

open Library Circuits
open Circuits.Protos (Codecs CircuitDirectMessage ServiceDisconnectRequest)
open Service (createMessage)
open AdminServiceShared

inductive DirectoryEvent where
  | received (message : Received)
  | committed (update : CircuitUpdate)
  | restarted

section Completeness

variable (codecs : Codecs) (nodeId endpoint : String)

inductive DirectoryStep : SplinterState → DirectoryEvent → SplinterState → Prop
  | received (message : Received) (before : SplinterState) :
    DirectoryStep before (.received message) (receive codecs nodeId endpoint message before)
  | committed {before after : AdminServiceShared} {update : CircuitUpdate} :
    before.nodeId = nodeId → Commits before update after →
    DirectoryStep before.splinterState (.committed update) after.splinterState
  | restarted {before after : SplinterState} :
    restart nodeId before.circuitDirectory = .ok after → DirectoryStep before .restarted after

def RemoteEntered (state : SplinterState) : Prop :=
  ∀ name circuit, state.circuits.lookup name = some circuit →
    ∀ definition ∈ circuit.roster.toList, nodeId ∉ definition.allowedNodes →
      ∃ service, state.service ⟨name, definition.serviceId⟩ = some service ∧
        service.node.id ∈ definition.allowedNodes

/-- The services of other nodes are entered, and no direct message meets a
service without a peer or a service of another node without an entry. -/
structure DirectoryComplete (state : SplinterState) : Prop where
  entered : RemoteEntered nodeId state
  answered : ∀ msg context, handleCircuitDirectMessage codecs nodeId state msg context ≠ none
  forwarded : ∀ (msg : CircuitDirectMessage) context circuit,
    state.circuit msg.circuit = some circuit → circuit.roster.contains msg.sender = true →
    circuit.roster.contains msg.recipient = true → (state.service (senderId msg)).isSome →
    Remote nodeId state (recipientId msg) →
      ∃ peerId, handleCircuitDirectMessage codecs nodeId state msg context = some
        ⟨peerId, createMessage codecs context.messageBytes .circuitDirectMessage⟩

/-- A request to disconnect a service is not about one that another node runs. -/
def SparesRemote (state : SplinterState) : DirectoryEvent → Prop
  | .received (_, .serviceDisconnect msg) =>
    Listed state msg.circuit msg.serviceId → ¬ Remote nodeId state ⟨msg.circuit, msg.serviceId⟩
  | _ => True

/-- The entry is the one that a request to connect has made, and has stayed
since. -/
def ConnectedBy (id : ServiceId) (service : Service)
    (path : List (SplinterState × DirectoryEvent)) : Prop :=
  ∃ earlier before context msg later,
    path = earlier ++ (before, .received (context, .serviceConnect msg)) :: later ∧
      id = ⟨msg.circuit, msg.serviceId⟩ ∧ before.service id = none ∧
      service.peerId = some context.sourcePeerId ∧
      ∀ visited ∈ later, visited.1.service id = some service

variable {codecs nodeId endpoint} {before after : SplinterState} {event : DirectoryEvent}
  {id : ServiceId} {service : Service}

/-! ## What a step does -/

theorem directory_receive (message : Received) (state : SplinterState) :
    (receive codecs nodeId endpoint message state).circuitDirectory = state.circuitDirectory := by
  obtain ⟨context, request⟩ := message
  cases request with
  | directMessage msg => rfl
  | serviceConnect msg =>
    change (serviceConnectResponse nodeId endpoint state context msg).2.circuitDirectory = _
    rcases unchanged_or_connects with same | ⟨_, added⟩
    · rw [same]
    · rw [added]
      rfl
  | serviceDisconnect msg =>
    change (serviceDisconnectResponse state msg).2.circuitDirectory = _
    unfold serviceDisconnectResponse
    dsimp only
    split
    · split
      · rfl
      · split <;> rfl
    · rfl

variable {msg : ServiceDisconnectRequest} {path : List (SplinterState × DirectoryEvent)}
  {last : SplinterState}

theorem service_of_service_disconnect
    (found : (serviceDisconnectResponse before msg).2.service id = some service) :
    before.service id = some service := by
  unfold serviceDisconnectResponse at found
  dsimp only at found
  split at found
  · split at found
    · rw [service_removeService] at found
      split at found
      · cases found
      · exact found
    · split at found <;> exact found
  · exact found

theorem earlier_or_remote {circuit : Protos.Circuit} {built : Circuit}
    (wellFormed : Unambiguous nodeId circuit)
    (found : (stateWith nodeId circuit built before).service id = some service) :
    before.service id = some service ∨ service.node.id ≠ nodeId := by
  by_cases entered : ∃ defined ∈ circuit.roster,
    id = ⟨circuit.circuitId, defined.serviceId⟩ ∧ nodeId ∉ defined.allowedNodes
  · right
    obtain ⟨defined, listed, rfl, elsewhere⟩ := entered
    obtain ⟨member, isMember, only⟩ := wellFormed.single defined listed
    have other : member.nodeId ≠ nodeId := by simpa [only, eq_comm] using elsewhere
    rw [service_stateWith wellFormed listed isMember only other] at found
    cases found
    exact other
  · left
    rw [← found, service_stateWith_of_unlisted]
    intro defined listed same
    by_contra elsewhere
    exact entered ⟨defined, listed, same, elsewhere⟩

theorem remote_of_restoredEntry {directory : CircuitDirectory} (storable : Storable directory)
    (entry : RestoredEntry nodeId directory id service) : service.node.id ≠ nodeId := by
  obtain ⟨circuit, looked, definition, inRoster, elsewhere, _, member, _, rfl⟩ := entry
  obtain ⟨nonempty, _⟩ := storable.placed _ _ looked definition inRoster
  obtain ⟨first, rest, shape⟩ := List.exists_cons_of_ne_nil nonempty
  rintro rfl
  exact elsewhere (by simp [shape])

/-- An entry was there before, is that of a service of another node, or has been
made for a request to connect. -/
theorem DirectoryStep.service_cases (storable : Storable before.circuitDirectory)
    (step : DirectoryStep codecs nodeId endpoint before event after)
    (found : after.service id = some service) :
    before.service id = some service ∨ service.node.id ≠ nodeId ∨
      ∃ context msg, event = .received (context, .serviceConnect msg) ∧
        id = ⟨msg.circuit, msg.serviceId⟩ ∧ before.service id = none ∧
        service.peerId = some context.sourcePeerId := by
  cases step with
  | received message _ =>
    obtain ⟨context, request⟩ := message
    cases request with
    | directMessage msg => exact Or.inl found
    | serviceDisconnect msg => exact Or.inl (service_of_service_disconnect found)
    | serviceConnect msg =>
      change (serviceConnectResponse nodeId endpoint before context msg).2.service id = _ at found
      rcases unchanged_or_connects with same | connects
      · rw [same] at found
        exact Or.inl found
      · obtain ⟨circuit, ⟨_, _, absent⟩, _⟩ := connects_iff.mp connects
        rw [connects.2, service_addService] at found
        split at found
        · rename_i same
          cases found
          exact Or.inr (Or.inr ⟨context, msg, rfl, same, same ▸ absent, rfl⟩)
        · exact Or.inl found
  | committed isNode commits =>
    obtain ⟨wellFormed, built, _, rfl⟩ := commits.builds
    rw [isNode] at wellFormed found
    rcases earlier_or_remote wellFormed found with earlier | remote
    · exact Or.inl earlier
    · exact Or.inr (Or.inl remote)
  | restarted started =>
    obtain ⟨restarted, started', _, entries⟩ := storable.restart nodeId
    cases started.symm.trans started'
    exact Or.inr (Or.inl (remote_of_restoredEntry storable ((entries id service).mp found)))

theorem DirectoryStep.storable (step : DirectoryStep codecs nodeId endpoint before event after)
    (storable : Storable before.circuitDirectory) : Storable after.circuitDirectory := by
  cases step with
  | received message _ =>
    rw [directory_receive]
    exact storable
  | committed isNode commits =>
    obtain ⟨wellFormed, built, isBuilt, rfl⟩ := commits.builds
    exact storable_stateWith wellFormed isBuilt storable
  | restarted started =>
    obtain ⟨restarted, started', same, _⟩ := storable.restart nodeId
    cases started.symm.trans started'
    rw [same]
    refine ⟨?_, ?_⟩
    all_goals
      intro name circuit looked
      obtain ⟨earlier, found, rfl⟩ := (lookup_mapValues_eq_some_iff _ _ _ _).mp looked
    · exact storable.unique name earlier found
    · intro definition listed
      obtain ⟨nonempty, known⟩ := storable.placed name earlier found definition listed
      rw [node_reloaded, Option.isSome_map]
      exact ⟨nonempty, known⟩

theorem entered_of_commits {shared committed : AdminServiceShared} {update : CircuitUpdate}
    (commits : Commits shared update committed)
    (entered : RemoteEntered shared.nodeId shared.splinterState) :
    RemoteEntered shared.nodeId committed.splinterState := by
  obtain ⟨wellFormed, built, isBuilt, rfl⟩ := commits.builds
  intro name circuit looked definition listed elsewhere
  rw [circuits_stateWith] at looked
  split at looked
  · rename_i same
    cases looked
    rw [roster_of_stateCircuit isBuilt] at listed
    obtain ⟨service, present, rfl⟩ := List.mem_map.mp listed
    obtain ⟨member, isMember, only⟩ := wellFormed.single service present
    have other : member.nodeId ≠ shared.nodeId := by
      simpa [stateService, only, eq_comm] using elsewhere
    rw [same, (parts_of_stateCircuit isBuilt).1]
    refine ⟨_, service_stateWith wellFormed present isMember only other, ?_⟩
    simp [stateService, stateNode, only]
  · rename_i other
    rw [service_stateWith_of_ne ((parts_of_stateCircuit isBuilt).1 ▸ other)]
    exact entered name circuit looked definition listed elsewhere

theorem entered_of_restart (storable : Storable before.circuitDirectory)
    (started : restart nodeId before.circuitDirectory = .ok after) :
    RemoteEntered nodeId after := by
  obtain ⟨restarted, started', same, entries⟩ := storable.restart nodeId
  cases started.symm.trans started'
  intro name circuit looked definition listed elsewhere
  unfold SplinterState.circuits at looked
  rw [same] at looked
  obtain ⟨earlier, found, rfl⟩ := (lookup_mapValues_eq_some_iff _ _ _ _).mp looked
  obtain ⟨nonempty, known⟩ := storable.placed name earlier found definition listed
  obtain ⟨member, located⟩ := Option.isSome_iff_exists.mp known
  refine
    ⟨_, (entries _ _).mpr
      ⟨earlier, found, definition, listed, elsewhere, rfl, member, located, rfl⟩, ?_⟩
  obtain ⟨first, rest, shape⟩ := List.exists_cons_of_ne_nil nonempty
  simp [shape]

theorem entered_of_disconnect_iff {context : MessageContext}
    (entered : RemoteEntered nodeId before) :
    RemoteEntered nodeId (receive codecs nodeId endpoint (context, .serviceDisconnect msg) before) ↔
      SparesRemote nodeId before (.received (context, .serviceDisconnect msg)) := by
  have same := @directory_receive codecs nodeId endpoint (context, .serviceDisconnect msg) before
  unfold RemoteEntered SplinterState.circuits
  rw [same]
  constructor
  · intro kept listed remote
    obtain ⟨circuit, looked, definition, inRoster, elsewhere, sameId⟩ := remote
    obtain ⟨service, found, _⟩ := entered _ _ looked definition inRoster elsewhere
    obtain ⟨other, present, _⟩ := kept _ _ looked definition inRoster elsewhere
    rw [sameId] at found present
    cases present.symm.trans ((service_of_disconnect found).mpr ⟨rfl, listed⟩)
  · intro spares name circuit looked definition inRoster elsewhere
    obtain ⟨service, found, located⟩ := entered _ _ looked definition inRoster elsewhere
    refine ⟨service, ?_, located⟩
    change (serviceDisconnectResponse before msg).2.service _ = _
    cases present : (serviceDisconnectResponse before msg).2.service
      ⟨name, definition.serviceId⟩ with
    | none =>
      obtain ⟨asked, listed⟩ := (service_of_disconnect found).mp present
      refine (spares listed ?_).elim
      rw [← asked]
      exact ⟨circuit, looked, definition, inRoster, elsewhere, rfl⟩
    | some other => rw [← found, service_of_service_disconnect present]

theorem DirectoryStep.entered_iff (storable : Storable before.circuitDirectory)
    (entered : RemoteEntered nodeId before)
    (step : DirectoryStep codecs nodeId endpoint before event after) :
    RemoteEntered nodeId after ↔ SparesRemote nodeId before event := by
  cases step with
  | received message _ =>
    obtain ⟨context, request⟩ := message
    cases request with
    | directMessage msg => exact iff_of_true entered trivial
    | serviceDisconnect msg => exact entered_of_disconnect_iff entered
    | serviceConnect msg =>
      refine iff_of_true ?_ trivial
      intro name circuit looked definition listed elsewhere
      unfold SplinterState.circuits at looked
      rw [directory_receive] at looked
      obtain ⟨service, found, located⟩ := entered _ _ looked definition listed elsewhere
      exact ⟨service, service_of_connect found, located⟩
  | committed isNode commits =>
    subst isNode
    exact iff_of_true (entered_of_commits commits entered) trivial
  | restarted started => exact iff_of_true (entered_of_restart storable started) trivial

/-! ## Whole runs -/

theorem complete_of_entered {state : SplinterState} (entered : RemoteEntered nodeId state)
    (connected : ∀ id service, state.service id = some service → service.node.id = nodeId →
      service.peerId ≠ none) :
    DirectoryComplete codecs nodeId state := by
  have addressed (id service) (found : state.service id = some service) :
      service.address nodeId ≠ none := by
    unfold Service.address
    split
    · exact Option.some_ne_none _
    · rename_i here
      exact connected id service found (not_not.mp here)
  refine ⟨entered, ?_, ?_⟩
  · intro msg context dropped
    have outcome := handled codecs nodeId state msg context
    rw [dropped] at outcome
    cases outcome with
    | dropped _ found unknown => exact addressed _ _ found unknown
  · intro msg context circuit known sender recipient registered remote
    obtain ⟨found, looked, definition, inRoster, elsewhere, sameId⟩ := remote
    obtain ⟨service, present, _⟩ := entered _ _ looked definition inRoster elsewhere
    rw [sameId] at present
    obtain ⟨peerId, address⟩ := Option.ne_none_iff_exists'.mp (addressed _ _ present)
    exact ⟨peerId, forwarded_iff.mpr
      ⟨⟨⟨circuit, known, sender, recipient⟩, registered, Option.isSome_of_eq_some present⟩,
        service, present, address⟩⟩

theorem storable_new : Storable CircuitDirectory.new := by
  refine ⟨?_, ?_⟩
  all_goals
    intro _ _ impossible
    cases impossible

theorem connectedBy_of_run (run : Run (DirectoryStep codecs nodeId endpoint) (.new .new) path last)
    (found : last.service id = some service) (here : service.node.id = nodeId) :
    ConnectedBy id service path := by
  induction run with
  | start => cases found
  | @snoc path state after event earlier step ih =>
    have storable := earlier.invariant storable_new fun _ _ _ held step =>
      DirectoryStep.storable step held
    rcases step.service_cases storable found with before | remote | connected
    · obtain ⟨first, initial, context, msg, later, shape, same, absent, peer, stays⟩ := ih before
      refine ⟨first, initial, context, msg, later ++ [(state, event)], ?_, same, absent, peer, ?_⟩
      · rw [shape, List.append_assoc, List.cons_append]
      · intro visited member
        rcases List.mem_append.mp member with between | final
        · exact stays visited between
        · obtain rfl := List.mem_singleton.mp final
          exact before
    · exact absurd here remote
    · obtain ⟨context, msg, rfl, same, absent, peer⟩ := connected
      exact ⟨_, _, context, msg, [], rfl, same, absent, peer, nofun⟩

/-- Every service of this node has the peer that connected it.  The directory
stays complete exactly if no request disconnects a service that another node
runs. -/
theorem directory_complete_iff (codecs : Codecs) (nodeId endpoint : String)
    (run : Run (DirectoryStep codecs nodeId endpoint) (.new .new) path last) :
    (∀ id service, last.service id = some service → service.node.id = nodeId →
        ConnectedBy id service path) ∧
      (Run.Throughout (DirectoryComplete codecs nodeId) path last ↔
        Run.Meets (SparesRemote nodeId) path) := by
  refine ⟨fun _ _ => connectedBy_of_run run, ?_⟩
  let always (state : SplinterState) : Prop := Storable state.circuitDirectory ∧
    ∀ id service, state.service id = some service → service.node.id = nodeId → service.peerId ≠ none
  have preserved (before event after) (held : always before)
      (step : DirectoryStep codecs nodeId endpoint before event after) : always after := by
    refine ⟨step.storable held.1, fun id service found here => ?_⟩
    rcases step.service_cases held.1 found with earlier | remote | ⟨_, _, _, _, _, peer⟩
    · exact held.2 id service earlier here
    · exact absurd here remote
    · rw [peer]
      exact Option.some_ne_none _
  refine Run.throughout_iff always _ _ run ⟨storable_new, nofun⟩ ?_ preserved ?_
  · exact complete_of_entered nofun nofun
  · intro before event after held complete step
    rw [← step.entered_iff held.1 complete.entered]
    exact ⟨DirectoryComplete.entered, fun entered =>
        complete_of_entered entered (preserved before event after held step).2⟩

end Completeness

/-! ## A service of another node is disconnected -/

/-- The service of node `a` connects. -/
def connectHere : Received := (⟨"peer-a", []⟩, .serviceConnect ⟨"c", "a", ""⟩)

/-- A peer asks node `a` to disconnect the service of node `b`. -/
def disconnectRemote : Received := (⟨"stranger", []⟩, .serviceDisconnect ⟨"c", "b", ""⟩)

theorem complete_after_connect : ∃ path last,
      Run (DirectoryStep .protobuf "a" "tcp://a") (.new .new) path last ∧
        path.map Prod.snd = [.committed firstCircuit, .received connectHere] ∧
        (∀ id service, last.service id = some service → service.node.id = "a" →
          ConnectedBy id service path) ∧
        Run.Throughout (DirectoryComplete .protobuf "a") path last := by
  have committed : (commitCircuit firstCircuit (emptyNode "a")).isSome = true := by decide +kernel
  obtain ⟨committed, commits⟩ := Option.isSome_iff_exists.mp committed
  have run : Run (DirectoryStep .protobuf "a" "tcp://a") (.new .new) _ _ :=
    (Run.start.snoc (.committed rfl commits)).snoc (.received connectHere _)
  have entries := directory_complete_iff .protobuf "a" "tcp://a" run
  refine ⟨_, _, run, rfl, entries.1, entries.2.mpr ?_⟩
  simp [Run.Meets, SparesRemote, connectHere]

/-- A message from the service of `a` to that of `b`. -/
def toRemote : CircuitDirectMessage := ⟨"c", "a", "b", [1], "1"⟩

/-- After the request to disconnect it, the service of `b` is not found. -/
theorem remote_service_forgotten : ∃ path last,
      Run (DirectoryStep .protobuf "a" "tcp://a") (.new .new) path last ∧ path.map Prod.snd =
          [.committed firstCircuit, .received connectHere, .received disconnectRemote] ∧
        last.service ⟨"c", "b"⟩ = none ∧
        handleCircuitDirectMessage .protobuf "a" last toRemote ⟨"peer-a", [1]⟩ =
          some (directMessageError .protobuf toRemote ⟨"peer-a", [1]⟩
            .errorRecipientNotInDirectory "Recipient is not in the service directory: b") := by
  let lastAfter (committed : AdminServiceShared) : SplinterState :=
    receive .protobuf "a" "tcp://a" disconnectRemote
      (receive .protobuf "a" "tcp://a" connectHere committed.splinterState)
  have played : (commitCircuit firstCircuit (emptyNode "a")).any (fun committed =>
        (lastAfter committed).service ⟨"c", "b"⟩ = none &&
        handleCircuitDirectMessage .protobuf "a" (lastAfter committed) toRemote ⟨"peer-a", [1]⟩ =
          some (directMessageError .protobuf toRemote ⟨"peer-a", [1]⟩
            .errorRecipientNotInDirectory "Recipient is not in the service directory: b")) =
      true := by
    decide +kernel
  obtain ⟨committed, commits, checked⟩ := (Option.any_eq_true _ _).mp played
  rw [Bool.and_eq_true, decide_eq_true_eq, decide_eq_true_eq] at checked
  exact ⟨_, _, ((Run.start.snoc (.committed rfl commits)).snoc (.received connectHere _)).snoc
      (.received disconnectRemote _), rfl, checked⟩

end Splinter.Admin
