import Splinter.Library.Channel
import Splinter.Network.PeerMap
import Splinter.Service.Types

/-!
# The connections of a network

Sending looks up the connection, hands the message to the mesh and, if the mesh
reports that the connection is gone, removes the peer; other threads may change
the map between the lookup and the removal.
-/

namespace Splinter.Network

open Library
open Service (ErrorText)

inductive MeshSendError where
  | notFound
  | ioError (source : ErrorText)
  | full
  | disconnected
  deriving DecidableEq

inductive SendError where
  | noPeerError (message : String)
  | meshError (source : MeshSendError)
  deriving DecidableEq

inductive ConnectionError where
  | removeError (message : String)
  deriving DecidableEq

end Splinter.Network

/-- The disconnect listeners are all called with the same peer ids; the one of
the authorization manager sends them to a channel. -/
structure Splinter.Network where
  peers : Splinter.Network.PeerMap
  disconnects : Splinter.Library.Channel String

namespace Splinter.Network

open Library
open Service (ErrorText)

def new : Network where
  peers := .new
  disconnects := .new

def notifyDisconnectListeners (peerId : String) (network : Network) : Network :=
  { network with disconnects := network.disconnects.send peerId }

/-- `add_connection` and `add_peer`: the mesh has given the connection an id. -/
def addPeer (peerId : String) (meshId : Nat) (endpoint : String) (network : Network) : Network :=
  { network with peers := network.peers.insert peerId meshId endpoint }

/-- `remove_connection`, given what the mesh answers to the removal.  The result
of closing the connection is only logged. -/
def removeConnection (meshRemove : Nat → Except ErrorText Unit)
    (peerId : String) : EStateM ConnectionError Network Unit := do
  let network ← get
  let removed := network.peers.remove peerId
  set { network with peers := removed.2 }
  match removed.1 with
  | some meshId =>
    match meshRemove meshId with
    | .error error => throw (.removeError ("Remove Error: " ++ error))
    | .ok _ => modify (notifyDisconnectListeners peerId)
  | none => pure ()

def updatePeerId (oldId newId : String) : EStateM PeerUpdateError Network Unit :=
  zoom Network.peers (fun network peers => { network with peers := peers })
    (PeerMap.update oldId newId)

/-- The first part of `send`: the connection of the peer. -/
def resolve (network : Network) (peerId : String) : Except SendError Nat :=
  match network.peers.getMeshId peerId with
  | some meshId => .ok meshId
  | none => .error (.noPeerError ("Send Error: No peer with peer_id " ++ peerId ++ " found"))

/-- The second part of `send`, after the mesh has tried to send the message. -/
def finishSend (peerId : String) (result : Except MeshSendError Unit) :
    EStateM SendError Network Unit := do
  match result with
  | .ok _ => pure ()
  | .error .disconnected =>
    modify fun network =>
      { network with peers := (network.peers.remove peerId).2 }
    modify (notifyDisconnectListeners peerId)
    throw (.meshError .disconnected)
  | .error error => throw (.meshError error)

/-! ## Losing a connection -/

/-- All that is entered for a connection stays: its peer id, the ids that lead to it, the
endpoint of its peer id and the way back from there. -/
structure Retained (meshId : Nat) (before after : PeerMap) : Prop where
  entry : ∀ peerId, after.peers.getByKey peerId = some meshId ↔
    before.peers.getByKey peerId = some meshId
  named : after.getPeerId meshId = before.getPeerId meshId
  resolved : ∀ peerId, before.getMeshId peerId = some meshId → after.getMeshId peerId = some meshId
  endpoint : ∀ peerId, before.peers.getByKey peerId = some meshId →
    after.endpoints.getByKey peerId = before.endpoints.getByKey peerId ∧
      ∀ endpoint, before.getPeerByEndpoint endpoint = some peerId →
        after.getPeerByEndpoint endpoint = some peerId

/-- The connection has no peer id any more, the listeners have been called once,
with the id that it had, and the entries of all other connections stay. -/
structure Forgotten (meshId : Nat) (before after : Network) : Prop where
  unreachable : ∀ peerId, after.peers.getMeshId peerId ≠ some meshId
  unlisted : ∀ peerId ∈ after.peers.peerIds, after.peers.peers.getByKey peerId ≠ some meshId
  announced : ∃ peerId, before.peers.peers.getByKey peerId = some meshId ∧
    after.disconnects.sent = before.disconnects.sent ++ [peerId]
  others : ∀ other, other ≠ meshId → Retained other before.peers after.peers

/-- The endpoint of the peer does not lead to another peer that has a connection. -/
def OwnEndpoint (map : PeerMap) (peerId : String) : Prop :=
  ∀ endpoint ∈ map.endpoints.getByKey peerId, ∀ other ∈ map.getPeerByEndpoint endpoint,
    other ∈ map.peerIds → other = peerId

theorem finalState_finishSend (network : Network) (peerId : String) :
    finalState (finishSend peerId (.error .disconnected)) network =
      { peers := (network.peers.remove peerId).2
        disconnects := network.disconnects.send peerId } :=
  rfl

variable {network : Network} {peerId : String} {meshId : Nat}

theorem fst_remove (paired : network.peers.peers.Paired) (peerId : String) :
    (network.peers.remove peerId).1 = network.peers.peers.getByKey peerId := by
  unfold PeerMap.remove
  dsimp only
  rw [paired.fst_removeByKey]
  cases network.peers.peers.getByKey peerId <;> rfl

theorem getByKey_remove (map : PeerMap) (peerId other : String) :
    (map.remove peerId).2.peers.getByKey other =
      if other = peerId then none else map.peers.getByKey other :=
  BiHashMap.getByKey_removeByKey _ _ _

theorem run_removeConnection (network : Network)
    (meshRemove : Nat → Except ErrorText Unit) (peerId : String) :
    (removeConnection meshRemove peerId).run network =
      match (network.peers.remove peerId).1 with
      | none => .ok () { network with peers := (network.peers.remove peerId).2 }
      | some meshId =>
        match meshRemove meshId with
        | .ok _ =>
          .ok ()
            { peers := (network.peers.remove peerId).2
              disconnects := network.disconnects.send peerId }
        | .error error =>
          .error (.removeError ("Remove Error: " ++ error))
            { network with peers := (network.peers.remove peerId).2 } := by
  simp only [removeConnection, EStateM.run_bind, EStateM.run_get, EStateM.run_set]
  cases (network.peers.remove peerId).1 with
  | none => rfl
  | some meshId =>
    dsimp only
    cases meshRemove meshId <;> rfl

def Removable (meshRemove : Nat → Except ErrorText Unit) (peerId : String)
    (network : Network) : Prop :=
  ∀ meshId ∈ (network.peers.remove peerId).1, meshRemove meshId = .ok ()

def Announces (meshRemove : Nat → Except ErrorText Unit) (peerId : String)
    (network : Network) : Prop :=
  ∃ meshId ∈ (network.peers.remove peerId).1, meshRemove meshId = .ok ()

instance (meshRemove : Nat → Except ErrorText Unit) (peerId : String)
    (network : Network) : Decidable (Removable meshRemove peerId network) := by
  unfold Removable
  infer_instance

instance (meshRemove : Nat → Except ErrorText Unit) (peerId : String)
    (network : Network) : Decidable (Announces meshRemove peerId network) := by
  unfold Announces
  infer_instance

section Removal

variable (network : Network) (meshRemove : Nat → Except ErrorText Unit) (peerId : String)

theorem removable_iff :
    network.Removable meshRemove peerId ↔
      ∃ after, (removeConnection meshRemove peerId).run network = .ok () after := by
  rw [run_removeConnection]
  unfold Removable
  cases (network.peers.remove peerId).1 with
  | none => simp
  | some meshId => cases answer : meshRemove meshId <;> simp [answer]

theorem peers_removeConnection :
    (finalState (removeConnection meshRemove peerId) network).peers =
      (network.peers.remove peerId).2 := by
  unfold finalState
  rw [run_removeConnection]
  cases (network.peers.remove peerId).1 with
  | none => rfl
  | some meshId =>
    dsimp only
    cases meshRemove meshId <;> rfl

theorem mem_waiting_removeConnection (other : String) :
    other ∈ (finalState (removeConnection meshRemove peerId) network).disconnects.waiting ↔
      other ∈ network.disconnects.waiting ∨
        other = peerId ∧ network.Announces meshRemove peerId := by
  unfold finalState Announces
  rw [run_removeConnection]
  cases (network.peers.remove peerId).1 with
  | none => simp
  | some meshId => cases answer : meshRemove meshId <;> simp [answer, Channel.send]

theorem waiting_removeConnection (other : String)
    (different : other ≠ peerId) :
    other ∈ (finalState (removeConnection meshRemove peerId) network).disconnects.waiting ↔
      other ∈ network.disconnects.waiting := by
  rw [mem_waiting_removeConnection]
  simp [different]

end Removal

theorem disconnects_updatePeerId (network : Network) (oldId newId : String) :
    (finalState (updatePeerId oldId newId) network).disconnects = network.disconnects := by
  have keeps : Keeps Network.disconnects (updatePeerId oldId newId) := Keeps.zoom fun _ _ => rfl
  exact (keeps network).finalState

theorem peers_updatePeerId (network : Network) (oldId newId : String) :
    (finalState (updatePeerId oldId newId) network).peers =
      network.peers.perform (.update oldId newId) := by
  have ends : EndsIn (updatePeerId oldId newId) network fun after =>
      after.peers = network.peers.perform (.update oldId newId) := by
    unfold EndsIn
    rw [updatePeerId, ends_zoom]
    refine (ends_run _ _).mono (fun _ _ ran => ?_) fun _ _ ran => ?_
    · exact (finalState_of_ok ran).symm
    · exact (finalState_of_error ran).symm
  exact ends.finalState

theorem ends_updatePeerId (network : Network)
    (paired : network.peers.peers.Paired) (oldId newId : String) :
    Ends (updatePeerId oldId newId) network
      (fun _ _ => ∃ meshId, network.peers.peers.getByKey oldId = some meshId)
      fun _ _ => network.peers.peers.getByKey oldId = none := by
  rw [updatePeerId, ends_zoom, PeerMap.update, ends_bind, ends_get]
  have removed := paired.fst_removeByKey oldId
  generalize network.peers.peers.removeByKey oldId = outcome at removed
  obtain ⟨entry, remaining⟩ := outcome
  dsimp only at removed
  rw [removed]
  cases found : network.peers.peers.getByKey oldId with
  | none => rfl
  | some meshId => exact ⟨meshId, rfl⟩

theorem retained_remove {map : PeerMap} {other : Nat}
    (entry : map.peers.getByKey peerId = some meshId) (own : OwnEndpoint map peerId)
    (different : other ≠ meshId) :
    Retained other map (map.remove peerId).2 := by
  have apart : ∀ present, map.peers.getByKey present = some other → present ≠ peerId := by
    rintro present found rfl
    exact different (Option.some.inj (found.symm.trans entry))
  refine ⟨fun present => ?_, ?_, fun present resolved => ?_, fun present found => ⟨?_, ?_⟩⟩
  · rw [getByKey_remove]
    split
    · rename_i same
      rw [same, entry]
      simp [Ne.symm different]
    · rfl
  · refine (BiHashMap.getByValue_removeByKey _ _ _).trans (if_neg ?_)
    rw [entry]
    simp [Ne.symm different]
  · rw [PeerMap.getMeshId, Option.or_eq_some_iff] at resolved ⊢
    rcases resolved with redirected | ⟨unredirected, direct⟩
    · obtain ⟨target, led, found⟩ := Option.bind_eq_some_iff.mp redirected
      refine Or.inl (Option.bind_eq_some_iff.mpr ⟨target, ?_, ?_⟩)
      · exact (lookup_retain_eq_some_iff _ _ _ _).mpr ⟨led, decide_eq_true (apart target found)⟩
      · rw [getByKey_remove, if_neg (apart target found)]
        exact found
    · refine Or.inr ⟨Option.bind_eq_none_iff.mpr fun target led => ?_, ?_⟩
      · have absent := Option.bind_eq_none_iff.mp unredirected target
          ((lookup_retain_eq_some_iff _ _ _ _).mp led).1
        rw [getByKey_remove]
        split
        · rfl
        · exact absent
      · rw [getByKey_remove, if_neg (apart present direct)]
        exact direct
  · exact (BiHashMap.getByKey_removeByKey _ _ _).trans (if_neg (apart present found))
  · intro endpoint leads
    refine (BiHashMap.getByValue_removeByKey _ _ _).trans ((if_neg ?_).trans leads)
    intro held
    exact apart present found
      (own endpoint held present leads ((PeerMap.mem_peerIds_iff _ _).mpr ⟨other, found⟩))

/-- Removing a peer forgets a connection exactly if it is the entry of the peer, the peer's
endpoint is its own and the removal is announced. -/
theorem forgotten_remove_iff (paired : network.peers.peers.Paired) (disconnects : Channel String) :
    Forgotten meshId network ⟨(network.peers.remove peerId).2, disconnects⟩ ↔
      (network.peers.peers.getByKey peerId = some meshId ∧ OwnEndpoint network.peers peerId) ∧
        disconnects.sent = network.disconnects.sent ++ [peerId] := by
  constructor
  · intro forgotten
    obtain ⟨announced, entry, sent⟩ := forgotten.announced
    have same : announced = peerId := by
      by_contra different
      have kept : (network.peers.remove peerId).2.peers.getByKey announced = some meshId := by
        rw [getByKey_remove, if_neg different]
        exact entry
      exact forgotten.unlisted announced ((PeerMap.mem_peerIds_iff _ _).mpr ⟨meshId, kept⟩) kept
    rw [same] at entry sent
    refine ⟨⟨entry, fun endpoint held other leads present => ?_⟩, sent⟩
    -- otherwise the removal takes the way back to the other peer
    by_contra different
    obtain ⟨otherMesh, found⟩ := (PeerMap.mem_peerIds_iff _ _).mp present
    have apart : otherMesh ≠ meshId := fun equal =>
      different (paired.injective (equal ▸ found) entry)
    have kept := ((forgotten.others otherMesh apart).endpoint other found).2 endpoint leads
    have gone : (network.peers.remove peerId).2.getPeerByEndpoint endpoint = none :=
      (BiHashMap.getByValue_removeByKey _ _ _).trans (if_pos held)
    cases gone.symm.trans kept
  · intro removed
    obtain ⟨⟨entry, own⟩, sent⟩ := removed
    have gone : ∀ other, (network.peers.remove peerId).2.peers.getByKey other ≠ some meshId := by
      intro other found
      rw [getByKey_remove] at found
      split at found
      · cases found
      · rename_i different
        exact different (paired.injective found entry)
    refine ⟨?_, fun other _ => gone other, ⟨peerId, entry, sent⟩,
      fun _ => retained_remove entry own⟩
    intro other reached
    unfold PeerMap.getMeshId at reached
    rcases Option.or_eq_some_iff.mp reached with redirected | direct
    · obtain ⟨target, _, found⟩ := Option.bind_eq_some_iff.mp redirected
      exact gone target found
    · exact gone other direct.2

/-- A network whose peer map has been reached by some history. -/
def Reached (network : Network) : Prop :=
  ∃ path last, Run Peers.Step .new path last ∧ network.peers = last.map

theorem Reached.paired (reached : network.Reached) : network.peers.peers.Paired := by
  obtain ⟨path, last, run, same⟩ := reached
  have recorded : last.Recorded := run.invariant Peers.recorded_new fun _ _ _ => Peers.Recorded.step
  rw [same]
  exact recorded.paired

/-- Let a peer id resolve to a connection.  After a failed send, the connection
is forgotten as it should be exactly if the id is its entry in the network at
the time of the removal, whatever has happened since the lookup, and the endpoint
of the id leads to no other peer; after `remove_connection`, exactly if the mesh
could remove it, too. -/
theorem connection_forgotten_iff (reached : network.Reached) (peerId : String) (meshId : Nat) :
    (Forgotten meshId network (finalState (finishSend peerId (.error .disconnected)) network) ↔
      network.peers.peers.getByKey peerId = some meshId ∧ OwnEndpoint network.peers peerId) ∧
      ∀ meshRemove, Forgotten meshId network
            (finalState (removeConnection meshRemove peerId) network) ↔
          (network.peers.peers.getByKey peerId = some meshId ∧
            OwnEndpoint network.peers peerId) ∧ meshRemove meshId = .ok () := by
  refine ⟨?_, ?_⟩
  · rw [finalState_finishSend, forgotten_remove_iff reached.paired]
    exact and_iff_left (Channel.sent_send peerId network.disconnects)
  · intro meshRemove
    have unannounced : ¬ Forgotten meshId network
          { network with peers := (network.peers.remove peerId).2 } := by
      rw [forgotten_remove_iff reached.paired]
      simp
    unfold finalState
    rw [run_removeConnection, fst_remove reached.paired]
    cases entry : network.peers.peers.getByKey peerId with
    | none =>
      apply iff_of_false unannounced
      rintro ⟨⟨present, _⟩, _⟩
      cases present
    | some found =>
      dsimp only
      cases answer : meshRemove found with
      | ok _ =>
        dsimp only
        rw [forgotten_remove_iff reached.paired, entry, Channel.sent_send]
        constructor
        · intro own
          cases own.1.1
          exact ⟨own.1, answer⟩
        · intro own
          exact ⟨own.1, rfl⟩
      | error error =>
        apply iff_of_false unannounced
        intro own
        cases own.1.1
        cases answer.symm.trans own.2

def networkAfter (operations : List PeerMap.Operation) : Network where
  peers := (Run.follow Peers.perform operations .new).2.map
  disconnects := .new

theorem reached_networkAfter (operations : List PeerMap.Operation)
    (fresh : Run.Meets Peers.Fresh (Run.follow Peers.perform operations .new).1) :
    (networkAfter operations).Reached :=
  ⟨_, _, Peers.run_of_fresh operations fresh, rfl⟩

def identified : List PeerMap.Operation := [.insert "temp" 0 "tcp://one", .update "temp" "a"]

/-- A connection that is removed and opened again. -/
def reconnecting : List PeerMap.Operation :=
  [.insert "a" 0 "tcp://one", .remove "a", .insert "a" 1 "tcp://one"]

def doubled : List PeerMap.Operation := [.insert "a" 0 "tcp://one", .insert "b" 1 "tcp://one"]

/-- A send to the old id of a connection leaves its entry and announces the old
id; removing the old id does nothing.  A send that fails after the peer has
reconnected removes the new connection.  A connection that the mesh cannot
remove is not announced.  Where two connections have one endpoint, losing the first takes the
endpoint from the second. -/
theorem lost_connections_mishandled :
    ((networkAfter identified).Reached ∧ resolve (networkAfter identified) "temp" = .ok 0 ∧
        (finalState (finishSend "temp" (.error .disconnected))
          (networkAfter identified)).peers.getMeshId "a" = some 0 ∧
        (finalState (finishSend "temp" (.error .disconnected))
          (networkAfter identified)).disconnects.sent = ["temp"] ∧
        (finalState (removeConnection (fun _ => .ok ()) "temp")
          (networkAfter identified)).peers.getMeshId "a" = some 0 ∧
        (finalState (removeConnection (fun _ => .ok ()) "temp")
          (networkAfter identified)).disconnects.sent = []) ∧
      ((networkAfter reconnecting).Reached ∧
        resolve (networkAfter [.insert "a" 0 "tcp://one"]) "a" = .ok 0 ∧
        resolve (networkAfter reconnecting) "a" = .ok 1 ∧
        (finalState (finishSend "a" (.error .disconnected))
          (networkAfter reconnecting)).peers.getMeshId "a" = none) ∧
      (finalState (removeConnection (fun _ => .error "NotFound") "a")
        (networkAfter [.insert "a" 0 "tcp://one"])).peers.getMeshId "a" = none ∧
      (finalState (removeConnection (fun _ => .error "NotFound") "a")
        (networkAfter [.insert "a" 0 "tcp://one"])).disconnects.sent = [] ∧
      (networkAfter doubled).Reached ∧
        (networkAfter doubled).peers.getPeerByEndpoint "tcp://one" = some "b" ∧
        (finalState (finishSend "a" (.error .disconnected))
          (networkAfter doubled)).peers.getPeerByEndpoint "tcp://one" = none := by
  refine ⟨⟨reached_networkAfter identified ?_, ?_⟩, ⟨reached_networkAfter reconnecting ?_, ?_⟩,
    ?_, ?_, reached_networkAfter doubled ?_, ?_⟩
  all_goals decide +kernel

theorem current_connection_forgotten : (networkAfter identified).Reached ∧
      Forgotten 0 (networkAfter identified)
        (finalState (finishSend "a" (.error .disconnected)) (networkAfter identified)) ∧
      Forgotten 0 (networkAfter identified)
        (finalState (removeConnection (fun _ => .ok ()) "a") (networkAfter identified)) := by
  have reached : (networkAfter identified).Reached :=
    reached_networkAfter identified (by decide +kernel)
  have entry : (networkAfter identified).peers.peers.getByKey "a" = some 0 ∧
      OwnEndpoint (networkAfter identified).peers "a" := by
    unfold OwnEndpoint
    decide +kernel
  exact
    ⟨reached, (connection_forgotten_iff reached "a" 0).1.mpr entry,
      ((connection_forgotten_iff reached "a" 0).2 fun _ => .ok ()).mpr ⟨entry, rfl⟩⟩

end Splinter.Network
