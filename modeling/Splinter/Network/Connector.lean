import Splinter.Network.Authorization

/-!
# Connecting to a peer

`PeerConnector` over a `RawTransport`.  Whether a peer is connected already is looked
up by the endpoint as the caller writes it, but the endpoint that is entered is the one
that the new connection reports.
-/

namespace Splinter.Network

open Library PeerMap BiHashMap
open Service (ErrorText)

namespace RawTransport

def protocol : String := "tcp://"

def hasProtocol (address : String) : Bool := protocol.toList.isPrefixOf address.toList

def accepts (address : String) : Bool := hasProtocol address || !containsText "://" address

/-- The remote endpoint of the connection, given the socket addresses of the peers that
can be reached. -/
def connect (reach : String → Except ErrorText String) (endpoint : String) :
    Except ErrorText String :=
  if accepts endpoint then
    (reach (if hasProtocol endpoint then String.ofList (endpoint.toList.drop 6) else endpoint)).map
      fun address => "tcp://" ++ address
  else .error ("ProtocolError(\"Invalid protocol \\\"" ++ endpoint ++ "\\\"\")")

end RawTransport

structure PeerConnectorErrorInfo where
  nodeId : String
  message : String

inductive PeerConnectorError where
  | connectionFailed (info : PeerConnectorErrorInfo)
  | addPeerFailed (info : PeerConnectorErrorInfo)

/-- What a call learns from the operating system and from the mesh. -/
structure Outside where
  reach : String → Except ErrorText String
  meshAdd : Except ErrorText Nat
  temporaryId : String
  meshSend : Except MeshSendError Unit
  debug : SendError → ErrorText

/-- A connector remembers here the connections it has opened, by their remote endpoints,
and the mesh ids that a ConnectRequest was sent to. -/
structure PeerConnector where
  network : Network
  opened : List String
  requested : List Nat

namespace PeerConnector

inductive Call where
  | connectPeer (nodeId endpoint : String)
  | connectUnidentifiedPeer (endpoint : String)

def Call.endpoint : Call → String
  | .connectPeer _ endpoint | .connectUnidentifiedPeer endpoint => endpoint

/-- The id of the new peer. -/
def Call.peerId (outside : Outside) : Call → String
  | .connectPeer nodeId _ => nodeId
  | .connectUnidentifiedPeer _ => outside.temporaryId

/-- The id that errors name. -/
def Call.errorId : Call → String
  | .connectPeer nodeId _ => nodeId
  | .connectUnidentifiedPeer endpoint => endpoint

/-- `Network::send` of a ConnectRequest. -/
def sendRequest (outside : Outside) (peerId : String) (connector : PeerConnector) :
    Except SendError Unit × PeerConnector :=
  match connector.network.resolve peerId with
  | .error error => (.error error, connector)
  | .ok meshId =>
    match (finishSend peerId outside.meshSend).run connector.network with
    | .error error network => (.error error, { connector with network := network })
    | .ok _ network =>
      (.ok (), { connector with network := network, requested := connector.requested ++ [meshId] })

/-- `connect_peer` and `connect_unidentified_peer`. -/
def perform (outside : Outside) (call : Call) (connector : PeerConnector) :
    Except PeerConnectorError Unit × PeerConnector :=
  if (connector.network.peers.getPeerByEndpoint call.endpoint).isSome then (.ok (), connector)
  else
    match RawTransport.connect outside.reach call.endpoint with
    | .error error => (.error (.connectionFailed ⟨call.errorId, error⟩), connector)
    | .ok remote =>
      let connected := { connector with opened := connector.opened ++ [remote] }
      match outside.meshAdd with
      | .error error => (.error (.addPeerFailed ⟨call.errorId, error⟩), connected)
      | .ok meshId =>
        let peerId := call.peerId outside
        let sent := sendRequest outside peerId
          { connected with network := connector.network.addPeer peerId meshId remote }
        (sent.1.mapError fun error =>
          .connectionFailed
            ⟨call.errorId, "unable to send connect request: " ++ outside.debug error⟩,
          sent.2)

/-! ## Repeated calls -/

/-- Whether the endpoint is entered. -/
def Known (endpoint : String) (map : PeerMap) : Prop :=
  (map.getPeerByEndpoint endpoint).isSome = true

/-- No call for the endpoint opens a connection. -/
def OpensNothing (endpoint : String) (map : PeerMap) : Prop :=
  ∀ outside call connector, Call.endpoint call = endpoint → connector.network.peers = map →
    (perform outside call connector).2.opened = connector.opened

/-- The operation does not remove a peer at the endpoint. -/
def Spares (endpoint : String) (map : PeerMap) : PeerMap.Operation → Prop
  | .remove peerId => map.endpoints.getByKey peerId ≠ some endpoint
  | .insert .. | .update .. => True

/-- The operation does not close the connection. -/
def KeepsAlive (meshId : Nat) (map : PeerMap) : PeerMap.Operation → Prop
  | .remove peerId => map.peers.getByKey peerId ≠ some meshId
  | .insert .. | .update .. => True

/-- The operation closes no other connection that has taken the endpoint. -/
def SparesOthers (endpoint : String) (meshId : Nat) (map : PeerMap) : PeerMap.Operation → Prop
  | .remove peerId =>
    map.endpoints.getByKey peerId = some endpoint → map.peers.getByKey peerId = some meshId
  | .insert .. | .update .. => True

variable {endpoint : String} {map : PeerMap}

theorem spares_of_alive {meshId : Nat} {operation : PeerMap.Operation}
    (alive : KeepsAlive meshId map operation)
    (others : SparesOthers endpoint meshId map operation) :
    Spares endpoint map operation := by
  cases operation with
  | remove peerId => exact fun held => alive (others held)
  | insert | update => trivial

theorem known_moveEndpoint {endpoints : BiHashMap String String} {endpoint : String}
    (oldPeerId newPeerId : String) (known : (endpoints.getByValue endpoint).isSome = true) :
    ((PeerMap.moveEndpoint oldPeerId newPeerId endpoints).getByValue endpoint).isSome = true := by
  have removed := endpoints.getByValue_removeByKey oldPeerId endpoint
  unfold moveEndpoint
  split
  · rename_i moved remaining outcome
    have held := getByKey_of_removeByKey (congrArg Prod.fst outcome)
    rw [outcome, held] at removed
    rw [getByValue_insert]
    split
    · rfl
    · rename_i different
      rw [removed, if_neg fun same => different (Option.some.inj same).symm]
      exact known
  · rename_i remaining outcome
    rw [outcome] at removed
    rw [removed, if_neg]
    · exact known
    · intro held
      -- an endpoint that is removed with its peer is not lost on the way
      have lost := congrArg Prod.fst outcome
      simp only [removeByKey, held, Option.map_eq_none_iff] at lost
      rw [lost] at known
      cases known

theorem known_perform_iff (known : Known endpoint map) (operation : PeerMap.Operation) :
    Known endpoint (map.perform operation) ↔ Spares endpoint map operation := by
  cases operation with
  | insert peerId meshId other =>
    refine iff_of_true ?_ trivial
    change ((map.endpoints.insert peerId other).2.getByValue endpoint).isSome = true
    rw [getByValue_insert]
    split
    · rfl
    · exact known
  | update oldPeerId newPeerId =>
    refine iff_of_true ?_ trivial
    have ends : EndsIn (update oldPeerId newPeerId) map (Known endpoint) := by
      rw [update, EndsIn, ends_bind, ends_get]
      split
      · exact known_moveEndpoint oldPeerId newPeerId known
      · exact known
    exact ends.finalState
  | remove peerId =>
    change ((map.endpoints.removeByKey peerId).2.getByValue endpoint).isSome = true ↔ _
    rw [getByValue_removeByKey]
    by_cases held : map.endpoints.getByKey peerId = some endpoint
    · simp [Spares, held]
    · rw [if_neg held]
      exact iff_of_true known held

/-- What a call comes to that has opened a connection and added it to the mesh. -/
structure Added (outside : Outside) (peerId : String) (meshId : Nat) (remote : String)
    (before : PeerConnector) (outcome : Except PeerConnectorError Unit × PeerConnector) : Prop where
  opened : outcome.2.opened = before.opened ++ [remote]
  sent : outside.meshSend = .ok () → outcome.1 = .ok () ∧
    outcome.2.network.peers = before.network.peers.insert peerId meshId remote ∧
    ∃ target, outcome.2.requested = before.requested ++ [target] ∧
      (before.network.peers.redirects.lookup peerId = none → target = meshId)
  failed : ∀ error, outside.meshSend = .error error → outcome.1 ≠ .ok () ∧ outcome.2.network.peers =
    if error = .disconnected then
      ((before.network.peers.insert peerId meshId remote).remove peerId).2
    else before.network.peers.insert peerId meshId remote

variable {outside : Outside} {call : Call} {connector : PeerConnector} {remote : String}

theorem resolve_addPeer (network : Network) (peerId : String) (meshId : Nat) (remote : String) :
    ∃ target, (network.addPeer peerId meshId remote).resolve peerId = .ok target ∧
      (network.peers.redirects.lookup peerId = none → target = meshId) := by
  have found : (network.addPeer peerId meshId remote).peers.getMeshId peerId =
      ((network.peers.redirects.lookup peerId).bind
        (network.peers.peers.insert peerId meshId).2.getByKey).or (some meshId) := by
    simp [PeerMap.getMeshId, addPeer, PeerMap.insert]
  unfold resolve
  rw [found]
  cases redirected : (network.peers.redirects.lookup peerId).bind
      (network.peers.peers.insert peerId meshId).2.getByKey with
  | none => exact ⟨meshId, rfl, fun _ => rfl⟩
  | some target =>
    refine ⟨target, rfl, fun direct => ?_⟩
    rw [direct] at redirected
    cases redirected

variable {meshId : Nat} {peerId : String}

theorem added_perform (unknown : ¬ Known call.endpoint connector.network.peers)
    (connects : RawTransport.connect outside.reach call.endpoint = .ok remote)
    (adds : outside.meshAdd = .ok meshId) :
    Added outside (call.peerId outside) meshId remote connector
      (perform outside call connector) := by
  obtain ⟨target, resolved, direct⟩ :=
    resolve_addPeer connector.network (call.peerId outside) meshId remote
  unfold Known at unknown
  simp only [perform, if_neg unknown, connects, adds, sendRequest, resolved]
  refine ⟨?_, ?_, ?_⟩
  · cases outside.meshSend with
    | ok _ => rfl
    | error error => cases error <;> rfl
  · intro sends
    rw [sends]
    exact ⟨rfl, rfl, target, rfl, direct⟩
  · intro error fails
    rw [fails]
    cases error <;> exact ⟨nofun, rfl⟩

theorem opensNothing_iff
    (connects : RawTransport.connect outside.reach call.endpoint = .ok remote) :
    OpensNothing call.endpoint map ↔ Known call.endpoint map := by
  constructor
  · intro closed
    by_contra unknown
    have added := @added_perform { outside with meshAdd := .ok 0 } call ⟨⟨map, .new⟩, [], []⟩
      remote 0 unknown connects rfl
    cases added.opened.symm.trans (closed _ _ _ rfl rfl)
  · rintro known later other connector same rfl
    unfold Known at known
    rw [perform, if_pos (same ▸ known)]

/-! ## Calls that fail -/

theorem removeByKey_insert_eq_self_iff {Value : Type} [DecidableEq Value]
    {pairs : BiHashMap String Value} {key : String} {value : Value} :
    ((pairs.insert key value).2.removeByKey key).2 = pairs ↔
      pairs.getByKey key = none ∧ pairs.getByValue value = none := by
  have inserted : (pairs.insert key value).2.getByKey key = some value := by simp
  constructor
  · intro same
    constructor <;> rw [← same]
    · simp
    · rw [getByValue_removeByKey, if_pos inserted]
  · rintro ⟨noValue, noKey⟩
    simp only [removeByKey, inserted]
    congr 1
    all_goals
      refine Finmap.ext_lookup fun other => ?_
      rw [lookup_erase_eq]
      split
      · rename_i same
        rw [same]
        first | exact noValue.symm | exact noKey.symm
      · rename_i different
        exact Finmap.lookup_insert_of_ne _ different

theorem retain_eq_self_iff {redirects : Finmap fun _ : String => String} :
    retain (fun target => target ≠ peerId) redirects = redirects ↔
      ∀ other, redirects.lookup other ≠ some peerId := by
  constructor
  · intro same other found
    rw [← same, lookup_retain_eq_some_iff] at found
    simp at found
  · intro untargeted
    refine Finmap.ext_lookup fun other => Option.ext fun target => ?_
    rw [lookup_retain_eq_some_iff]
    refine and_iff_left_of_imp fun found => decide_eq_true fun same => ?_
    exact untargeted other (same ▸ found)

/-- Neither the peer id nor the endpoint is entered, and nothing is redirected to the id. -/
structure Unentered (peerId remote : String) (map : PeerMap) : Prop where
  peer : map.peers.getByKey peerId = none
  endpoint : map.endpoints.getByKey peerId = none
  remote : map.endpoints.getByValue remote = none
  redirects : ∀ other, map.redirects.lookup other ≠ some peerId

theorem remove_insert_eq_self_iff (fresh : map.getPeerId meshId = none) :
    ((map.insert peerId meshId remote).remove peerId).2 = map ↔ Unentered peerId remote map := by
  obtain ⟨peers, redirects, endpoints⟩ := map
  unfold PeerMap.remove PeerMap.insert
  rw [PeerMap.mk.injEq, removeByKey_insert_eq_self_iff, removeByKey_insert_eq_self_iff,
    retain_eq_self_iff]
  constructor
  · rintro ⟨⟨peer, _⟩, untargeted, endpoint, remote⟩
    exact ⟨peer, endpoint, remote, untargeted⟩
  · rintro ⟨peer, endpoint, remote, untargeted⟩
    exact ⟨⟨peer, fresh⟩, untargeted, endpoint, remote⟩

def Refused (outside : Outside) (call : Call) : Prop :=
  (∃ error, RawTransport.connect outside.reach call.endpoint = .error error) ∨
    ∃ error, outside.meshAdd = .error error

/-- The connection was lost when the request was sent, and nothing but it was known of the
peer. -/
def Dropped (outside : Outside) (call : Call) (map : PeerMap) : Prop :=
  outside.meshSend = .error .disconnected ∧
    ∀ remote, RawTransport.connect outside.reach call.endpoint = .ok remote →
      Unentered (call.peerId outside) remote map

variable (unknown : ¬ Known call.endpoint connector.network.peers)
include unknown

theorem refused_or_added :
    (Refused outside call ∧ (perform outside call connector).1 ≠ .ok () ∧
      (perform outside call connector).2.network = connector.network) ∨
      ∃ remote meshId, RawTransport.connect outside.reach call.endpoint = .ok remote ∧
        outside.meshAdd = .ok meshId ∧
        Added outside (call.peerId outside) meshId remote connector
          (perform outside call connector) := by
  have closed := unknown
  unfold Known at closed
  cases connects : RawTransport.connect outside.reach call.endpoint with
  | error error =>
    simp only [perform, if_neg closed, connects]
    exact Or.inl ⟨Or.inl ⟨error, connects⟩, nofun, trivial⟩
  | ok remote =>
    cases adds : outside.meshAdd with
    | error error =>
      simp only [perform, if_neg closed, connects, adds]
      exact Or.inl ⟨Or.inr ⟨error, adds⟩, nofun, trivial⟩
    | ok meshId => exact Or.inr ⟨remote, meshId, rfl, rfl, added_perform unknown connects adds⟩

theorem repeated_iff (connects : RawTransport.connect outside.reach call.endpoint = .ok remote)
    {path : List (PeerMap × PeerMap.Operation)} {last : PeerMap}
    (run : Run (fun before operation after => after = PeerMap.perform operation before)
      (connector.network.peers.insert peerId meshId remote) path last) :
    Run.Throughout (OpensNothing call.endpoint) path last ↔
      call.endpoint = remote ∧ Run.Meets (Spares call.endpoint) path := by
  have same : OpensNothing call.endpoint = Known call.endpoint :=
    funext fun _ => propext (opensNothing_iff connects)
  have entered : Known call.endpoint (connector.network.peers.insert peerId meshId remote) ↔
      call.endpoint = remote := by
    change ((connector.network.peers.endpoints.insert peerId remote).2.getByValue _).isSome = _ ↔ _
    rw [getByValue_insert]
    split
    · simpa
    · rename_i different
      exact iff_of_false unknown different
  rw [same]
  constructor
  · intro throughout
    have known := throughout.initially run
    refine ⟨entered.mp known, ?_⟩
    exact (Run.forall_states_iff _ _ run known
      fun _ operation _ held taken => taken ▸ known_perform_iff held operation).mp throughout
  · rintro ⟨exactly, spared⟩
    exact (Run.forall_states_iff _ _ run (entered.mpr exactly)
      fun _ operation _ held taken => taken ▸ known_perform_iff held operation).mpr spared

theorem unchanged_iff (fresh : ∀ meshId, outside.meshAdd = .ok meshId →
    connector.network.peers.getPeerId meshId = none)
    (failed : (perform outside call connector).1 ≠ .ok ()) :
    (perform outside call connector).2.network.peers = connector.network.peers ↔
      Refused outside call ∨ Dropped outside call connector.network.peers := by
  rcases refused_or_added unknown with ⟨refused, _, same⟩ | ⟨remote, meshId, connects, adds, added⟩
  · exact iff_of_true (congrArg Network.peers same) (Or.inl refused)
  · have taken : ¬ Refused outside call := by
      unfold Refused
      rw [connects, adds]
      simp
    rw [or_iff_right taken]
    unfold Dropped
    cases sends : outside.meshSend with
    | ok _ => exact (failed (added.sent sends).1).elim
    | error error =>
      rw [(added.failed error sends).2, connects]
      by_cases lost : error = .disconnected
      · rw [if_pos lost, remove_insert_eq_self_iff (fresh meshId adds), lost]
        simp
      · rw [if_neg lost]
        refine iff_of_false (fun same => ?_) (by simp [lost])
        have bound := fresh meshId adds
        rw [← same] at bound
        simp [PeerMap.getPeerId, PeerMap.insert] at bound

/-- A call for an unknown endpoint that returns has sent its request over a new connection.  While
this connection is alive, no further call opens one if the endpoint is what the connection
reports and no other peer with it is removed.  A call that fails leaves the peers unchanged
only if it was refused or its connection dropped, and can then be repeated. -/
theorem connecting_settled (fresh : ∀ meshId, outside.meshAdd = .ok meshId →
      connector.network.peers.getPeerId meshId = none) :
    let outcome := perform outside call connector
    (outcome.1 = .ok () → ∃ remote meshId target,
      RawTransport.connect outside.reach call.endpoint = .ok remote ∧
        outside.meshAdd = .ok meshId ∧ outcome.2.requested = connector.requested ++ [target] ∧
        (connector.network.peers.redirects.lookup (call.peerId outside) = none →
          target = meshId) ∧
        ∀ path last, Run (fun before operation after => after = PeerMap.perform operation before)
          outcome.2.network.peers path last →
            (Run.Throughout (OpensNothing call.endpoint) path last ↔
              call.endpoint = remote ∧ Run.Meets (Spares call.endpoint) path) ∧
            (Run.Meets (KeepsAlive meshId) path → call.endpoint = remote →
              Run.Meets (SparesOthers call.endpoint meshId) path →
                Run.Throughout (OpensNothing call.endpoint) path last)) ∧
    (outcome.1 ≠ .ok () →
      (outcome.2.network.peers = connector.network.peers ↔
        Refused outside call ∨ Dropped outside call connector.network.peers) ∧
      (outcome.2.network.peers = connector.network.peers →
        ∀ later remote meshId, RawTransport.connect later.reach call.endpoint = .ok remote →
          later.meshAdd = .ok meshId → later.meshSend = .ok () →
            (perform later call outcome.2).1 = .ok () ∧
              (perform later call outcome.2).2.opened = outcome.2.opened ++ [remote] ∧
              ∃ target, (perform later call outcome.2).2.requested =
                outcome.2.requested ++ [target] ∧
                (outcome.2.network.peers.redirects.lookup (call.peerId later) = none →
                  target = meshId))) := by
  intro outcome
  refine ⟨?_, fun failed => ⟨unchanged_iff unknown fresh failed, ?_⟩⟩
  · intro returned
    rcases refused_or_added unknown with ⟨_, failed, _⟩ | ⟨remote, meshId, connects, adds, added⟩
    · exact (failed returned).elim
    · cases sends : outside.meshSend with
      | error error => exact ((added.failed error sends).1 returned).elim
      | ok _ =>
        obtain ⟨_, entered, target, requested, direct⟩ := added.sent sends
        refine ⟨remote, meshId, target, connects, adds, requested, direct, fun path last run => ?_⟩
        rw [entered] at run
        have settled := repeated_iff unknown connects run
        refine ⟨settled, fun alive exactly others => settled.mpr ⟨exactly, ?_⟩⟩
        exact fun visited member => spares_of_alive (alive visited member) (others visited member)
  · intro same later remote meshId connects adds sends
    have added := added_perform (same ▸ unknown) connects adds
    obtain ⟨returned, _, requested⟩ := added.sent sends
    exact ⟨returned, added.opened, requested⟩

omit unknown

def reachable : Outside where
  reach address := .ok address
  meshAdd := .ok 0
  temporaryId := "temp-0"
  meshSend := .ok ()
  debug _ := ""

def unconnected : PeerConnector := ⟨.new, [], []⟩

theorem reachable_peer_connected_once :
    (perform reachable (.connectPeer "beta" "tcp://127.0.0.1:8000") unconnected).1 = .ok () ∧
      ∀ path last, Run (fun before operation after => after = PeerMap.perform operation before)
          (perform reachable (.connectPeer "beta" "tcp://127.0.0.1:8000")
            unconnected).2.network.peers path last →
        Run.Meets (KeepsAlive 0) path → Run.Meets (SparesOthers "tcp://127.0.0.1:8000" 0) path →
          Run.Throughout (OpensNothing "tcp://127.0.0.1:8000") path last := by
  refine ⟨rfl, fun path last run alive others => ?_⟩
  have unknown : ¬ Known "tcp://127.0.0.1:8000" unconnected.network.peers := nofun
  obtain ⟨remote, meshId, _, connects, adds, _, _, settled⟩ :=
    (@connecting_settled reachable (.connectPeer "beta" "tcp://127.0.0.1:8000") unconnected unknown
      fun _ _ => rfl).1 rfl
  obtain rfl : "tcp://127.0.0.1:8000" = remote := Except.ok.inj connects
  obtain rfl : 0 = meshId := Except.ok.inj adds
  exact (settled path last run).2 alive rfl others

/-- Without the protocol the second call connects again; and a peer whose request could not
be queued stays, so that the next call sends none. -/
theorem connects_again :
    (perform reachable (.connectPeer "beta" "127.0.0.1:8000")
        (perform reachable (.connectPeer "beta" "127.0.0.1:8000") unconnected).2).2.opened =
      ["tcp://127.0.0.1:8000", "tcp://127.0.0.1:8000"] ∧
    (perform { reachable with meshSend := .error .full }
        (.connectPeer "beta" "tcp://127.0.0.1:8000") unconnected).1 ≠ .ok () ∧
    (perform reachable (.connectPeer "beta" "tcp://127.0.0.1:8000")
        (perform { reachable with meshSend := .error .full }
          (.connectPeer "beta" "tcp://127.0.0.1:8000") unconnected).2).2.requested = [] := by
  refine ⟨by decide +kernel, nofun, by decide +kernel⟩

end PeerConnector

end Splinter.Network
