import Splinter.Network.Owners

/-!
# The guard of the handlers

`NetworkAuthGuardHandler` runs a handler if the peer id of the message is
authorized.  The id was looked up when the message was received, so it may be
authorized because of another connection that was bound to it.
-/

namespace Splinter.Network.Gateway

open Library
open Service (ErrorText)

/-- A message of a peer; all messages whose handlers are guarded are alike. -/
inductive Message where
  | connectRequest
  | connectResponse
  | trustRequest (identity : Identity)
  | authorize
  | authorizationError
  | guarded
  deriving DecidableEq

/-- What the handler of a message asks the authorization manager to do. -/
def Message.action : Message → Option AuthorizationAction
  | .connectRequest => some .connecting
  | .trustRequest identity => some (.trustIdentifying identity)
  | .authorizationError => some .unauthorizing
  | .connectResponse | .authorize | .guarded => none

def Message.identity : Message → Option Identity
  | .trustRequest identity => some identity
  | _ => none

/-- A message that waits for its handler, with the connection it was received on
and the peer id it was received with. -/
structure Received where
  meshId : Nat
  peerId : String
  message : Message
  deriving DecidableEq

/-- What the connections have done: the endpoints of all connections that were
added, those that have sent a connect request, those that were moved to
`Connecting` by one, and those of them that were then moved to `Authorized` by
a trust request. -/
structure History where
  endpoints : Finmap fun _ : Nat => String
  asked : Finset Nat
  connecting : Finset Nat
  trusted : Finset Nat

namespace History

def new : History where
  endpoints := ∅
  asked := ∅
  connecting := ∅
  trusted := ∅

def add (meshId : Nat) (endpoint : String) (history : History) : History :=
  { history with endpoints := history.endpoints.insert meshId endpoint }

def record (received : Received) (answer : Except AuthorizationActionError AuthorizationState)
    (history : History) : History :=
  match received.message with
  | .connectRequest =>
    { history with
      asked := insert received.meshId history.asked
      connecting :=
        if answer = .ok .connecting then
          insert received.meshId history.connecting
        else history.connecting }
  | .trustRequest _ =>
    { history with
      trusted :=
        if answer = .ok .authorized ∧
          received.meshId ∈ history.connecting then
          insert received.meshId history.trusted
        else history.trusted }
  | _ => history

def Inproc (history : History) (meshId : Nat) : Prop :=
  (history.endpoints.lookup meshId).any (containsText "inproc") = true

def Authorized (history : History) (meshId : Nat) : Prop := meshId ∈ history.trusted ∨
    history.Inproc meshId ∧ meshId ∈ history.asked

def Vouches (history : History) (meshId : Nat) : AuthorizationState → Prop
  | .connecting => meshId ∈ history.connecting
  | .authorized => meshId ∈ history.trusted
  | .internal => history.Inproc meshId ∧ meshId ∈ history.asked
  | .unknown | .unauthorized => True

variable {history : History} {meshId : Nat} {state : AuthorizationState}

theorem Vouches.authorized (vouches : history.Vouches meshId state) (grants : state.Grants) :
    history.Authorized meshId := by
  rcases grants with rfl | rfl
  · exact Or.inl vouches
  · exact Or.inr vouches

/-- What a connection has done is not forgotten. -/
structure Grows (earlier later : History) : Prop where
  endpoints : ∀ meshId endpoint, earlier.endpoints.lookup meshId = some endpoint →
    later.endpoints.lookup meshId = some endpoint
  asked : earlier.asked ⊆ later.asked
  connecting : earlier.connecting ⊆ later.connecting
  trusted : earlier.trusted ⊆ later.trusted

theorem Vouches.grows {earlier later : History} (vouches : earlier.Vouches meshId state)
    (grows : earlier.Grows later) :
    later.Vouches meshId state := by
  cases state with
  | connecting => exact grows.connecting vouches
  | authorized => exact grows.trusted vouches
  | internal =>
    obtain ⟨inproc, asked⟩ := vouches
    refine ⟨?_, grows.asked asked⟩
    obtain ⟨endpoint, added, contains⟩ := (Option.any_eq_true _ _).mp inproc
    unfold Inproc
    rw [grows.endpoints meshId endpoint added]
    exact contains
  | unknown => trivial
  | unauthorized => trivial

theorem grows_record (history : History) (received : Received)
    (answer : Except AuthorizationActionError AuthorizationState) :
    history.Grows (history.record received answer) := by
  unfold record
  split
  · refine ⟨fun _ _ added => added, Finset.subset_insert _ _, ?_, subset_rfl⟩
    split
    · exact Finset.subset_insert _ _
    · exact subset_rfl
  · refine ⟨fun _ _ added => added, subset_rfl, subset_rfl, ?_⟩
    split
    · exact Finset.subset_insert _ _
    · exact subset_rfl
  · exact ⟨fun _ _ added => added, subset_rfl, subset_rfl, subset_rfl⟩

theorem grows_add (fresh : meshId ∉ history.endpoints) (endpoint : String) :
    history.Grows (history.add meshId endpoint) where
  endpoints := by
    intro other found added
    have different : other ≠ meshId := by
      intro same
      rw [same] at added
      exact fresh (Finmap.mem_of_lookup_eq_some added)
    exact (Finmap.lookup_insert_of_ne _ different).trans added
  asked := subset_rfl
  connecting := subset_rfl
  trusted := subset_rfl

theorem endpoints_record (history : History) (received : Received)
    (answer : Except AuthorizationActionError AuthorizationState) :
    (history.record received answer).endpoints = history.endpoints := by
  unfold record
  split <;> rfl

end History

end Splinter.Network.Gateway

structure Splinter.Network.Gateway where
  manager : Splinter.Network.AuthorizationManager
  inbox : List Splinter.Network.Gateway.Received
  history : Splinter.Network.Gateway.History

namespace Splinter.Network.Gateway

open Library
open Service (ErrorText)

def new : Gateway where
  manager := .new
  inbox := []
  history := .new

def peers (gateway : Gateway) : PeerMap := gateway.manager.network.peers

inductive Event where
  | add (peerId : String) (meshId : Nat) (endpoint : String)
  | removeConnection (peerId : String) (meshResult : Except ErrorText Unit)
  | finishSend (peerId : String) (result : Except MeshSendError Unit)
  | disconnect (peerId : String)
  | receive (meshId : Nat) (message : Message)
  | handle (position : Nat) (meshResult : Except ErrorText Unit)
  deriving DecidableEq

def changeNetwork (change : Network → Network) (gateway : Gateway) : Gateway :=
  { gateway with manager := gateway.manager.changeNetwork change }

/-- `recv`: a connection without a peer id is an error. -/
def receive (meshId : Nat) (message : Message) (gateway : Gateway) : Gateway :=
  match gateway.peers.getPeerId meshId with
  | none => gateway
  | some peerId =>
    { gateway with
      inbox := gateway.inbox ++ [{ meshId := meshId, peerId := peerId, message := message }] }

/-- The handler of a message; the handlers that do not ask the authorization
manager only send messages. -/
def handleMessage (meshResult : Except ErrorText Unit) (received : Received)
    (gateway : Gateway) : Gateway :=
  match received.message.action with
  | some action =>
    let program := AuthorizationManager.nextState (fun _ => meshResult) received.peerId
      action
    { gateway with
      manager := finalState program gateway.manager
      history := gateway.history.record received (returnValue program gateway.manager) }
  | none =>
    match received.message with
    | .guarded =>
      { gateway with manager := (gateway.manager.isAuthorized received.peerId).2 }
    | _ => gateway

def handle (position : Nat) (meshResult : Except ErrorText Unit) (gateway : Gateway) : Gateway :=
  match gateway.inbox[position]? with
  | none => gateway
  | some received =>
    handleMessage meshResult received { gateway with inbox := gateway.inbox.eraseIdx position }

def perform (event : Event) (gateway : Gateway) : Gateway :=
  match event with
  | .add peerId meshId endpoint =>
    { gateway.changeNetwork (addPeer peerId meshId endpoint) with
      history := gateway.history.add meshId endpoint }
  | .removeConnection peerId meshResult =>
    gateway.changeNetwork (finalState (removeConnection (fun _ => meshResult) peerId))
  | .finishSend peerId result => gateway.changeNetwork (finalState (finishSend peerId result))
  | .disconnect peerId => gateway.changeNetwork (notifyDisconnectListeners peerId)
  | .receive meshId message => gateway.receive meshId message
  | .handle position meshResult => gateway.handle position meshResult

/-- A connection that is added has a mesh id that has not been used. -/
def Fresh (gateway : Gateway) : Event → Prop
  | .add _ meshId _ => meshId ∉ gateway.history.endpoints
  | _ => True

def Step (before : Gateway) (event : Event) (after : Gateway) : Prop :=
  before.Fresh event ∧ after = before.perform event

/-- The guard only runs a handler for a connection that has authorized
itself. -/
def Guarded (gateway : Gateway) : Event → Prop
  | .handle position _ =>
    ∀ received ∈ gateway.inbox[position]?, received.message = .guarded →
      (gateway.manager.isAuthorized received.peerId).1 = true →
        gateway.history.Authorized received.meshId
  | _ => True

/-- Nothing goes by the peer id: no connection has it, it is not the former id of
a connection, it has no authorization, and no message waits that was received
with it. -/
def Free (gateway : Gateway) (peerId : String) : Prop :=
  (∀ meshId ∈ gateway.history.endpoints.keys, gateway.peers.getPeerId meshId ≠ some peerId) ∧
    gateway.peers.redirects.lookup peerId = none ∧
    gateway.manager.currentState peerId = .unknown ∧
    ∀ received ∈ gateway.inbox, received.peerId ≠ peerId

/-- A peer id that is bound to a connection is free, or the connection has it
already. -/
def BindsFree (gateway : Gateway) : Event → Prop
  | .add peerId _ _ => gateway.Free peerId
  | .handle position _ =>
    ∀ received ∈ gateway.inbox[position]?,
      gateway.manager.currentState received.peerId = .connecting →
        ∀ identity ∈ received.message.identity, identity = received.peerId ∨ gateway.Free identity
  | _ => True

/-! ## What an authorization says about a connection -/

/-- Every peer id stands for one connection, which has earned the authorization
of the id, and on which the waiting messages with this id were received. -/
structure Attributed (gateway : Gateway) (owner : String → Nat) : Prop where
  owned : gateway.peers.Owned gateway.history.endpoints owner
  waiting : ∀ received ∈ gateway.inbox, owner received.peerId = received.meshId
  vouched : ∀ peerId, gateway.history.Vouches (owner peerId) (gateway.manager.currentState peerId)

variable {gateway before after : Gateway} {owner : String → Nat}
  {peerId : String} {meshId : Nat} {received : Received}

theorem attributed_new : new.Attributed owner where
  owned := PeerMap.Owned.new
  waiting := nofun
  vouched _ := trivial

section

variable (attributed : gateway.Attributed owner)
include attributed

theorem guarded_of_attributed (event : Event) : gateway.Guarded event := by
  cases event with
  | handle position meshResult =>
    intro received waits _ authorized
    have member := List.mem_of_getElem? waits
    rw [← attributed.waiting received member]
    exact (attributed.vouched received.peerId).authorized
      ((AuthorizationManager.isAuthorized_iff _ _).mp authorized)
  | _ => trivial

theorem Attributed.changeNetwork {change : Network → Network}
    (owned : (change gateway.manager.network).peers.Owned gateway.history.endpoints owner)
    (waiting : ∀ peerId ∈ gateway.manager.network.disconnects.waiting,
      peerId ∈ (change gateway.manager.network).disconnects.waiting) :
    (gateway.changeNetwork change).Attributed owner where
  owned := owned
  waiting := attributed.waiting
  vouched := by
    intro peerId
    have vouched := attributed.vouched peerId
    rw [AuthorizationManager.currentState_eq] at vouched ⊢
    split
    · trivial
    · rename_i unannounced
      rw [if_neg fun announced => unannounced (waiting peerId announced)] at vouched
      exact vouched

theorem Attributed.receive (message : Message) :
    (gateway.receive meshId message).Attributed owner := by
  unfold Gateway.receive
  split
  · exact attributed
  · rename_i peerId found
    refine ⟨attributed.owned, ?_, attributed.vouched⟩
    intro received member
    rcases List.mem_append.mp member with earlier | added
    · exact attributed.waiting received earlier
    · rw [List.mem_singleton.mp added]
      exact attributed.owned.attributed meshId peerId found

theorem Attributed.bindable (free : gateway.Free peerId) :
    (∀ meshId, gateway.peers.getPeerId meshId ≠ some peerId) ∧
      gateway.peers.redirects.lookup peerId = none := by
  refine ⟨?_, free.2.1⟩
  intro meshId found
  have added := attributed.owned.known meshId peerId found
  exact free.1 meshId (Finmap.mem_keys.mpr added) found

theorem Attributed.waiting_update (bound : owner peerId = meshId ∨ gateway.Free peerId) :
    ∀ received ∈ gateway.inbox, Function.update owner peerId meshId received.peerId =
      received.meshId := by
  intro received member
  have own := attributed.waiting received member
  by_cases same : received.peerId = peerId
  · rcases bound with kept | free
    · rw [same] at own ⊢
      rw [Function.update_self, ← kept]
      exact own
    · exact absurd same (free.2.2.2 received member)
  · rw [Function.update_of_ne same]
    exact own

theorem Attributed.add (endpoint : String) (fresh : meshId ∉ gateway.history.endpoints)
    (free : gateway.Free peerId) :
    (gateway.perform (.add peerId meshId endpoint)).Attributed
      (Function.update owner peerId meshId) := by
  obtain ⟨unattributed, unredirected⟩ := attributed.bindable free
  refine ⟨?_, attributed.waiting_update (Or.inr free), ?_⟩
  · exact attributed.owned.insert endpoint fresh unattributed unredirected
  · intro other
    have current : (gateway.perform (.add peerId meshId endpoint)).manager.currentState other =
        gateway.manager.currentState other :=
      AuthorizationManager.currentState_setNetwork Iff.rfl
    have grows := History.grows_add fresh endpoint
    rw [current]
    by_cases same : other = peerId
    · rw [same, free.2.2.1]
      trivial
    · rw [Function.update_of_ne same]
      exact (attributed.vouched other).grows grows

end

section Handlers

variable {drained changed : AuthorizationManager} {meshRemove : Nat → Except ErrorText Unit}
  {answer : Except AuthorizationActionError AuthorizationState}

section

variable (attributed : gateway.Attributed owner)
include attributed

theorem Attributed.setState (state : AuthorizationState)
    (own : owner received.peerId = received.meshId)
    (owned : changed.network.peers.Owned gateway.history.endpoints owner)
    (current : ∀ other, changed.currentState other =
      if other = received.peerId then state
      else gateway.manager.currentState other)
    (earned : (gateway.history.record received answer).Vouches received.meshId state) :
    Attributed
      { gateway with
        manager := changed
        history := gateway.history.record received answer } owner where
  owned := by
    rw [History.endpoints_record]
    exact owned
  waiting := attributed.waiting
  vouched := by
    intro other
    rw [current other]
    split
    · rename_i same
      rw [same, own]
      exact earned
    · exact (attributed.vouched other).grows (History.grows_record _ _ _)

theorem Attributed.drainRemovals : Attributed
      { gateway with
        manager := gateway.manager.drainRemovals
        history := gateway.history.record received answer } owner where
  owned := by
    rw [History.endpoints_record]
    exact attributed.owned
  waiting := attributed.waiting
  vouched := by
    intro other
    rw [AuthorizationManager.currentState_drainRemovals]
    exact (attributed.vouched other).grows (History.grows_record _ _ _)

section

variable (own : owner received.peerId = received.meshId)
include own

theorem Attributed.connectRequest (message : received.message = .connectRequest)
    (moved : AuthorizationManager.Moved meshRemove gateway.manager.drainRemovals
      received.peerId .connecting answer changed) :
    Attributed
      { gateway with
        manager := changed
        history := gateway.history.record received answer } owner := by
  cases moved with
  | internal current inproc =>
    refine attributed.setState .internal own attributed.owned ?_ ⟨?_, ?_⟩
    · exact AuthorizationManager.currentState_setState rfl .internal
    · obtain ⟨endpoint, found, contains⟩ := (Option.any_eq_true _ _).mp inproc
      unfold History.Inproc
      rw [History.endpoints_record, ← own, attributed.owned.endpoint found]
      exact contains
    · simp [History.record, message]
  | connecting current =>
    refine attributed.setState .connecting own attributed.owned ?_ ?_
    · exact AuthorizationManager.currentState_setState rfl .connecting
    · simp [History.record, History.Vouches, message]
  | refused _ => exact attributed.drainRemovals

theorem Attributed.authorizationError
    (moved : AuthorizationManager.Moved meshRemove gateway.manager.drainRemovals
      received.peerId .unauthorizing answer changed) :
    Attributed
      { gateway with
        manager := changed
        history := gateway.history.record received answer } owner := by
  have owned :
      (finalState (removeConnection meshRemove received.peerId)
        gateway.manager.drainRemovals.network).peers.Owned gateway.history.endpoints owner := by
    rw [peers_removeConnection]
    exact attributed.owned.remove received.peerId
  have removed := waiting_removeConnection gateway.manager.drainRemovals.network meshRemove
    received.peerId
  cases moved with
  | dropped current _ =>
    refine attributed.setState .unknown own owned ?_ trivial
    exact AuthorizationManager.currentState_forget current removed
  | unauthorized current ran =>
    obtain rfl := finalState_of_ok ran
    refine attributed.setState .unknown own owned ?_ trivial
    exact AuthorizationManager.currentState_removeState removed
  | lost current ran =>
    obtain rfl := finalState_of_error ran
    refine attributed.setState .unknown own owned ?_ trivial
    exact AuthorizationManager.currentState_removeState removed
  | refused _ => exact attributed.drainRemovals

theorem Attributed.trustRequest {identity : Identity}
    (message : received.message = .trustRequest identity)
    (bound : gateway.manager.currentState received.peerId = .connecting →
        identity = received.peerId ∨ gateway.Free identity)
    (moved : AuthorizationManager.Moved meshRemove gateway.manager.drainRemovals
        received.peerId (.trustIdentifying identity) answer changed) :
    ∃ owner, Attributed
        { gateway with
          manager := changed
          history := gateway.history.record received answer } owner := by
  have updatable := ends_updatePeerId gateway.manager.drainRemovals.network
      attributed.owned.paired received.peerId identity
  have disconnects := disconnects_updatePeerId gateway.manager.drainRemovals.network
      received.peerId identity
  have updated := peers_updatePeerId gateway.manager.drainRemovals.network received.peerId identity
  unfold Ends at updatable
  cases moved with
  | @identified newPeerId network current ran =>
    rw [finalState_of_ok ran] at disconnects updated
    rw [ran] at updatable
    obtain ⟨meshId, found⟩ := updatable
    have sender : received.meshId = meshId := own.symm.trans (attributed.owned.owner_eq found)
    have renamed : network.peers = gateway.peers.renamed received.peerId identity meshId :=
      updated.trans (PeerMap.perform_update_present attributed.owned.paired found)
    have connecting : received.meshId ∈ gateway.history.connecting := by
      have vouched := attributed.vouched received.peerId
      rw [own] at vouched
      unfold AuthorizationManager.currentState at vouched
      rw [current] at vouched
      exact vouched
    refine ⟨Function.update owner identity meshId, ?_, ?_, ?_⟩
    · rw [History.endpoints_record]
      have owned := attributed.owned.renamed found ((bound current).imp_right attributed.bindable)
      rw [← renamed] at owned
      exact owned
    · refine attributed.waiting_update ((bound current).imp_left ?_)
      intro same
      rw [same, own, sender]
    · intro other
      have states := AuthorizationManager.currentState_identified rfl disconnects
          received.peerId identity other
      rw [states]
      split
      · rename_i same
        rw [same, Function.update_self, ← sender]
        simp [History.record, History.Vouches, message, connecting]
      · rename_i different
        rw [Function.update_of_ne different]
        split
        · trivial
        · exact (attributed.vouched other).grows (History.grows_record _ _ _)
  | @unidentified newPeerId network error current ran =>
    rw [finalState_of_error ran] at disconnects updated
    rw [ran] at updatable
    have owned : network.peers.Owned gateway.history.endpoints owner := by
      rw [updated, PeerMap.perform_update_absent updatable]
      exact attributed.owned
    refine ⟨owner, attributed.setState .unknown own owned ?_ trivial⟩
    apply AuthorizationManager.currentState_removeState
    rw [disconnects]
    exact fun _ _ => Iff.rfl
  | refused _ => exact ⟨owner, attributed.drainRemovals⟩

theorem Attributed.handleMessage (bound : ∀ identity, received.message = .trustRequest identity →
    gateway.manager.currentState received.peerId = .connecting →
      identity = received.peerId ∨ gateway.Free identity)
    (meshResult : Except ErrorText Unit) :
    ∃ owner, (gateway.handleMessage meshResult received).Attributed owner := by
  have moved := AuthorizationManager.moved_nextState (fun _ => meshResult)
    gateway.manager received.peerId
  unfold Gateway.handleMessage
  cases message : received.message with
  | connectRequest => exact ⟨owner, attributed.connectRequest own message (moved .connecting)⟩
  | trustRequest identity =>
    exact attributed.trustRequest own message (bound identity message)
      (moved (.trustIdentifying identity))
  | authorizationError => exact ⟨owner, attributed.authorizationError own (moved .unauthorizing)⟩
  | connectResponse => exact ⟨owner, attributed⟩
  | authorize => exact ⟨owner, attributed⟩
  | guarded =>
    refine ⟨owner, attributed.owned, attributed.waiting, ?_⟩
    intro other
    have current := congrFun (AuthorizationManager.currentState_drainRemovals gateway.manager) other
    exact current ▸ attributed.vouched other

end

end

end Handlers

theorem Free.erase (free : gateway.Free peerId) (position : Nat) :
    Free { gateway with inbox := gateway.inbox.eraseIdx position } peerId := by
  obtain ⟨unattributed, unredirected, unauthorized, unmentioned⟩ := free
  refine ⟨unattributed, unredirected, unauthorized, ?_⟩
  intro received member
  exact unmentioned received (List.mem_of_mem_eraseIdx member)

theorem Attributed.handle (attributed : gateway.Attributed owner) {position : Nat}
    {meshResult : Except ErrorText Unit} (binds : gateway.BindsFree (.handle position meshResult)) :
    ∃ owner, (gateway.handle position meshResult).Attributed owner := by
  unfold Gateway.handle
  split
  · exact ⟨owner, attributed⟩
  · rename_i received waits
    have remaining : Attributed { gateway with inbox := gateway.inbox.eraseIdx position } owner :=
      ⟨attributed.owned, fun other member =>
        attributed.waiting other (List.mem_of_mem_eraseIdx member),
        attributed.vouched⟩
    have own := attributed.waiting received (List.mem_of_getElem? waits)
    refine remaining.handleMessage own ?_ meshResult
    intro identity message connecting
    have asked : identity ∈ received.message.identity := by
      rw [message]
      rfl
    exact (binds received waits connecting identity asked).imp_right fun free => free.erase position

theorem Attributed.step {event : Event} (attributed : before.Attributed owner)
    (binds : before.BindsFree event) (taken : before.Step event after) :
    ∃ owner, after.Attributed owner := by
  obtain ⟨fresh, rfl⟩ := taken
  cases event with
  | add peerId meshId endpoint => exact ⟨_, attributed.add endpoint fresh binds⟩
  | removeConnection peerId meshResult =>
    refine ⟨owner, attributed.changeNetwork ?_ ?_⟩
    · rw [peers_removeConnection]
      exact attributed.owned.remove peerId
    · intro other announced
      exact (mem_waiting_removeConnection ..).mpr (Or.inl announced)
  | finishSend peerId result =>
    refine ⟨owner, ?_⟩
    cases result with
    | ok _ => exact attributed.changeNetwork attributed.owned fun _ waits => waits
    | error error =>
      cases error with
      | disconnected =>
        refine attributed.changeNetwork (attributed.owned.remove peerId) ?_
        intro other announced
        exact List.mem_append_left _ announced
      | _ => exact attributed.changeNetwork attributed.owned fun _ waits => waits
  | disconnect peerId =>
    refine ⟨owner, attributed.changeNetwork attributed.owned ?_⟩
    intro other announced
    exact List.mem_append_left _ announced
  | receive meshId message => exact ⟨owner, attributed.receive message⟩
  | handle position meshResult => exact attributed.handle binds

/-- In a run in which ids are only bound while they are free, a guarded handler
only runs for messages of connections that have authorized themselves. -/
theorem handlers_guarded {path : List (Gateway × Event)} {last : Gateway}
    (run : Run Step new path last) (binds : Run.Meets BindsFree path) :
    Run.Meets Guarded path := by
  have throughout : Run.Throughout (fun gateway => ∃ owner, gateway.Attributed owner) path
        last := by
    refine run.guarded ⟨fun _ => 0, attributed_new⟩ ?_ binds
    intro before event after held bindsFree taken
    obtain ⟨owner, attributed⟩ := held
    exact attributed.step bindsFree taken
  intro visited member
  obtain ⟨owner, attributed⟩ := throughout.1 visited member
  exact guarded_of_attributed attributed visited.2

instance (gateway : Gateway) (event : Event) : Decidable (gateway.Fresh event) := by
  cases event <;> dsimp only [Fresh] <;> infer_instance

instance (history : History) (meshId : Nat) : Decidable (history.Authorized meshId) := by
  unfold History.Authorized History.Inproc
  infer_instance

instance (gateway : Gateway) (event : Event) : Decidable (gateway.Guarded event) := by
  cases event <;> dsimp only [Guarded] <;> infer_instance

instance (gateway : Gateway) (peerId : String) : Decidable (gateway.Free peerId) := by
  unfold Free
  infer_instance

instance (gateway : Gateway) (event : Event) : Decidable (gateway.BindsFree event) := by
  cases event <;> dsimp only [BindsFree] <;> infer_instance

theorem run_of_fresh (events : List Event)
    (fresh : Run.Meets Fresh (Run.follow perform events new).1) :
    Run Step new (Run.follow perform events new).1 (Run.follow perform events new).2 :=
  (Run.run_follow perform events new).restrict fresh

def authorizing (peerId : String) (meshId : Nat) (identity : Identity) : List Event :=
  [.add peerId meshId "tcp://one", .receive meshId .connectRequest, .handle 0 (.ok ()),
    .receive meshId (.trustRequest identity), .handle 0 (.ok ())]

/-- Another connection is added with the id of an authorized peer. -/
def inheriting : List Event := authorizing "temp" 0 "a" ++
    [.add "a" 1 "tcp://two", .receive 1 .guarded, .handle 0 (.ok ())]

/-- A connection identifies itself with the id that another one has been given,
which has not been authorized. -/
def lending : List Event := .add "a" 0 "tcp://two" ::
    (authorizing "temp" 1 "a" ++ [.receive 0 .guarded, .handle 0 (.ok ())])

/-- The second connection has not authorized itself, but its message is
handled. -/
theorem authorization_inherited :
    (∃ path last, Run Step new path last ∧
      path.map Prod.snd = inheriting ∧ ¬ Run.Meets Guarded path) ∧
      ∃ path last, Run Step new path last ∧
        path.map Prod.snd = lending ∧ ¬ Run.Meets Guarded path := by
  refine ⟨⟨_, _, run_of_fresh inheriting ?_, ?_, ?_⟩, ⟨_, _, run_of_fresh lending ?_, ?_, ?_⟩⟩
  all_goals decide +kernel

theorem own_handler_guarded : ∃ path last, Run Step new path last ∧ path.map Prod.snd =
          authorizing "temp" 0 "a" ++ [.receive 0 .guarded, .handle 0 (.ok ())] ∧
        (last.manager.isAuthorized "a").1 = true ∧
        Run.Meets Guarded path := by
  have run := run_of_fresh (authorizing "temp" 0 "a" ++ [.receive 0 .guarded, .handle 0 (.ok ())])
      (by decide +kernel)
  refine ⟨_, _, run, by decide +kernel, by decide +kernel, ?_⟩
  exact handlers_guarded run (by decide +kernel)

end Splinter.Network.Gateway
