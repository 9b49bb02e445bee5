import Splinter.Network.Connections

/-!
# The authorization of peers

`AuthorizationManager` learns of lost connections from a channel that it only reads
when it is called, and tells its callbacks when a peer becomes authorized or
unauthorized.
-/

namespace Splinter.Network

open Library
open Service (ErrorText)

inductive AuthorizationState where
  | unknown
  | connecting
  | authorized
  | unauthorized
  | internal
  deriving DecidableEq

abbrev Identity := String

def AuthorizationState.Grants (state : AuthorizationState) : Prop :=
  state = .authorized ∨ state = .internal

instance (state : AuthorizationState) : Decidable state.Grants :=
  inferInstanceAs (Decidable (_ ∨ _))

inductive AuthorizationAction where
  | connecting
  | trustIdentifying (identity : Identity)
  | unauthorizing
  deriving DecidableEq

inductive AuthorizationActionError where
  | alreadyConnecting
  | invalidMessageOrder (start : AuthorizationState) (action : AuthorizationAction)
  | connectionLost
  deriving DecidableEq

inductive PeerAuthorizationState where
  | authorized
  | unauthorized
  deriving DecidableEq

namespace PeerMap

/-- The endpoint of a peer, where a redirect comes first. -/
def getPeerEndpoint (map : PeerMap) (peerId : String) : Option String :=
  ((map.redirects.lookup peerId).bind map.endpoints.getByKey).or (map.endpoints.getByKey peerId)

end PeerMap

def containsText (part text : String) : Bool := text.toList.tails.any part.toList.isPrefixOf

/-- What a callback has been told; its errors are only logged. -/
abbrev Reports := List (String × PeerAuthorizationState)

structure AuthorizationManager where
  network : Network
  states : Finmap fun _ : String => AuthorizationState
  callbacks : List Reports

namespace AuthorizationManager

def new : AuthorizationManager where
  network := .new
  states := ∅
  callbacks := []

def drainRemovals (manager : AuthorizationManager) : AuthorizationManager :=
  { manager with
    network := { manager.network with disconnects := manager.network.disconnects.drain }
    states := manager.network.disconnects.waiting.foldl
      (fun states peerId => states.erase peerId) manager.states }

def setState (peerId : String) (state : AuthorizationState)
    (manager : AuthorizationManager) : AuthorizationManager :=
  { manager with states := manager.states.insert peerId state }

def removeState (peerId : String) (manager : AuthorizationManager) : AuthorizationManager :=
  { manager with states := manager.states.erase peerId }

def notifyCallbacks (peerId : String) (state : PeerAuthorizationState)
    (manager : AuthorizationManager) : AuthorizationManager :=
  { manager with
    callbacks := manager.callbacks.map fun reports =>
      reports ++ [(peerId, state)] }

def registerCallback (manager : AuthorizationManager) : AuthorizationManager :=
  { manager with callbacks := manager.callbacks ++ [[]] }

def onNetwork {Failure : Type} (program : EStateM Failure Network Unit) :
    EStateM AuthorizationActionError AuthorizationManager Unit :=
  mapError (fun _ => .connectionLost)
    (zoom AuthorizationManager.network
      (fun manager network => { manager with network := network }) program)

variable (meshRemove : Nat → Except ErrorText Unit)

/-- `next_state`, given what the mesh answers to a removal. -/
def nextState (peerId : String) (action : AuthorizationAction) :
    EStateM AuthorizationActionError AuthorizationManager
      AuthorizationState := do
  modify drainRemovals
  let manager ← get
  match (manager.states.lookup peerId).getD .unknown with
  | .unknown =>
    match action with
    | .connecting =>
      if (manager.network.peers.getPeerEndpoint peerId).any
        (containsText "inproc") then
        modify (setState peerId .internal)
        modify (notifyCallbacks peerId .authorized)
        return .internal
      else
        modify (setState peerId .connecting)
        return .connecting
    | .unauthorizing =>
      onNetwork (removeConnection meshRemove peerId)
      return .unauthorized
    | _ => throw (.invalidMessageOrder .unknown action)
  | .connecting =>
    match action with
    | .connecting => throw .alreadyConnecting
    | .trustIdentifying newPeerId =>
      modify (removeState peerId)
      onNetwork (updatePeerId peerId newPeerId)
      modify (setState newPeerId .authorized)
      modify (notifyCallbacks newPeerId .authorized)
      return .authorized
    | .unauthorizing =>
      modify (removeState peerId)
      onNetwork (removeConnection meshRemove peerId)
      modify (notifyCallbacks peerId .unauthorized)
      return .unauthorized
  | .authorized =>
    match action with
    | .unauthorizing =>
      modify (removeState peerId)
      onNetwork (removeConnection meshRemove peerId)
      modify (notifyCallbacks peerId .unauthorized)
      return .unauthorized
    | _ => throw (.invalidMessageOrder .authorized action)
  | current => throw (.invalidMessageOrder current action)

def isAuthorized (peerId : String) (manager : AuthorizationManager) : Bool × AuthorizationManager :=
  let drained := manager.drainRemovals
  (drained.states.lookup peerId = some .authorized || drained.states.lookup peerId = some .internal,
    drained)

def state (manager : AuthorizationManager) (peerId : String) : AuthorizationState :=
  (manager.states.lookup peerId).getD .unknown

def setNetwork (network : Network) (manager : AuthorizationManager) : AuthorizationManager :=
  { manager with network := network }

/-- What `next_state` can do and return, once the removals have been drained. -/
inductive Moved (drained : AuthorizationManager) (peerId : String) :
    AuthorizationAction → Except AuthorizationActionError AuthorizationState →
      AuthorizationManager → Prop
  | internal : drained.state peerId = .unknown → (drained.network.peers.getPeerEndpoint peerId).any
    (containsText "inproc") = true →
    Moved drained peerId .connecting (.ok .internal)
      ((drained.setState peerId .internal).notifyCallbacks peerId .authorized)
  | connecting : drained.state peerId = .unknown →
    Moved drained peerId .connecting (.ok .connecting) (drained.setState peerId .connecting)
  | dropped {returned : Except AuthorizationActionError AuthorizationState} :
    drained.state peerId = .unknown →
    returned ≠ .ok .authorized →
    Moved drained peerId .unauthorizing returned
      (drained.setNetwork (finalState (removeConnection meshRemove peerId) drained.network))
  | identified {newPeerId : Identity} {network : Network} : drained.state peerId = .connecting →
    (updatePeerId peerId newPeerId).run drained.network = .ok () network →
    Moved drained peerId (.trustIdentifying newPeerId) (.ok .authorized)
      ((((drained.removeState peerId).setNetwork network).setState
        newPeerId .authorized).notifyCallbacks newPeerId .authorized)
  | unidentified {newPeerId : Identity} {network : Network} {error : PeerUpdateError} :
    drained.state peerId = .connecting →
    (updatePeerId peerId newPeerId).run drained.network = .error error network →
    Moved drained peerId (.trustIdentifying newPeerId) (.error .connectionLost)
      ((drained.removeState peerId).setNetwork network)
  | unauthorized {network : Network} : drained.state peerId = .connecting ∨
    drained.state peerId = .authorized →
    (removeConnection meshRemove peerId).run drained.network = .ok () network →
    Moved drained peerId .unauthorizing (.ok .unauthorized)
      (((drained.removeState peerId).setNetwork network).notifyCallbacks peerId .unauthorized)
  | lost {network : Network} {error : ConnectionError} : drained.state peerId = .connecting ∨
    drained.state peerId = .authorized →
    (removeConnection meshRemove peerId).run drained.network = .error error network →
    Moved drained peerId .unauthorizing (.error .connectionLost)
      ((drained.removeState peerId).setNetwork network)
  | refused {action : AuthorizationAction} {error : AuthorizationActionError} :
    ¬ (action = .unauthorizing ∧ drained.state peerId = .authorized) →
    Moved drained peerId action (.error error) drained

theorem ends_onNetwork {Failure : Type}
    {program : EStateM Failure Network Unit} {manager : AuthorizationManager}
    {returned : Unit → AuthorizationManager → Prop}
    {failed : AuthorizationActionError → AuthorizationManager → Prop}
    (onReturn : ∀ network, program.run manager.network = .ok () network →
      returned () (manager.setNetwork network))
    (onFailure : ∀ error network, program.run manager.network = .error error network →
      failed .connectionLost (manager.setNetwork network)) :
    Ends (onNetwork program) manager returned failed := by
  rw [onNetwork, ends_mapError, ends_zoom]
  exact (ends_run program manager.network).mono (fun _ network ran => onReturn network ran)
    fun error network ran => onFailure error network ran

theorem ends_unauthorize {drained : AuthorizationManager} {peerId : String}
    (current : drained.state peerId = .connecting ∨ drained.state peerId = .authorized) :
    Ends
      (do
        modify (removeState peerId)
        onNetwork (removeConnection meshRemove peerId)
        modify (notifyCallbacks peerId .unauthorized)
        return AuthorizationState.unauthorized)
      drained
      (fun state => Moved meshRemove drained peerId .unauthorizing (.ok state))
      fun error =>
        Moved meshRemove drained peerId .unauthorizing (.error error) := by
  rw [ends_bind, ends_modify, ends_bind]
  refine ends_onNetwork (fun network ran => ?_) fun error network ran => ?_
  · exact Moved.unauthorized current ran
  · exact Moved.lost current ran

theorem ends_nextState (manager : AuthorizationManager) (peerId : String)
    (action : AuthorizationAction) :
    Ends (nextState meshRemove peerId action) manager
      (fun state =>
        Moved meshRemove manager.drainRemovals peerId action (.ok state))
      fun error =>
        Moved meshRemove manager.drainRemovals peerId action (.error error) := by
  unfold nextState
  rw [ends_bind, ends_modify, ends_bind, ends_get]
  generalize manager.drainRemovals = drained
  have start : (drained.states.lookup peerId).getD .unknown = drained.state peerId := rfl
  rw [start]
  cases current : drained.state peerId with
  | unknown =>
    cases action with
    | connecting =>
      dsimp only
      split
      · rename_i inproc
        exact Moved.internal current inproc
      · exact Moved.connecting current
    | unauthorizing =>
      rw [ends_bind]
      refine ends_onNetwork (fun network ran => ?_) fun error network ran => ?_
      · rw [← finalState_of_ok ran]
        exact Moved.dropped current nofun
      · rw [← finalState_of_error ran]
        exact Moved.dropped current nofun
    | trustIdentifying newPeerId => exact Moved.refused (by simp)
  | connecting =>
    cases action with
    | connecting => exact Moved.refused (by simp)
    | unauthorizing => exact ends_unauthorize meshRemove (Or.inl current)
    | trustIdentifying newPeerId =>
      rw [ends_bind, ends_modify, ends_bind]
      refine ends_onNetwork (fun network ran => ?_) fun error network ran => ?_
      · exact Moved.identified current ran
      · exact Moved.unidentified current ran
  | authorized =>
    cases action with
    | connecting => exact Moved.refused (by simp)
    | unauthorizing => exact ends_unauthorize meshRemove (Or.inr current)
    | trustIdentifying newPeerId => exact Moved.refused (by simp)
  | unauthorized => exact Moved.refused (by simp [current])
  | internal => exact Moved.refused (by simp [current])

theorem moved_nextState (manager : AuthorizationManager) (peerId : String)
    (action : AuthorizationAction) :
    Moved meshRemove manager.drainRemovals peerId action
      (returnValue (nextState meshRemove peerId action) manager)
      (finalState (nextState meshRemove peerId action) manager) :=
  (ends_nextState meshRemove manager peerId action).returnValue

/-! ## Histories -/

/-- A call of the manager, or something that another part does to the network:
a connection is added, removed, or found to be disconnected by a send. -/
inductive Operation where
  | nextState (peerId : String) (action : AuthorizationAction) (meshResult : Except ErrorText Unit)
  | isAuthorized (peerId : String)
  | registerCallback
  | addPeer (peerId : String) (meshId : Nat) (endpoint : String)
  | removeConnection (peerId : String) (meshResult : Except ErrorText Unit)
  | finishSend (peerId : String)
  deriving DecidableEq

/-- What another part does to the network. -/
def changeNetwork (change : Network → Network)
    (manager : AuthorizationManager) : AuthorizationManager :=
  { manager with network := change manager.network }

def perform (operation : Operation) (manager : AuthorizationManager) : AuthorizationManager :=
  match operation with
  | .nextState peerId action meshResult =>
    finalState (nextState (fun _ => meshResult) peerId action) manager
  | .isAuthorized peerId => (manager.isAuthorized peerId).2
  | .registerCallback => manager.registerCallback
  | .addPeer peerId meshId endpoint =>
    manager.changeNetwork (Network.addPeer peerId meshId endpoint)
  | .removeConnection peerId meshResult =>
    manager.changeNetwork (finalState (Network.removeConnection (fun _ => meshResult) peerId))
  | .finishSend peerId =>
    manager.changeNetwork (finalState (Network.finishSend peerId (.error .disconnected)))

def lastReport (reports : Reports) (peerId : String) : Option PeerAuthorizationState :=
  (reports.reverse.find? fun report => report.1 = peerId).map Prod.snd

/-- Every callback has last been told what `is_authorized` returns. -/
def CallbacksAgree (manager : AuthorizationManager) : Prop :=
  ∀ reports ∈ manager.callbacks, ∀ peerId, lastReport reports peerId = some .authorized ↔
    (manager.isAuthorized peerId).1 = true

/-! ## What the callbacks know -/

def currentState (manager : AuthorizationManager) (peerId : String) : AuthorizationState :=
  manager.drainRemovals.state peerId

theorem lookup_foldl_erase (removals : List String)
    (states : Finmap fun _ : String => AuthorizationState) (peerId : String) :
    (removals.foldl (fun states removed => states.erase removed) states).lookup peerId =
      if peerId ∈ removals then none else states.lookup peerId := by
  induction removals generalizing states with
  | nil => simp
  | cons removed removals ih =>
    rw [List.foldl_cons, ih, lookup_erase_eq]
    by_cases later : peerId ∈ removals
    · simp [later]
    · simp [later, List.mem_cons]

section

variable (manager : AuthorizationManager)
include manager

theorem currentState_eq (peerId : String) : manager.currentState peerId =
    if peerId ∈ manager.network.disconnects.waiting then .unknown
    else manager.state peerId := by
  unfold currentState state drainRemovals
  rw [lookup_foldl_erase]
  split <;> rfl

theorem isAuthorized_iff (peerId : String) :
    (manager.isAuthorized peerId).1 = true ↔ (manager.currentState peerId).Grants := by
  unfold isAuthorized currentState state AuthorizationState.Grants
  cases found : manager.drainRemovals.states.lookup peerId <;>
    simp [found]

theorem state_removeState (peerId other : String) : (manager.removeState peerId).state other =
    if other = peerId then .unknown else manager.state other := by
  unfold state removeState
  rw [lookup_erase_eq]
  split <;> rfl

theorem callbacksAgree_iff : manager.CallbacksAgree ↔
    ∀ reports ∈ manager.callbacks, ∀ peerId, lastReport reports peerId = some .authorized ↔
      (manager.currentState peerId).Grants := by
  unfold CallbacksAgree
  simp only [isAuthorized_iff]

end

theorem lastReport_append (reports : Reports) (peerId other : String)
    (value : PeerAuthorizationState) :
    lastReport (reports ++ [(peerId, value)]) other =
      if other = peerId then some value else lastReport reports other := by
  unfold lastReport
  rw [List.reverse_append, List.reverse_singleton, List.singleton_append, List.find?_cons]
  by_cases same : other = peerId
  · simp [same]
  · simp [same, Ne.symm same]

section Changes

variable {before drained after : AuthorizationManager} {peerId : String}
  {meshRemove : Nat → Except ErrorText Unit}

section

variable (agree : before.CallbacksAgree)
include agree

variable (callbacks : after.callbacks = before.callbacks)
include callbacks

theorem CallbacksAgree.kept
    (states : ∀ other, (after.currentState other).Grants ↔ (before.currentState other).Grants) :
    after.CallbacksAgree := by
  rw [callbacksAgree_iff] at agree ⊢
  intro reports member other
  rw [callbacks] at member
  rw [states other]
  exact agree reports member other

theorem CallbacksAgree.unreported {value : AuthorizationState}
    (refused : ¬ (before.currentState peerId).Grants) (states : ∀ other, after.currentState other =
      if other = peerId then value else before.currentState other)
    (still : ¬ value.Grants) :
    after.CallbacksAgree := by
  refine agree.kept callbacks fun other => ?_
  rw [states other]
  split
  · rename_i same
    rw [same]
    exact iff_of_false still refused
  · rfl

theorem callbacksAgree_silent_iff
    (states : ∀ other, (after.currentState other).Grants ↔
      other ≠ peerId ∧ (before.currentState other).Grants) :
    after.CallbacksAgree ↔ (before.callbacks ≠ [] → ¬ (before.currentState peerId).Grants) := by
  rw [callbacksAgree_iff] at agree ⊢
  rw [callbacks]
  constructor
  · intro agrees registered granted
    obtain ⟨reports, member⟩ := List.exists_mem_of_ne_nil _ registered
    have told := (agree reports member peerId).mpr granted
    exact ((states peerId).mp ((agrees reports member peerId).mp told)).1 rfl
  · intro refused reports member other
    rw [states other, agree reports member other]
    constructor
    · intro granted
      refine ⟨?_, granted⟩
      intro same
      rw [same] at granted
      exact refused (List.ne_nil_of_mem member) granted
    · intro granted
      exact granted.2

omit callbacks

theorem CallbacksAgree.reported (value : PeerAuthorizationState)
    (callbacks : after.callbacks = (before.notifyCallbacks peerId value).callbacks)
    (states : ∀ other, (after.currentState other).Grants ↔
      if other = peerId then value = .authorized
      else (before.currentState other).Grants) :
    after.CallbacksAgree := by
  rw [callbacksAgree_iff] at agree ⊢
  intro reports member other
  rw [callbacks] at member
  obtain ⟨earlier, told, rfl⟩ := List.mem_map.mp member
  rw [lastReport_append, states other]
  split
  · rw [Option.some.injEq]
  · exact agree earlier told other

theorem callbacksAgree_registerCallback_iff :
    before.registerCallback.CallbacksAgree ↔ ∀ peerId, ¬ (before.currentState peerId).Grants := by
  have current : before.registerCallback.currentState = before.currentState := rfl
  rw [callbacksAgree_iff] at agree ⊢
  rw [current]
  constructor
  · intro agrees peerId granted
    have told :=
      (agrees [] (List.mem_append_right _ (List.mem_singleton_self _)) peerId).mpr granted
    exact nomatch told
  · intro refused reports member peerId
    rcases List.mem_append.mp member with earlier | added
    · exact agree reports earlier peerId
    · rw [List.mem_singleton.mp added]
      exact iff_of_false nofun (refused peerId)

end

/-- When an operation is matched by what the callbacks are told: they are
registered before any peer is authorized, a removal on request does not fail for
an authorized peer, and no other removal is announced for one. -/
def Matched (manager : AuthorizationManager) (operation : Operation) : Prop :=
  match operation with
  | .nextState peerId .unauthorizing meshResult =>
    manager.callbacks ≠ [] → manager.currentState peerId = .authorized →
      manager.network.Removable (fun _ => meshResult) peerId
  | .registerCallback => ∀ peerId, ¬ (manager.currentState peerId).Grants
  | .removeConnection peerId meshResult =>
    manager.network.Announces (fun _ => meshResult) peerId →
      manager.callbacks ≠ [] → ¬ (manager.currentState peerId).Grants
  | .finishSend peerId => manager.callbacks ≠ [] → ¬ (manager.currentState peerId).Grants
  | _ => True

@[simp]
theorem currentState_notifyCallbacks (value : PeerAuthorizationState) (other : String) :
    (before.notifyCallbacks peerId value).currentState other = before.currentState other :=
  rfl

theorem currentState_of_empty (empty : drained.network.disconnects.waiting = []) :
    drained.currentState = drained.state := by
  funext other
  rw [currentState_eq, empty]
  simp

theorem currentState_setState (empty : drained.network.disconnects.waiting = [])
    (value : AuthorizationState) (other : String) :
    (drained.setState peerId value).currentState other =
      if other = peerId then value else drained.currentState other := by
  have unchanged : (drained.setState peerId value).network.disconnects.waiting = [] := empty
  rw [currentState_of_empty unchanged, currentState_of_empty empty]
  unfold state setState
  rw [lookup_insert_eq]
  split <;> rfl

variable {network : Network}

theorem currentState_setNetwork {other : String}
    (waiting : other ∈ network.disconnects.waiting ↔ other ∈ before.network.disconnects.waiting) :
    (before.setNetwork network).currentState other = before.currentState other := by
  rw [currentState_eq, currentState_eq]
  unfold setNetwork state
  simp only [waiting]

theorem currentState_forget (unknown : before.state peerId = .unknown)
    (waiting : ∀ other, other ≠ peerId →
      (other ∈ network.disconnects.waiting ↔ other ∈ before.network.disconnects.waiting))
    (other : String) :
    (before.setNetwork network).currentState other =
      if other = peerId then .unknown else before.currentState other := by
  split
  · rename_i same
    have forgotten : (before.setNetwork network).state peerId = .unknown := unknown
    rw [same, currentState_eq, forgotten, ite_self]
  · rename_i different
    exact currentState_setNetwork (waiting other different)

theorem currentState_removeState (waiting : ∀ other, other ≠ peerId →
    (other ∈ network.disconnects.waiting ↔ other ∈ before.network.disconnects.waiting))
    (other : String) :
    ((before.removeState peerId).setNetwork network).currentState other =
      if other = peerId then .unknown else before.currentState other := by
  have removed : (before.removeState peerId).state peerId = .unknown := by
    rw [state_removeState, if_pos rfl]
  rw [currentState_forget removed waiting]
  by_cases same : other = peerId
  · rw [if_pos same, if_pos same]
  · rw [if_neg same, if_neg same, currentState_eq, currentState_eq, state_removeState, if_neg same]
    rfl

theorem currentState_identified (empty : drained.network.disconnects.waiting = [])
    (disconnects : network.disconnects = drained.network.disconnects)
    (peerId newPeerId other : String) :
    ((((drained.removeState peerId).setNetwork network).setState newPeerId
      .authorized).notifyCallbacks newPeerId .authorized).currentState other =
      if other = newPeerId then .authorized
      else if other = peerId then .unknown
      else drained.currentState other := by
  have settled :
      ((drained.removeState peerId).setNetwork network).network.disconnects.waiting = [] := by
    rw [← empty, ← disconnects]
    rfl
  rw [currentState_notifyCallbacks, currentState_setState settled, currentState_removeState]
  rw [disconnects]
  exact fun _ _ => Iff.rfl

theorem callbacksAgree_removed_iff (agree : drained.CallbacksAgree) :
    ((drained.removeState peerId).setNetwork
      (finalState (removeConnection meshRemove peerId) drained.network)).CallbacksAgree ↔
      (drained.callbacks ≠ [] → ¬ (drained.currentState peerId).Grants) := by
  refine callbacksAgree_silent_iff agree rfl fun other => ?_
  rw [currentState_removeState (waiting_removeConnection _ _ _)]
  split
  · rename_i same
    simp [AuthorizationState.Grants, same]
  · rename_i different
    simp [different]

theorem callbacksAgree_moved_iff (agree : drained.CallbacksAgree)
    (empty : drained.network.disconnects.waiting = []) {action : AuthorizationAction}
    {returned : Except AuthorizationActionError AuthorizationState}
    (moved : Moved meshRemove drained peerId action returned after) :
    after.CallbacksAgree ↔
      (action = .unauthorizing → drained.callbacks ≠ [] → drained.state peerId = .authorized →
        drained.network.Removable meshRemove peerId) := by
  have settled := currentState_of_empty empty
  cases moved with
  | internal current inproc =>
    apply iff_of_true
    · refine agree.reported .authorized rfl fun other => ?_
      rw [currentState_notifyCallbacks, currentState_setState empty]
      split <;> simp [AuthorizationState.Grants]
    · exact nofun
  | connecting current =>
    have refused : ¬ (drained.currentState peerId).Grants := by
      rw [settled, current]
      decide
    apply iff_of_true
    · exact agree.unreported rfl refused (currentState_setState empty .connecting) (by decide)
    · exact nofun
  | dropped current _ =>
    have refused : ¬ (drained.currentState peerId).Grants := by
      rw [settled, current]
      decide
    apply iff_of_true
    · exact agree.unreported rfl refused
        (currentState_forget current (waiting_removeConnection _ _ _))
        (by decide)
    · intro _ _ authorized
      exact nomatch current.symm.trans authorized
  | @identified newPeerId network current ran =>
    obtain rfl := finalState_of_ok ran
    have disconnects := disconnects_updatePeerId drained.network peerId newPeerId
    apply iff_of_true
    · refine agree.reported .authorized rfl fun other => ?_
      rw [currentState_identified empty disconnects]
      split
      · simp [AuthorizationState.Grants]
      · split
        · rename_i same
          rw [same, settled, current]
          decide
        · rfl
    · exact nofun
  | @unidentified newPeerId network error current ran =>
    obtain rfl := finalState_of_error ran
    have disconnects := disconnects_updatePeerId drained.network peerId newPeerId
    have refused : ¬ (drained.currentState peerId).Grants := by
      rw [settled, current]
      decide
    apply iff_of_true
    · refine agree.unreported rfl refused (currentState_removeState ?_) (by decide)
      rw [disconnects]
      exact fun _ _ => Iff.rfl
    · exact nofun
  | @unauthorized network current ran =>
    apply iff_of_true
    · refine agree.reported .unauthorized rfl fun other => ?_
      obtain rfl := finalState_of_ok ran
      rw [currentState_notifyCallbacks, currentState_removeState (waiting_removeConnection _ _ _)]
      split <;> simp [AuthorizationState.Grants]
    · intro _ _ _
      exact (removable_iff _ _ _).mpr ⟨network, ran⟩
  | @lost network error current ran =>
    have refused : ¬ drained.network.Removable meshRemove peerId := by
      intro removable
      obtain ⟨after, removed⟩ := (removable_iff _ _ _).mp removable
      exact nomatch ran.symm.trans removed
    obtain rfl := finalState_of_error ran
    rw [callbacksAgree_removed_iff agree, settled]
    rcases current with connecting | authorized
    · simp [connecting, AuthorizationState.Grants]
    · simp [authorized, AuthorizationState.Grants, refused]
  | refused allowed =>
    apply iff_of_true agree
    intro asked _ authorized
    exact absurd ⟨asked, authorized⟩ allowed

theorem currentState_drainRemovals (manager : AuthorizationManager) :
    manager.drainRemovals.currentState = manager.currentState :=
  currentState_of_empty rfl

theorem CallbacksAgree.drainRemovals
    (agree : before.CallbacksAgree) : before.drainRemovals.CallbacksAgree := by
  refine agree.kept rfl fun other => ?_
  rw [currentState_drainRemovals]

theorem callbacksAgree_announced_iff (agree : before.CallbacksAgree)
    (waiting : ∀ other, other ∈ network.disconnects.waiting ↔
      other ∈ before.network.disconnects.waiting ∨ other = peerId) :
    (before.setNetwork network).CallbacksAgree ↔
      (before.callbacks ≠ [] → ¬ (before.currentState peerId).Grants) := by
  refine callbacksAgree_silent_iff agree rfl fun other => ?_
  by_cases same : other = peerId
  · have announced : other ∈ network.disconnects.waiting := (waiting other).mpr (Or.inr same)
    have unknown : (before.setNetwork network).currentState other = .unknown := by
      rw [currentState_eq]
      exact if_pos announced
    rw [unknown]
    simp [AuthorizationState.Grants, same]
  · rw [currentState_setNetwork (by simp [waiting, same])]
    simp [same]

theorem callbacksAgree_perform_iff (agree : before.CallbacksAgree) (operation : Operation) :
    (perform operation before).CallbacksAgree ↔ before.Matched operation := by
  cases operation with
  | nextState peerId action meshResult =>
    have moved := moved_nextState (fun _ => meshResult) before peerId action
    have kept := callbacksAgree_moved_iff agree.drainRemovals rfl moved
    unfold perform
    rw [kept]
    cases action with
    | connecting => simp [Matched]
    | trustIdentifying newPeerId => simp [Matched]
    | unauthorizing => exact forall_prop_of_true rfl
  | isAuthorized peerId => exact iff_of_true agree.drainRemovals trivial
  | registerCallback => exact callbacksAgree_registerCallback_iff agree
  | addPeer peerId meshId endpoint =>
    refine iff_of_true (agree.kept ?_ fun other => ?_) trivial
    · rfl
    · exact iff_of_eq (congrArg _ (currentState_setNetwork Iff.rfl))
  | removeConnection peerId meshResult =>
    have waiting := mem_waiting_removeConnection before.network (fun _ => meshResult) peerId
    unfold Matched
    by_cases announced : before.network.Announces (fun _ => meshResult) peerId
    · simp only [announced, and_true, forall_const] at waiting ⊢
      exact callbacksAgree_announced_iff agree waiting
    · simp only [announced, and_false, or_false] at waiting
      refine iff_of_true (agree.kept ?_ fun other => ?_) (absurd · announced)
      · rfl
      · exact iff_of_eq (congrArg _ (currentState_setNetwork (waiting other)))
  | finishSend peerId =>
    refine callbacksAgree_announced_iff agree fun other => ?_
    rw [finalState_finishSend]
    simp [Channel.send]

end Changes

/-- Every callback knows which peers are authorized, after every operation of a
history, exactly if no authorized peer is lost to the callbacks: they are
registered while no peer is authorized, a connection that is found to be gone, or
is removed by another part, has no authorized peer, and a peer that is
unauthorized by a message is removed without an error. -/
theorem callbacks_agree_iff (operations : List Operation) : Run.Throughout CallbacksAgree
        (Run.follow perform operations new).1
        (Run.follow perform operations new).2 ↔
      Run.Meets Matched (Run.follow perform operations new).1 := by
  refine Run.forall_states_iff CallbacksAgree Matched
      (Run.run_follow perform operations new) nofun ?_
  intro before operation after agree performed
  rw [performed]
  exact callbacksAgree_perform_iff agree operation

def authorizing : List Operation :=
  [.registerCallback, .addPeer "temp" 0 "tcp://one", .nextState "temp" .connecting (.ok ()),
    .nextState "temp" (.trustIdentifying "a") (.ok ())]

def Misled (operations : List Operation) (peerId : String) : Prop :=
  ((Run.follow perform operations new).2.callbacks.map fun reports =>
    lastReport reports peerId) = [some .authorized] ∧
    ((Run.follow perform operations new).2.isAuthorized peerId).1 = false

/-- An authorized peer disconnects, or is unauthorized while the mesh cannot
remove its connection. -/
theorem lost_peers_unreported : Misled (authorizing ++ [.finishSend "a", .isAuthorized "a"]) "a" ∧
      Misled (authorizing ++ [.nextState "a" .unauthorizing (.error "NotFound")])
        "a" := by
  unfold Misled
  decide +kernel

end AuthorizationManager

end Splinter.Network
