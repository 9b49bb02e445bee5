import Splinter.Admin.Frame
import Splinter.Services.Participant

/-!
# The pending change of an admin service

The admin service as the host of an engine.  Every proposal it registers has
the hash of a payload as its id; the service is prepared for a proposal if the
change it keeps is the one that `propose_change` computes for such a payload.
-/

namespace Splinter.Admin

open Library Service Consensus Services AdminService AdminServiceShared
open Protos (CircuitManagementPayload)

variable (formats : Formats)

def PayloadOf (id : ProposalId) (payload : CircuitManagementPayload) : Prop :=
  ∃ hash, hashPayload formats payload = .ok hash ∧ id = ⟨asBytes hash⟩

/-- Every proposal is registered under its own id, the hash of its payload. -/
def Registered (registry : Finmap fun _ : ProposalId => Proposal × CircuitManagementPayload) :
    Prop :=
  ∀ id proposal payload, registry.lookup id = some (proposal, payload) →
    proposal.id = id ∧ PayloadOf formats id payload

section Registry

variable {formats} {registry : Finmap fun _ : ProposalId => Proposal × CircuitManagementPayload}

theorem Registered.insert {proposal : Proposal} {payload : CircuitManagementPayload}
    (registered : Registered formats registry) (own : PayloadOf formats proposal.id payload) :
    Registered formats (registry.insert proposal.id (proposal, payload)) := by
  intro id known stored found
  by_cases same : id = proposal.id
  · subst same
    rw [Finmap.lookup_insert] at found
    cases found
    exact ⟨rfl, own⟩
  · rw [Finmap.lookup_insert_of_ne _ same] at found
    exact registered id known stored found

theorem Registered.erase (registered : Registered formats registry) (removed : ProposalId) :
    Registered formats (registry.erase removed) := by
  intro id known stored found
  by_cases same : id = removed
  · subst same
    rw [Finmap.lookup_erase] at found
    cases found
  · rw [Finmap.lookup_erase_ne same] at found
    exact registered id known stored found

end Registry

namespace AdminService

variable (around : Surroundings)

/-- What the engine of an admin service is connected to. -/
def host : Host AdminService Operation where
  channels := consensus
  withChannels channels service := { service with consensus := some channels }
  Answers call before answer after :=
    ∃ around, respond formats around call before = some (answer, after)
  Operates operation before after := after = operate formats operation before

/-- The same, with the surroundings that answer. -/
def hostAt (around : Surroundings) : Host AdminService Operation :=
  { host formats with
    Answers := fun call before answer after =>
      respond formats around call before = some (answer, after) }

def started (timeout : Nat) (now : TwoPhase.Instant) (peers : List PeerId)
    (nodeId : String) (openProposals : OpenProposals)
    (splinterState : Circuits.SplinterState) : Participant AdminService where
  engine := .startup timeout now ⟨asBytes (adminServiceId nodeId)⟩ peers
  service := (AdminService.new nodeId openProposals splinterState).start

def Sound (service : AdminService) : Prop :=
  Registered formats service.shared.pendingConsensusProposals

/-- The pending change is the one that a payload of the proposal asks for, and
the proposal is registered. -/
def Prepared (service : AdminService) (id : ProposalId) : Prop :=
  (∃ proposal payload, service.pendingConsensusProposal id = some (proposal, payload) ∧
    proposal.id = id) ∧
    ∃ around payload change, PayloadOf formats id payload ∧
      service.shared.proposedChange formats around payload = .ok change ∧
      service.shared.pendingChanges = some change.context

def Accepts (service : AdminService) (id : ProposalId) : Prop := ∃ checked payload change,
    PayloadOf formats id payload ∧
      service.shared.proposedChange formats checked payload = .ok change ∧
      ∀ around, (acceptProposal formats around id).run service =
        match (AdminServiceShared.commitChange formats around change.context).run
          { service.shared with pendingChanges := none } with
        | .ok _ shared => (removePendingConsensusProposal id).run { service with shared := shared }
        | .error error shared =>
          (sendUpdate
            (.proposalAcceptFailed id ("failed to commit proposal: " ++ error.display))).run
            { service with shared := shared }

variable {formats}

/-! ## The registry stays sound -/

section Soundness

variable {around} {service : AdminService}

section

variable (sound : service.Sound formats)
include sound

variable {Failure : Type}

theorem Sound.addPendingConsensusProposal {proposal : Proposal} {payload : CircuitManagementPayload}
    (own : PayloadOf formats proposal.id payload) :
    EndsIn
      (AdminService.addPendingConsensusProposal proposal.id
        (proposal, payload) : EStateM Failure AdminService Unit)
      service (Sound formats) := by
  unfold AdminService.addPendingConsensusProposal EndsIn
  rw [ends_modify]
  exact Registered.insert sound own

theorem Sound.keeps {Result : Type} {program : EStateM Failure AdminService Result}
    (keeps : Keeps (fun service => service.shared.core) program) :
    EndsIn program service (Sound formats) :=
  (keeps.map pendingConsensusProposals).holds sound

theorem Sound.sendUpdate (update : ProposalUpdate) :
    EndsIn (AdminService.sendUpdate update : EStateM Failure AdminService Unit) service
      (Sound formats) :=
  sound.keeps ((sendUpdate_keeps_shared update).map core)

theorem Sound.proposeChange (change : AdminSharedError → Failure)
    (payload : CircuitManagementPayload) :
    EndsIn (onShared change (AdminServiceShared.proposeChange formats around payload)) service
      (Sound formats) := by
  have keeps := onShared_keeps (proposeChange_keeps_unproposed formats around payload) change
  exact (keeps.map pendingConsensusProposals).holds sound

theorem Sound.createFrom (payload : CircuitManagementPayload) :
    EndsIn (createFrom formats around payload) service (Sound formats) := by
  refine (sound.proposeChange _ payload).andThen fun proposed _ sound => ?_
  rw [ends_bind, ends_fromExcept]
  refine ⟨fun hash hashed => ?_, fun _ _ => sound⟩
  rw [mapError_eq_ok_iff] at hashed
  refine Ends.andThen (sound.addPendingConsensusProposal ⟨hash, hashed, rfl⟩) fun _ _ sound => ?_
  exact (sound.keeps (sendToMembers_keeps_core around _ _)).andThen
    fun _ _ sound => sound.sendUpdate _

theorem Sound.createProposal : EndsIn (createProposal formats around) service (Sound formats) := by
  unfold AdminService.createProposal EndsIn
  rw [ends_bind, ends_get]
  dsimp only
  split
  · exact sound
  · split
    · rw [ends_bind, ends_set]
      refine Sound.createFrom ?_ _
      exact sound
    · exact sound.sendUpdate _

theorem Sound.checkProposal (id : ProposalId) : EndsIn (checkProposal formats around id) service
    (Sound formats) := by
  unfold AdminService.checkProposal EndsIn
  rw [ends_bind, ends_get]
  split
  · exact sound
  · refine (sound.proposeChange _ _).andThen fun proposed _ sound => ?_
    split <;> exact sound.sendUpdate _

theorem Sound.acceptProposal (id : ProposalId) : EndsIn (acceptProposal formats around id) service
    (Sound formats) := by
  refine (acceptProposal_ends formats around service id).mono
    (fun _ after decided => ?_) fun _ _ impossible => impossible.elim
  obtain ⟨registry, pending, remaining, same⟩ := decided
  have stored : after.shared.frame.pendingConsensusProposals = registry :=
    congrArg pendingConsensusProposals same
  change Registered formats after.shared.frame.pendingConsensusProposals
  rw [stored]
  rcases remaining with rfl | rfl
  · exact sound
  · exact Registered.erase sound id

theorem Sound.rejectProposal (id : ProposalId) :
    EndsIn (rejectProposal id) service (Sound formats) := by
  unfold AdminService.rejectProposal EndsIn
  rw [ends_bind, ends_get]
  split
  · exact sound
  · rw [ends_bind]
    exact Registered.erase sound id

end

theorem payloadOf_of_announces {operation : Operation}
    {entry : Proposal × CircuitManagementPayload}
    (announced : operation.announces formats = some entry) :
    PayloadOf formats entry.1.id entry.2 := by
  unfold Operation.announces at announced
  split at announced
  · split at announced
    · cases announced
    · split at announced
      · dsimp only at announced
        split at announced
        · cases announced
        · rename_i hash hashed
          cases announced
          exact ⟨hash, hashed, rfl⟩
      · cases announced
  · cases announced

theorem Sound.operate (sound : service.Sound formats) (operation : Operation) :
    (operate formats operation service).Sound formats := by
  unfold Sound
  rw [pendingConsensusProposals_operate]
  cases announced : operation.announces formats with
  | none => exact sound
  | some entry => exact Registered.insert sound (payloadOf_of_announces announced)

variable {answer : Answer} {after : AdminService}

theorem finalState_of_respond_createProposal {previous : Option ProposalId} {data : Bytes}
    (responded : respond formats around (.createProposal previous data) service =
      some (answer, after)) :
    finalState (AdminService.createProposal formats around) service = after := by
  unfold respond at responded
  unfold finalState
  dsimp only at responded
  split at responded
  · rename_i ran
    rw [ran]
    exact (Prod.mk.inj (Option.some.inj responded)).2
  · rename_i ran
    rw [ran]
    exact (Prod.mk.inj (Option.some.inj responded)).2
  · cases responded

theorem unmailed_of_network {call : Call} (network : TwoPhase.isNetworkCall call = true)
    (responded : respond formats around call service = some (answer, after)) :
    after.unmailed = service.unmailed := by
  cases call with
  | createProposal _ _ | checkProposal _ | acceptProposal _ _
  | rejectProposal _ => cases network
  | sendTo peerId message =>
    exact kept_of_answer (sendTo_keeps_unmailed formats around peerId message)
      (Option.some.inj responded)
  | broadcast message =>
    exact kept_of_answer (broadcast_keeps_unmailed formats around message)
      (Option.some.inj responded)

theorem Sound.respond {call : Call} (sound : service.Sound formats)
    (responded : respond formats around call service = some (answer, after)) :
    after.Sound formats := by
  cases call with
  | createProposal previous data =>
    rw [← finalState_of_respond_createProposal responded]
    exact sound.createProposal.finalState
  | checkProposal id => exact holds_of_answer (sound.checkProposal id) (Option.some.inj responded)
  | acceptProposal id data =>
    exact holds_of_answer (sound.acceptProposal id) (Option.some.inj responded)
  | rejectProposal id => exact holds_of_answer (sound.rejectProposal id) (Option.some.inj responded)
  | sendTo _ _ | broadcast _ =>
    have same := unmailed_of_network rfl responded
    have registry := congrArg (fun kept => kept.shared.pendingConsensusProposals) same
    exact (congrArg (Registered formats) registry).mpr sound

end Soundness

/-! ## The service stays prepared -/

section Preparation

variable {around} {service : AdminService} {id : ProposalId}

section

variable (prepared : service.Prepared formats id)
include prepared

theorem Prepared.of_slot {after : AdminService} (same : after.shared.slot = service.shared.slot) :
    after.Prepared formats id := by
  have registry : after.shared.pendingConsensusProposals =
      service.shared.pendingConsensusProposals :=
    congrArg (fun slot => slot.1.2.1) same
  have pending : after.shared.pendingChanges = service.shared.pendingChanges :=
    congrArg (fun slot => slot.1.2.2) same
  have changes (around : Surroundings) (payload : CircuitManagementPayload) :=
    proposedChange_congr formats around
      (congrArg (fun slot => slot.1.1) same : after.shared.nodeId = service.shared.nodeId)
      (congrArg (fun slot => slot.2.1) same)
      (congrArg (fun slot => slot.2.2) same) payload
  unfold Prepared pendingConsensusProposal
  simp only [registry, pending, changes]
  exact prepared

variable {Failure Result : Type}

theorem Prepared.keeps {program : EStateM Failure AdminService Result}
    (keeps : Keeps (fun service => service.shared.slot) program) :
    EndsIn program service fun after => after.Prepared formats id :=
  (keeps service).mono (fun _ _ same => prepared.of_slot same) fun _ _ same => prepared.of_slot same

theorem Prepared.keepsShared {program : EStateM Failure AdminService Result}
    (keeps : Keeps shared program) :
    EndsIn program service fun after => after.Prepared formats id :=
  prepared.keeps (keeps.map slot)

theorem Prepared.operate (operation : Operation) :
    (operate formats operation service).Prepared formats id := by
  obtain ⟨⟨known, stored, found, sameId⟩, checked, payload, change, own, computed, pending⟩ :=
    prepared
  have kept := kept_operate formats operation service
  have sameChange := proposedChange_congr formats checked (congrArg nodeId kept)
    (congrArg openProposals kept) (congrArg splinterState kept) payload
  refine ⟨?_, checked, payload, change, own, sameChange.trans computed,
    (congrArg pendingChanges kept).trans pending⟩
  unfold pendingConsensusProposal
  rw [pendingConsensusProposals_operate]
  cases operation.announces formats with
  | none => exact ⟨known, stored, found, sameId⟩
  | some entry =>
    by_cases same : id = entry.1.id
    · subst same
      exact ⟨entry.1, entry.2, Finmap.lookup_insert _, rfl⟩
    · exact ⟨known, stored, (Finmap.lookup_insert_of_ne _ same).trans found, sameId⟩

end

theorem Sound.checkProposal_prepares (sound : service.Sound formats) :
    Ends (AdminService.checkProposal formats around id) service
      (fun _ after => after.Prepared formats id) fun _ _ => True := by
  unfold AdminService.checkProposal
  rw [ends_bind, ends_get]
  split
  · trivial
  · rename_i proposal payload found
    obtain ⟨sameId, own⟩ := sound id proposal payload found
    rw [ends_bind]
    unfold onShared
    rw [ends_zoom, ends_mapError]
    refine
      (AdminServiceShared.proposeChange_ends formats around payload
        service.shared).mono (fun proposed shared proposing => ?_)
        fun _ _ _ => trivial
    obtain ⟨change, computed, _, rfl⟩ := proposing
    have prepared : Prepared formats
        { service with
          shared := { service.shared with
            pendingChanges := some change.context
            currentConsensusVerifiers := change.verifiers } }
      id := by
      refine ⟨⟨proposal, payload, found, sameId⟩, ?_⟩
      exact ⟨around, payload, change, own, computed, rfl⟩
    split
    · exact (prepared.keepsShared (sendUpdate_keeps_shared _)).mono
        (fun _ _ prepared => prepared) fun _ _ _ => trivial
    · exact (prepared.keepsShared (sendUpdate_keeps_shared _)).mono
        (fun _ _ prepared => prepared) fun _ _ _ => trivial

theorem rejectProposal_ends (service : AdminService) (id : ProposalId) :
    Ends (rejectProposal id) service
      (fun _ after => service.pendingConsensusProposal id ≠ none ∧
        after.shared.pendingChanges = none)
      fun _ after => service.pendingConsensusProposal id = none ∧ after = service := by
  unfold rejectProposal
  rw [ends_bind, ends_get]
  split
  · rename_i unknown
    exact ⟨unknown, rfl⟩
  · rename_i registered
    exact ⟨by simp [registered], rfl⟩

theorem Prepared.accepts (prepared : service.Prepared formats id) : service.Accepts formats id := by
  obtain ⟨⟨proposal, stored, found, sameId⟩, checked, payload, change, own,
    computed, kept⟩ := prepared
  refine ⟨checked, payload, change, own, computed, fun around => ?_⟩
  have committed : (commit formats around).run service.shared =
      (commitChange formats around change.context).run
        { service.shared with pendingChanges := none } := by
    have reading (program : AdminServiceShared → Method Unit) :
        (get >>= program).run service.shared = (program service.shared).run service.shared := rfl
    unfold AdminServiceShared.commit
    rw [reading, kept]
    rfl
  have reading (program : AdminService → EStateM ProposalManagerError AdminService Unit) :
      (get >>= program).run service = (program service).run service := rfl
  unfold acceptProposal
  rw [reading]
  simp only [found, sameId, ↓reduceIte, committed]
  cases (commitChange formats around change.context).run
    { service.shared with pendingChanges := none } <;> rfl

theorem Prepared.respond {call : Call} {answer : Answer} {after : AdminService}
    (prepared : service.Prepared formats id) (network : TwoPhase.isNetworkCall call = true)
    (responded : respond formats around call service = some (answer, after)) :
    after.Prepared formats id :=
  prepared.of_slot (congrArg (fun kept => kept.shared.slot) (unmailed_of_network network responded))

end Preparation

variable (formats)

/-- The admin service keeps the change of one proposal; no message or command
can harm it, and its `accept_proposal` never fails. -/
def slotted : Slotted (hostAt formats) where
  Sound := Sound formats
  Prepared := Prepared formats
  Registered service id := service.pendingConsensusProposal id ≠ none
  Commits _ _ := True
  Harmless _ _ _ := True
  fed := by
    rintro _ _ _ _ rfl
    exact ⟨rfl, rfl, rfl, rfl⟩
  sound_answered responded sound := sound.respond responded
  sound_operated := by
    rintro around operation before after rfl sound
    exact sound.operate operation
  checked sound responded :=
    returned_of_answer sound.checkProposal_prepares (Option.some.inj responded)
  rejected := by
    intro around id before after responded
    obtain ⟨registered, empty⟩ := returned_of_answer (rejectProposal_ends before id)
      (Option.some.inj responded)
    refine ⟨registered, ?_⟩
    rintro other ⟨_, _, _, _, _, _, kept⟩
    cases empty.symm.trans kept
  rejectFailed := by
    intro around id error before after responded
    obtain ⟨_, unknown, rfl⟩ := failed_of_answer (rejectProposal_ends before id)
      (Option.some.inj responded)
    exact ⟨fun registered => registered unknown, fun _ prepared => prepared⟩
  accepted _ _ := trivial
  acceptFailed := by
    intro around id error before after _ responded
    obtain ⟨_, impossible⟩ := failed_of_answer (acceptProposal_ends formats around before id)
      (Option.some.inj responded)
    exact impossible.elim
  sent network responded prepared := prepared.respond network responded
  operated := by
    rintro around operation id before after rfl prepared
    exact iff_of_true (prepared.operate operation) trivial

end AdminService

end Splinter.Admin
