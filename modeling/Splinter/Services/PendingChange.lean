import Splinter.Admin.PendingChange
import Splinter.Scabbard.PendingChange
import Splinter.Services.Execution

/-!
# The pending change belongs to the proposal under evaluation

The runs in which the pending change always is the change of the proposal under
evaluation are the undisturbed ones.  A REJECT result for another proposal is a
disturbance.
-/

namespace Splinter.Services

open Library Consensus TwoPhase Participant
open Admin (AdminService)
open ScabbardService (Scabbard)

/-- The admin service keeps the change of the proposal under evaluation, and
accepting the proposal decides this change. -/
def AdminKeepsChange (formats : Admin.Formats) (participant : Participant AdminService) : Prop :=
  ∀ proposal, participant.engine.state = .evaluatingProposal proposal →
    participant.service.Prepared formats proposal.proposalId ∧
      participant.service.Accepts formats proposal.proposalId

/-- The scabbard service keeps the change of the proposal under evaluation, and
accepting the proposal commits this change. -/
def ScabbardKeepsChange (formats : ScabbardService.Formats)
    (participant : Participant Scabbard) : Prop :=
  ∀ proposal, participant.engine.state = .evaluatingProposal proposal →
    participant.service.Prepared formats proposal.proposalId ∧
      participant.service.Accepts formats proposal.proposalId

theorem adminKeepsChange_eq (formats : Admin.Formats) :
    AdminKeepsChange formats = (AdminService.slotted formats).Holds := by
  funext participant
  apply propext
  constructor
  · intro keeps proposal evaluating
    exact (keeps proposal evaluating).1
  · intro holds proposal evaluating
    have prepared : participant.service.Prepared formats _ := holds proposal evaluating
    exact ⟨prepared, prepared.accepts⟩

theorem scabbardKeepsChange_eq (formats : ScabbardService.Formats) :
    ScabbardKeepsChange formats = (Scabbard.slotted formats).Holds := by
  funext participant
  apply propext
  constructor
  · intro keeps proposal evaluating
    exact (keeps proposal evaluating).1
  · intro holds proposal evaluating
    have prepared : participant.service.Prepared formats _ := holds proposal evaluating
    exact ⟨prepared, prepared.accepts⟩

/-- In every run of either service with its engine, the pending change is at all times that of
the proposal under evaluation if and only if every step is undisturbed. -/
theorem keeps_change_iff_undisturbed
    (adminFormats : Admin.Formats) (scabbardFormats : ScabbardService.Formats)
    (codecs : TwoPhase.Codecs) (timeout : Nat) (now : Instant) :
    (∀ peers nodeId openProposals splinterState path last, Run
          (Participant.SituatedStep adminFormats.twoPhase (AdminService.hostAt adminFormats))
          (AdminService.started timeout now peers nodeId openProposals splinterState)
          path last →
        (Run.Throughout (AdminKeepsChange adminFormats) path last ↔ Run.Meets
            ((AdminService.slotted adminFormats).Undisturbed adminFormats.twoPhase)
            path)) ∧
      ∀ serviceId circuitId peerServices stateRoot path last, Run
            (Participant.SituatedStep codecs (Scabbard.hostAt scabbardFormats))
            (Scabbard.started timeout now serviceId circuitId peerServices stateRoot)
            path last →
          (Run.Throughout (ScabbardKeepsChange scabbardFormats) path last ↔ Run.Meets
              ((Scabbard.slotted scabbardFormats).Undisturbed codecs) path) := by
  rw [adminKeepsChange_eq, scabbardKeepsChange_eq]
  constructor
  · intro peers nodeId openProposals splinterState path last run
    refine Slotted.throughout_holds_iff _ run ⟨?_, ?_⟩ rfl
    · exact Node.wellKept_boot _ _ _ _
    · intro id proposal payload found
      cases found
  · intro serviceId circuitId peerServices stateRoot path last run
    refine Slotted.throughout_holds_iff _ run ⟨?_, trivial⟩ rfl
    exact Node.wellKept_boot _ _ _ _

section LostChange

open Admin (createPayload simpleCircuit hashPayload adminServiceId)
open Admin.Protos (CircuitManagementPayload)

/-- A request of node `a` and a request of node `b`, both with node `c`. -/
def requestOfA : CircuitManagementPayload :=
  createPayload (simpleCircuit "p" ["a", "c"]) (asBytes "a") "a" [1]

def requestOfB : CircuitManagementPayload :=
  createPayload (simpleCircuit "q" ["b", "c"]) (asBytes "b") "b" [1]

/-- What a node sends to the other member when it proposes a payload. -/
def announcement (openProposals : Admin.OpenProposals) (nodeId : String)
    (payload : CircuitManagementPayload) : Bytes :=
  let service := (AdminService.new nodeId openProposals (.new .new)).start
  let submitted := AdminService.operate .standard (.submitCircuitChange .working payload)
    service
  match (AdminService.createProposal .standard .working).run submitted with
  | .ok _ after => (after.shared.sentMessages.headD ("", [])).2
  | .error _ _ => []

def proposalIdOf (payload : CircuitManagementPayload) : ProposalId :=
  match hashPayload .standard payload with
  | .ok hash => ⟨asBytes hash⟩
  | .error _ => ⟨[]⟩

def told (nodeId : String) (messageBytes : Bytes) : Stimulus AdminService.Operation := .operation
    (.handleMessage .working ⟨adminServiceId nodeId, "admin", ""⟩ messageBytes)

def envelope (nodeId : String) (message : TwoPhaseMessage) : Bytes :=
  (AdminService.new nodeId .new (.new .new)).consensusEnvelope .standard
    (Codecs.protobuf.twoPhaseMessage.write message)

def adminAt (around : Admin.Surroundings) : Responder (AdminService.hostAt .standard around) where
  respond := AdminService.respond .standard around
  operate := AdminService.operate .standard
  answers responded := responded
  operates _ _ := rfl

def workingAdmin : Responder (AdminService.host .standard) :=
  { adminAt .working with answers := fun responded => ⟨_, responded⟩, operates := fun _ _ => rfl }

def nodeC : Participant AdminService := AdminService.started 30 0 [] "c" .new (.new .new)

/-- Node `c` hears of the request of `a` and verifies it. -/
def verifying : List (Stimulus AdminService.Operation) :=
  [told "a" (announcement .new "a" requestOfA), nextUpdate 0,
    told "a" (envelope "a" (verificationRequest (proposalIdOf requestOfA))),
    nextMessage 0, nextUpdate 0]

/-- Node `c` knows of the request of `b` when it verifies the one of `a`.  Then
it hears that the former is rejected and the latter is to be applied. -/
def rejectingOther : List (Stimulus AdminService.Operation) :=
  [told "b" (announcement .new "b" requestOfB), nextUpdate 0] ++ verifying ++
    [told "b" (envelope "b" (resultMessage (proposalIdOf requestOfB) .reject)), nextMessage 0,
      told "a" (envelope "a" (resultMessage (proposalIdOf requestOfA) .apply)),
      nextMessage 0]

def changeLost (participant : Participant AdminService) : Bool :=
  match participant.engine.state with
  | .evaluatingProposal _ => participant.service.shared.pendingChanges = none
  | _ => false

theorem not_keepsChange_of_changeLost
    {formats : Admin.Formats} {participant : Participant AdminService}
    (lost : changeLost participant = true) :
    ¬ AdminKeepsChange formats participant := by
  intro keeps
  unfold changeLost at lost
  split at lost
  · rename_i proposal evaluating
    obtain ⟨⟨_, _, _, change, _, _, kept⟩, _⟩ := keeps proposal evaluating
    rw [of_decide_eq_true lost] at kept
    cases kept
  · cases lost

def commitFailed : ProposalUpdate := .proposalAcceptFailed (proposalIdOf requestOfA)
    "failed to commit proposal: tried to commit without pending changes"

/-- The REJECT result for the request of `b` makes node `c` lose the change of
`a`, which it then fails to commit. -/
theorem rejecting_other_loses_change : ∃ path last,
      Run (Participant.SituatedStep .protobuf (AdminService.hostAt .standard)) nodeC path last ∧
        ¬ Run.Throughout (AdminKeepsChange .standard) path last ∧
        last.service.consensus = some ⟨[], [commitFailed]⟩ := by
  have played : plays .protobuf (adminAt .working) nodeC rejectingOther
      (fun path last =>
        path.any (fun visited => changeLost visited.1) &&
          last.service.consensus = some ⟨[], [commitFailed]⟩) =
        true := by
    decide +kernel
  obtain ⟨path, last, run, checked⟩ := exists_situated_run _ played
  obtain ⟨lost, failed⟩ := Bool.and_eq_true_iff.mp checked
  obtain ⟨visited, member, changeLost⟩ := List.any_eq_true.mp lost
  refine ⟨_, last, run, fun throughout => ?_, of_decide_eq_true failed⟩
  exact not_keepsChange_of_changeLost changeLost
    (throughout.1 _ (List.mem_map.mpr ⟨visited, member, rfl⟩))

end LostChange

section KeptChange

open ScabbardService

def entryBatches : Formats where
  scabbardMessage := ScabbardMessage.codec
  consensus := .protobuf
  readBatch
    | [name] => .ok (entryBatch name)
    | _ => .error "malformed"
  writeBatch batch := batch.batch.header
  transactionHeader _ :=
    .ok {
      batcherPublicKey := []
      signerPublicKey := []
      payloadHash := Sha2.sha512.hash [] }
  sha512 message := .ok (Sha2.sha512.hash message)
  machine := entryMachine

def scabbardAt (around : Surroundings) : Responder (Scabbard.hostAt entryBatches around) where
  respond call service := some (Scabbard.respond entryBatches around call service)
  operate := Scabbard.operate entryBatches
  answers responded := Option.some.inj responded
  operates _ _ := rfl

def workingScabbard : Responder (Scabbard.host entryBatches) :=
  { scabbardAt workingStorage with
    answers := fun responded => ⟨_, Option.some.inj responded⟩, operates := fun _ _ => rfl }

def serviceX : Scabbard := .new "x" "circuit" ["y"] "00"

def serviceY : Participant Scabbard :=
  Scabbard.started 30 0 "y" "circuit" ["x"] "00"

/-- A service message from the service `x`. -/
def toldByX (messageBytes : Bytes) : Stimulus Scabbard.Operation :=
  .operation (.handleMessage ⟨"x", "circuit", ""⟩ messageBytes)

/-- Service `y` hears of a batch of `x` and verifies it. -/
def verifyingEntry : List (Stimulus Scabbard.Operation) :=
  let proposal := Scabbard.consensusProposal "0a"
  [toldByX
    (entryBatches.scabbardMessage.write
      (serviceX.proposedBatchMessage entryBatches proposal (entryBatch 1))),
    nextUpdate 0,
    toldByX
      (serviceX.consensusEnvelope entryBatches
        (Codecs.protobuf.twoPhaseMessage.write (verificationRequest proposal.id))),
    nextMessage 0, nextUpdate 0]

def evaluates {Service : Type} (participant : Participant Service) : Bool :=
  match participant.engine.state with
  | .evaluatingProposal _ => true
  | _ => false

/-- Both services verify a proposal without a disturbance and then keep its
change. -/
theorem keeps_change_while_verifying :
    (∃ path last,
        Run (Participant.SituatedStep .protobuf (AdminService.hostAt .standard)) nodeC path last ∧
        evaluates last = true ∧
        Run.Throughout (AdminKeepsChange .standard) path last) ∧
      ∃ path last, Run (Participant.SituatedStep .protobuf (Scabbard.hostAt entryBatches))
            serviceY path last ∧
          evaluates last = true ∧
          Run.Throughout (ScabbardKeepsChange entryBatches) path last := by
  have keeps := keeps_change_iff_undisturbed .standard entryBatches .protobuf 30 0
  constructor
  · have played : plays .protobuf (adminAt .working) nodeC verifying
        (fun path last => path.all (quietStep .protobuf) && evaluates last) = true := by
      decide +kernel
    obtain ⟨path, last, run, checked⟩ := exists_situated_run _ played
    obtain ⟨quietly, evaluating⟩ := Bool.and_eq_true_iff.mp checked
    refine ⟨_, last, run, evaluating, ?_⟩
    exact (keeps.1 _ _ _ _ _ last run).mpr (meets_undisturbed_of_quiet _ _ quietly)
  · have played : plays .protobuf (scabbardAt workingStorage) serviceY verifyingEntry
        (fun path last => path.all (quietStep .protobuf) && evaluates last) = true := by
      decide +kernel
    obtain ⟨path, last, run, checked⟩ := exists_situated_run _ played
    obtain ⟨quietly, evaluating⟩ := Bool.and_eq_true_iff.mp checked
    refine ⟨_, last, run, evaluating, ?_⟩
    exact (keeps.2 _ _ _ _ _ last run).mpr (meets_undisturbed_of_quiet _ _ quietly)

end KeptChange

end Splinter.Services
