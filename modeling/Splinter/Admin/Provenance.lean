import Splinter.Admin.Requests

/-!
# Where the records of a node come from

Every record should come from a payload with a verified signature and a requester
who has the role for its action.  The source takes the answer `Ok(false)` of the
verifier and of the permission manager for a yes.
-/

namespace Splinter.Admin

open Library AdminServiceShared SharedCall
open Protos (CircuitManagementPayload CircuitProposal)

/-! ## Entitled requests -/

/-- The role that the requester of an action needs. -/
def requiredRole : CircuitManagementPayload.Action → Option String
  | .circuitCreateRequest => some proposerRole
  | .circuitProposalVote => some voterRole
  | _ => none

/-- The signature of a payload was verified and its requester has the role. -/
structure Entitled (formats : Formats) (around : Surroundings)
    (payload : CircuitManagementPayload) (header : CircuitManagementPayload.Header) : Prop where
  parsed : formats.protos.header.parse payload.header = .ok header
  authentic : around.verify payload.header payload.signature header.requester = .ok true
  permitted : ∃ role, requiredRole header.action = some role ∧
    around.isPermitted header.requester role = .ok true

/-- The signature of a payload was not verified, or its requester does not
have the role. -/
def Denied (formats : Formats) (around : Surroundings)
    (payload : CircuitManagementPayload) : Prop :=
  ∃ header, formats.protos.header.parse payload.header = .ok header ∧
    (around.verify payload.header payload.signature header.requester ≠ .ok true ∨
      ∃ role, requiredRole header.action = some role ∧
        around.isPermitted header.requester role = .ok false)

/-- The verifier and the permission manager deny a payload by an error. -/
def DeniedByError (formats : Formats) (around : Surroundings)
    (payload : CircuitManagementPayload) : Prop :=
  ∀ header, formats.protos.header.parse payload.header = .ok header →
    around.verify payload.header payload.signature header.requester ≠ .ok false ∧
      ∀ role, requiredRole header.action = some role →
        around.isPermitted header.requester role ≠ .ok false

theorem answer_of_ne_false {answer : Except Service.ErrorText Bool}
    (answered : ∃ value, answer = .ok value) (notDenied : answer ≠ .ok false) :
    answer = .ok true := by
  obtain ⟨value, rfl⟩ := answered
  cases value with
  | false => exact (notDenied rfl).elim
  | true => rfl

variable {around : Surroundings} {payload : CircuitManagementPayload}
  {header : CircuitManagementPayload.Header} {proposal : CircuitProposal}
  {last : AdminServiceShared}

theorem entitled_of_checked {formats : Formats} {role : String}
    (checked : Checked formats around payload header)
    (required : requiredRole header.action = some role)
    (answered : ∃ answer, around.isPermitted header.requester role = .ok answer)
    (byError : DeniedByError formats around payload) :
    Entitled formats around payload header := by
  obtain ⟨verified, permitted⟩ := byError header checked.parsed
  exact
    ⟨checked.parsed, answer_of_ne_false checked.answered verified, role,
      required, answer_of_ne_false answered (permitted role required)⟩

namespace SharedCall

variable (formats : Formats)

def Denied : SharedCall → Prop
  | .submit around payload | .proposeChange around payload => Admin.Denied formats around payload
  | .commit _ | .rollback => False

def DeniedByError : SharedCall → Prop
  | .submit around payload | .proposeChange around payload =>
    Admin.DeniedByError formats around payload
  | .commit _ | .rollback => True

def Refused (shared : AdminServiceShared) : SharedCall → Prop
  | .submit around payload =>
    Ends (AdminServiceShared.submit formats around payload) shared
      (fun _ _ => False) fun _ after => after = shared
  | .proposeChange around payload =>
    Ends (AdminServiceShared.proposeChange formats around payload) shared
      (fun _ _ => False) fun _ after => after = shared
  | .commit _ | .rollback => False

end SharedCall

theorem not_checked_of_denied {formats : Formats} (denied : Denied formats around payload)
    (byError : DeniedByError formats around payload) :
    ¬ Checked formats around payload header := by
  intro checked
  obtain ⟨other, parsed, reason⟩ := denied
  have same : other = header := Except.ok.inj (parsed.symm.trans checked.parsed)
  subst same
  obtain ⟨verified, permitted⟩ := byError other parsed
  rcases reason with unverified | ⟨role, required, refused⟩
  · exact unverified (answer_of_ne_false checked.answered verified)
  · exact permitted role required refused

theorem SharedCall.refused_of_denied
    {formats : Formats} {call : SharedCall} (shared : AdminServiceShared)
    (denied : call.Denied formats) (byError : call.DeniedByError formats) :
    call.Refused formats shared := by
  cases call with
  | submit around payload =>
    simp only [Refused, AdminServiceShared.submit, ends_bind, ends_fromExcept]
    refine ⟨fun header passed => ?_, fun _ _ => trivial⟩
    have checked := (AdminServiceShared.submittedHeader_eq_ok_iff header).mp passed
    exact (not_checked_of_denied denied byError checked).elim
  | proposeChange around payload =>
    refine
      (AdminServiceShared.proposeChange_ends formats around payload
        shared).mono (fun _ _ proposed => ?_) fun _ _ same => same
    obtain ⟨change, computed, _⟩ := proposed
    obtain ⟨header, checked, _⟩ := (AdminServiceShared.proposedChange_eq_ok_iff change).mp computed
    exact not_checked_of_denied denied byError checked
  | commit around => exact denied.elim
  | rollback => exact denied.elim

/-! ## Records that are accounted for -/

def withoutVotes (proposal : CircuitProposal) : CircuitProposal := { proposal with votes := [] }

def AdminServiceShared.Holds (shared : AdminServiceShared) (proposal : CircuitProposal) : Prop :=
  (∃ circuitId, shared.Open circuitId proposal) ∨ ∃ context, shared.pendingChanges = some context ∧
    context.circuitProposal = proposal

section Accounts

variable (formats : Formats) (first : AdminServiceShared)
  (path : List (AdminServiceShared × SharedCall))

def Opened (proposal : CircuitProposal) : Prop := ∃ state around payload header circuitHash,
    (state, SharedCall.proposeChange around payload) ∈ path ∧
      Entitled formats around payload header ∧
      header.action = .circuitCreateRequest ∧
      withoutVotes proposal = AdminServiceShared.createdProposal
        payload.getCircuitCreateRequest.getCircuit circuitHash header

def Cast (circuitHash : String) (vote : CircuitProposal.VoteRecord) : Prop :=
  ∃ state around payload header, (state, SharedCall.proposeChange around payload) ∈ path ∧
    Entitled formats around payload header ∧
    header.action = .circuitProposalVote ∧
    payload.getCircuitProposalVote.circuitHash = circuitHash ∧
    vote = AdminServiceShared.castVote payload.getCircuitProposalVote header

/-- A proposal and its votes were there at first or have been requested by
payloads that were entitled to. -/
structure Backed (proposal : CircuitProposal) : Prop where
  origin : (∃ old, first.Holds old ∧ withoutVotes proposal = withoutVotes old) ∨
    Opened formats path proposal
  votes : ∀ vote ∈ proposal.votes,
    (∃ old, first.Holds old ∧ withoutVotes proposal = withoutVotes old ∧ vote ∈ old.votes) ∨
      Cast formats path proposal.circuitHash vote

/-- The records of the last state of a run are accounted for, and requests
that were denied have been refused. -/
structure Accounted (last : AdminServiceShared) : Prop where
  circuits : ∀ name circuit, last.records.circuits.lookup name = some circuit →
    first.records.circuits.lookup name = some circuit ∨
      ∃ proposal, Backed formats first path proposal ∧
        AdminServiceShared.stateCircuit proposal.getCircuitProposal = .ok circuit
  proposals : ∀ proposal, last.Holds proposal → Backed formats first path proposal
  denied : ∀ visited ∈ path, visited.2.Denied formats → visited.2.Refused formats visited.1

end Accounts

variable {formats : Formats} {first : AdminServiceShared}
  {path : List (AdminServiceShared × SharedCall)}

theorem Backed.mono {longer : List (AdminServiceShared × SharedCall)}
    (backed : Backed formats first path proposal) (longerPath : path ⊆ longer) :
    Backed formats first longer proposal where
  origin := by
    rcases backed.origin with old | ⟨state, around, payload, header, hash, member, opened⟩
    · exact Or.inl old
    · exact Or.inr ⟨state, around, payload, header, hash, longerPath member, opened⟩
  votes := by
    intro vote present
    rcases backed.votes vote present with old | ⟨state, around, payload, header, member, cast⟩
    · exact Or.inl old
    · exact Or.inr ⟨state, around, payload, header, longerPath member, cast⟩

theorem backed_of_holds (held : first.Holds proposal) : Backed formats first path proposal where
  origin := Or.inl ⟨proposal, held, rfl⟩
  votes := fun _ present => Or.inl ⟨proposal, held, rfl, present⟩

/-! ## What a call adds -/

section Proposing

variable {around : Surroundings} {payload : CircuitManagementPayload}
  {before : AdminServiceShared} {change : Change}
  (member : (before, SharedCall.proposeChange around payload) ∈ path)
  (byError : DeniedByError formats around payload)

include member byError

variable {header : CircuitManagementPayload.Header}

theorem backed_of_createdChange (checked : Checked formats around payload header)
    (action : header.action = .circuitCreateRequest)
    (created : before.createdChange formats around payload header = .ok change) :
    Backed formats first path change.context.circuitProposal := by
  obtain ⟨validated, circuitHash, _, _, _, rfl⟩ :=
    (createdChange_eq_ok_iff header change).mp created
  have creatable := creatable_of_validateCreateCircuit validated
  have required : requiredRole header.action = some proposerRole := by
    rw [action]
    rfl
  have entitled := entitled_of_checked checked required creatable.answered byError
  exact
    { origin := Or.inr
          ⟨before, around, payload, header, circuitHash, member, entitled, action, rfl⟩
      votes := fun _ impossible => (List.not_mem_nil impossible).elim }

theorem backed_of_votedChange (checked : Checked formats around payload header)
    (action : header.action = .circuitProposalVote)
    (accounted : ∀ proposal, before.Holds proposal → Backed formats first path proposal)
    (voted : before.votedChange formats around payload header = .ok change) :
    Backed formats first path change.context.circuitProposal := by
  obtain ⟨openProposal, found, validated, _, _, rfl⟩ :=
    (votedChange_eq_ok_iff header change).mp voted
  have backed := accounted openProposal (Or.inl ⟨_, open_of_votedProposal found⟩)
  have votable := votable_of_validateCircuitVote validated
  have required : requiredRole header.action = some voterRole := by
    rw [action]
    rfl
  have entitled := entitled_of_checked checked required votable.answered byError
  refine { origin := backed.origin, votes := fun vote present => ?_ }
  rcases List.mem_append.mp present with earlier | now
  · exact backed.votes vote earlier
  · rw [List.mem_singleton] at now
    exact Or.inr
      ⟨before, around, payload, header, member, entitled, action, votable.sameHash.symm, now⟩

end Proposing

section Step

variable {before after : AdminServiceShared} {call : SharedCall}

theorem proposals_accounted_of_effect
    (accounted : ∀ proposal, before.Holds proposal → Backed formats first path proposal)
    (member : (before, call) ∈ path) (byError : call.DeniedByError formats)
    (effect : SharedCall.Effect formats before after call)
    (proposal : CircuitProposal) (held : after.Holds proposal) :
    Backed formats first path proposal := by
  have stillOpen (same : after.records = before.records)
      {circuitId : String} (isOpen : after.Open circuitId proposal) :
      Backed formats first path proposal := by
    obtain ⟨stored, found, exported⟩ := isOpen
    rw [same] at found
    exact accounted proposal (Or.inl ⟨circuitId, stored, found, exported⟩)
  rcases held with ⟨circuitId, isOpen⟩ | ⟨context, pending, rfl⟩
  · cases effect with
    | submitted same _ | refused same _ | proposed _ same _ => exact stillOpen same isOpen
    | nothingPending _ same _ | rolledBack same _ => exact stillOpen same isOpen
    | @committed _ context pending committed _ =>
      obtain ⟨stored, found, exported⟩ := isOpen
      rcases committed.proposal_cases found with
        earlier | ⟨_, _, converted⟩
      · exact accounted proposal (Or.inl ⟨circuitId, stored, earlier, exported⟩)
      · have back := Messages.CircuitProposal.intoProto_of_fromProto converted
        have same : context.circuitProposal = proposal := Except.ok.inj (back.symm.trans exported)
        exact accounted proposal (Or.inr ⟨context, pending, same⟩)
  · cases effect with
    | submitted _ same | refused _ same =>
      rw [same] at pending
      exact accounted _ (Or.inr ⟨context, pending, rfl⟩)
    | @proposed _ _ change computed _ now =>
      have same : change.context = context := Option.some.inj (now.symm.trans pending)
      subst same
      obtain ⟨header, checked, ⟨action, created⟩ | ⟨action, voted⟩⟩ :=
        (proposedChange_eq_ok_iff change).mp computed
      · exact backed_of_createdChange member byError checked action created
      · exact backed_of_votedChange member byError checked action accounted voted
    | nothingPending _ _ none | committed _ _ none | rolledBack _ none =>
      rw [none] at pending
      cases pending

theorem circuits_accounted_of_effect (accounted : Accounted formats first path before)
    (effect : SharedCall.Effect formats before after call)
    (name : String) (circuit : Circuits.Circuit)
    (found : after.records.circuits.lookup name = some circuit) :
    first.records.circuits.lookup name = some circuit ∨
      ∃ proposal, Backed formats first path proposal ∧
        AdminServiceShared.stateCircuit proposal.getCircuitProposal = .ok circuit := by
  cases effect with
  | submitted same _ | refused same _ | proposed _ same _ =>
    exact accounted.circuits name circuit (same ▸ found)
  | nothingPending _ same _ | rolledBack same _ =>
    exact accounted.circuits name circuit (same ▸ found)
  | @committed _ context pending committed _ =>
    rcases committed.circuit_cases found with earlier | ⟨_, _, built⟩
    · exact accounted.circuits name circuit earlier
    · have backed := accounted.proposals context.circuitProposal (Or.inr ⟨context, pending, rfl⟩)
      exact Or.inr ⟨context.circuitProposal, backed, built⟩

theorem accounted_of_effect (accounted : Accounted formats first path before)
    (byError : call.DeniedByError formats) (effect : SharedCall.Effect formats before after call) :
    Accounted formats first (path ++ [(before, call)]) after := by
  have longer : path ⊆ path ++ [(before, call)] := List.subset_append_left ..
  have member : (before, call) ∈ path ++ [(before, call)] := by simp
  refine { circuits := ?_, proposals := ?_, denied := ?_ }
  · intro name circuit found
    rcases circuits_accounted_of_effect accounted effect name circuit found
      with old | ⟨proposal, backed, built⟩
    · exact Or.inl old
    · exact Or.inr ⟨proposal, backed.mono longer, built⟩
  · exact proposals_accounted_of_effect
      (fun proposal held => (accounted.proposals proposal held).mono longer)
      member byError effect
  · intro visited present denied
    rcases List.mem_append.mp present with earlier | now
    · exact accounted.denied visited earlier denied
    · rw [List.mem_singleton] at now
      subst now
      exact refused_of_denied before denied byError

end Step

/-- In a run in which the verifier and the permission manager deny by errors,
only entitled requests change the records. -/
theorem accounted_of_denied_by_error (run : Run (SharedCall.Step formats) first path last)
    (byError : Run.Meets (fun _ call => SharedCall.DeniedByError formats call) path) :
    Accounted formats first path last := by
  induction run with
  | start =>
    exact
      { circuits := fun _ _ found => Or.inl found
        proposals := fun _ held => backed_of_holds held
        denied := fun _ impossible => (List.not_mem_nil impossible).elim }
  | @snoc path before after call _ taken ih =>
    rw [Run.meets_snoc] at byError
    have effect := effect_of_perform formats call before
    rw [← taken] at effect
    exact accounted_of_effect (ih byError.1) byError.2 effect

/-! ## Requests of a single node -/

def unverified : Surroundings := { Surroundings.working with verify := fun _ _ _ => .ok false }

def unprivileged : Surroundings := { Surroundings.working with isPermitted := fun _ _ => .ok false }

theorem circuit_of_soleRequest (around : Surroundings)
    (listed : around ∈ [Surroundings.working, unverified, unprivileged]) :
    (SharedCall.performAll .standard (proposeAndCommit around soleRequest)
      (emptyNode "a")).2.splinterState.hasCircuit "c" = true := by
  simp only [List.mem_cons, List.not_mem_nil, or_false] at listed
  rcases listed with same | same | same
  · rw [same]
    decide +kernel
  · rw [same]
    decide +kernel
  · rw [same]
    decide +kernel

theorem emptyNode_holds_nothing (nodeId : String) (proposal : CircuitProposal) :
    ¬ (emptyNode nodeId).Holds proposal := by
  rintro (⟨_, _, found, _⟩ | ⟨_, pending, _⟩)
  · cases found
  · cases pending

theorem opened_of_accounted_circuit {nodeId name : String}
    (accounted : Accounted formats (emptyNode nodeId) path last)
    (created : last.splinterState.hasCircuit name = true) :
    ∃ proposal, Opened formats path proposal := by
  obtain ⟨circuit, found⟩ := Finmap.mem_iff.mp (of_decide_eq_true created)
  rcases accounted.circuits name circuit found with old | ⟨proposal, backed, _⟩
  · cases old
  · rcases backed.origin with ⟨old, held, _⟩ | opened
    · exact (emptyNode_holds_nothing nodeId old held).elim
    · exact ⟨proposal, opened⟩

theorem circuit_without_entitlement (around : Surroundings)
    (listed : around ∈ [unverified, unprivileged]) :
    ∃ path last, Run (SharedCall.Step .standard) (emptyNode "a") path last ∧
      path.map Prod.snd = proposeAndCommit around soleRequest ∧
      last.splinterState.hasCircuit "c" = true ∧
      ¬ Accounted .standard (emptyNode "a") path last := by
  have created := circuit_of_soleRequest around (List.mem_cons_of_mem _ listed)
  refine
    ⟨_, _, run_performAll .standard (proposeAndCommit around soleRequest) (emptyNode "a"),
      map_snd_performAll .standard _ _, created,
      fun accounted => ?_⟩
  obtain ⟨_, _, other, payload, header, _, member, entitled, _⟩ :=
    opened_of_accounted_circuit accounted created
  have same : other = around := by
    have called := mem_calls_of_mem_performAll .standard member
    simp only [proposeAndCommit, List.mem_cons, proposeChange.injEq,
      reduceCtorEq, List.not_mem_nil, or_false] at called
    exact called.1
  subst same
  obtain ⟨_, authentic, _, _, permitted⟩ := entitled
  simp only [List.mem_cons, List.not_mem_nil, or_false] at listed
  rcases listed with rfl | rfl
  · cases authentic
  · cases permitted

/-- Node `a` creates a circuit though no signature is valid, or though its key
has no role. -/
theorem denied_request_creates_circuit :
    (∃ path last, Run (SharedCall.Step .standard) (emptyNode "a") path last ∧
        path.map Prod.snd = proposeAndCommit unverified soleRequest ∧
        last.splinterState.hasCircuit "c" = true ∧
        ¬ Accounted .standard (emptyNode "a") path last) ∧
      ∃ path last, Run (SharedCall.Step .standard) (emptyNode "a") path last ∧
          path.map Prod.snd = proposeAndCommit unprivileged soleRequest ∧
          last.splinterState.hasCircuit "c" = true ∧
          ¬ Accounted .standard (emptyNode "a") path last :=
  ⟨circuit_without_entitlement unverified (by simp),
    circuit_without_entitlement unprivileged (by simp)⟩

/-- With a valid signature and the role the circuit is accounted for. -/
theorem entitled_request_accounted : ∃ path last,
      Run (SharedCall.Step .standard) (emptyNode "a") path last ∧
        last.splinterState.hasCircuit "c" = true ∧
        Accounted .standard (emptyNode "a") path last := by
  have run := run_performAll .standard (proposeAndCommit .working soleRequest) (emptyNode "a")
  refine ⟨_, _, run, circuit_of_soleRequest .working (List.mem_cons_self ..), ?_⟩
  apply accounted_of_denied_by_error run
  intro visited member
  have called := mem_calls_of_mem_performAll .standard member
  simp only [proposeAndCommit, List.mem_cons, List.not_mem_nil, or_false] at called
  rcases called with same | same
  · rw [same]
    intro header _
    exact ⟨by simp [Surroundings.working], by simp [Surroundings.working]⟩
  · rw [same]
    exact trivial

end Splinter.Admin
