import Mathlib.Data.List.Induction
import Splinter.Admin.Proposing

/-!
# Payloads that wait for peers

`propose_circuit` keeps a payload back until the members it has connected to
are authorized.  `payloads_released` tells what any sequence of authorization
changes makes of the payloads that wait.
-/

namespace Splinter.Admin

open Library
open Protos (CircuitManagementPayload)

namespace AdminServiceShared

abbrev AuthorizationChange := String × PeerAuthorizationState

def afterChanges (shared : AdminServiceShared) (changes : List AuthorizationChange) :
    AdminServiceShared :=
  changes.foldl (fun shared change => shared.onAuthorizationChange change.1 change.2) shared

variable (changes : List AuthorizationChange)

def missing (peers : List String) : List String :=
  peers.filter fun peer => (peer, .authorized) ∉ changes

/-- Some peers are not authorized yet, and none of them has been refused. -/
def Waits (peers : List String) : Prop :=
  missing changes peers ≠ [] ∧
    ∀ earlier peer later, changes = earlier ++ (peer, .unauthorized) :: later →
      peer ∉ missing earlier peers

def Releases (change : AuthorizationChange) (peers : List String) : Prop :=
  Waits changes peers ∧ change.2 = .authorized ∧ ∀ peer ∈ missing changes peers, peer = change.1

def Drops (change : AuthorizationChange) (peers : List String) : Prop :=
  Waits changes peers ∧ change.2 = .unauthorized ∧ change.1 ∈ missing changes peers

variable {changes : List AuthorizationChange} {peers : List String}

theorem waits_nil_iff : Waits [] peers ↔ peers ≠ [] := by
  simp [Waits, missing]

theorem missing_append_authorized (peer : String) :
    missing (changes ++ [(peer, .authorized)]) peers =
      (missing changes peers).filter (· ≠ peer) := by
  unfold missing
  rw [List.filter_filter]
  apply List.filter_congr
  intro other _
  by_cases same : other = peer <;> simp [same]

theorem missing_append_unauthorized (peer : String) :
    missing (changes ++ [(peer, .unauthorized)]) peers = missing changes peers := by
  simp [missing]

variable (change : AuthorizationChange)

theorem refusals_append_iff :
    (∀ earlier peer later, changes ++ [change] = earlier ++ (peer, .unauthorized) :: later →
      peer ∉ missing earlier peers) ↔
      (∀ earlier peer later, changes = earlier ++ (peer, .unauthorized) :: later →
        peer ∉ missing earlier peers) ∧
        (change.2 = .unauthorized → change.1 ∉ missing changes peers) := by
  constructor
  · intro survived
    constructor
    · intro earlier peer later split
      exact survived earlier peer (later ++ [change]) (by rw [split]; simp)
    · intro refused
      exact survived changes change.1 [] (by rw [← refused])
  · rintro ⟨survived, last⟩ earlier peer later split
    rcases List.eq_nil_or_concat later with rfl | ⟨rest, final, rfl⟩
    · obtain ⟨rfl, same⟩ := List.append_inj' split rfl
      obtain rfl := List.singleton_inj.mp same
      exact last rfl
    · rw [List.concat_eq_append, ← List.cons_append, ← List.append_assoc] at split
      exact survived earlier peer rest (List.append_inj' split rfl).1

theorem waits_append_iff : Waits (changes ++ [change]) peers ↔
    Waits changes peers ∧ ¬ Releases changes change peers ∧ ¬ Drops changes change peers := by
  obtain ⟨peer, state⟩ := change
  cases state with
  | authorized =>
    have others : (missing changes peers).filter (· ≠ peer) ≠ [] ↔
        ¬ ∀ other ∈ missing changes peers, other = peer := by
      simp [List.filter_eq_nil_iff]
    unfold Waits
    rw [refusals_append_iff, missing_append_authorized, others]
    constructor
    · rintro ⟨left, survived, _⟩
      refine ⟨⟨?_, survived⟩, fun released => left released.2.2, nofun⟩
      intro none
      rw [none] at left
      exact left nofun
    · rintro ⟨⟨some, survived⟩, unreleased, _⟩
      exact ⟨fun all => unreleased ⟨⟨some, survived⟩, rfl, all⟩, survived, nofun⟩
  | unauthorized =>
    unfold Waits
    rw [refusals_append_iff, missing_append_unauthorized]
    constructor
    · rintro ⟨some, survived, last⟩
      exact ⟨⟨some, survived⟩, nofun, fun dropped => last rfl dropped.2.2⟩
    · rintro ⟨⟨some, survived⟩, _, undropped⟩
      exact ⟨some, survived, fun _ named => undropped ⟨⟨some, survived⟩, rfl, named⟩⟩

theorem remainingPeers_missing (waits : Waits changes peers) :
    (Waits (changes ++ [change]) peers → remainingPeers change.1 change.2 (missing changes peers) =
      missing (changes ++ [change]) peers) ∧
      (¬ Waits (changes ++ [change]) peers →
        remainingPeers change.1 change.2 (missing changes peers) = []) := by
  rw [waits_append_iff]
  obtain ⟨peer, state⟩ := change
  cases state with
  | authorized =>
    rw [missing_append_authorized]
    refine ⟨fun _ => rfl, ?_⟩
    intro gone
    have released : Releases changes (peer, .authorized) peers := by
      by_contra unreleased
      exact gone ⟨waits, unreleased, nofun⟩
    change (missing changes peers).filter (· ≠ peer) = []
    simpa [List.filter_eq_nil_iff] using released.2.2
  | unauthorized =>
    rw [missing_append_unauthorized]
    constructor
    · rintro ⟨_, _, undropped⟩
      exact if_neg fun named => undropped ⟨waits, rfl, named⟩
    · intro gone
      have dropped : Drops changes (peer, .unauthorized) peers := by
        by_contra undropped
        exact gone ⟨waits, nofun, undropped⟩
      exact if_pos dropped.2.2

theorem unaffected_of_unnamed (unnamed : change.1 ∉ peers) :
    (Waits (changes ++ [change]) peers ↔ Waits changes peers) ∧
      missing (changes ++ [change]) peers = missing changes peers := by
  have absent : change.1 ∉ missing changes peers := fun member =>
    unnamed (List.mem_filter.mp member).1
  constructor
  · rw [waits_append_iff]
    refine ⟨And.left, fun waits => ⟨waits, ?_, fun dropped => absent dropped.2.2⟩⟩
    rintro ⟨_, _, all⟩
    obtain ⟨peer, rest, shape⟩ := List.exists_cons_of_ne_nil waits.1
    have first : peer ∈ missing changes peers := by simp [shape]
    exact absent (all peer first ▸ first)
  · obtain ⟨peer, state⟩ := change
    cases state with
    | authorized =>
      rw [missing_append_authorized, List.filter_eq_self]
      intro other member
      exact decide_eq_true fun same => absent (same ▸ member)
    | unauthorized => exact missing_append_unauthorized peer

/-- Every payload that waits has been submitted with a peer to wait for. -/
def Queued (shared : AdminServiceShared) : Prop :=
  ∀ waiting ∈ shared.unpeeredPayloads, waiting.1 ≠ []

section Queue

open scoped Classical

noncomputable def waitingAfter (queued : List (List String × CircuitManagementPayload))
    (changes : List AuthorizationChange) : List (List String × CircuitManagementPayload) :=
  (queued.filter fun waiting => Waits changes waiting.1).map fun waiting =>
    (missing changes waiting.1, waiting.2)

noncomputable def releasedBy (queued : List (List String × CircuitManagementPayload))
    (changes : List AuthorizationChange) (change : AuthorizationChange) :
    List CircuitManagementPayload :=
  (queued.filter fun waiting => Releases changes change waiting.1).map Prod.snd

theorem releases_iff (peer : String) (waits : Waits changes peers) :
    Releases changes (peer, .authorized) peers ↔
      ¬ Waits (changes ++ [(peer, .authorized)]) peers := by
  rw [waits_append_iff]
  constructor
  · rintro released ⟨_, unreleased, _⟩
    exact unreleased released
  · intro gone
    by_contra unreleased
    exact gone ⟨waits, unreleased, nofun⟩

theorem onAuthorizationChange_waitingAfter
    (queued : List (List String × CircuitManagementPayload)) (changes : List AuthorizationChange)
    (change : AuthorizationChange) :
    let unpeered := (waitingAfter queued changes).map fun waiting =>
      (remainingPeers change.1 change.2 waiting.1, waiting.2)
    (unpeered.filter fun waiting => waiting.1 ≠ []) = waitingAfter queued (changes ++ [change]) ∧
      (change.2 = .authorized → (unpeered.filter fun waiting => waiting.1 = []).map Prod.snd =
          releasedBy queued changes change) := by
  induction queued with
  | nil => exact ⟨rfl, fun _ => rfl⟩
  | cons waiting queued ih =>
    obtain ⟨peers, payload⟩ := waiting
    obtain ⟨keeps, releases⟩ := ih
    unfold waitingAfter at keeps releases ⊢
    unfold releasedBy at releases ⊢
    by_cases waits : Waits changes peers
    · obtain ⟨left, gone⟩ := remainingPeers_missing change waits
      by_cases still : Waits (changes ++ [change]) peers
      · have unreleased : ¬ Releases changes change peers :=
          ((waits_append_iff change).mp still).2.1
        have some := still.1
        simp only [List.filter_cons, waits, still, unreleased, decide_true, decide_false, if_true,
          List.map_cons, left still, some, ne_eq, not_false_eq_true, Bool.false_eq_true, if_false]
        exact ⟨congrArg _ keeps, releases⟩
      · have all := gone still
        simp only [List.filter_cons, waits, still, decide_true, decide_false, if_true,
          List.map_cons, all, ne_eq, not_true_eq_false, Bool.false_eq_true, if_false]
        refine ⟨keeps, fun authorized => ?_⟩
        have released : Releases changes change peers := by
          obtain ⟨peer, state⟩ := change
          obtain rfl : state = .authorized := authorized
          exact (releases_iff peer waits).mpr still
        simp only [released, decide_true, if_true, List.map_cons]
        exact congrArg _ (releases authorized)
    · have gone : ¬ Waits (changes ++ [change]) peers := fun still =>
        waits ((waits_append_iff change).mp still).1
      have unreleased : ¬ Releases changes change peers := fun released => waits released.1
      simp only [List.filter_cons, waits, gone, unreleased, decide_false, Bool.false_eq_true,
        if_false]
      exact ⟨keeps, releases⟩

theorem unpeeredPayloads_afterChanges (shared : AdminServiceShared) (queued : shared.Queued)
    (changes : List AuthorizationChange) :
    (shared.afterChanges changes).unpeeredPayloads =
      waitingAfter shared.unpeeredPayloads changes := by
  induction changes using List.reverseRecOn with
  | nil =>
    have all : (shared.unpeeredPayloads.filter fun waiting => decide (Waits [] waiting.1)) =
        shared.unpeeredPayloads := by
      rw [List.filter_eq_self]
      exact fun waiting member => decide_eq_true (waits_nil_iff.mpr (queued waiting member))
    unfold waitingAfter
    rw [all]
    simp [missing, afterChanges]
  | append_singleton changes change ih =>
    have kept := (onAuthorizationChange_waitingAfter shared.unpeeredPayloads changes change).1
    rw [← ih] at kept
    rw [← kept, afterChanges, List.foldl_append]
    rfl

/-- After any changes the payloads wait that ought to wait, with the peers that
are missing.  A further change appends those that it releases, in their order,
to the pending payloads; a payload is gone after it exactly if it has been
released or dropped, and a payload that does not name the peer is not
affected. -/
theorem payloads_released (shared : AdminServiceShared) (queued : shared.Queued)
    (changes : List AuthorizationChange) (change : AuthorizationChange) :
    (shared.afterChanges changes).unpeeredPayloads = waitingAfter shared.unpeeredPayloads changes ∧
      (shared.afterChanges (changes ++ [change])).pendingCircuitPayloads =
        (shared.afterChanges changes).pendingCircuitPayloads ++
          releasedBy shared.unpeeredPayloads changes change ∧
      ∀ peers,
        (Waits (changes ++ [change]) peers ↔
          Waits changes peers ∧ ¬ Releases changes change peers ∧ ¬ Drops changes change peers) ∧
        (change.1 ∉ peers → (Waits (changes ++ [change]) peers ↔ Waits changes peers) ∧
            missing (changes ++ [change]) peers = missing changes peers) := by
  have waiting := unpeeredPayloads_afterChanges shared queued changes
  refine ⟨waiting, ?_, fun peers => ⟨waits_append_iff change, ?_⟩⟩
  · have released := (onAuthorizationChange_waitingAfter shared.unpeeredPayloads changes change).2
    rw [← waiting] at released
    rw [afterChanges, List.foldl_append]
    obtain ⟨peer, state⟩ := change
    cases state with
    | authorized => exact congrArg _ (released rfl)
    | unauthorized =>
      have none : releasedBy shared.unpeeredPayloads changes (peer, .unauthorized) = [] := by
        simp [releasedBy, Releases]
      rw [none, List.append_nil]
      rfl
  · exact fun unnamed => unaffected_of_unnamed change unnamed

def waitingForTwo : AdminServiceShared :=
  { AdminServiceShared.new "my_peer_id" .new (.new .new) with
    unpeeredPayloads := [(["test-node", "other-node"], CircuitManagementPayload.new)] }

/-- The second of the two peers releases the payload. -/
theorem payload_released_by_second_peer :
    releasedBy waitingForTwo.unpeeredPayloads [("test-node", .authorized)]
      ("other-node", .authorized) = [CircuitManagementPayload.new] :=
  (payloads_released waitingForTwo (by simp [Queued, waitingForTwo])
    [("test-node", .authorized)] ("other-node", .authorized)).2.1.symm

end Queue

end AdminServiceShared

end Splinter.Admin
