import Mathlib.Data.List.Permutation
import Mathlib.Logic.Function.Basic
import Splinter.Library.Run
import Splinter.NodeRegistry.Yaml

/-!
# Concurrent operations on the node registry

An operation takes the lock twice: `get_cached_nodes` copies the nodes, and
`write_nodes` writes the changed copy to the file and to the cache.  Operations
of other threads may run in between.
-/

namespace Splinter.NodeRegistry

open Library

inductive Operation where
  | addNode (node : Node)
  | updateNode (identity : String) (updates : List (String × String))
  | deleteNode (identity : String)
  deriving DecidableEq

/-- What an operation makes of a copy of the nodes. -/
def Operation.change : Operation → List Node → Except NodeRegistryError (List Node)
  | .addNode node, nodes => NodeRegistry.addNode node nodes
  | .updateNode identity updates, nodes => NodeRegistry.updateNode identity updates nodes
  | .deleteNode identity, nodes => NodeRegistry.deleteNode identity nodes

/-! ## Identities -/

def Distinct (nodes : List Node) : Prop := (nodes.map Node.identity).Nodup

instance (nodes : List Node) : Decidable (Distinct nodes) :=
  inferInstanceAs (Decidable (nodes.map Node.identity).Nodup)

variable {nodes changed : List Node}

theorem distinct_addNode {node : Node} (distinct : Distinct nodes)
    (added : NodeRegistry.addNode node nodes = .ok changed) :
    Distinct changed := by
  unfold NodeRegistry.addNode at added
  split at added
  · cases added
  · rename_i absent
    cases added
    unfold Distinct
    rw [List.map_append, List.nodup_append]
    refine ⟨distinct, List.nodup_singleton _, ?_⟩
    intro identity member other same shared
    obtain ⟨existing, listed, rfl⟩ := List.mem_map.mp member
    rw [List.map_singleton, List.mem_singleton] at same
    rw [same] at shared
    exact absent (List.any_eq_true.mpr ⟨existing, listed, decide_eq_true shared⟩)

theorem map_identity_modify (nodes : List Node) (index : Nat) (updates : List (String × String)) :
    (nodes.modify index fun node =>
      { node with metadata := extend node.metadata updates }).map
      Node.identity = nodes.map Node.identity := by
  induction nodes generalizing index with
  | nil => cases index <;> rfl
  | cons node nodes ih =>
    cases index with
    | zero => rfl
    | succ index => rw [List.modify_succ_cons, List.map_cons, ih, List.map_cons]

theorem distinct_updateNode {identity : String} {updates : List (String × String)}
    (distinct : Distinct nodes)
    (updated : NodeRegistry.updateNode identity updates nodes = .ok changed) :
    Distinct changed := by
  unfold NodeRegistry.updateNode at updated
  split at updated
  · cases updated
    unfold Distinct
    rw [map_identity_modify]
    exact distinct
  · cases updated

theorem distinct_deleteNode {identity : String} (distinct : Distinct nodes)
    (deleted : NodeRegistry.deleteNode identity nodes = .ok changed) :
    Distinct changed := by
  unfold NodeRegistry.deleteNode at deleted
  split at deleted
  · cases deleted
    exact distinct.sublist ((List.eraseIdx_sublist _ _).map _)
  · cases deleted

theorem distinct_change {operation : Operation} (distinct : Distinct nodes)
    (done : operation.change nodes = .ok changed) :
    Distinct changed := by
  cases operation with
  | addNode node => exact distinct_addNode distinct done
  | updateNode identity updates => exact distinct_updateNode distinct done
  | deleteNode identity => exact distinct_deleteNode distinct done

/-! ## Sections -/

/-- An operation between its sections: the nodes it has copied and what it has
made of them. -/
structure Draft where
  operation : Operation
  copied : List Node
  changed : List Node
  deriving DecidableEq

structure Call (Thread : Type) where
  thread : Thread
  operation : Operation
  result : Except NodeRegistryError Unit
  deriving DecidableEq

structure YamlNodeRegistry (Thread : Type) where
  cachedNodes : List Node
  file : List Node
  drafts : Thread → Option Draft
  returned : List (Call Thread)

inductive LockSection (Thread : Type) where
  | getCachedNodes (thread : Thread) (operation : Operation)
  | writeNodes (thread : Thread)
  deriving DecidableEq

namespace YamlNodeRegistry

variable {Thread : Type}

def new (nodes : List Node) : YamlNodeRegistry Thread where
  cachedNodes := nodes
  file := nodes
  drafts := fun _ => none
  returned := []

section Sections

variable [DecidableEq Thread]

/-- Copy the nodes and change the copy; an error is returned at once. -/
def getCachedNodes (thread : Thread) (operation : Operation)
    (registry : YamlNodeRegistry Thread) : YamlNodeRegistry Thread :=
  match operation.change registry.cachedNodes with
  | .ok changed =>
    { registry with
      drafts := Function.update registry.drafts thread
        (some ⟨operation, registry.cachedNodes, changed⟩) }
  | .error error =>
    { registry with returned := registry.returned ++ [⟨thread, operation, .error error⟩] }

def writeNodes (thread : Thread) (draft : Draft)
    (registry : YamlNodeRegistry Thread) : YamlNodeRegistry Thread where
  cachedNodes := draft.changed
  file := draft.changed
  drafts := Function.update registry.drafts thread none
  returned := registry.returned ++ [⟨thread, draft.operation, .ok ()⟩]

def advance : LockSection Thread → YamlNodeRegistry Thread → Option (YamlNodeRegistry Thread)
  | .getCachedNodes thread operation, registry =>
    match registry.drafts thread with
    | none => some (registry.getCachedNodes thread operation)
    | some _ => none
  | .writeNodes thread, registry =>
    match registry.drafts thread with
    | none => none
    | some draft => some (registry.writeNodes thread draft)

def Step (before : YamlNodeRegistry Thread) (taken : LockSection Thread)
    (after : YamlNodeRegistry Thread) : Prop :=
  advance taken before = some after

variable {before after : YamlNodeRegistry Thread} {taken : LockSection Thread}

theorem step_cases (step : Step before taken after) :
    (∃ thread operation, taken = .getCachedNodes thread operation ∧
      after = before.getCachedNodes thread operation) ∨
      ∃ thread draft, taken = .writeNodes thread ∧ before.drafts thread = some draft ∧
        after = before.writeNodes thread draft := by
  unfold Step advance at step
  cases taken with
  | getCachedNodes thread operation =>
    cases drafted : before.drafts thread with
    | none =>
      simp only [drafted] at step
      exact Or.inl ⟨thread, operation, rfl, (Option.some.inj step).symm⟩
    | some draft =>
      simp only [drafted] at step
      cases step
  | writeNodes thread =>
    cases drafted : before.drafts thread with
    | none =>
      simp only [drafted] at step
      cases step
    | some draft =>
      simp only [drafted] at step
      exact Or.inr ⟨thread, draft, rfl, drafted, (Option.some.inj step).symm⟩

end Sections

/-! ## Sequential executions -/

/-- Run an operation alone; none if it would return something else. -/
def replayCall (nodes : List Node) (call : Call Thread) : Option (List Node) :=
  match call.operation.change nodes, call.result with
  | .ok changed, .ok _ => some changed
  | .error error, .error returned =>
    if error = returned then some nodes else none
  | _, _ => none

def replay (calls : List (Call Thread)) (nodes : List Node) : Option (List Node) :=
  calls.foldlM replayCall nodes

/-- The cached nodes, the file and the results are those of some sequential
order of the operations that have returned. -/
def Serial (nodes : List Node) (registry : YamlNodeRegistry Thread) : Prop :=
  registry.file = registry.cachedNodes ∧
    ∃ order : List (Call Thread), order.Perm registry.returned ∧
      replay order nodes = some registry.cachedNodes

/-- An operation writes only if the nodes are still those it has copied. -/
def Unchanged (registry : YamlNodeRegistry Thread) : LockSection Thread → Prop
  | .getCachedNodes _ _ => True
  | .writeNodes thread => ∀ draft ∈ registry.drafts thread, draft.copied = registry.cachedNodes

instance (registry : YamlNodeRegistry Thread) : DecidablePred (Unchanged registry)
  | .getCachedNodes _ _ => inferInstanceAs (Decidable True)
  | .writeNodes thread =>
    match drafted : registry.drafts thread with
    | none => isTrue (by simp [Unchanged, drafted])
    | some draft =>
      decidable_of_iff (draft.copied = registry.cachedNodes) (by simp [Unchanged, drafted])

/-! ## Invariants -/

structure Kept (registry : YamlNodeRegistry Thread) : Prop where
  written : registry.file = registry.cachedNodes
  distinct : Distinct registry.cachedNodes
  drafted : ∀ thread draft, registry.drafts thread = some draft → Distinct draft.changed ∧
    draft.operation.change draft.copied = .ok draft.changed

theorem kept_new {nodes : List Node} (distinct : Distinct nodes) :
    Kept (new nodes : YamlNodeRegistry Thread) where
  written := rfl
  distinct := distinct
  drafted := by
    intro thread draft drafted
    cases drafted

variable [DecidableEq Thread] {before after : YamlNodeRegistry Thread} {taken : LockSection Thread}

theorem Kept.getCachedNodes (kept : Kept before) (thread : Thread) (operation : Operation) :
    Kept (before.getCachedNodes thread operation) := by
  unfold YamlNodeRegistry.getCachedNodes
  split
  · rename_i changed done
    refine { kept with drafted := ?_ }
    intro other draft drafted
    dsimp only at drafted
    by_cases same : other = thread
    · subst same
      rw [Function.update_self] at drafted
      cases drafted
      exact ⟨distinct_change kept.distinct done, done⟩
    · rw [Function.update_of_ne same] at drafted
      exact kept.drafted other draft drafted
  · exact { kept with }

theorem Kept.writeNodes (kept : Kept before) {thread : Thread} {draft : Draft}
    (drafted : before.drafts thread = some draft) :
    Kept (before.writeNodes thread draft) where
  written := rfl
  distinct := (kept.drafted thread draft drafted).1
  drafted := by
    intro other written present
    unfold YamlNodeRegistry.writeNodes at present
    dsimp only at present
    by_cases same : other = thread
    · subst same
      rw [Function.update_self] at present
      cases present
    · rw [Function.update_of_ne same] at present
      exact kept.drafted other written present

theorem Kept.step (kept : Kept before) (step : Step before taken after) : Kept after := by
  rcases step_cases step with
    ⟨thread, operation, _, rfl⟩ | ⟨thread, draft, _, drafted, rfl⟩
  · exact kept.getCachedNodes thread operation
  · exact kept.writeNodes drafted

/-- The operations in the order of their last sections make the nodes. -/
def InOrder (nodes : List Node) (registry : YamlNodeRegistry Thread) : Prop :=
  replay registry.returned nodes = some registry.cachedNodes

theorem inOrder_step {nodes : List Node} (kept : Kept before)
    (ordered : InOrder nodes before) (unchanged : Unchanged before taken)
    (step : Step before taken after) :
    InOrder nodes after := by
  unfold InOrder at ordered ⊢
  rcases step_cases step with
    ⟨thread, operation, _, rfl⟩ | ⟨thread, draft, rfl, drafted, rfl⟩
  · unfold YamlNodeRegistry.getCachedNodes
    split
    · exact ordered
    · rename_i error failed
      unfold replay at ordered ⊢
      rw [List.foldlM_append, ordered]
      simp [replayCall, failed]
  · have done := (kept.drafted thread draft drafted).2
    rw [unchanged draft drafted] at done
    unfold YamlNodeRegistry.writeNodes
    unfold replay at ordered ⊢
    rw [List.foldlM_append, ordered]
    simp [replayCall, done]

/-- In every interleaving the file holds the cached nodes and these have
distinct identities; and if no operation writes over a change it has not seen,
the operations are atomic. -/
theorem serial_of_unchanged {nodes : List Node} (distinct : Distinct nodes)
    {path : List (YamlNodeRegistry Thread × LockSection Thread)} {last : YamlNodeRegistry Thread}
    (run : Run Step (new nodes) path last) :
    (last.file = last.cachedNodes ∧ Distinct last.cachedNodes) ∧
      (Run.Meets Unchanged path → Serial nodes last) := by
  have kept : Kept last := run.invariant (kept_new distinct) fun _ _ _ kept step => kept.step step
  refine ⟨⟨kept.written, kept.distinct⟩, ?_⟩
  intro unchanged
  have throughout : Run.Throughout (fun registry => Kept registry ∧ InOrder nodes registry)
        path last :=
    run.guarded ⟨kept_new distinct, rfl⟩
      (fun before taken after held met step =>
        ⟨held.1.step step, inOrder_step held.1 held.2 met step⟩)
      unchanged
  exact ⟨kept.written, last.returned, List.Perm.refl _, throughout.2.2⟩

inductive Worker where
  | left
  | right
  deriving DecidableEq

def plainNode (identity : String) : Node := ⟨identity, ∅⟩

/-- Two threads copy the empty registry and add a node each; the write of the
second takes the node of the first away. -/
theorem added_node_lost : ∃ path last, Run Step (new [] : YamlNodeRegistry Worker) path last ∧
        last.returned =
            [⟨.left, .addNode (plainNode "alpha"), .ok ()⟩,
              ⟨.right, .addNode (plainNode "beta"), .ok ()⟩] ∧
          last.cachedNodes = [plainNode "beta"] ∧ ¬ Serial [] last := by
  have played : Run.leads advance
        [.getCachedNodes .left (.addNode (plainNode "alpha")),
          .getCachedNodes .right (.addNode (plainNode "beta")),
          .writeNodes .left, .writeNodes .right]
        (new [] : YamlNodeRegistry Worker)
        (fun last =>
          decide
            (last.returned =
                [⟨.left, .addNode (plainNode "alpha"), .ok ()⟩,
                  ⟨.right, .addNode (plainNode "beta"), .ok ()⟩] ∧
              last.cachedNodes = [plainNode "beta"])) = true := by
    decide +kernel
  obtain ⟨path, last, run, _, checked⟩ := Run.exists_run_of_leads _ _ _ _ played
  obtain ⟨returned, cached⟩ := of_decide_eq_true checked
  refine ⟨path, last, run, returned, cached, ?_⟩
  intro serial
  obtain ⟨_, order, member, replayed⟩ := serial
  rw [returned, ← List.mem_permutations'] at member
  rw [cached] at replayed
  revert order
  decide +kernel

/-- Threads that take turns add both nodes, and an addition that comes third
fails. -/
theorem successive_additions_serial : ∃ path last,
      Run Step (new [] : YamlNodeRegistry Worker) path last ∧
        last.returned.length = 3 ∧ last.cachedNodes.length = 2 ∧ Serial [] last := by
  have played : Run.plays advance
        [.getCachedNodes .left (.addNode (plainNode "alpha")), .writeNodes .left,
          .getCachedNodes .right (.addNode (plainNode "beta")),
          .getCachedNodes .left (.addNode (plainNode "alpha")),
          .writeNodes .right]
        (new [] : YamlNodeRegistry Worker)
        (fun path last =>
          decide
            (last.returned.length = 3 ∧ last.cachedNodes.length = 2 ∧
              Run.Meets Unchanged path)) = true := by
    decide +kernel
  obtain ⟨path, last, run, _, checked⟩ := Run.exists_run_of_plays _ _ _ _ played
  obtain ⟨three, two, unchanged⟩ := of_decide_eq_true checked
  have distinct : Distinct [] := List.nodup_nil
  exact ⟨path, last, run, three, two, (serial_of_unchanged distinct run).2 unchanged⟩

end YamlNodeRegistry

end Splinter.NodeRegistry
