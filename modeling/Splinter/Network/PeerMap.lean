import Splinter.Collections
import Splinter.Library.Effect

/-!
# The peers of a network

`PeerMap` maps the ids of peers to the mesh ids of their connections, and
redirects the old id of a peer to its new one.  A redirect takes precedence over
the entry of the peer itself.
-/

namespace Splinter.Network

open Library BiHashMap

structure PeerUpdateError where
  deriving DecidableEq

structure PeerMap where
  peers : BiHashMap String Nat
  redirects : Finmap fun _ : String => String
  endpoints : BiHashMap String String

namespace PeerMap

def new : PeerMap where
  peers := .new
  redirects := ∅
  endpoints := .new

def peerIds (map : PeerMap) : Finset String := map.peers.keys

def insert (peerId : String) (meshId : Nat) (endpoint : String) (map : PeerMap) : PeerMap :=
  { map with
    peers := (map.peers.insert peerId meshId).2
    endpoints := (map.endpoints.insert peerId endpoint).2 }

def remove (peerId : String) (map : PeerMap) : Option Nat × PeerMap :=
  let removed := map.peers.removeByKey peerId
  (removed.1.map Prod.snd,
    { peers := removed.2
      redirects := retain (fun target => target ≠ peerId) map.redirects
      endpoints := (map.endpoints.removeByKey peerId).2 })

/-- The endpoints after a peer id has been updated. -/
def moveEndpoint (oldPeerId newPeerId : String)
    (endpoints : BiHashMap String String) : BiHashMap String String :=
  match endpoints.removeByKey oldPeerId with
  | (some (_, endpoint), remaining) => (remaining.insert newPeerId endpoint).2
  | (none, remaining) => remaining

/-- The redirects after a peer id has been updated: those to the old id are
updated, too. -/
def redirect (oldPeerId newPeerId : String) (redirects : Finmap fun _ : String => String) :
    Finmap fun _ : String => String :=
  (mapValues
    (fun target => if target = oldPeerId then newPeerId else target)
    redirects).insert oldPeerId newPeerId

def update (oldPeerId newPeerId : String) :
    EStateM PeerUpdateError PeerMap Unit := do
  let map ← get
  match map.peers.removeByKey oldPeerId with
  | (some (_, meshId), remaining) =>
    set
      ({ peers := (remaining.insert newPeerId meshId).2
         redirects := redirect oldPeerId newPeerId map.redirects
         endpoints := moveEndpoint oldPeerId newPeerId map.endpoints } :
        PeerMap)
  | (none, remaining) =>
    set { map with peers := remaining }
    throw {}

/-- The mesh id of a peer, where a redirect comes first. -/
def getMeshId (map : PeerMap) (peerId : String) : Option Nat :=
  ((map.redirects.lookup peerId).bind map.peers.getByKey).or (map.peers.getByKey peerId)

def getPeerId (map : PeerMap) (meshId : Nat) : Option String := map.peers.getByValue meshId

def getPeerByEndpoint (map : PeerMap) (endpoint : String) : Option String :=
  map.endpoints.getByValue endpoint

inductive Operation where
  | insert (peerId : String) (meshId : Nat) (endpoint : String)
  | update (oldPeerId newPeerId : String)
  | remove (peerId : String)
  deriving DecidableEq

def perform (operation : Operation) (map : PeerMap) : PeerMap :=
  match operation with
  | .insert peerId meshId endpoint => map.insert peerId meshId endpoint
  | .update oldPeerId newPeerId => finalState (update oldPeerId newPeerId) map
  | .remove peerId => (map.remove peerId).2

end PeerMap

/-! ## What the ids stand for -/

/-- Which mesh id each id has been bound to last, which ids have been removed
since they were bound, and which mesh ids have been used. -/
structure Registry where
  bound : String → Option Nat
  removed : Finset String
  used : Finset Nat

namespace Registry

def new : Registry where
  bound _ := none
  removed := ∅
  used := ∅

def bind (peerId : String) (meshId : Nat) (registry : Registry) : Registry :=
  { bound := Function.update registry.bound peerId (some meshId)
    removed := registry.removed.erase peerId
    used := Insert.insert meshId registry.used }

def release (peerId : String) (registry : Registry) : Registry :=
  { registry with bound := Function.update registry.bound peerId none }

def perform (operation : PeerMap.Operation) (registry : Registry) : Registry :=
  match operation with
  | .insert peerId meshId _ => registry.bind peerId meshId
  | .update oldPeerId newPeerId =>
    match registry.bound oldPeerId with
    | none => registry
    | some meshId => (registry.release oldPeerId).bind newPeerId meshId
  | .remove peerId =>
    { registry.release peerId with removed := Insert.insert peerId registry.removed }

end Registry

structure Peers where
  map : PeerMap
  registry : Registry

namespace Peers

def new : Peers where
  map := .new
  registry := .new

def Fresh (peers : Peers) : PeerMap.Operation → Prop
  | .insert _ meshId _ => meshId ∉ peers.registry.used
  | _ => True

def perform (operation : PeerMap.Operation) (peers : Peers) : Peers :=
  ⟨peers.map.perform operation, peers.registry.perform operation⟩

def Step (before : Peers) (operation : PeerMap.Operation) (after : Peers) : Prop :=
  before.Fresh operation ∧ after = before.perform operation

/-- Every known peer has the connection that was last bound to it, redirects lead
to known peers, and removed peers are not found. -/
structure Resolves (peers : Peers) : Prop where
  current : ∀ peerId ∈ peers.map.peerIds, ∃ meshId, peers.registry.bound peerId = some meshId ∧
    peers.map.getMeshId peerId = some meshId ∧
    peers.map.getPeerId meshId = some peerId
  targets : ∀ peerId target, peers.map.redirects.lookup peerId = some target →
    target ∈ peers.map.peerIds
  forgotten : ∀ peerId ∈ peers.registry.removed, ∀ meshId, peers.map.getPeerId meshId ≠ some peerId

/-- An id that is bound is not redirected to another peer, and an id that is
removed has no other connection left. -/
def Unaliased (peers : Peers) : PeerMap.Operation → Prop
  | .insert peerId _ _ =>
    ∀ target, peers.map.redirects.lookup peerId = some target → target = peerId
  | .update oldPeerId newPeerId =>
    oldPeerId ∈ peers.map.peerIds → ∀ target, peers.map.redirects.lookup newPeerId = some target →
      target = oldPeerId ∨ target = newPeerId
  | .remove peerId =>
    ∀ meshId, peers.map.getPeerId meshId = some peerId →
      peers.map.peers.getByKey peerId = some meshId

end Peers

/-! ## Lookups after an operation -/

namespace PeerMap

variable {map : PeerMap} {oldPeerId newPeerId : String} {meshId : Nat}

theorem mem_peerIds_iff (map : PeerMap) (peerId : String) :
    peerId ∈ map.peerIds ↔ ∃ meshId, map.peers.getByKey peerId = some meshId :=
  map.peers.mem_keys_iff peerId

theorem perform_update_absent (absent : map.peers.getByKey oldPeerId = none) :
    map.perform (.update oldPeerId newPeerId) = map := by
  have ends : Ends (update oldPeerId newPeerId) map (fun _ after => after = map)
      fun _ after => after = map := by
    unfold update
    rw [ends_bind, ends_get, removeByKey_absent absent]
    rfl
  exact ends.finalState

def renamed (map : PeerMap) (oldPeerId newPeerId : String) (meshId : Nat) : PeerMap where
  peers := ((map.peers.removeByKey oldPeerId).2.insert newPeerId meshId).2
  redirects := redirect oldPeerId newPeerId map.redirects
  endpoints := moveEndpoint oldPeerId newPeerId map.endpoints

theorem perform_update_present (paired : map.peers.Paired)
    (present : map.peers.getByKey oldPeerId = some meshId) :
    map.perform (.update oldPeerId newPeerId) = map.renamed oldPeerId newPeerId meshId := by
  have removed : map.peers.removeByKey oldPeerId =
      (some (oldPeerId, meshId), (map.peers.removeByKey oldPeerId).2) := by
    refine Prod.ext ?_ rfl
    rw [paired.fst_removeByKey, present]
    rfl
  have ends : EndsIn (update oldPeerId newPeerId) map fun after =>
      after = map.renamed oldPeerId newPeerId meshId := by
    unfold update EndsIn
    rw [ends_bind, ends_get, removed]
    rfl
  exact ends.finalState

theorem redirect_eq_some_iff
    (redirects : Finmap fun _ : String => String) (peerId target : String) :
    (redirect oldPeerId newPeerId redirects).lookup peerId = some target ↔
      if peerId = oldPeerId then target = newPeerId
      else
        ∃ earlier, redirects.lookup peerId = some earlier ∧
          (if earlier = oldPeerId then newPeerId else earlier) = target := by
  unfold redirect
  rw [lookup_insert_eq]
  split
  · rw [Option.some.injEq]
    exact eq_comm
  · exact lookup_mapValues_eq_some_iff _ _ _ _

end PeerMap

/-! ## What the registry records -/

/-- What the registry knows of the connections after every history. -/
structure Registry.Records (registry : Registry)
    (peers : BiHashMap String Nat) : Prop where
  bound : ∀ peerId, peers.getByKey peerId = registry.bound peerId
  paired : peers.Paired
  used : ∀ meshId peerId, peers.getByValue meshId = some peerId → meshId ∈ registry.used
  removed : ∀ peerId ∈ registry.removed, registry.bound peerId = none

namespace Registry

variable {registry : Registry} {peers : BiHashMap String Nat} {peerId : String} {meshId : Nat}

theorem Records.fresh (records : registry.Records peers)
    (fresh : meshId ∉ registry.used) (peerId : String) :
    peers.getByKey peerId ≠ some meshId := by
  intro found
  exact fresh (records.used meshId peerId (records.paired _ _ found))

theorem Records.bind (records : registry.Records peers)
    (unbound : ∀ other, peers.getByKey other ≠ some meshId) :
    (registry.bind peerId meshId).Records (peers.insert peerId meshId).2 where
  bound := by
    intro other
    rw [getByKey_insert, records.bound]
    exact (Function.update_apply ..).symm
  paired := records.paired.insert fun other found => (unbound other found).elim
  used := by
    intro other found resolved
    rw [getByValue_insert] at resolved
    split at resolved
    · rename_i same
      rw [same]
      exact Finset.mem_insert_self _ _
    · exact Finset.mem_insert_of_mem (records.used other found resolved)
  removed := by
    intro other member
    obtain ⟨different, earlier⟩ := Finset.mem_erase.mp member
    have unbound := records.removed other earlier
    change Function.update registry.bound peerId (some meshId) other = none
    rw [Function.update_of_ne different]
    exact unbound

theorem Records.release (records : registry.Records peers) (peerId : String) :
    (registry.release peerId).Records (peers.removeByKey peerId).2 where
  bound := by
    intro other
    rw [getByKey_removeByKey, records.bound]
    exact (Function.update_apply ..).symm
  paired := records.paired.removeByKey peerId
  used := by
    intro meshId found resolved
    rw [getByValue_removeByKey] at resolved
    split at resolved
    · cases resolved
    · exact records.used meshId found resolved
  removed := by
    intro other member
    have unbound := records.removed other member
    change Function.update registry.bound peerId none other = none
    by_cases same : other = peerId
    · rw [same, Function.update_self]
    · rw [Function.update_of_ne same]
      exact unbound

end Registry

namespace Peers

variable {before after : Peers} {operation : PeerMap.Operation}

def Recorded (peers : Peers) : Prop := peers.registry.Records peers.map.peers

theorem Recorded.update {oldPeerId newPeerId : String} (recorded : before.Recorded) : Recorded
    ⟨before.map.perform (.update oldPeerId newPeerId),
      before.registry.perform (.update oldPeerId newPeerId)⟩ := by
  unfold Recorded Registry.perform
  dsimp only
  cases present : before.registry.bound oldPeerId with
  | none =>
    rw [← recorded.bound] at present
    rw [PeerMap.perform_update_absent present]
    exact recorded
  | some meshId =>
    rw [← recorded.bound] at present
    rw [PeerMap.perform_update_present recorded.paired present]
    refine (recorded.release oldPeerId).bind fun other found => ?_
    rw [getByKey_removeByKey] at found
    split at found
    · cases found
    · rename_i different
      exact different (recorded.paired.injective found present)

theorem Recorded.step (recorded : before.Recorded) (taken : before.Step operation after) :
    after.Recorded := by
  obtain ⟨fresh, rfl⟩ := taken
  cases operation with
  | insert peerId meshId endpoint => exact recorded.bind (recorded.fresh fresh)
  | update oldPeerId newPeerId => exact recorded.update
  | remove peerId =>
    have released := recorded.release peerId
    refine ⟨released.bound, released.paired, released.used, ?_⟩
    intro other member
    rcases Finset.mem_insert.mp member with rfl | earlier
    · exact Function.update_self ..
    · exact released.removed other earlier

/-! ## Which operations keep the ids consistent -/

def Direct (map : PeerMap) : Prop := ∀ peerId ∈ map.peerIds, ∀ target,
    map.redirects.lookup peerId = some target → target = peerId

theorem getMeshId_of_direct {map : PeerMap} {peerId : String} {meshId : Nat} (direct : Direct map)
    (found : map.peers.getByKey peerId = some meshId) :
    map.getMeshId peerId = some meshId := by
  have present := (map.mem_peerIds_iff peerId).mpr ⟨meshId, found⟩
  unfold PeerMap.getMeshId
  cases redirected : map.redirects.lookup peerId with
  | none => exact found
  | some target =>
    rw [direct peerId present target redirected, Option.bind_some, found]
    rfl

theorem resolves_iff {peers : Peers} (recorded : peers.Recorded) : peers.Resolves ↔
    Direct peers.map ∧
      (∀ peerId target, peers.map.redirects.lookup peerId = some target →
        target ∈ peers.map.peerIds) ∧
      ∀ peerId ∈ peers.registry.removed, ∀ meshId, peers.map.getPeerId meshId ≠ some peerId := by
  constructor
  · intro resolves
    refine ⟨?_, resolves.targets, resolves.forgotten⟩
    intro peerId present target redirected
    obtain ⟨meshId, bound, found, _⟩ := resolves.current peerId present
    have targeted := resolves.targets peerId target redirected
    obtain ⟨reached, resolved⟩ := (peers.map.mem_peerIds_iff target).mp targeted
    unfold PeerMap.getMeshId at found
    rw [redirected, Option.bind_some, resolved] at found
    rw [← recorded.bound] at bound
    obtain rfl : reached = meshId := Option.some.inj found
    exact recorded.paired.injective resolved bound
  · intro parts
    obtain ⟨direct, targets, forgotten⟩ := parts
    refine ⟨?_, targets, forgotten⟩
    intro peerId present
    obtain ⟨meshId, found⟩ := (peers.map.mem_peerIds_iff peerId).mp present
    refine ⟨meshId, ?_, getMeshId_of_direct direct found, recorded.paired peerId meshId found⟩
    rw [← recorded.bound]
    exact found

section Steps

variable {peers : Peers}

theorem mem_peerIds_insert (map : PeerMap) (peerId endpoint other : String) (meshId : Nat) :
    other ∈ (map.insert peerId meshId endpoint).peerIds ↔ other = peerId ∨ other ∈ map.peerIds := by
  simp only [PeerMap.mem_peerIds_iff, PeerMap.insert, getByKey_insert]
  by_cases same : other = peerId <;> simp [same]

variable {peerId oldPeerId newPeerId : String} {meshId : Nat}

theorem resolves_insert_iff {endpoint : String} (recorded : peers.Recorded)
    (resolves : peers.Resolves) (inserted : Recorded
      ⟨peers.map.insert peerId meshId endpoint, peers.registry.bind peerId meshId⟩) :
    Resolves ⟨peers.map.insert peerId meshId endpoint, peers.registry.bind peerId meshId⟩ ↔
      peers.Unaliased (.insert peerId meshId endpoint) := by
  obtain ⟨direct, targets, forgotten⟩ := (resolves_iff recorded).mp resolves
  rw [resolves_iff inserted]
  constructor
  · intro parts target redirected
    exact parts.1 peerId ((mem_peerIds_insert ..).mpr (Or.inl rfl)) target redirected
  · intro unaliased
    refine ⟨?_, ?_, ?_⟩
    · intro other present target redirected
      rcases (mem_peerIds_insert ..).mp present with rfl | earlier
      · exact unaliased target redirected
      · exact direct other earlier target redirected
    · intro other target redirected
      exact (mem_peerIds_insert ..).mpr (Or.inr (targets other target redirected))
    · intro other member found resolved
      obtain ⟨different, earlier⟩ := Finset.mem_erase.mp member
      have looked : (peers.map.peers.insert peerId meshId).2.getByValue found = some other :=
        resolved
      rw [getByValue_insert] at looked
      split at looked
      · exact different (Option.some.inj looked).symm
      · exact forgotten other earlier found looked

theorem mem_peerIds_remove (map : PeerMap) (peerId other : String) :
    other ∈ (map.remove peerId).2.peerIds ↔ other ≠ peerId ∧ other ∈ map.peerIds := by
  simp only [PeerMap.mem_peerIds_iff, PeerMap.remove, getByKey_removeByKey]
  by_cases same : other = peerId <;> simp [same]

theorem resolves_remove_iff (recorded : peers.Recorded) (resolves : peers.Resolves)
    (removed : Recorded ⟨(peers.map.remove peerId).2, peers.registry.perform (.remove peerId)⟩) :
    Resolves ⟨(peers.map.remove peerId).2, peers.registry.perform (.remove peerId)⟩ ↔
      peers.Unaliased (.remove peerId) := by
  obtain ⟨direct, targets, forgotten⟩ := (resolves_iff recorded).mp resolves
  have resolved (meshId : Nat) : (peers.map.remove peerId).2.getPeerId meshId =
      if peers.map.peers.getByKey peerId = some meshId then none
      else peers.map.getPeerId meshId :=
    getByValue_removeByKey _ _ _
  rw [resolves_iff removed]
  constructor
  · intro parts meshId found
    by_contra other
    refine parts.2.2 peerId (Finset.mem_insert_self _ _) meshId ?_
    rw [resolved, if_neg other]
    exact found
  · intro unaliased
    refine ⟨?_, ?_, ?_⟩
    · intro other present target redirected
      obtain ⟨earlier, _⟩ := (lookup_retain_eq_some_iff _ _ _ _).mp redirected
      exact direct other ((mem_peerIds_remove ..).mp present).2 target earlier
    · intro other target redirected
      obtain ⟨earlier, kept⟩ := (lookup_retain_eq_some_iff _ _ _ _).mp redirected
      exact (mem_peerIds_remove ..).mpr ⟨of_decide_eq_true kept, targets other target earlier⟩
    · intro other member meshId found
      rw [resolved] at found
      split at found
      · cases found
      · rename_i foreign
        rcases Finset.mem_insert.mp member with rfl | earlier
        · exact foreign (unaliased meshId found)
        · exact forgotten other earlier meshId found

theorem mem_peerIds_renamed (map : PeerMap) (oldPeerId newPeerId other : String) (meshId : Nat) :
    other ∈ (map.renamed oldPeerId newPeerId meshId).peerIds ↔
      other = newPeerId ∨ other ≠ oldPeerId ∧ other ∈ map.peerIds := by
  simp only [PeerMap.mem_peerIds_iff, PeerMap.renamed, getByKey_insert, getByKey_removeByKey]
  by_cases same : other = newPeerId
  · simp [same]
  · by_cases released : other = oldPeerId <;> simp [same, released]

theorem lookup_renamed {map : PeerMap} {target : String}
    (redirected : (map.renamed oldPeerId newPeerId meshId).redirects.lookup peerId = some target) :
    target = newPeerId ∨ target ≠ oldPeerId ∧ peerId ≠ oldPeerId ∧
      map.redirects.lookup peerId = some target := by
  have looked := (PeerMap.redirect_eq_some_iff _ _ _).mp redirected
  split at looked
  · exact Or.inl looked
  · rename_i other
    obtain ⟨earlier, found, moved⟩ := looked
    split at moved
    · exact Or.inl moved.symm
    · rename_i different
      subst moved
      exact Or.inr ⟨different, other, found⟩

theorem resolves_rename_iff (recorded : peers.Recorded) (resolves : peers.Resolves)
    (present : peers.map.peers.getByKey oldPeerId = some meshId) (updated : Recorded
      ⟨peers.map.renamed oldPeerId newPeerId meshId,
        (peers.registry.release oldPeerId).bind newPeerId meshId⟩) :
    Resolves
      ⟨peers.map.renamed oldPeerId newPeerId meshId,
        (peers.registry.release oldPeerId).bind newPeerId meshId⟩ ↔
      peers.Unaliased (.update oldPeerId newPeerId) := by
  obtain ⟨direct, targets, forgotten⟩ := (resolves_iff recorded).mp resolves
  have known : oldPeerId ∈ peers.map.peerIds :=
    (peers.map.mem_peerIds_iff oldPeerId).mpr ⟨meshId, present⟩
  rw [resolves_iff updated]
  constructor
  · intro parts _ target redirected
    by_cases stays : target = oldPeerId
    · exact Or.inl stays
    · right
      by_cases same : newPeerId = oldPeerId
      · rw [same] at redirected ⊢
        exact direct oldPeerId known target redirected
      · refine parts.1 newPeerId ((mem_peerIds_renamed ..).mpr (Or.inl rfl))
          target ((PeerMap.redirect_eq_some_iff _ _ _).mpr ?_)
        rw [if_neg same]
        exact ⟨target, redirected, if_neg stays⟩
  · intro unaliased
    refine ⟨?_, ?_, ?_⟩
    · intro other there target redirected
      rcases (mem_peerIds_renamed ..).mp there with rfl | ⟨different, earlier⟩
      · rcases lookup_renamed redirected with same | ⟨left, _, found⟩
        · exact same
        · rcases unaliased known target found with old | same
          · exact (left old).elim
          · exact same
      · have looked := (PeerMap.redirect_eq_some_iff _ _ _).mp redirected
        rw [if_neg different] at looked
        obtain ⟨former, found, moved⟩ := looked
        have same := direct other earlier former found
        rw [same, if_neg different] at moved
        exact moved.symm
    · intro other target redirected
      rw [mem_peerIds_renamed]
      rcases lookup_renamed redirected with same | ⟨different, _, found⟩
      · exact Or.inl same
      · exact Or.inr ⟨different, targets other target found⟩
    · intro other member found resolved
      obtain ⟨different, earlier⟩ := Finset.mem_erase.mp member
      have looked :
          ((peers.map.peers.removeByKey oldPeerId).2.insert newPeerId
            meshId).2.getByValue found = some other :=
        resolved
      rw [getByValue_insert, getByValue_removeByKey] at looked
      split at looked
      · exact different (Option.some.inj looked).symm
      · split at looked
        · cases looked
        · exact forgotten other earlier found looked

theorem resolves_step_iff (recorded : before.Recorded) (resolves : before.Resolves)
    (taken : before.Step operation after) :
    after.Resolves ↔ before.Unaliased operation := by
  have updated := recorded.step taken
  obtain ⟨_, rfl⟩ := taken
  cases operation with
  | insert peerId meshId endpoint => exact resolves_insert_iff recorded resolves updated
  | remove peerId => exact resolves_remove_iff recorded resolves updated
  | update oldPeerId newPeerId =>
    unfold perform Registry.perform at updated ⊢
    dsimp only at updated ⊢
    cases present : before.registry.bound oldPeerId with
    | none =>
      rw [← recorded.bound] at present
      rw [PeerMap.perform_update_absent present]
      refine iff_of_true resolves ?_
      intro known
      obtain ⟨meshId, found⟩ := (before.map.mem_peerIds_iff oldPeerId).mp known
      rw [present] at found
      cases found
    | some meshId =>
      rw [present] at updated
      rw [← recorded.bound] at present
      rw [PeerMap.perform_update_present recorded.paired present] at updated ⊢
      exact resolves_rename_iff recorded resolves present updated

end Steps

theorem recorded_new : new.Recorded where
  bound := fun _ => rfl
  paired := paired_new
  used := nofun
  removed := nofun

theorem resolves_new : new.Resolves := by
  refine ⟨?_, nofun, nofun⟩
  intro peerId present
  obtain ⟨meshId, found⟩ := (PeerMap.new.mem_peerIds_iff peerId).mp present
  cases found

/-- The histories of a peer map in which ids and connections always resolve
consistently are exactly those in which no id is bound while it is redirected
to another peer, and no id is removed while another connection has it. -/
theorem resolves_iff_unaliased (path : List (Peers × PeerMap.Operation)) (last : Peers)
    (run : Run Step new path last) :
    Run.Throughout Resolves path last ↔ Run.Meets Unaliased path :=
  Run.throughout_iff Recorded Resolves Unaliased run recorded_new
    resolves_new (fun _ _ _ recorded => recorded.step)
    fun _ _ _ recorded resolves taken =>
      resolves_step_iff recorded resolves taken

/-! ## Confused peers -/

instance (peers : Peers) (operation : PeerMap.Operation) : Decidable (peers.Fresh operation) := by
  cases operation <;> dsimp only [Fresh] <;> infer_instance

instance (peers : Peers) (operation : PeerMap.Operation) :
    Decidable (peers.Unaliased operation) := by
  exact
    match operation with
    | .insert peerId _ _ =>
      inferInstanceAs (Decidable (∀ target ∈ peers.map.redirects.lookup peerId, _))
    | .update _ newPeerId =>
      inferInstanceAs (Decidable (_ ∈ _ → ∀ target ∈ peers.map.redirects.lookup newPeerId, _))
    | .remove peerId =>
      decidable_of_iff
        (∀ entry ∈ peers.map.peers.vkHashMap.entries, entry.2 = peerId →
          peers.map.peers.getByKey peerId = some entry.1)
        (by
          constructor
          · intro all meshId found
            exact all ⟨meshId, peerId⟩ (Finmap.lookup_eq_some_iff.mp found) rfl
          · rintro all ⟨meshId, _⟩ member rfl
            exact all meshId (Finmap.lookup_eq_some_iff.mpr member))

theorem run_of_fresh (operations : List PeerMap.Operation)
    (fresh : Run.Meets Fresh (Run.follow perform operations new).1) :
    Run Step new (Run.follow perform operations new).1 (Run.follow perform operations new).2 :=
  (Run.run_follow perform operations new).restrict fresh

/-- An id that has been renamed is used again: messages for it go to the
renamed peer. -/
def reusing : List PeerMap.Operation :=
  [.insert "a" 0 "tcp://one", .update "a" "b", .insert "a" 1 "tcp://two"]

/-- An id is used for a second connection and removed: the first connection
still has it. -/
def doubling : List PeerMap.Operation :=
  [.insert "a" 0 "tcp://one", .insert "a" 1 "tcp://two", .remove "a"]

theorem ids_resolve_to_wrong_peers :
    (∃ path last, Run Step new path last ∧ ¬ last.Resolves ∧
        "a" ∈ last.map.peerIds ∧ last.registry.bound "a" = some 1 ∧
        last.map.getMeshId "a" = some 0) ∧
      ∃ path last, Run Step new path last ∧ ¬ last.Resolves ∧
          "a" ∈ last.registry.removed ∧
          last.map.getPeerId 0 = some "a" := by
  constructor
  · refine
      ⟨_, _, run_of_fresh reusing (by decide +kernel), ?_, by decide +kernel,
        by decide +kernel, by decide +kernel⟩
    intro resolves
    obtain ⟨meshId, bound, found, _⟩ := resolves.current "a" (by decide +kernel)
    have differ : (Run.follow perform reusing new).2.registry.bound "a" ≠
          (Run.follow perform reusing new).2.map.getMeshId "a" := by
      decide +kernel
    exact differ (bound.trans found.symm)
  · refine
      ⟨_, _, run_of_fresh doubling (by decide +kernel), ?_, by decide +kernel, by decide +kernel⟩
    intro resolves
    exact resolves.forgotten "a" (by decide +kernel) 0 (by decide +kernel)

/-- A connection that is renamed, removed and opened again. -/
def reopening : List PeerMap.Operation :=
  [.insert "temp" 0 "tcp://one", .update "temp" "a", .remove "a", .insert "a" 1 "tcp://two"]

theorem ids_resolve_after_reopening : ∃ path last,
      Run Step new path last ∧ last.map.getMeshId "a" = some 1 ∧
        Run.Throughout Resolves path last := by
  have run := run_of_fresh reopening (by decide +kernel)
  refine ⟨_, _, run, by decide +kernel, ?_⟩
  exact (resolves_iff_unaliased _ _ run).mpr (by decide +kernel)

end Peers

end Splinter.Network
