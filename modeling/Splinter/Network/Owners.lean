import Splinter.Network.Authorization

/-!
# The connections that peer ids stand for

`PeerMap.Owned` says that attribution, lookup and redirects agree about one
connection for each id.  Inserting and renaming a peer keep this if the id that is
bound is not in use.
-/

namespace Splinter.Network

open Library BiHashMap

/-- Every peer id stands for one connection: the connections that have the id,
its redirects and its endpoint agree about it. -/
structure PeerMap.Owned (map : PeerMap)
    (added : Finmap fun _ : Nat => String) (owner : String → Nat) : Prop where
  paired : map.peers.Paired
  known : ∀ meshId peerId, map.getPeerId meshId = some peerId → meshId ∈ added
  attributed : ∀ meshId peerId, map.getPeerId meshId = some peerId → owner peerId = meshId
  targets : ∀ peerId target, map.redirects.lookup peerId = some target → target ∈ map.peerIds
  redirected : ∀ peerId target, map.redirects.lookup peerId = some target →
    owner peerId = owner target
  present : ∀ peerId endpoint, map.endpoints.getByKey peerId = some endpoint → peerId ∈ map.peerIds
  located : ∀ peerId endpoint, map.endpoints.getByKey peerId = some endpoint →
    added.lookup (owner peerId) = some endpoint

namespace PeerMap.Owned

variable {map : PeerMap} {added : Finmap fun _ : Nat => String}
  {owner : String → Nat} {peerId : String} {meshId : Nat}

theorem new : PeerMap.new.Owned added owner where
  paired := paired_new
  known := nofun
  attributed := nofun
  targets := nofun
  redirected := nofun
  present := nofun
  located := nofun

theorem endpoint (owned : map.Owned added owner) {endpoint : String}
    (found : map.getPeerEndpoint peerId = some endpoint) :
    added.lookup (owner peerId) = some endpoint := by
  unfold getPeerEndpoint at found
  rcases Option.or_eq_some_iff.mp found with redirected | direct
  · obtain ⟨target, leads, located⟩ := Option.bind_eq_some_iff.mp redirected
    rw [owned.redirected peerId target leads]
    exact owned.located target endpoint located
  · exact owned.located peerId endpoint direct.2

theorem owner_eq (owned : map.Owned added owner) (found : map.peers.getByKey peerId = some meshId) :
    owner peerId = meshId :=
  owned.attributed meshId peerId (owned.paired peerId meshId found)

theorem getPeerId_remove {other : String}
    (found : (map.remove peerId).2.getPeerId meshId = some other) :
    map.getPeerId meshId = some other := by
  have looked : (map.peers.removeByKey peerId).2.getByValue meshId = some other := found
  rw [getByValue_removeByKey] at looked
  split at looked
  · cases looked
  · exact looked

theorem endpoint_remove {other endpoint : String}
    (located : (map.remove peerId).2.endpoints.getByKey other = some endpoint) :
    other ≠ peerId ∧ map.endpoints.getByKey other = some endpoint := by
  have looked : (map.endpoints.removeByKey peerId).2.getByKey other = some endpoint := located
  rw [getByKey_removeByKey] at looked
  split at looked
  · cases looked
  · rename_i different
    exact ⟨different, looked⟩

theorem remove (owned : map.Owned added owner) (peerId : String) :
    (map.remove peerId).2.Owned added owner where
  paired := owned.paired.removeByKey peerId
  known := fun other found resolved =>
    owned.known other found (getPeerId_remove resolved)
  attributed := fun other found resolved =>
    owned.attributed other found (getPeerId_remove resolved)
  targets := by
    intro other target leads
    obtain ⟨earlier, kept⟩ := (lookup_retain_eq_some_iff _ _ _ _).mp leads
    exact (Peers.mem_peerIds_remove ..).mpr
        ⟨of_decide_eq_true kept, owned.targets other target earlier⟩
  redirected := by
    intro other target leads
    obtain ⟨earlier, _⟩ := (lookup_retain_eq_some_iff _ _ _ _).mp leads
    exact owned.redirected other target earlier
  present := by
    intro other endpoint found
    obtain ⟨different, earlier⟩ := endpoint_remove found
    exact (Peers.mem_peerIds_remove ..).mpr ⟨different, owned.present other endpoint earlier⟩
  located := by
    intro other endpoint found
    exact owned.located other endpoint (endpoint_remove found).2

theorem absent (owned : map.Owned added owner)
    (unattributed : ∀ meshId, map.getPeerId meshId ≠ some peerId) :
    peerId ∉ map.peerIds := by
  intro member
  obtain ⟨meshId, found⟩ := (map.mem_peerIds_iff peerId).mp member
  exact unattributed meshId (owned.paired peerId meshId found)

theorem getPeerId_insert {endpoint other : String} {otherMesh : Nat}
    (resolved : (map.insert peerId meshId endpoint).getPeerId otherMesh = some other) :
    otherMesh = meshId ∧ other = peerId ∨ map.getPeerId otherMesh = some other := by
  have looked : (map.peers.insert peerId meshId).2.getByValue otherMesh = some other := resolved
  rw [getByValue_insert] at looked
  split at looked
  · rename_i same
    exact Or.inl ⟨same, (Option.some.inj looked).symm⟩
  · exact Or.inr looked

theorem endpoint_insert {endpoint other found : String}
    (located : (map.insert peerId meshId endpoint).endpoints.getByKey other = some found) :
    other = peerId ∧ endpoint = found ∨
      other ≠ peerId ∧ map.endpoints.getByKey other = some found := by
  have looked : (map.endpoints.insert peerId endpoint).2.getByKey other = some found := located
  rw [getByKey_insert] at looked
  split at looked
  · rename_i same
    exact Or.inl ⟨same, Option.some.inj looked⟩
  · rename_i different
    exact Or.inr ⟨different, looked⟩

theorem insert (owned : map.Owned added owner) (endpoint : String) (fresh : meshId ∉ added)
    (unattributed : ∀ meshId, map.getPeerId meshId ≠ some peerId)
    (unredirected : map.redirects.lookup peerId = none) :
    (map.insert peerId meshId endpoint).Owned (added.insert meshId endpoint)
      (Function.update owner peerId meshId) where
  paired := by
    apply owned.paired.insert
    intro other found
    exact absurd (owned.known meshId other (owned.paired other meshId found)) fresh
  known := by
    intro other found resolved
    rw [Finmap.mem_insert]
    rcases getPeerId_insert resolved with ⟨same, _⟩ | earlier
    · exact Or.inl same
    · exact Or.inr (owned.known other found earlier)
  attributed := by
    intro other found resolved
    rcases getPeerId_insert resolved with ⟨rfl, rfl⟩ | earlier
    · exact Function.update_self ..
    · have different : found ≠ peerId := by
        intro same
        rw [same] at earlier
        exact unattributed other earlier
      rw [Function.update_of_ne different]
      exact owned.attributed other found earlier
  targets := by
    intro other target leads
    exact (Peers.mem_peerIds_insert ..).mpr (Or.inr (owned.targets other target leads))
  redirected := by
    intro other target leads
    have source : other ≠ peerId := by
      intro same
      rw [same] at leads
      exact nomatch unredirected.symm.trans leads
    have aim : target ≠ peerId := by
      intro same
      have member := owned.targets other target leads
      rw [same] at member
      exact owned.absent unattributed member
    rw [Function.update_of_ne source, Function.update_of_ne aim]
    exact owned.redirected other target leads
  present := by
    intro other found resolved
    rw [Peers.mem_peerIds_insert]
    rcases endpoint_insert resolved with ⟨same, _⟩ | ⟨_, earlier⟩
    · exact Or.inl same
    · exact Or.inr (owned.present other found earlier)
  located := by
    intro other found resolved
    rcases endpoint_insert resolved with ⟨same, rfl⟩ | ⟨different, before⟩
    · rw [same, Function.update_self, Finmap.lookup_insert]
    · have earlier := owned.located other found before
      have foreign : owner other ≠ meshId := by
        intro same
        rw [same] at earlier
        exact fresh (Finmap.mem_of_lookup_eq_some earlier)
      rw [Function.update_of_ne different, Finmap.lookup_insert_of_ne _ foreign]
      exact earlier

theorem getByKey_moveEndpoint {endpoints : BiHashMap String String}
    {oldPeerId newPeerId other endpoint : String}
    (found : (moveEndpoint oldPeerId newPeerId endpoints).getByKey other = some endpoint) :
    other = newPeerId ∧ endpoints.getByKey oldPeerId = some endpoint ∨
      other ≠ oldPeerId ∧ endpoints.getByKey other = some endpoint := by
  have remaining := endpoints.getByKey_removeByKey oldPeerId other
  have kept : (endpoints.removeByKey oldPeerId).2.getByKey other = some endpoint →
      other ≠ oldPeerId ∧ endpoints.getByKey other = some endpoint := by
    intro looked
    rw [remaining] at looked
    split at looked
    · cases looked
    · rename_i different
      exact ⟨different, looked⟩
  unfold moveEndpoint at found
  split at found
  · rename_i former moved rest removed
    have located : endpoints.getByKey oldPeerId = some moved :=
      getByKey_of_removeByKey (congrArg Prod.fst removed)
    rw [getByKey_insert] at found
    split at found
    · rename_i same
      rw [located]
      exact Or.inl ⟨same, found⟩
    · rw [removed] at kept
      exact Or.inr (kept found)
  · rename_i rest removed
    rw [removed] at kept
    exact Or.inr (kept found)

theorem update_owner_of_eq (own : owner peerId = meshId) (bound : String) :
    Function.update owner bound meshId peerId = meshId := by
  rw [Function.update_apply]
  split
  · rfl
  · exact own

section Renaming

variable {oldPeerId newPeerId : String}

theorem getPeerId_renamed {other : Nat}
    (resolved : (map.renamed oldPeerId newPeerId meshId).getPeerId other = some peerId) :
    other = meshId ∧ peerId = newPeerId ∨ other ≠ meshId ∧ map.getPeerId other = some peerId := by
  have looked :
      ((map.peers.removeByKey oldPeerId).2.insert newPeerId
        meshId).2.getByValue other = some peerId :=
    resolved
  rw [getByValue_insert, getByValue_removeByKey] at looked
  split at looked
  · rename_i same
    exact Or.inl ⟨same, (Option.some.inj looked).symm⟩
  · rename_i different
    split at looked
    · cases looked
    · exact Or.inr ⟨different, looked⟩

variable (owned : map.Owned added owner) (found : map.peers.getByKey oldPeerId = some meshId)
  (bindable : newPeerId = oldPeerId ∨ (∀ meshId, map.getPeerId meshId ≠ some newPeerId) ∧
        map.redirects.lookup newPeerId = none)

include owned bindable

theorem ne_newPeerId_of_mem {other : String} (member : other ∈ map.peerIds)
    (different : other ≠ oldPeerId) :
    other ≠ newPeerId := by
  intro same
  rw [same] at member different
  rcases bindable with kept | ⟨unattributed, _⟩
  · exact different kept
  · exact owned.absent unattributed member

include found

theorem attributed_renamed {other : Nat}
    (resolved : (map.renamed oldPeerId newPeerId meshId).getPeerId other = some peerId) :
    Function.update owner newPeerId meshId peerId = other := by
  rcases getPeerId_renamed resolved with ⟨rfl, rfl⟩ | ⟨foreign, earlier⟩
  · exact Function.update_self ..
  · have attributed := owned.attributed other peerId earlier
    have different : peerId ≠ newPeerId := by
      intro same
      rcases bindable with kept | ⟨unattributed, _⟩
      · rw [same, kept, owned.owner_eq found] at attributed
        exact foreign attributed.symm
      · rw [same] at earlier
        exact unattributed other earlier
    rw [Function.update_of_ne different]
    exact attributed

theorem redirected_renamed {target : String}
    (leads : (map.renamed oldPeerId newPeerId meshId).redirects.lookup peerId = some target) :
    Function.update owner newPeerId meshId peerId =
      Function.update owner newPeerId meshId target := by
  have own : owner oldPeerId = meshId := owned.owner_eq found
  have looked := (redirect_eq_some_iff _ _ _).mp leads
  split at looked
  · rename_i same
    rw [same, update_owner_of_eq own, looked, Function.update_self]
  · rename_i source
    obtain ⟨earlier, before, moved⟩ := looked
    have shared := owned.redirected peerId earlier before
    by_cases renames : earlier = oldPeerId
    · rw [if_pos renames] at moved
      rw [renames, own] at shared
      rw [← moved, Function.update_self, update_owner_of_eq shared]
    · rw [if_neg renames] at moved
      subst moved
      have aim : earlier ≠ newPeerId := owned.ne_newPeerId_of_mem bindable
        (owned.targets peerId earlier before) renames
      have different : peerId ≠ newPeerId := by
        intro same
        rcases bindable with kept | ⟨_, unredirected⟩
        · exact source (same.trans kept)
        · rw [same] at before
          exact nomatch unredirected.symm.trans before
      rw [Function.update_of_ne different, Function.update_of_ne aim]
      exact shared

theorem renamed : (map.renamed oldPeerId newPeerId meshId).Owned added
      (Function.update owner newPeerId meshId) where
  paired := by
    apply (owned.paired.removeByKey oldPeerId).insert
    intro other same
    rw [getByKey_removeByKey] at same
    split at same
    · cases same
    · rename_i different
      exact absurd (owned.paired.injective same found) different
  known := by
    intro other peerId resolved
    rcases getPeerId_renamed resolved with ⟨rfl, _⟩ | ⟨_, earlier⟩
    · exact owned.known other oldPeerId (owned.paired _ _ found)
    · exact owned.known other peerId earlier
  attributed _ _ resolved := owned.attributed_renamed found bindable resolved
  targets := by
    intro peerId target leads
    rw [Peers.mem_peerIds_renamed]
    rcases Peers.lookup_renamed leads with same | ⟨different, _, earlier⟩
    · exact Or.inl same
    · exact Or.inr ⟨different, owned.targets peerId target earlier⟩
  redirected _ _ leads := owned.redirected_renamed found bindable leads
  present := by
    intro peerId endpoint located
    rw [Peers.mem_peerIds_renamed]
    rcases getByKey_moveEndpoint located with
      ⟨same, _⟩ | ⟨different, earlier⟩
    · exact Or.inl same
    · exact Or.inr ⟨different, owned.present peerId endpoint earlier⟩
  located := by
    intro peerId endpoint located
    rcases getByKey_moveEndpoint located with
      ⟨same, earlier⟩ | ⟨different, earlier⟩
    · rw [same, Function.update_self, ← owned.owner_eq found]
      exact owned.located oldPeerId endpoint earlier
    · have apart : peerId ≠ newPeerId := owned.ne_newPeerId_of_mem bindable
          (owned.present peerId endpoint earlier) different
      rw [Function.update_of_ne apart]
      exact owned.located peerId endpoint earlier

end Renaming

end PeerMap.Owned

end Splinter.Network
