import ContinuityOS.Independence.Analyzer
import ContinuityOS.Library.Text

/-! # The list of shared dependencies

Which nodes and attribute values enter the list, under which ids, and with which
providers. Node ids and the ids made of an attribute key and value share one
dictionary.
-/
namespace ContinuityOS.Independence
open ContinuityOS.Graph Library

/-- The declared providers below a node. -/
def nodeSharers (g : DependencyGraph) (providers : List String) (u : String) : Finset String :=
  providers.toFinset.filter fun p => u ∈ getUpstreamDependencies g p

/-- The declared providers with a value of an attribute. -/
def attributeSharers (g : DependencyGraph) (providers : List String) (key val : String) :
    Finset String :=
  providers.toFinset.filter fun p => attributeText g key p = some val

/-- Two distinct declared providers have the node strictly upstream. -/
def SharedNode (g : DependencyGraph) (providers : List String) (u : String) : Prop :=
  ∃ a ∈ providers, ∃ b ∈ providers, a ≠ b ∧ StrictUpstream g u a ∧ StrictUpstream g u b

/-- Two distinct declared providers have the value for one of the attribute keys. -/
def SharedAttribute (g : DependencyGraph) (providers : List String) (key val : String) : Prop :=
  key ∈ attrKeys ∧ ∃ a ∈ providers, ∃ b ∈ providers, a ≠ b ∧
    attributeText g key a = some val ∧ attributeText g key b = some val

section Membership
variable {g : DependencyGraph} {providers : List String}

theorem mem_nodeSharers {u p : String} :
    p ∈ nodeSharers g providers u ↔ p ∈ providers ∧ StrictUpstream g u p := by
  simp [nodeSharers, mem_getUpstreamDependencies]

theorem mem_attributeSharers {key val p : String} :
    p ∈ attributeSharers g providers key val ↔
      p ∈ providers ∧ attributeText g key p = some val := by
  simp [attributeSharers]

theorem sharedNode_iff_card {u : String} :
    SharedNode g providers u ↔ 1 < (nodeSharers g providers u).card := by
  rw [Finset.one_lt_card]
  constructor
  · rintro ⟨a, ha, b, hb, hab, hua, hub⟩
    exact ⟨a, mem_nodeSharers.mpr ⟨ha, hua⟩, b, mem_nodeSharers.mpr ⟨hb, hub⟩, hab⟩
  · rintro ⟨a, ha, b, hb, hab⟩
    rw [mem_nodeSharers] at ha hb
    exact ⟨a, ha.1, b, hb.1, hab, ha.2, hb.2⟩

theorem sharedAttribute_iff_card {key val : String} :
    SharedAttribute g providers key val ↔
      key ∈ attrKeys ∧ 1 < (attributeSharers g providers key val).card := by
  rw [SharedAttribute, Finset.one_lt_card]
  apply and_congr_right'
  constructor
  · rintro ⟨a, ha, b, hb, hab, hva, hvb⟩
    exact ⟨a, mem_attributeSharers.mpr ⟨ha, hva⟩, b, mem_attributeSharers.mpr ⟨hb, hvb⟩, hab⟩
  · rintro ⟨a, ha, b, hb, hab⟩
    rw [mem_attributeSharers] at ha hb
    exact ⟨a, ha.1, b, hb.1, hab, ha.2, hb.2⟩

theorem get?_providerUpstreams (p : String) :
    (providerUpstreams g providers).get? p =
      if p ∈ providers then some (getUpstreamDependencies g p) else none := by
  rw [providerUpstreams, Dict.get?_foldl_set_fun]
  rfl

theorem mem_upstreamPairs (u p : String) :
    (u, p) ∈ ((providerUpstreams g providers).entries.flatMap fun e =>
      (sortedSet e.2).map fun u => (u, e.1)) ↔ p ∈ nodeSharers g providers u := by
  rw [mem_nodeSharers]
  simp only [List.mem_flatMap, List.mem_map, Prod.mk.injEq, mem_sortedSet]
  constructor
  · rintro ⟨⟨q, s⟩, hq, w, hw, rfl, rfl⟩
    rw [Dict.mem_entries, get?_providerUpstreams] at hq
    split_ifs at hq with hp
    cases hq
    exact ⟨hp, (mem_getUpstreamDependencies g q w).mp hw⟩
  · rintro ⟨hp, hu⟩
    refine ⟨(p, getUpstreamDependencies g p), ?_, u, ?_, rfl, rfl⟩
    · rw [Dict.mem_entries, get?_providerUpstreams, if_pos hp]
    · exact (mem_getUpstreamDependencies g p u).mpr hu

/-- A key's collected values as a set are the second components paired with it. -/
theorem toFinset_collected {pairs : List (String × String)} {k : String} {vs : List String}
    (h : (k, vs) ∈ (Dict.collect pairs).entries) (v : String) :
    v ∈ vs.toFinset ↔ (k, v) ∈ pairs := by
  rw [Dict.mem_entries_collect] at h
  rw [h.2]
  simp only [List.mem_toFinset, List.mem_map, List.mem_filter, decide_eq_true_eq]
  constructor
  · rintro ⟨⟨k', v'⟩, ⟨hp, rfl⟩, rfl⟩
    exact hp
  · intro hp
    exact ⟨(k, v), ⟨hp, rfl⟩, rfl⟩

theorem exists_collected {pairs : List (String × String)} {k v : String} (h : (k, v) ∈ pairs) :
    ∃ vs, (k, vs) ∈ (Dict.collect pairs).entries := by
  refine ⟨_, (Dict.mem_entries_collect pairs k _).mpr ⟨?_, rfl⟩⟩
  exact List.mem_map.mpr ⟨(k, v), h, rfl⟩

theorem upstreamCounts_toFinset {u : String} {pids : List String}
    (h : (u, pids) ∈ (upstreamCounts g providers).entries) :
    pids.toFinset = nodeSharers g providers u := by
  ext p
  rw [toFinset_collected h, mem_upstreamPairs]

theorem valToPids_toFinset {key val : String} {pids : List String}
    (h : (val, pids) ∈ (valToPids g providers key).entries) :
    pids.toFinset = attributeSharers g providers key val := by
  ext p
  rw [toFinset_collected h, mem_attributeSharers]
  simp only [List.mem_filterMap, Option.map_eq_some_iff, Prod.mk.injEq]
  constructor
  · rintro ⟨q, hq, w, hw, rfl, rfl⟩
    exact ⟨hq, hw⟩
  · rintro ⟨hp, hv⟩
    exact ⟨p, hp, val, hv, rfl, rfl⟩

/-- The node dependencies are the shared nodes with exactly their sharers. -/
theorem mem_upstreamDependencies {sd : SharedDependency} :
    sd ∈ upstreamDependencies g providers ↔ ∃ u pids, sd = upstreamDependency g u pids ∧
      pids.toFinset = nodeSharers g providers u ∧ SharedNode g providers u := by
  simp only [upstreamDependencies, List.mem_filterMap, Option.ite_none_right_eq_some,
    Option.some.injEq]
  constructor
  · rintro ⟨⟨u, pids⟩, hmem, hcard, rfl⟩
    have hset := upstreamCounts_toFinset hmem
    exact ⟨u, pids, rfl, hset, sharedNode_iff_card.mpr (hset ▸ hcard)⟩
  · rintro ⟨u, pids, rfl, hset, hshared⟩
    rw [sharedNode_iff_card] at hshared
    obtain ⟨p, hp⟩ := Finset.card_pos.mp (Nat.zero_lt_of_lt hshared)
    obtain ⟨vs, hvs⟩ := exists_collected ((mem_upstreamPairs u p).mpr hp)
    have hvset := upstreamCounts_toFinset hvs
    refine ⟨(u, vs), hvs, hvset ▸ hshared, ?_⟩
    rw [upstreamDependency, upstreamDependency, hset, hvset]

theorem mem_attributeDependencies {sd : SharedDependency} :
    sd ∈ attributeDependencies g providers ↔ ∃ key val pids, sd = attributeDependency key val pids ∧
      pids.toFinset = attributeSharers g providers key val ∧ SharedAttribute g providers key val := by
  simp only [attributeDependencies, List.mem_flatMap, List.mem_filterMap,
    Option.ite_none_right_eq_some, Option.some.injEq]
  constructor
  · rintro ⟨key, hkey, ⟨val, pids⟩, hmem, hcard, rfl⟩
    have hset := valToPids_toFinset hmem
    exact ⟨key, val, pids, rfl, hset, sharedAttribute_iff_card.mpr ⟨hkey, hset ▸ hcard⟩⟩
  · rintro ⟨key, val, pids, rfl, hset, hshared⟩
    rw [sharedAttribute_iff_card] at hshared
    obtain ⟨hkey, hcard⟩ := hshared
    obtain ⟨p, hp⟩ := Finset.card_pos.mp (Nat.zero_lt_of_lt hcard)
    rw [mem_attributeSharers] at hp
    have hpair : (val, p) ∈ providers.filterMap fun pid =>
        (attributeText g key pid).map fun val => (val, pid) := by
      rw [List.mem_filterMap]
      exact ⟨p, hp.1, by rw [hp.2]; rfl⟩
    obtain ⟨vs, hvs⟩ := exists_collected hpair
    have hvset := valToPids_toFinset hvs
    refine ⟨key, hkey, (val, vs), hvs, hvset ▸ hcard, ?_⟩
    rw [attributeDependency, attributeDependency, hset, hvset]

theorem upstreamDependencies_eq_of_id {sd sd' : SharedDependency}
    (h : sd ∈ upstreamDependencies g providers) (h' : sd' ∈ upstreamDependencies g providers)
    (hid : sd.dependencyId = sd'.dependencyId) : sd = sd' := by
  obtain ⟨u, pids, rfl, hset, -⟩ := mem_upstreamDependencies.mp h
  obtain ⟨u', pids', rfl, hset', -⟩ := mem_upstreamDependencies.mp h'
  obtain rfl : u = u' := hid
  rw [upstreamDependency, upstreamDependency, hset, hset']

/-- The node dependencies are built from the distinct keys of one dictionary. -/
theorem upstreamDependencies_nodup :
    ((upstreamDependencies g providers).map SharedDependency.dependencyId).Nodup := by
  have hsub : ((upstreamDependencies g providers).map SharedDependency.dependencyId).Sublist
      ((upstreamCounts g providers).entries.map Prod.fst) := by
    rw [upstreamDependencies]
    generalize (upstreamCounts g providers).entries = l
    induction l with
    | nil => exact List.Sublist.slnil
    | cons e l ih =>
      by_cases hcard : 1 < e.2.toFinset.card
      · simpa [hcard, upstreamDependency] using ih
      · simpa [hcard] using ih.cons e.1
  exact (upstreamCounts g providers).nodup.sublist hsub

end Membership

section Ids

theorem slash_not_mem_attrKeys {key : String} (h : key ∈ attrKeys) : '/' ∉ key.toList := by
  have hall : ∀ k ∈ attrKeys, '/' ∉ k.toList := by decide
  exact hall key h

/-- An id made of a key and a value determines both. -/
theorem attributeId_injective {key key' val val' : String} (hkey : key ∈ attrKeys)
    (hkey' : key' ∈ attrKeys) (h : key ++ "/" ++ val = key' ++ "/" ++ val') :
    key = key' ∧ val = val' :=
  joined_inj (by decide) (slash_not_mem_attrKeys hkey) (slash_not_mem_attrKeys hkey') h

/-- No node type is named like an attribute key. -/
theorem upstreamDependency_type_not_mem (g : DependencyGraph) (u : String) (pids : List String) :
    (upstreamDependency g u pids).dependencyType ∉ attrKeys := by
  have htypes : ∀ t : NodeType, t.value ∉ attrKeys := by
    intro t
    cases t <;> decide
  change ((g.nodeDict.get? u).map fun n => n.nodeType.value).getD "upstream_node" ∉ attrKeys
  cases g.nodeDict.get? u with
  | none =>
    change "upstream_node" ∉ attrKeys
    decide
  | some n => exact htypes n.nodeType

end Ids

section Listing
variable {g : DependencyGraph} {providers : List String}

theorem attributeDependencies_eq_of_id {sd sd' : SharedDependency}
    (h : sd ∈ attributeDependencies g providers) (h' : sd' ∈ attributeDependencies g providers)
    (hid : sd.dependencyId = sd'.dependencyId) : sd = sd' := by
  obtain ⟨key, val, pids, rfl, hset, hshared⟩ := mem_attributeDependencies.mp h
  obtain ⟨key', val', pids', rfl, hset', hshared'⟩ := mem_attributeDependencies.mp h'
  obtain ⟨rfl, rfl⟩ := attributeId_injective hshared.1 hshared'.1 hid
  rw [attributeDependency, attributeDependency, hset, hset']

theorem find?_id_eq_some {l : List SharedDependency} {k : String} {sd : SharedDependency}
    (hl : ∀ x ∈ l, ∀ y ∈ l, x.dependencyId = y.dependencyId → x = y) :
    (l.find? fun x => x.dependencyId = k) = some sd ↔ sd ∈ l ∧ sd.dependencyId = k := by
  constructor
  · intro h
    exact ⟨List.mem_of_find?_eq_some h, by simpa using List.find?_some h⟩
  · rintro ⟨hsd, rfl⟩
    have hsome : (l.find? fun x => x.dependencyId = sd.dependencyId).isSome := by
      rw [List.find?_isSome]
      exact ⟨sd, hsd, by simp⟩
    obtain ⟨x, hx⟩ := Option.isSome_iff_exists.mp hsome
    have hid : x.dependencyId = sd.dependencyId := by simpa using List.find?_some hx
    rw [hx, hl x (List.mem_of_find?_eq_some hx) sd hsd hid]

theorem get?_sharedDepsMap (k : String) (sd : SharedDependency) :
    (sharedDepsMap g providers).get? k = some sd ↔ sd.dependencyId = k ∧
      (sd ∈ upstreamDependencies g providers ∨ sd ∈ attributeDependencies g providers ∧
        ∀ y ∈ upstreamDependencies g providers, y.dependencyId ≠ k) := by
  rw [sharedDepsMap, Dict.get?_foldl_setDefault,
    Dict.get?_foldl_set SharedDependency.dependencyId _ upstreamDependencies_nodup, Dict.get?_empty,
    Option.or_none, Option.or_eq_some_iff, find?_id_eq_some (fun _ hx _ hy => upstreamDependencies_eq_of_id hx hy),
    find?_id_eq_some (fun _ hx _ hy => attributeDependencies_eq_of_id hx hy), List.find?_eq_none]
  simp only [decide_eq_true_eq]
  tauto

/-- Every shared node is listed, and every shared attribute value whose id is not a
shared node's. -/
theorem mem_sharedList {sd : SharedDependency} :
    sd ∈ sharedList g providers ↔ sd ∈ upstreamDependencies g providers ∨
      sd ∈ attributeDependencies g providers ∧
        ∀ y ∈ upstreamDependencies g providers, y.dependencyId ≠ sd.dependencyId := by
  rw [sharedList, mem_sortedBy, List.mem_map]
  constructor
  · rintro ⟨⟨k, x⟩, hmem, rfl⟩
    rw [Dict.mem_entries, get?_sharedDepsMap] at hmem
    obtain ⟨rfl, h⟩ := hmem
    exact h
  · intro h
    refine ⟨(sd.dependencyId, sd), ?_, rfl⟩
    rw [Dict.mem_entries, get?_sharedDepsMap]
    exact ⟨rfl, h⟩

end Listing

end ContinuityOS.Independence
