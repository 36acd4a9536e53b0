import ContinuityOS.Independence.Sharing
import ContinuityOS.Library.Components

/-! # Clusters of providers

The unions over consecutive listed providers leave one root for each component.
The count and the list are the ones of the sharing relation exactly when no shared
attribute value is entered under the id of a shared node.
-/
namespace ContinuityOS.Independence
open ContinuityOS.Graph Library Relation

section Consecutive

theorem mem_of_mem_consecutive {l : List String} {p : String × String} (h : p ∈ consecutive l) :
    p.1 ∈ l ∧ p.2 ∈ l := by
  obtain ⟨a, b⟩ := p
  exact ⟨(List.of_mem_zip h).1, List.mem_of_mem_tail (List.of_mem_zip h).2⟩

theorem head_connected {x y : String} {l : List String} (h : y ∈ x :: l) :
    EqvGen (PairedIn (consecutive (x :: l))) x y := by
  induction l generalizing x with
  | nil =>
    rw [List.mem_singleton.mp h]
    exact .refl x
  | cons z l ih =>
    rcases List.mem_cons.mp h with rfl | hy
    · exact .refl y
    · have hrest : EqvGen (PairedIn (consecutive (x :: z :: l))) z y :=
        (ih hy).mono fun a b hab => List.mem_cons_of_mem (x, z) hab
      exact .trans x z y (.rel x z List.mem_cons_self) hrest

theorem consecutive_connected {l : List String} {a b : String} (ha : a ∈ l) (hb : b ∈ l) :
    EqvGen (PairedIn (consecutive l)) a b := by
  cases l with
  | nil => exact absurd ha List.not_mem_nil
  | cons x l => exact .trans a x b (head_connected ha).symm (head_connected hb)

end Consecutive

/-- Two providers share a strict upstream node, or a value of one attribute key. -/
def Joins (g : DependencyGraph) (a b : String) : Prop :=
  (∃ u, StrictUpstream g u a ∧ StrictUpstream g u b) ∨
    ∃ key ∈ attrKeys, ∃ val, attributeText g key a = some val ∧ attributeText g key b = some val

/-- As far as the list of shared dependencies tells: a shared attribute value counts
only under an id that is not taken by a shared node. -/
def ListedJoin (g : DependencyGraph) (providers : List String) (a b : String) : Prop :=
  (∃ u, StrictUpstream g u a ∧ StrictUpstream g u b) ∨
    ∃ key ∈ attrKeys, ∃ val, (attributeText g key a = some val ∧ attributeText g key b = some val) ∧
      ¬ SharedNode g providers (key ++ "/" ++ val)

section Count
variable {g : DependencyGraph} {providers : List String}

theorem mem_sharedBy_upstream {u p : String} {pids : List String}
    (h : pids.toFinset = nodeSharers g providers u) :
    p ∈ (upstreamDependency g u pids).sharedByProviders ↔ p ∈ providers ∧ StrictUpstream g u p := by
  rw [upstreamDependency, mem_sortedSet, h, mem_nodeSharers]

theorem mem_sharedBy_attribute {key val p : String} {pids : List String}
    (h : pids.toFinset = attributeSharers g providers key val) :
    p ∈ (attributeDependency key val pids).sharedByProviders ↔
      p ∈ providers ∧ attributeText g key p = some val := by
  rw [attributeDependency, mem_sortedSet, h, mem_attributeSharers]

/-- The shared nodes are listed with their sharers. -/
theorem SharedNode.listed {u : String} (h : SharedNode g providers u) :
    upstreamDependency g u (sortedSet (nodeSharers g providers u)) ∈ sharedList g providers := by
  have hset := sortedSet_toFinset (nodeSharers g providers u)
  exact mem_sharedList.mpr (Or.inl (mem_upstreamDependencies.mpr ⟨u, _, rfl, hset, h⟩))

theorem not_sharedNode_iff {k : String} :
    (∀ y ∈ upstreamDependencies g providers, y.dependencyId ≠ k) ↔ ¬ SharedNode g providers k := by
  constructor
  · intro h hk
    rcases mem_sharedList.mp hk.listed with hmem | ⟨hmem, -⟩
    · exact h _ hmem rfl
    · obtain ⟨key, val, pids, heq, -, hshared⟩ := mem_attributeDependencies.mp hmem
      have htype : (upstreamDependency g k (sortedSet (nodeSharers g providers k))).dependencyType =
          key := congrArg SharedDependency.dependencyType heq
      apply upstreamDependency_type_not_mem g k (sortedSet (nodeSharers g providers k))
      rw [htype]
      exact hshared.1
  · rintro h y hy rfl
    obtain ⟨u, pids, rfl, -, hshared⟩ := mem_upstreamDependencies.mp hy
    exact h hshared

theorem SharedAttribute.listed {key val : String} (h : SharedAttribute g providers key val)
    (hfree : ¬ SharedNode g providers (key ++ "/" ++ val)) :
    attributeDependency key val (sortedSet (attributeSharers g providers key val)) ∈
      sharedList g providers := by
  have hset := sortedSet_toFinset (attributeSharers g providers key val)
  exact mem_sharedList.mpr (Or.inr ⟨mem_attributeDependencies.mpr ⟨key, val, _, rfl, hset, h⟩,
    not_sharedNode_iff.mpr hfree⟩)

/-- Every entry is a shared node's or a shared attribute value's. -/
theorem sharedList_cases {sd : SharedDependency} (h : sd ∈ sharedList g providers) :
    (∃ u pids, sd = upstreamDependency g u pids ∧ pids.toFinset = nodeSharers g providers u ∧
      SharedNode g providers u) ∨
    ∃ key val pids, sd = attributeDependency key val pids ∧
      pids.toFinset = attributeSharers g providers key val ∧ SharedAttribute g providers key val ∧
        ¬ SharedNode g providers (key ++ "/" ++ val) := by
  rcases mem_sharedList.mp h with hup | ⟨hattr, hfree⟩
  · exact Or.inl (mem_upstreamDependencies.mp hup)
  · obtain ⟨key, val, pids, rfl, hset, hshared⟩ := mem_attributeDependencies.mp hattr
    exact Or.inr ⟨key, val, pids, rfl, hset, hshared, not_sharedNode_iff.mp hfree⟩

/-- Two providers appear in one entry. -/
def ListedTogether (g : DependencyGraph) (providers : List String) (a b : String) : Prop :=
  ∃ sd ∈ sharedList g providers, a ∈ sd.sharedByProviders ∧ b ∈ sd.sharedByProviders

theorem mem_providers_of_listed {sd : SharedDependency} (h : sd ∈ sharedList g providers)
    {p : String} (hp : p ∈ sd.sharedByProviders) : p ∈ providers := by
  rcases sharedList_cases h with ⟨u, pids, rfl, hset, -⟩ | ⟨key, val, pids, rfl, hset, -⟩
  · exact ((mem_sharedBy_upstream hset).mp hp).1
  · exact ((mem_sharedBy_attribute hset).mp hp).1

theorem ListedTogether.listedJoin {a b : String} (h : ListedTogether g providers a b) :
    ListedJoin g providers a b := by
  obtain ⟨sd, hsd, ha, hb⟩ := h
  rcases sharedList_cases hsd with ⟨u, pids, rfl, hset, -⟩ |
    ⟨key, val, pids, rfl, hset, hshared, hfree⟩
  · rw [mem_sharedBy_upstream hset] at ha hb
    exact Or.inl ⟨u, ha.2, hb.2⟩
  · rw [mem_sharedBy_attribute hset] at ha hb
    exact Or.inr ⟨key, hshared.1, val, ⟨ha.2, hb.2⟩, hfree⟩

theorem ListedJoin.listedTogether {a b : String} (h : ListedJoin g providers a b)
    (ha : a ∈ providers) (hb : b ∈ providers) (hab : a ≠ b) : ListedTogether g providers a b := by
  rcases h with ⟨u, hua, hub⟩ | ⟨key, hkey, val, ⟨hva, hvb⟩, hfree⟩
  · have hshared : SharedNode g providers u := ⟨a, ha, b, hb, hab, hua, hub⟩
    refine ⟨_, hshared.listed, ?_, ?_⟩
    · simpa [upstreamDependency, mem_sortedSet, mem_nodeSharers] using ⟨ha, hua⟩
    · simpa [upstreamDependency, mem_sortedSet, mem_nodeSharers] using ⟨hb, hub⟩
  · have hshared : SharedAttribute g providers key val := ⟨hkey, a, ha, b, hb, hab, hva, hvb⟩
    refine ⟨_, hshared.listed hfree, ?_, ?_⟩
    · simpa [attributeDependency, mem_sortedSet, mem_attributeSharers] using ⟨ha, hva⟩
    · simpa [attributeDependency, mem_sortedSet, mem_attributeSharers] using ⟨hb, hvb⟩

theorem unionPairs_mem {p : String × String} (h : p ∈ unionPairs g providers) :
    p.1 ∈ providers.toFinset ∧ p.2 ∈ providers.toFinset := by
  obtain ⟨sd, hsd, hp⟩ := List.mem_flatMap.mp h
  obtain ⟨h1, h2⟩ := mem_of_mem_consecutive hp
  rw [List.mem_toFinset, List.mem_toFinset]
  exact ⟨mem_providers_of_listed hsd h1, mem_providers_of_listed hsd h2⟩

/-- The unions connect exactly what the entries connect. -/
theorem eqvGen_unionPairs_iff (a b : String) : EqvGen (PairedIn (unionPairs g providers)) a b ↔
    Connected providers.toFinset (ListedTogether g providers) a b := by
  constructor
  · apply eqvGen_of_forall
    intro x y hxy
    obtain ⟨hx, hy⟩ := unionPairs_mem hxy
    obtain ⟨sd, hsd, hp⟩ := List.mem_flatMap.mp hxy
    obtain ⟨h1, h2⟩ := mem_of_mem_consecutive hp
    exact .rel x y ⟨hx, hy, sd, hsd, h1, h2⟩
  · apply eqvGen_of_forall
    rintro x y ⟨-, -, sd, hsd, hx, hy⟩
    exact (consecutive_connected hx hy).mono fun c d hcd => List.mem_flatMap.mpr ⟨sd, hsd, hcd⟩

theorem independentCount_eq_listedTogether : independentCount g providers =
    componentCount providers.toFinset (ListedTogether g providers) := by
  have hfuel : providers.toFinset.card ≤ providers.length := List.toFinset_card_le providers
  obtain ⟨root, height, hrep, hroot⟩ :=
    foldl_union_spec hfuel (unionPairs g providers) fun p hp => unionPairs_mem hp
  obtain ⟨hset, -⟩ := findAll_spec hrep hfuel providers fun p hp => List.mem_toFinset.mpr hp
  rw [independentCount, uniqueRoots, hset]
  apply card_image_eq_componentCount
  intro x _ y _
  rw [hroot, eqvGen_unionPairs_iff]

/-- The count is the number of components of what the list can tell. -/
theorem independentCount_eq : independentCount g providers =
    componentCount providers.toFinset (ListedJoin g providers) := by
  rw [independentCount_eq_listedTogether]
  apply le_antisymm
  · apply componentCount_le
    intro x hx y hy hxy
    rw [List.mem_toFinset] at hx hy
    by_cases hne : x = y
    · rw [hne]
      exact .refl y
    · exact .rel x y ⟨by simpa using hx, by simpa using hy, hxy.listedTogether hx hy hne⟩
  · apply componentCount_le
    intro x hx y hy hxy
    exact .rel x y ⟨hx, hy, hxy.listedJoin⟩

end Count

/-- The entry of a node, with exactly the providers that share it. -/
structure IsNodeEntry (g : DependencyGraph) (providers : List String) (u : String)
    (sd : SharedDependency) : Prop where
  id_eq : sd.dependencyId = u
  type_not_mem : sd.dependencyType ∉ attrKeys
  sharedBy : ∀ p, p ∈ sd.sharedByProviders ↔ p ∈ providers ∧ StrictUpstream g u p

/-- The entry of an attribute value, with exactly the providers that share it. -/
structure IsAttributeEntry (g : DependencyGraph) (providers : List String) (key val : String)
    (sd : SharedDependency) : Prop where
  id_eq : sd.dependencyId = key ++ "/" ++ val
  type_eq : sd.dependencyType = key
  sharedBy : ∀ p, p ∈ sd.sharedByProviders ↔ p ∈ providers ∧ attributeText g key p = some val

/-- The count is the number of components, and the list has every shared node and
every shared attribute value, and nothing else. -/
structure ExactClustering (g : DependencyGraph) (providers : List String)
    (r : IndependenceResult) : Prop where
  count : r.independentCount = componentCount providers.toFinset (Joins g)
  nodes : ∀ u, SharedNode g providers u →
    ∃ sd ∈ r.sharedDependencies, IsNodeEntry g providers u sd
  attributes : ∀ key val, SharedAttribute g providers key val →
    ∃ sd ∈ r.sharedDependencies, IsAttributeEntry g providers key val sd
  entries : ∀ sd ∈ r.sharedDependencies,
    (∃ u, SharedNode g providers u ∧ IsNodeEntry g providers u sd) ∨
      ∃ key val, SharedAttribute g providers key val ∧ IsAttributeEntry g providers key val sd

/-- No shared attribute value has the id of a shared node. -/
def NoCollision (g : DependencyGraph) (providers : List String) : Prop :=
  ∀ key val, SharedAttribute g providers key val → ¬ SharedNode g providers (key ++ "/" ++ val)

section Exact
variable {g : DependencyGraph} {providers : List String}

theorem isNodeEntry_upstream {u : String} {pids : List String}
    (h : pids.toFinset = nodeSharers g providers u) :
    IsNodeEntry g providers u (upstreamDependency g u pids) :=
  ⟨rfl, upstreamDependency_type_not_mem g u pids, fun _ => mem_sharedBy_upstream h⟩

theorem isAttributeEntry_attribute {key val : String} {pids : List String}
    (h : pids.toFinset = attributeSharers g providers key val) :
    IsAttributeEntry g providers key val (attributeDependency key val pids) :=
  ⟨rfl, rfl, fun _ => mem_sharedBy_attribute h⟩

theorem componentCount_joins (h : NoCollision g providers) :
    componentCount providers.toFinset (ListedJoin g providers) =
      componentCount providers.toFinset (Joins g) := by
  apply le_antisymm
  · apply componentCount_le
    intro x hx y hy hxy
    by_cases hne : x = y
    · rw [hne]
      exact .refl y
    · refine .rel x y ⟨hx, hy, ?_⟩
      rcases hxy with hnode | ⟨key, hkey, val, hval⟩
      · exact Or.inl hnode
      · rw [List.mem_toFinset] at hx hy
        exact Or.inr ⟨key, hkey, val, hval, h key val ⟨hkey, x, hx, y, hy, hne, hval⟩⟩
  · apply componentCount_le
    intro x hx y hy hxy
    refine .rel x y ⟨hx, hy, ?_⟩
    rcases hxy with hnode | ⟨key, hkey, val, hval, -⟩
    · exact Or.inl hnode
    · exact Or.inr ⟨key, hkey, val, hval⟩

theorem exactClustering_of_noCollision (h : NoCollision g providers) {r : IndependenceResult}
    (hcount : r.independentCount = independentCount g providers)
    (hlist : r.sharedDependencies = sharedList g providers) : ExactClustering g providers r where
  count := by rw [hcount, independentCount_eq, componentCount_joins h]
  nodes u hu := by
    rw [hlist]
    exact ⟨_, hu.listed, isNodeEntry_upstream (sortedSet_toFinset _)⟩
  attributes key val hkv := by
    rw [hlist]
    exact ⟨_, hkv.listed (h key val hkv), isAttributeEntry_attribute (sortedSet_toFinset _)⟩
  entries sd hsd := by
    rw [hlist] at hsd
    rcases sharedList_cases hsd with ⟨u, pids, rfl, hset, hshared⟩ |
      ⟨key, val, pids, rfl, hset, hshared, -⟩
    · exact Or.inl ⟨u, hshared, isNodeEntry_upstream hset⟩
    · exact Or.inr ⟨key, val, hshared, isAttributeEntry_attribute hset⟩

/-- An attribute value under the id of a shared node has no entry. -/
theorem not_isAttributeEntry {key val : String} {sd : SharedDependency} (hkey : key ∈ attrKeys)
    (hnode : SharedNode g providers (key ++ "/" ++ val)) (hsd : sd ∈ sharedList g providers) :
    ¬ IsAttributeEntry g providers key val sd := by
  intro hentry
  rcases sharedList_cases hsd with ⟨u, pids, rfl, -, -⟩ | ⟨key', val', pids, rfl, -, -, hfree⟩
  · exact upstreamDependency_type_not_mem g u pids (hentry.type_eq ▸ hkey)
  · obtain ⟨rfl, hval⟩ : key' = key ∧ val' = val := by
      have htype : key' = key := hentry.type_eq
      have hid : key' ++ "/" ++ val' = key ++ "/" ++ val := hentry.id_eq
      exact attributeId_injective (htype ▸ hkey) hkey hid
    exact hfree (hval ▸ hnode)

end Exact

theorem analyzeCategory_independentCount (g : DependencyGraph) (category : String)
    (providers : List String) (minimumRequired : ℤ) :
    (analyzeCategory g category providers minimumRequired).independentCount =
      independentCount g providers := by
  cases providers with
  | nil => rfl
  | cons p providers => rfl

theorem analyzeCategory_sharedDependencies (g : DependencyGraph) (category : String)
    (providers : List String) (minimumRequired : ℤ) :
    (analyzeCategory g category providers minimumRequired).sharedDependencies =
      sharedList g providers := by
  cases providers with
  | nil =>
    have hnone : ∀ sd, sd ∉ sharedList g [] := by
      intro sd hsd
      rcases sharedList_cases hsd with ⟨u, -, -, -, a, ha, -⟩ | ⟨key, val, -, -, -, ⟨-, a, ha, -⟩, -⟩
      · exact List.not_mem_nil ha
      · exact List.not_mem_nil ha
    exact (List.eq_nil_iff_forall_not_mem.mpr hnone).symm
  | cons p providers => rfl

/-- The analysis is exact precisely when ids do not collide. -/
theorem analyzeCategory_exact_iff (g : DependencyGraph) (category : String)
    (providers : List String) (minimumRequired : ℤ) :
    ExactClustering g providers (analyzeCategory g category providers minimumRequired) ↔
      NoCollision g providers := by
  have hlist := analyzeCategory_sharedDependencies g category providers minimumRequired
  constructor
  · intro h key val hshared hnode
    obtain ⟨sd, hsd, hentry⟩ := h.attributes key val hshared
    rw [hlist] at hsd
    exact not_isAttributeEntry hshared.1 hnode hsd hentry
  · intro h
    exact exactClustering_of_noCollision h
      (analyzeCategory_independentCount g category providers minimumRequired) hlist

/-- A node named like an attribute value, upstream of two providers; two others share
the attribute. -/
def collidingGraph : DependencyGraph where
  graphId := "colliding"
  nodes :=
    [{ nodeId := "gateway/x", name := "Gateway x", nodeType := .facility },
      { nodeId := "p1", name := "P1", nodeType := .satcom },
      { nodeId := "p2", name := "P2", nodeType := .satcom },
      { nodeId := "p3", name := "P3", nodeType := .satcom,
        attributes := Dict.empty.set "gateway" (.str "x") },
      { nodeId := "p4", name := "P4", nodeType := .satcom,
        attributes := Dict.empty.set "gateway" (.str "x") }]
  edges := [{ source := "gateway/x", target := "p1" }, { source := "gateway/x", target := "p2" }]
  uniqueIds := by decide
  knownEnds := by decide

theorem collidingGraph_joins {p q : String}
    (h : (p = "p1" ∨ p = "p2") ∧ (q = "p1" ∨ q = "p2") ∨ (p = "p3" ∨ p = "p4") ∧ (q = "p3" ∨ q = "p4")) :
    Joins collidingGraph p q := by
  have hup : ∀ p, p = "p1" ∨ p = "p2" → StrictUpstream collidingGraph "gateway/x" p := by
    intro p hp
    rw [← mem_getUpstreamDependencies]
    rcases hp with rfl | rfl <;> decide
  have hval : ∀ p, p = "p3" ∨ p = "p4" → attributeText collidingGraph "gateway" p = some "x" := by
    intro p hp
    rcases hp with rfl | rfl <;> decide
  rcases h with ⟨hp, hq⟩ | ⟨hp, hq⟩
  · exact Or.inl ⟨"gateway/x", hup p hp, hup q hq⟩
  · exact Or.inr ⟨"gateway", by decide, "x", hval p hp, hval q hq⟩

theorem collidingGraph_components :
    componentCount ["p1", "p2", "p3", "p4"].toFinset (Joins collidingGraph) ≤ 2 := by
  have hbound : componentCount ["p1", "p2", "p3", "p4"].toFinset (Joins collidingGraph) ≤
      (["p1", "p2", "p3", "p4"].toFinset.image
        fun p => if p = "p1" ∨ p = "p2" then "p1" else "p3").card := by
    apply componentCount_le_card_image
    intro x hx y hy hxy
    refine .rel x y ⟨hx, hy, collidingGraph_joins ?_⟩
    simp only [List.mem_toFinset, List.mem_cons, List.not_mem_nil, or_false] at hx hy
    split_ifs at hxy with hx12 hy12 hy12
    · exact Or.inl ⟨hx12, hy12⟩
    · exact absurd hxy (by decide)
    · exact absurd hxy (by decide)
    · exact Or.inr ⟨by tauto, by tauto⟩
  have himage : (["p1", "p2", "p3", "p4"].toFinset.image
      fun p => if p = "p1" ∨ p = "p2" then "p1" else "p3").card = 2 := by decide
  omega

/-- The shared attribute is dropped and two of the four providers stay apart. -/
theorem analyzeCategory_not_exact_colliding :
    ["p1", "p2", "p3", "p4"].Nodup ∧ (∀ p ∈ ["p1", "p2", "p3", "p4"], p ∈ collidingGraph.nodeIds) ∧
      (analyzeCategory collidingGraph "communications" ["p1", "p2", "p3", "p4"]).independentCount = 3 ∧
      ¬ ExactClustering collidingGraph ["p1", "p2", "p3", "p4"]
        (analyzeCategory collidingGraph "communications" ["p1", "p2", "p3", "p4"]) := by
  have hthree :
      (analyzeCategory collidingGraph "communications" ["p1", "p2", "p3", "p4"]).independentCount =
        3 := by decide
  refine ⟨by decide, by decide, hthree, ?_⟩
  intro h
  have hcount := h.count
  have htwo := collidingGraph_components
  omega

end ContinuityOS.Independence
