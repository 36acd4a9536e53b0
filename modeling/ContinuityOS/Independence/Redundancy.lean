import ContinuityOS.Independence.Clustering

/-! # False redundancy

Providers with a common point of failure should not count as independent. The
search looks strictly upstream of each provider, so a provider that is upstream of
another is found only where the two also share something listed.
-/
namespace ContinuityOS.Independence
open ContinuityOS.Graph Library

/-- Some graph node is equal to or strictly upstream of both. -/
def CommonPoint (g : DependencyGraph) (a b : String) : Prop :=
  ∃ n ∈ g.nodeIds, (n = a ∨ StrictUpstream g n a) ∧ (n = b ∨ StrictUpstream g n b)

/-- The reported independence is at most the number of groups without a common point. -/
structure NoFalseRedundancy (g : DependencyGraph) (providers : List String)
    (minimumRequired : ℤ) (r : IndependenceResult) : Prop where
  count : r.independentCount ≤ componentCount providers.toFinset (CommonPoint g)
  valid : r.redundancyValid = true → minimumRequired ≤ r.declaredCount →
    minimumRequired ≤ componentCount providers.toFinset (CommonPoint g)

/-- A provider upstream of another is also connected to it by shared strict upstream
nodes and listed attribute values. -/
def UpstreamCovered (g : DependencyGraph) (providers : List String) : Prop :=
  ∀ a ∈ providers, ∀ b ∈ providers, StrictUpstream g a b →
    Connected providers.toFinset (ListedJoin g providers) a b

/-- Listed attribute values join only providers that have a common point as well. -/
def AttributesCovered (g : DependencyGraph) (providers : List String) : Prop :=
  ∀ a ∈ providers, ∀ b ∈ providers, ListedJoin g providers a b →
    Connected providers.toFinset (CommonPoint g) a b

section Bound
variable {g : DependencyGraph} {providers : List String}

theorem source_mem_of_strictUpstream {u v : String} (h : StrictUpstream g u v) : u ∈ g.nodeIds := by
  induction h using Relation.TransGen.head_induction_on with
  | single hedge =>
    obtain ⟨e, he, rfl, -, -⟩ := hedge
    exact g.mem_nodeIds.mpr (g.knownEnds e he).1
  | head hedge _ _ =>
    obtain ⟨e, he, rfl, -, -⟩ := hedge
    exact g.mem_nodeIds.mpr (g.knownEnds e he).1

theorem CommonPoint.cases {a b : String} (h : CommonPoint g a b) :
    a = b ∨ StrictUpstream g a b ∨ StrictUpstream g b a ∨
      ∃ n, StrictUpstream g n a ∧ StrictUpstream g n b := by
  obtain ⟨n, -, rfl | hna, rfl | hnb⟩ := h
  · exact Or.inl rfl
  · exact Or.inr (Or.inl hnb)
  · exact Or.inr (Or.inr (Or.inl hna))
  · exact Or.inr (Or.inr (Or.inr ⟨n, hna, hnb⟩))

theorem independentCount_le_commonPoint (h : UpstreamCovered g providers) :
    independentCount g providers ≤ componentCount providers.toFinset (CommonPoint g) := by
  rw [independentCount_eq]
  apply componentCount_le
  intro x hx y hy hxy
  have hx' : x ∈ providers := List.mem_toFinset.mp hx
  have hy' : y ∈ providers := List.mem_toFinset.mp hy
  rcases hxy.cases with rfl | hup | hup | hshared
  · exact .refl x
  · exact h x hx' y hy' hup
  · exact (h y hy' x hx' hup).symm
  · exact .rel x y ⟨hx, hy, Or.inl hshared⟩

theorem upstreamCovered_of_count (hattr : AttributesCovered g providers)
    (h : independentCount g providers ≤ componentCount providers.toFinset (CommonPoint g)) :
    UpstreamCovered g providers := by
  intro a ha b hb hup
  rw [independentCount_eq] at h
  have ha' : a ∈ providers.toFinset := List.mem_toFinset.mpr ha
  have hb' : b ∈ providers.toFinset := List.mem_toFinset.mpr hb
  have hpoint : CommonPoint g a b :=
    ⟨a, source_mem_of_strictUpstream hup, Or.inl rfl, Or.inr hup⟩
  refine connected_of_componentCount_le ?_ h ha' hb' (.rel a b ⟨ha', hb', hpoint⟩)
  intro x hx y hy hxy
  exact hattr x (List.mem_toFinset.mp hx) y (List.mem_toFinset.mp hy) hxy

/-- A valid verdict over enough declared providers means enough independent ones. -/
theorem analyzeCategory_redundancyValid {category : String} {minimumRequired : ℤ}
    (hvalid : (analyzeCategory g category providers minimumRequired).redundancyValid = true)
    (hdeclared : minimumRequired ≤ (analyzeCategory g category providers minimumRequired).declaredCount) :
    minimumRequired ≤ independentCount g providers := by
  cases providers with
  | nil => exact absurd hvalid (by simp [analyzeCategory, emptyResult])
  | cons p providers =>
    change minimumRequired ≤ ((p :: providers).length : ℤ) at hdeclared
    change redundancyValid (independentCount g (p :: providers)) (p :: providers).length
      minimumRequired = true at hvalid
    rw [redundancyValid, if_pos hdeclared] at hvalid
    simpa using hvalid

end Bound

/-- Covered providers are never counted as more independent than they are. Where
attribute values join nothing else, covered providers are the only ones. -/
theorem analyzeCategory_noFalseRedundancy (g : DependencyGraph) (category : String)
    (providers : List String) (minimumRequired : ℤ) :
    (UpstreamCovered g providers → NoFalseRedundancy g providers minimumRequired
      (analyzeCategory g category providers minimumRequired)) ∧
    (AttributesCovered g providers → NoFalseRedundancy g providers minimumRequired
      (analyzeCategory g category providers minimumRequired) → UpstreamCovered g providers) := by
  have hcount := analyzeCategory_independentCount g category providers minimumRequired
  constructor
  · intro h
    have hle := independentCount_le_commonPoint h
    constructor
    · rw [hcount]
      exact hle
    · intro hvalid hdeclared
      have hmin := analyzeCategory_redundancyValid hvalid hdeclared
      exact hmin.trans (by exact_mod_cast hle)
  · intro hattr h
    apply upstreamCovered_of_count hattr
    rw [← hcount]
    exact h.count

/-- One provider depends on the other, and both depend on a gateway. -/
def gatewayGraph : DependencyGraph where
  graphId := "gateway"
  nodes :=
    [{ nodeId := "gw", name := "Gateway", nodeType := .facility },
      { nodeId := "a", name := "A", nodeType := .satcom },
      { nodeId := "b", name := "B", nodeType := .satcom }]
  edges := [{ source := "gw", target := "a" }, { source := "gw", target := "b" },
    { source := "a", target := "b" }]
  uniqueIds := by decide
  knownEnds := by decide

theorem analyzeCategory_noFalseRedundancy_gateway :
    UpstreamCovered gatewayGraph ["a", "b"] ∧ NoFalseRedundancy gatewayGraph ["a", "b"] 2
      (analyzeCategory gatewayGraph "communications" ["a", "b"] 2) := by
  have hcovered : UpstreamCovered gatewayGraph ["a", "b"] := by
    have hup : ∀ p ∈ ["a", "b"], StrictUpstream gatewayGraph "gw" p := by
      intro p hp
      rw [← mem_getUpstreamDependencies]
      revert p
      decide
    intro x hx y hy _
    exact .rel x y ⟨List.mem_toFinset.mpr hx, List.mem_toFinset.mpr hy,
      Or.inl ⟨"gw", hup x hx, hup y hy⟩⟩
  exact ⟨hcovered,
    (analyzeCategory_noFalseRedundancy gatewayGraph "communications" ["a", "b"] 2).1 hcovered⟩

/-- One provider depends on the other. -/
def chainedGraph : DependencyGraph where
  graphId := "chained"
  nodes :=
    [{ nodeId := "a", name := "A", nodeType := .satcom },
      { nodeId := "b", name := "B", nodeType := .satcom }]
  edges := [{ source := "a", target := "b" }]
  uniqueIds := by decide
  knownEnds := by decide

theorem chainedGraph_components :
    componentCount ["a", "b"].toFinset (CommonPoint chainedGraph) ≤ 1 := by
  have hbound : componentCount ["a", "b"].toFinset (CommonPoint chainedGraph) ≤
      (["a", "b"].toFinset.image fun _ => "a").card := by
    apply componentCount_le_card_image
    intro x hx y hy _
    refine .rel x y ⟨hx, hy, "a", by decide, ?_⟩
    have hup : StrictUpstream chainedGraph "a" "b" := by
      rw [← mem_getUpstreamDependencies]
      decide
    have hbelow : ∀ p ∈ ["a", "b"].toFinset, "a" = p ∨ StrictUpstream chainedGraph "a" p := by
      intro p hp
      simp only [List.mem_toFinset, List.mem_cons, List.not_mem_nil, or_false] at hp
      rcases hp with rfl | rfl
      · exact Or.inl rfl
      · exact Or.inr hup
    exact ⟨hbelow x hx, hbelow y hy⟩
  have himage : (["a", "b"].toFinset.image fun _ => "a").card = 1 := by decide
  omega

/-- Both are counted, and the redundancy of two is called valid. -/
theorem analyzeCategory_false_redundancy_chained :
    (∀ p ∈ ["a", "b"], p ∈ chainedGraph.nodeIds) ∧
      (analyzeCategory chainedGraph "communications" ["a", "b"]).independentCount = 2 ∧
      (analyzeCategory chainedGraph "communications" ["a", "b"]).redundancyValid = true ∧
      ¬ NoFalseRedundancy chainedGraph ["a", "b"] 2
        (analyzeCategory chainedGraph "communications" ["a", "b"]) := by
  have htwo : (analyzeCategory chainedGraph "communications" ["a", "b"]).independentCount = 2 := by
    decide
  refine ⟨by decide, htwo, by decide, ?_⟩
  intro h
  have hcount := h.count
  have hone := chainedGraph_components
  omega

end ContinuityOS.Independence
