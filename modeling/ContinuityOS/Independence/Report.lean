import ContinuityOS.Independence.Clustering

/-! # The independence report of a graph

The nodes of a graph are grouped by category, and every category with at least two providers is
analysed. Where no attribute value is named like a shared node, the report is valid when none of
them is a single cluster.
-/
namespace ContinuityOS.Independence
open ContinuityOS.Graph Library

structure ProviderIndependenceReport where
  overallValid : Bool
  results : Dict String IndependenceResult
  summary : String

/-- The category that nodes of a type are grouped under. -/
def providerCategory : NodeType → Option String
  | .satcom | .terrestrialNetwork => some "communications"
  | .dataFeed => some "data_sources"
  | .port | .portOt => some "ports"
  | .carrier | .vessel => some "carriers"
  | .supplier | .mineOrRefinery => some "suppliers"
  | .corridor => some "routes"
  | .fuel | .inventory | .strategicStockpile => some "fuel_and_inventory"
  | _ => none

/-- Node ids in the order of the graph under their categories. -/
def autoCategories (g : DependencyGraph) : Dict String (List String) :=
  Dict.collect (g.nodes.filterMap fun node =>
    (providerCategory node.nodeType).map fun category => (category, node.nodeId))

/-- The results after one category more. -/
def addCategory (g : DependencyGraph) (results : Dict String IndependenceResult)
    (entry : String × List String) : Dict String IndependenceResult :=
  if 2 ≤ entry.2.length then results.set entry.1 (analyzeCategory g entry.1 entry.2) else results

def categoryResults (g : DependencyGraph) (categories : Dict String (List String)) :
    Dict String IndependenceResult := categories.entries.foldl (addCategory g) Dict.empty

/-- The categories found invalid. -/
def invalidCategories (results : Dict String IndependenceResult) : List String :=
  (results.entries.filter fun entry => !entry.2.redundancyValid).map Prod.fst

def analyzeGraph (g : DependencyGraph)
    (providerCategories : Option (Dict String (List String)) := none) :
    ProviderIndependenceReport :=
  let results := categoryResults g (providerCategories.getD (autoCategories g))
  let overallValid := results.entries.all fun entry => entry.2.redundancyValid
  { overallValid := overallValid
    results := results
    summary :=
      if overallValid then "All provider groups verified truly independent."
      else s!"False redundancy detected in {(invalidCategories results).length} " ++
        "category/categories: " ++ ", ".intercalate (invalidCategories results) ++ "." }

/-- The providers that a category is analysed for: those given, or else the nodes of its types. -/
def providersOf (g : DependencyGraph) (providerCategories : Option (Dict String (List String)))
    (category : String) : List String :=
  match providerCategories with
  | some categories => categories.getD category []
  | none => (g.nodes.filter fun node => providerCategory node.nodeType = some category).map
      DependencyNode.nodeId

section Results
variable {g : DependencyGraph}

theorem get?_foldl_addCategory {l : List (String × List String)} (hl : (l.map Prod.fst).Nodup)
    (results : Dict String IndependenceResult) (category : String) :
    (l.foldl (addCategory g) results).get? category =
      ((Bindings.lookup l category).bind fun pids =>
        if 2 ≤ pids.length then some (analyzeCategory g category pids) else none).or
          (results.get? category) := by
  induction l generalizing results with
  | nil => rfl
  | cons entry l ih =>
    obtain ⟨first, pids⟩ := entry
    simp only [List.map_cons, List.nodup_cons] at hl
    have hone : (addCategory g results (first, pids)).get? category =
        (if first = category ∧ 2 ≤ pids.length then some (analyzeCategory g category pids)
          else none).or (results.get? category) := by
      by_cases hmany : 2 ≤ pids.length
      · rw [addCategory, if_pos hmany, Dict.get?_set]
        by_cases hfirst : first = category <;> simp [hfirst, hmany]
      · simp [addCategory, hmany]
    rw [List.foldl_cons, ih hl.2, hone, Bindings.lookup]
    by_cases hfirst : first = category
    · subst hfirst
      have hnone : Bindings.lookup l first = none := (Bindings.lookup_eq_none l first).mpr hl.1
      simp [hnone]
    · simp [hfirst]

theorem get?_categoryResults (categories : Dict String (List String)) (category : String) :
    (categoryResults g categories).get? category =
      if 2 ≤ (categories.getD category []).length then
        some (analyzeCategory g category (categories.getD category [])) else none := by
  rw [categoryResults, get?_foldl_addCategory categories.nodup, Dict.get?_empty, Option.or_none,
    Dict.getD, Dict.get?]
  cases Bindings.lookup categories.entries category <;> simp

theorem getD_autoCategories (category : String) :
    (autoCategories g).getD category [] = providersOf g none category := by
  set pairs := g.nodes.filterMap fun node =>
    (providerCategory node.nodeType).map fun found => (found, node.nodeId) with hpairs
  have hvalues : (pairs.filter fun p => p.1 = category).map Prod.snd =
      providersOf g none category := by
    rw [hpairs, providersOf]
    induction g.nodes with
    | nil => rfl
    | cons node nodes ih =>
      cases hfound : providerCategory node.nodeType with
      | none => simpa [hfound] using ih
      | some found => by_cases hsame : found = category <;> simpa [hfound, hsame] using ih
  rw [autoCategories, Dict.getD, ← hpairs, Dict.get?_collect, hvalues]
  split_ifs with hmem
  · rfl
  · have hnil : (pairs.filter fun p => p.1 = category) = [] := by
      rw [List.filter_eq_nil_iff]
      intro p hp
      simpa using fun heq => hmem (List.mem_map.mpr ⟨p, hp, heq⟩)
    rw [← hvalues, hnil]
    rfl

/-- Enough declared providers are redundant when they are not a single cluster. -/
theorem analyzeCategory_valid_iff {category : String} {pids : List String}
    (hmany : 2 ≤ pids.length) (hdistinct : NoCollision g pids) :
    (analyzeCategory g category pids).redundancyValid = true ↔
      ∃ a ∈ pids, ∃ b ∈ pids, ¬ Connected pids.toFinset (Joins g) a b := by
  have hsome : pids.length ≠ 0 := by omega
  have hdeclared : (2 : ℤ) ≤ pids.length := by exact_mod_cast hmany
  have hvalid : (analyzeCategory g category pids).redundancyValid =
      redundancyValid (independentCount g pids) pids.length 2 := by
    rw [analyzeCategory, if_neg hsome]
  rw [hvalid, redundancyValid, if_pos hdeclared, decide_eq_true_eq, Nat.ofNat_le_cast,
    independentCount_eq, componentCount_joins hdistinct, two_le_componentCount_iff]
  simp only [List.mem_toFinset]

end Results

theorem get?_results (g : DependencyGraph) (given : Option (Dict String (List String)))
    (category : String) : (analyzeGraph g given).results.get? category =
      if 2 ≤ (providersOf g given category).length then
        some (analyzeCategory g category (providersOf g given category)) else none := by
  have hlisted : (given.getD (autoCategories g)).getD category [] = providersOf g given category := by
    cases given with
    | none => exact getD_autoCategories category
    | some categories => rfl
  have hresults : (analyzeGraph g given).results =
      categoryResults g (given.getD (autoCategories g)) := rfl
  rw [hresults, get?_categoryResults, hlisted]

section Listed
variable {g : DependencyGraph} {given : Option (Dict String (List String))} {category : String}

theorem get?_some (hmany : 2 ≤ (providersOf g given category).length) :
    (analyzeGraph g given).results.get? category =
      some (analyzeCategory g category (providersOf g given category)) := by
  rw [get?_results, if_pos hmany]

theorem of_get?_some {result : IndependenceResult}
    (h : (analyzeGraph g given).results.get? category = some result) :
    2 ≤ (providersOf g given category).length ∧
      result = analyzeCategory g category (providersOf g given category) := by
  rw [get?_results] at h
  split_ifs at h with hmany
  exact ⟨hmany, (Option.some.inj h).symm⟩

end Listed

/-- In no category that is analysed does a shared attribute value have the id of a shared node. -/
def DistinctNames (g : DependencyGraph) (given : Option (Dict String (List String))) : Prop :=
  ∀ category, 2 ≤ (providersOf g given category).length →
    NoCollision g (providersOf g given category)

/-- The report covers the categories with two providers or more, each by its own analysis, and is
valid when none of them is a single cluster of shared dependencies. -/
theorem analyzeGraph_report (g : DependencyGraph) (given : Option (Dict String (List String)))
    (hdistinct : DistinctNames g given) :
    (∀ category, (analyzeGraph g given).results.get? category =
      if 2 ≤ (providersOf g given category).length then
        some (analyzeCategory g category (providersOf g given category)) else none) ∧
    ((analyzeGraph g given).overallValid = true ↔
      ∀ category, 2 ≤ (providersOf g given category).length →
        ∃ a ∈ providersOf g given category, ∃ b ∈ providersOf g given category,
          ¬ Connected (providersOf g given category).toFinset (Joins g) a b) ∧
    ∀ category, category ∈ invalidCategories (analyzeGraph g given).results ↔
      2 ≤ (providersOf g given category).length ∧
        ∀ a ∈ providersOf g given category, ∀ b ∈ providersOf g given category,
          Connected (providersOf g given category).toFinset (Joins g) a b := by
  refine ⟨get?_results g given, ?_, fun category => ?_⟩
  · have hall : (analyzeGraph g given).overallValid = true ↔ ∀ category result,
        (analyzeGraph g given).results.get? category = some result →
          result.redundancyValid = true := by
      simp only [analyzeGraph, List.all_eq_true, Prod.forall, Dict.mem_entries]
    rw [hall]
    constructor
    · intro h category hmany
      exact (analyzeCategory_valid_iff hmany (hdistinct category hmany)).mp
        (h category _ (get?_some hmany))
    · intro h category result hget
      obtain ⟨hmany, rfl⟩ := of_get?_some hget
      exact (analyzeCategory_valid_iff hmany (hdistinct category hmany)).mpr (h category hmany)
  · have hinvalid : category ∈ invalidCategories (analyzeGraph g given).results ↔
        ∃ result, (analyzeGraph g given).results.get? category = some result ∧
          result.redundancyValid = false := by
      simp [invalidCategories, Dict.mem_entries]
    rw [hinvalid]
    constructor
    · rintro ⟨result, hget, hfalse⟩
      obtain ⟨hmany, rfl⟩ := of_get?_some hget
      refine ⟨hmany, fun a ha b hb => by_contra fun hnot => ?_⟩
      have hvalid : (analyzeCategory g category (providersOf g given category)).redundancyValid =
          true := (analyzeCategory_valid_iff hmany (hdistinct category hmany)).mpr
            ⟨a, ha, b, hb, hnot⟩
      rw [hvalid] at hfalse
      cases hfalse
    · rintro ⟨hmany, hall⟩
      refine ⟨_, get?_some hmany, Bool.eq_false_iff.mpr fun hvalid => ?_⟩
      obtain ⟨a, ha, b, hb, hnot⟩ :=
        (analyzeCategory_valid_iff hmany (hdistinct category hmany)).mp hvalid
      exact hnot (hall a ha b hb)

section Sample

/-- Two ports on one power grid, and two satellite links through one gateway. -/
def harbourGraph : DependencyGraph where
  graphId := "harbour"
  nodes :=
    [{ nodeId := "grid", name := "Grid", nodeType := .power },
      { nodeId := "p1", name := "P1", nodeType := .port },
      { nodeId := "p2", name := "P2", nodeType := .port },
      { nodeId := "s1", name := "S1", nodeType := .satcom,
        attributes := Dict.empty.set "gateway" (.str "x") },
      { nodeId := "s2", name := "S2", nodeType := .satcom,
        attributes := Dict.empty.set "gateway" (.str "x") }]
  edges := [{ source := "grid", target := "p1" }, { source := "grid", target := "p2" }]
  uniqueIds := by decide
  knownEnds := by decide

/-- Only the grid is upstream of anything, and it is not named like an attribute value. -/
theorem harbourGraph_distinct : DistinctNames harbourGraph none := by
  rintro category - key val - ⟨p, -, -, -, -, hupstream, -⟩
  have hsource : ∃ v, DependsOn harbourGraph (key ++ "/" ++ val) v :=
    (Relation.TransGen.head'_iff.mp hupstream).imp fun _ h => h.1
  obtain ⟨v, e, he, hname, -⟩ := hsource
  have hgrid : key ++ "/" ++ val = "grid" := by
    rcases List.mem_pair.mp he with rfl | rfl
    · exact hname.symm
    · exact hname.symm
  have hslash : '/' ∈ (key ++ "/" ++ val).toList := by simp
  rw [hgrid] at hslash
  revert hslash
  decide

theorem analyzeGraph_report_harbour :
    invalidCategories (analyzeGraph harbourGraph).results = ["ports", "communications"] ∧
      Connected (providersOf harbourGraph none "communications").toFinset (Joins harbourGraph)
        "s1" "s2" := by
  have hinvalid : invalidCategories (analyzeGraph harbourGraph).results =
      ["ports", "communications"] := by decide
  have hreport := analyzeGraph_report harbourGraph none harbourGraph_distinct
  have hcluster := ((hreport.2.2 "communications").mp (by rw [hinvalid]; decide)).2
  exact ⟨hinvalid, hcluster "s1" (by decide) "s2" (by decide)⟩

end Sample

end ContinuityOS.Independence
