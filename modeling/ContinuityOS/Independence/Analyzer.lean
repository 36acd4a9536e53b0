import ContinuityOS.Independence.Upstream
import ContinuityOS.Library.UnionFind

/-! # Provider independence analysis

Providers that share an upstream node or an attribute value are merged; the
number of classes that remain is the number of independent providers.
-/
namespace ContinuityOS.Independence
open ContinuityOS.Graph Library

structure SharedDependency where
  dependencyId : String
  dependencyName : String
  dependencyType : String
  sharedByProviders : List String
deriving DecidableEq

structure IndependenceResult where
  category : String
  declaredProviders : List String
  declaredCount : ℕ
  independentCount : ℕ
  sharedDependencies : List SharedDependency
  redundancyValid : Bool
  justification : String

def attrKeys : List String :=
  ["gateway", "ground_station", "backhaul_provider", "transit_provider", "power_source",
    "power_grid", "jurisdiction", "satellite_provider", "upstream_supplier", "port_terminal"]

section Sharing
variable (g : DependencyGraph) (providers : List String)

def providerUpstreams : Dict String (Finset String) :=
  providers.foldl (fun d pid => d.set pid (getUpstreamDependencies g pid)) Dict.empty

/-- The providers below each upstream node. -/
def upstreamCounts : Dict String (List String) :=
  Dict.collect ((providerUpstreams g providers).entries.flatMap fun e =>
    (sortedSet e.2).map fun u => (u, e.1))

def upstreamDependency (u : String) (pids : List String) : SharedDependency where
  dependencyId := u
  dependencyName := ((g.nodeDict.get? u).map DependencyNode.name).getD u
  dependencyType := ((g.nodeDict.get? u).map fun n => n.nodeType.value).getD "upstream_node"
  sharedByProviders := sortedSet pids.toFinset

def upstreamDependencies : List SharedDependency :=
  (upstreamCounts g providers).entries.filterMap fun e =>
    if 1 < e.2.toFinset.card then some (upstreamDependency g e.1 e.2) else none

/-- The attribute of a provider under a key, as a string. -/
def attributeText (key pid : String) : Option String :=
  (g.nodeDict.get? pid).bind fun n => (n.attributes.get? key).map AttributeValue.text

def valToPids (key : String) : Dict String (List String) :=
  Dict.collect (providers.filterMap fun pid => (attributeText g key pid).map fun val => (val, pid))

def attributeDependency (key val : String) (pids : List String) : SharedDependency where
  dependencyId := key ++ "/" ++ val
  dependencyName := "Shared " ++ key ++ ": " ++ val
  dependencyType := key
  sharedByProviders := sortedSet pids.toFinset

def attributeDependencies : List SharedDependency :=
  attrKeys.flatMap fun key => (valToPids g providers key).entries.filterMap fun e =>
    if 1 < e.2.toFinset.card then some (attributeDependency key e.1 e.2) else none

/-- Node dependencies are entered first; an attribute whose key is taken is dropped. -/
def sharedDepsMap : Dict String SharedDependency :=
  (attributeDependencies g providers).foldl (fun d sd => d.setDefault sd.dependencyId sd)
    ((upstreamDependencies g providers).foldl (fun d sd => d.set sd.dependencyId sd) Dict.empty)

def sharedList : List SharedDependency :=
  sortedBy SharedDependency.dependencyId ((sharedDepsMap g providers).entries.map Prod.snd)

/-- Neighbouring elements of a list. -/
def consecutive (l : List String) : List (String × String) := l.zip l.tail

def unionPairs : List (String × String) :=
  (sharedList g providers).flatMap fun sd => consecutive sd.sharedByProviders

/-- The classes left after the unions. -/
def uniqueRoots : Finset String :=
  (findAll providers.length
    ((unionPairs g providers).foldl (fun parent p => union providers.length parent p.1 p.2) id)
    providers).1

def independentCount : ℕ := (uniqueRoots g providers).card

end Sharing

def emptyResult (category : String) : IndependenceResult where
  category := category
  declaredProviders := []
  declaredCount := 0
  independentCount := 0
  sharedDependencies := []
  redundancyValid := false
  justification := "No providers declared for category"

def redundancyValid (independent declared : ℕ) (minimumRequired : ℤ) : Bool :=
  if minimumRequired ≤ declared then minimumRequired ≤ independent else independent = declared

def justification (independent declared : ℕ) (minimumRequired : ℤ)
    (shared : List SharedDependency) : String :=
  if redundancyValid independent declared minimumRequired = false ∧ minimumRequired ≤ declared then
    s!"Declared {declared} providers, but shared upstream dependencies (" ++
      ", ".intercalate (shared.map SharedDependency.dependencyId) ++
      s!") reduce effective independent providers to {independent}."
  else
    s!"All {independent} declared provider(s) have verified independent upstream dependencies."

def analyzeCategory (g : DependencyGraph) (category : String) (providers : List String)
    (minimumRequired : ℤ := 2) : IndependenceResult :=
  if providers.length = 0 then emptyResult category
  else
    { category := category
      declaredProviders := sortedBy id providers
      declaredCount := providers.length
      independentCount := independentCount g providers
      sharedDependencies := sharedList g providers
      redundancyValid :=
        redundancyValid (independentCount g providers) providers.length minimumRequired
      justification := justification (independentCount g providers) providers.length
        minimumRequired (sharedList g providers) }

end ContinuityOS.Independence
