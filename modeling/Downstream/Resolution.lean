import Downstream.Dependency
import Downstream.Naming

/-!
Resolving candidates: for every service name the first of the most certain candidates is kept, and
the names are listed in increasing order.
-/
namespace Downstream

namespace Candidate

def canonicalName? (c : Candidate) : Option String :=
  Naming.canonical? c.rawName c.stripSuffixes

def toDependency? (c : Candidate) : Option Dependency :=
  c.canonicalName?.map fun name => ⟨name, c.source, c.confidence, c.evidence⟩

end Candidate

abbrev Dependencies := List Dependency

namespace Dependencies

/-- Adds a dependency at its place; one of the same name stays unless the new one is more
certain. -/
def insert (d : Dependency) : Dependencies → Dependencies
  | [] => [d]
  | e :: rest =>
    if d.name < e.name then d :: e :: rest
    else if d.name = e.name then
      if e.confidence.rank < d.confidence.rank then d :: rest else e :: rest
    else e :: insert d rest

end Dependencies

def resolve (candidates : List Candidate) : Dependencies :=
  (candidates.filterMap (·.toDependency?)).foldl (fun found d => found.insert d) []

def discarded (candidates : List Candidate) : List Candidate :=
  candidates.filter fun c => c.canonicalName?.isNone

end Downstream
