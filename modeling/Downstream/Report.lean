import Downstream.Dependency
import Downstream.Text.Blank
import Downstream.Text.Search

/-!
The report on an analysis, from which a diagram can be drawn: the dependencies as a numbered list,
and on request what the diagram should show.
-/
namespace Downstream

namespace Report

def heading (serviceName : String) : List String :=
  ["# Service Dependency Analysis", "", "**Service**: " ++ serviceName, ""]

def standalone : List String :=
  ["**Dependencies**: None detected", "",
    "This service appears to be standalone or dependencies could not be automatically detected."]

def numberedLine (d : Dependency) (number : Nat) : String :=
  toString number ++ ". **" ++ d.name ++ "** (" ++ d.confidence.label ++ " confidence)"

def listing (dependencies : List Dependency) : List String :=
  ["**Dependencies Detected** (" ++ toString dependencies.length ++ " total):", ""]
    ++ (dependencies.zipIdx 1).map fun (d, number) => numberedLine d number

def diagramRequirements (serviceName : String) (dependencies : List Dependency) : List String :=
  ["", "## Diagram Requirements:", "",
    "- Main service: **" ++ serviceName ++ "** (Blue rectangle, left side)",
    "- Dependency services (Green rectangles, right side):"]
    ++ dependencies.map (fun d => "  • " ++ d.name)
    ++ ["", "Generate a clean dependency diagram showing these relationships."]

def lines (a : ServiceAnalysis) (diagram : Bool) : List String :=
  heading a.serviceName ++
    if a.dependencies.isEmpty then standalone
    else
      listing a.dependencies
        ++ if diagram then diagramRequirements a.serviceName a.dependencies else []

end Report

/-- The text of the report on an analysis, with or without the part on the diagram. White space at
its ends is cut off but for a last line feed. -/
def ServiceAnalysis.report (a : ServiceAnalysis) (diagram : Bool) : String :=
  Text.trimmed (Text.join "\n" (Report.lines a diagram) ++ "\n") ++ "\n"

end Downstream
