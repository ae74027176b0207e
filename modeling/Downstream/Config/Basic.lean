import Downstream.Scan.Basic
import Downstream.Selection.Basic

/-!
The settings of an analysis.
-/
namespace Downstream

structure SelectionConfig where
  selector : String := "heuristic"
  topN : Int := Selection.defaultTopN
  deriving DecidableEq, Repr

structure ExtractionConfig where
  workers : Int := 1
  deriving DecidableEq, Repr

structure Config where
  root : String
  serviceName : Option String := none
  scan : ScanConfig := {}
  selection : SelectionConfig := {}
  extraction : ExtractionConfig := {}
  deriving DecidableEq, Repr

end Downstream
