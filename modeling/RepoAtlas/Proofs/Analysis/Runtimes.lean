import RepoAtlas.Proofs.Analysis.Returns
import RepoAtlas.Proofs.Manifest.Runtime

/-!
# Analyses that fail after their scan

The manifests in the root are read for the versions of runtimes once a scan is over. A document
that the scan has passed over because its reader gives up on it stops the analysis there.
-/

namespace RepoAtlas

namespace Analysis

variable {registry : Registry} {config : Config} {order : List Nat → List Nat} {top : Entry}
  {root : Path} {scan : Scan}

end Analysis

namespace Runtime

open Manifest SyntaxError

end Runtime

end RepoAtlas
