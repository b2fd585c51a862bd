import RepoAtlas.Risk.Policy
import RepoAtlas.Scan

/-!
# Configuration of an analysis
-/

namespace RepoAtlas

structure Config where
  maxFiles : Int := 5000
  batchSize : Int := 50
  /-- The length of the lists of most imported and most importing files. -/
  topCount : Int := 5
  entryPointDepth : Int := 2
  /-- More entry points than this hint at several packages. -/
  manyEntryPoints : Int := 10
  policy : RiskPolicy := {}

inductive ConfigError where
  | maxFiles (n : Int)
  | batchSize (n : Int)
  deriving DecidableEq, Repr

def ConfigError.message : ConfigError → Text
  | maxFiles n => "max_files must be positive, got ".toList ++ Text.ofInt n
  | batchSize n => "batch_size must be positive, got ".toList ++ Text.ofInt n

namespace Config

/-- Whether a configuration can be used. -/
def check (config : Config) : Except ConfigError Config :=
  if config.maxFiles < 1 then .error (.maxFiles config.maxFiles)
  else if config.batchSize < 1 then .error (.batchSize config.batchSize)
  else .ok config

def scan (config : Config) : ScanConfig where
  maxFiles := config.maxFiles
  entryPointDepth := config.entryPointDepth

end Config

end RepoAtlas
