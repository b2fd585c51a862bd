import RepoAtlas.Graph.Basic

/-!
# Risk policies

The thresholds and weights of the risk score of a file.
-/

namespace RepoAtlas

inductive RiskLevel where
  | low | medium | high
  deriving DecidableEq, Repr

def RiskLevel.name : RiskLevel → Text
  | low => "low"
  | medium => "medium"
  | high => "high"

structure RiskPolicy where
  linesHigh : Int := 500
  linesHighWeight : Int := 20
  linesMedium : Int := 300
  linesMediumWeight : Int := 10
  complexityHigh : Int := 20
  complexityHighWeight : Int := 20
  complexityMedium : Int := 10
  complexityMediumWeight : Int := 10
  lowCommentRatio : Decimal := ⟨5, -2⟩
  lowCommentMinLines : Int := 50
  lowCommentWeight : Int := 5
  fanInHigh : Int := 10
  fanInHighWeight : Int := 15
  fanInMedium : Int := 5
  fanInMediumWeight : Int := 8
  fanOutHigh : Int := 10
  fanOutHighWeight : Int := 10
  cycleWeight : Int := 15
  anyTypeWeight : Int := 5
  anyTypeExtensions : List Text := [".ts".toList, ".tsx".toList]
  highScore : Int := 50
  mediumScore : Int := 25

def RiskPolicy.level (policy : RiskPolicy) (score : Int) : RiskLevel :=
  if score > policy.highScore then .high
  else if score > policy.mediumScore then .medium
  else .low

end RepoAtlas
