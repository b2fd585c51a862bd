import RepoAtlas.Pattern.Build
import RepoAtlas.Risk.Policy

/-!
# Risk scores

The score of a file is the sum of the weights of the factors that apply to it. Membership in a
cycle may be found out later and is then added once.
-/

namespace RepoAtlas

/-- What makes a file risky. -/
inductive RiskFactor where
  | largeFile (lines : Int)
  | moderatelyLargeFile (lines : Int)
  | highComplexity (complexity : Int)
  | moderateComplexity (complexity : Int)
  | lowCommentRatio
  | highFanIn (count : Int)
  | moderateFanIn (count : Int)
  | highFanOut (count : Int)
  | inCycle
  | anyType
  deriving DecidableEq, Repr

namespace RiskFactor

def text : RiskFactor → Text
  | largeFile n => "Large file (".toList ++ Text.ofInt n ++ " lines)".toList
  | moderatelyLargeFile n => "Moderately large file (".toList ++ Text.ofInt n ++ " lines)".toList
  | highComplexity n => "High cyclomatic complexity (".toList ++ Text.ofInt n ++ [')']
  | moderateComplexity n => "Moderate cyclomatic complexity (".toList ++ Text.ofInt n ++ [')']
  | lowCommentRatio => "Low comment ratio"
  | highFanIn n => "High fan-in (".toList ++ Text.ofInt n ++ " dependents)".toList
  | moderateFanIn n => "Moderate fan-in (".toList ++ Text.ofInt n ++ " dependents)".toList
  | highFanOut n => "High fan-out (".toList ++ Text.ofInt n ++ " dependencies)".toList
  | inCycle => "Part of a circular dependency"
  | anyType => "Uses 'any' type"

def weight (policy : RiskPolicy) : RiskFactor → Int
  | largeFile _ => policy.linesHighWeight
  | moderatelyLargeFile _ => policy.linesMediumWeight
  | highComplexity _ => policy.complexityHighWeight
  | moderateComplexity _ => policy.complexityMediumWeight
  | lowCommentRatio => policy.lowCommentWeight
  | highFanIn _ => policy.fanInHighWeight
  | moderateFanIn _ => policy.fanInMediumWeight
  | highFanOut _ => policy.fanOutHighWeight
  | inCycle => policy.cycleWeight
  | anyType => policy.anyTypeWeight

end RiskFactor

/-- What the risk of a file depends on. -/
structure RiskProfile where
  metrics : Metrics
  fanIn : Int := 0
  fanOut : Int := 0
  extension : Text
  content : Text
  inCycle : Bool := false

namespace RiskProfile

open Pattern

/-- Uses of the type `any`. -/
def anyTypeUses : List Pattern := [
  inOrder [":", blank0, "any", wordEdge],
  lit "<any>".toList,
  inOrder [wordEdge, "as", blank, "any", wordEdge],
  inOrder [wordEdge, "any[]"]]

def usesAnyType (policy : RiskPolicy) (profile : RiskProfile) : Bool :=
  policy.anyTypeExtensions.contains (Text.lower profile.extension) &&
    anyTypeUses.any (·.occursIn profile.content)

/-- The factor for a value above the higher of two thresholds, or above the lower one. -/
def graded (value high medium : Int) (ifHigh ifMedium : RiskFactor) : List RiskFactor :=
  if value > high then [ifHigh] else if value > medium then [ifMedium] else []

def factors (policy : RiskPolicy) (profile : RiskProfile) : List RiskFactor :=
  let m := profile.metrics
  graded m.lines policy.linesHigh policy.linesMedium
      (.largeFile m.lines) (.moderatelyLargeFile m.lines) ++
    graded m.complexity policy.complexityHigh policy.complexityMedium
      (.highComplexity m.complexity) (.moderateComplexity m.complexity) ++
    (if m.commentRatio.lt policy.lowCommentRatio && m.lines > policy.lowCommentMinLines then
      [.lowCommentRatio] else []) ++
    graded profile.fanIn policy.fanInHigh policy.fanInMedium
      (.highFanIn profile.fanIn) (.moderateFanIn profile.fanIn) ++
    (if profile.fanOut > policy.fanOutHigh then [.highFanOut profile.fanOut] else []) ++
    (if profile.inCycle then [.inCycle] else []) ++
    (if profile.usesAnyType policy then [.anyType] else [])

/-- The sum of the weights of all factors. -/
def score (policy : RiskPolicy) (profile : RiskProfile) : Int :=
  ((profile.factors policy).map (·.weight policy)).foldr (· + ·) 0

def detail (policy : RiskPolicy) (profile : RiskProfile) : RiskDetail where
  level := (policy.level (profile.score policy)).name
  score := profile.score policy
  factors := (profile.factors policy).map RiskFactor.text

end RiskProfile

/-- Adds the factor for a cycle to the risk of a node, unless it is there already. -/
def Node.penalizeCycle (policy : RiskPolicy) (node : Node) : Node :=
  let detail := node.risk.getD {}
  if detail.factors.contains RiskFactor.inCycle.text then node
  else
    let score := detail.score + policy.cycleWeight
    let level := (policy.level score).name
    { node with
      risk := some { level, score, factors := detail.factors ++ [RiskFactor.inCycle.text] }
      riskLevel := level }

end RepoAtlas
