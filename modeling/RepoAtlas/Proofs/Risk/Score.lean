import RepoAtlas.Risk.Score

/-!
# A cycle found late scores as one known from the start

Scoring a file without its cycle and adding the factor for the cycle later gives the same score, the
same level and the same factors, in another order, as scoring it once with all that is known. The
factor is added once: what was added under one policy stays under all later ones.
-/

namespace RepoAtlas

/-- The first letter of the text of a factor. -/
def RiskFactor.initial : RiskFactor → Char
  | largeFile _ | lowCommentRatio => 'L'
  | moderatelyLargeFile _ | moderateComplexity _ | moderateFanIn _ => 'M'
  | highComplexity _ | highFanIn _ | highFanOut _ => 'H'
  | inCycle => 'P'
  | anyType => 'U'

theorem RiskFactor.head?_text (f : RiskFactor) : f.text.head? = some f.initial := by
  cases f <;> rfl

/-- No other factor has the text of the factor for cycles. -/
theorem RiskFactor.eq_inCycle_of_text {f : RiskFactor} (h : f.text = inCycle.text) :
    f = inCycle := by
  have hhead := congrArg List.head? h
  rw [head?_text, head?_text] at hhead
  cases f <;> simp [initial] at hhead ⊢

/-- Two details that differ at most in the order of their factors. -/
structure RiskDetail.Agrees (a b : RiskDetail) : Prop where
  score : a.score = b.score
  level : a.level = b.level
  factors : a.factors.Perm b.factors

theorem RiskDetail.Agrees.refl (a : RiskDetail) : a.Agrees a := ⟨rfl, rfl, .rfl⟩

namespace RiskProfile

theorem not_mem_graded {f high medium : RiskFactor} (hhigh : f ≠ high) (hmedium : f ≠ medium) :
    f ∉ graded value bound bound' high medium := by
  unfold graded
  split
  · simpa using hhigh
  · split
    · simpa using hmedium
    · simp

/-- The factor for cycles stands between factors that do not depend on it. -/
theorem factors_split (policy : RiskPolicy) (profile : RiskProfile) :
    ∃ front back, .inCycle ∉ front ++ back ∧ ∀ b,
      { profile with inCycle := b }.factors policy =
        front ++ (if b then [.inCycle] else []) ++ back := by
  let m := profile.metrics
  refine ⟨graded m.lines policy.linesHigh policy.linesMedium
        (.largeFile m.lines) (.moderatelyLargeFile m.lines) ++
      graded m.complexity policy.complexityHigh policy.complexityMedium
        (.highComplexity m.complexity) (.moderateComplexity m.complexity) ++
      (if m.commentRatio.lt policy.lowCommentRatio && m.lines > policy.lowCommentMinLines then
        [.lowCommentRatio] else []) ++
      graded profile.fanIn policy.fanInHigh policy.fanInMedium
        (.highFanIn profile.fanIn) (.moderateFanIn profile.fanIn) ++
      (if profile.fanOut > policy.fanOutHigh then [.highFanOut profile.fanOut] else []),
    if profile.usesAnyType policy then [.anyType] else [], ?_, fun b => rfl⟩
  simp [not_mem_graded]

theorem inCycle_mem_iff (policy : RiskPolicy) (profile : RiskProfile) :
    .inCycle ∈ profile.factors policy ↔ profile.inCycle = true := by
  obtain ⟨front, back, hnot, hfactors⟩ := profile.factors_split policy
  rw [show profile.factors policy = _ from hfactors profile.inCycle]
  cases profile.inCycle with
  | false => simpa using hnot
  | true => simp

theorem factors_perm (policy : RiskPolicy) (profile : RiskProfile) :
    ({ profile with inCycle := false }.factors policy ++ [.inCycle]).Perm
      ({ profile with inCycle := true }.factors policy) := by
  obtain ⟨front, back, -, hfactors⟩ := profile.factors_split policy
  simp only [hfactors, if_true, Bool.false_eq_true, if_false, List.append_nil, List.append_assoc]
  exact List.perm_append_comm.append_left front

theorem score_inCycle (policy : RiskPolicy) (profile : RiskProfile) :
    { profile with inCycle := true }.score policy =
      { profile with inCycle := false }.score policy + policy.cycleWeight := by
  have hperm := (profile.factors_perm policy).map (·.weight policy)
  have hsum : ∀ weights : List Int, (weights ++ [policy.cycleWeight]).foldr (· + ·) 0 =
      weights.foldr (· + ·) 0 + policy.cycleWeight := by
    intro weights
    induction weights with
    | nil => simp
    | cons w weights ih => simp only [List.cons_append, List.foldr_cons, ih]; omega
  rw [List.map_append] at hperm
  rw [score, score, ← hsum]
  exact (hperm.foldr_eq' (by intros; omega) 0).symm

end RiskProfile

-- -------------------------------------
-- The factor is added once
-- -------------------------------------

namespace Node

variable {node : Node} {policy : RiskPolicy}

/-- The risk that a factor is added to; a node without one has a score of zero and no factors. -/
def riskSoFar (node : Node) : RiskDetail := node.risk.getD {}

theorem penalizeCycle_of_mem (h : RiskFactor.inCycle.text ∈ node.riskSoFar.factors) :
    node.penalizeCycle policy = node := by
  unfold penalizeCycle
  exact if_pos (List.contains_iff_mem.mpr h)

/-- A node without the factor is given it, and nothing but its risk changes. -/
theorem penalizeCycle_of_not_mem (policy : RiskPolicy)
    (h : RiskFactor.inCycle.text ∉ node.riskSoFar.factors) :
    ∃ detail, node.penalizeCycle policy =
        { node with risk := some detail, riskLevel := detail.level } ∧
      detail.score = node.riskSoFar.score + policy.cycleWeight ∧
      detail.factors = node.riskSoFar.factors ++ [RiskFactor.inCycle.text] ∧
      detail.level = (policy.level detail.score).name := by
  refine ⟨⟨(policy.level (node.riskSoFar.score + policy.cycleWeight)).name,
    node.riskSoFar.score + policy.cycleWeight,
    node.riskSoFar.factors ++ [RiskFactor.inCycle.text]⟩, ?_, rfl, rfl, rfl⟩
  unfold penalizeCycle
  exact if_neg fun hmem => h (List.contains_iff_mem.mp hmem)

theorem inCycle_mem_penalizeCycle (policy : RiskPolicy) (node : Node) :
    RiskFactor.inCycle.text ∈ (node.penalizeCycle policy).riskSoFar.factors := by
  by_cases h : RiskFactor.inCycle.text ∈ node.riskSoFar.factors
  · rwa [penalizeCycle_of_mem h]
  · obtain ⟨detail, heq, -, hfactors, -⟩ := penalizeCycle_of_not_mem policy h
    rw [heq, riskSoFar, Option.getD_some, hfactors]
    exact List.mem_append_right _ (List.mem_singleton_self _)

/-- Once the factor is there, no policy changes the node. -/
theorem foldl_penalizeCycle_of_mem (h : RiskFactor.inCycle.text ∈ node.riskSoFar.factors)
    (policies : List RiskPolicy) :
    policies.foldl (fun node policy => node.penalizeCycle policy) node = node := by
  induction policies with
  | nil => rfl
  | cons policy policies ih => rw [List.foldl_cons, penalizeCycle_of_mem h, ih]

/-- Under a series of policies a node is penalized by the first one only. If it had the factor for
cycles it stays as it is; otherwise its score grows by the weight of the first policy, the factor is
put at the end of the others, where it is the only one of its kind, and both levels are those of the
new score. -/
theorem penalizeCycle_once (policy : RiskPolicy) (later : List RiskPolicy) (node : Node) :
    (policy :: later).foldl (fun node policy => node.penalizeCycle policy) node =
      node.penalizeCycle policy ∧
    (RiskFactor.inCycle.text ∈ node.riskSoFar.factors → node.penalizeCycle policy = node) ∧
    (RiskFactor.inCycle.text ∉ node.riskSoFar.factors → ∃ detail,
      node.penalizeCycle policy = { node with risk := some detail, riskLevel := detail.level } ∧
      detail.score = node.riskSoFar.score + policy.cycleWeight ∧
      detail.factors = node.riskSoFar.factors ++ [RiskFactor.inCycle.text] ∧
      detail.factors.count RiskFactor.inCycle.text = 1 ∧
      detail.level = (policy.level detail.score).name) := by
  refine ⟨?_, penalizeCycle_of_mem, fun h => ?_⟩
  · rw [List.foldl_cons]
    exact foldl_penalizeCycle_of_mem (inCycle_mem_penalizeCycle policy node) later
  · obtain ⟨detail, heq, hscore, hfactors, hlevel⟩ := penalizeCycle_of_not_mem policy h
    refine ⟨detail, heq, hscore, hfactors, ?_, hlevel⟩
    rw [hfactors, List.count_append, List.count_eq_zero.mpr h, List.count_singleton_self]

end Node

/-- The factor for a cycle, added to a score without it. -/
theorem Node.penalizeCycle_agrees {node : Node} {policy : RiskPolicy} {profile : RiskProfile}
    (hrisk : node.risk = some ({ profile with inCycle := false }.detail policy)) :
    ∃ detail, (node.penalizeCycle policy).risk = some detail ∧
      detail.Agrees ({ profile with inCycle := true }.detail policy) ∧
      (node.penalizeCycle policy).riskLevel = detail.level := by
  have hnew : RiskFactor.inCycle.text ∉ node.riskSoFar.factors := by
    rw [riskSoFar, hrisk]
    intro hmem
    obtain ⟨f, hf, htext⟩ := List.mem_map.mp hmem
    rw [RiskFactor.eq_inCycle_of_text htext, RiskProfile.inCycle_mem_iff] at hf
    cases hf
  have hfactors := (profile.factors_perm policy).map RiskFactor.text
  rw [List.map_append] at hfactors
  obtain ⟨detail, heq, hscore, hadded, hlevel⟩ := penalizeCycle_of_not_mem policy hnew
  have hsum : detail.score = ({ profile with inCycle := true }.detail policy).score := by
    rw [hscore, riskSoFar, hrisk]
    exact (profile.score_inCycle policy).symm
  refine ⟨detail, by rw [heq], ⟨hsum, ?_, ?_⟩, by rw [heq]⟩
  · rw [hlevel, hsum]
    rfl
  · rw [hadded, riskSoFar, hrisk]
    exact hfactors

end RepoAtlas
