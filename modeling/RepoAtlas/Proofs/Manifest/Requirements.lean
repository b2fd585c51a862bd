import RepoAtlas.Proofs.Manifest.Dependencies
import RepoAtlas.Proofs.Manifest.Requirement
import RepoAtlas.Proofs.Manifest.Specifier
import RepoAtlas.Proofs.Text.Lines

/-!
# Lists of requirements

A requirements file asks for the packages that its lines name, and only for them. Comments behind a
space and lines that ask for nothing may be added anywhere (`Python.requirements_annotated`), and
lines that name different packages may stand in any order (`Python.requirements_perm`).
-/

namespace RepoAtlas

-- -------------------------------------
-- White space around texts that are cut
-- -------------------------------------

namespace Text

variable {x y : Char} {t : Text}

theorem pair_infix_of_append {behind : Text} (hbehind : y ∉ behind)
    (h : [x, y] <:+: t ++ behind) : [x, y] <:+: t := by
  induction behind generalizing t with
  | nil => rwa [List.append_nil] at h
  | cons c behind ih =>
    obtain ⟨hc, hbehind⟩ := not_or.mp (mt List.mem_cons.mpr hbehind)
    rw [List.append_cons] at h
    rcases List.infix_concat_iff.mp (ih hbehind h) with hsuffix | hinfix
    · obtain ⟨front, hfront⟩ := hsuffix
      have hlast := congrArg List.getLast? hfront
      simp [hc] at hlast
    · exact hinfix

theorem trim_upTo_append {behind : Text} (hy : isBlank y = false)
    (hbehind : ∀ c ∈ behind, isBlank c = true) :
    trim (upTo [x, y] (t ++ behind)) = trim (upTo [x, y] t) := by
  by_cases hinfix : [x, y] <:+: t
  · rw [upTo_append_of_occurs hinfix]
  · have hmem : y ∉ behind := by
      intro h
      rw [hbehind y h] at hy
      cases hy
    rw [upTo_of_absent hinfix, upTo_of_absent (mt (pair_infix_of_append hmem) hinfix),
      trim_append_blank hbehind]

theorem pair_infix_dropWhile {p : Char → Bool} (hy : p y = false) (h : [x, y] <:+: t) :
    [x, y] <:+: t.dropWhile p ∨ (t.dropWhile p).head? = some y := by
  induction t with
  | nil => simp at h
  | cons c t ih =>
    by_cases hc : p c = true
    · rw [List.dropWhile_cons_of_pos hc]
      rcases List.infix_cons_iff.mp h with ⟨rest, hstart⟩ | hlater
      · cases hstart
        right
        simp [hy]
      · exact ih hlater
    · rw [List.dropWhile_cons_of_neg hc]
      exact .inl h

/-- The part in front of a mark, of a text that is cut at a pair which has no such mark in it. -/
theorem takeWhile_upTo_pair {c : Char} (hx : c ≠ x) (hy : c ≠ y) {front : Text}
    (hfront : c ∉ front) (rest : Text) :
    (upTo [x, y] (front ++ c :: rest)).takeWhile (· != c) = upTo [x, y] front := by
  induction front with
  | nil =>
    have hstart : ¬[x, y] <+: c :: rest := by simp [Ne.symm hx]
    rw [List.nil_append, upTo_cons hstart, List.takeWhile_cons_of_neg (by simp)]
    rfl
  | cons d front ih =>
    obtain ⟨hd, hfront⟩ := not_or.mp (mt List.mem_cons.mpr hfront)
    by_cases hstart : [x, y] <+: d :: front
    · rw [upTo_of_start hstart, upTo_of_start (hstart.trans (List.prefix_append ..))]
      rfl
    · have hstart' : ¬[x, y] <+: d :: (front ++ c :: rest) := by
        intro hlong
        cases front with
        | nil => simp [Ne.symm hy] at hlong
        | cons e front => exact hstart (by simpa using hlong)
      rw [List.cons_append, upTo_cons hstart', upTo_cons hstart,
        List.takeWhile_cons_of_pos (by simpa using Ne.symm hd), ih hfront]

end Text

-- -------------------------------------
-- What a line asks for
-- -------------------------------------

namespace Manifest.Python

/-- The requirement that a text stands for, if it names a package. -/
def named? (stated : Text) : Option Requirement :=
  Option.guard (!·.name.isEmpty) (Requirement.parse stated)

theorem ofRequirements_eq (lines : List Text) : Dependencies.ofRequirements lines =
    .ofList ((lines.filterMap named?).map fun r => (r.name, r.version)) := by
  have hnamed : (lines.map Requirement.parse).filter (!·.name.isEmpty) = lines.filterMap named? := by
    rw [← List.filterMap_eq_map, ← List.filterMap_eq_filter, List.filterMap_filterMap]
    rfl
  rw [Dependencies.ofRequirements, hnamed]

/-- The requirement on a line of a requirements file. -/
def asksFor? (line : Text) : Option Requirement := (requirementLine? line).bind named?

/-- The packages that lines of a requirements file ask for. -/
def packagesIn (lines : List Text) : Dependencies :=
  (lines.filterMap asksFor?).map fun r => (r.name, r.version)

theorem requirements_eq (content : Text) :
    requirements content = recordKnown (.ofList (packagesIn (Text.lines content))) := by
  rw [requirements, ofRequirements_eq, List.filterMap_filterMap]
  rfl

section Line

variable {line : Text}

theorem commentMark_eq : " #".toList = [' ', '#'] := rfl

theorem requirementLine?_of_blank (h : line.dropWhile Text.isBlank = []) :
    requirementLine? line = none := by
  have htrim : Text.trim line = [] :=
    Text.trim_eq_nil_iff.mpr (List.dropWhile_eq_nil_iff.mp h)
  simp only [requirementLine?, htrim]

theorem requirementLine?_of_start {c : Char} {rest : Text}
    (h : line.dropWhile Text.isBlank = c :: rest) :
    requirementLine? line = if c == '#' || c == '-' then none
      else some (Text.trim (Text.upTo " #" (c :: rest))) := by
  obtain ⟨behind, hdrop, hbehind⟩ := Text.dropWhile_eq_trim_append line
  have hc : Text.isBlank c = false := by
    simpa [h] using List.head_dropWhile_not Text.isBlank (l := line) (by simp [h])
  rw [h] at hdrop
  cases htrim : Text.trim line with
  | nil =>
    rw [htrim, List.nil_append] at hdrop
    rw [hbehind c (hdrop ▸ .head _)] at hc
    cases hc
  | cons d stated =>
    rw [htrim, List.cons_append] at hdrop
    cases hdrop
    have hcut := Text.trim_upTo_append (x := ' ') (y := '#') (t := c :: stated) rfl hbehind
    rw [requirementLine?, htrim]
    simp only
    rw [← List.cons_append, commentMark_eq, hcut]

theorem dropWhile_append_of_start {c : Char} {rest : Text}
    (h : line.dropWhile Text.isBlank = c :: rest) (more : Text) :
    (line ++ more).dropWhile Text.isBlank = c :: (rest ++ more) := by
  rw [List.dropWhile_append, h]
  rfl

theorem exists_start {x : Char} (h : x ∈ line) (hx : Text.isBlank x = false) :
    ∃ c rest, line.dropWhile Text.isBlank = c :: rest ∧ x ∈ c :: rest := by
  have hmem : x ∈ line.dropWhile Text.isBlank := Text.mem_dropWhile_of_not h hx
  obtain ⟨c, rest, hline⟩ := List.exists_cons_of_ne_nil (List.ne_nil_of_mem hmem)
  exact ⟨c, rest, hline, hline ▸ hmem⟩

theorem requirementLine?_append (h : [' ', '#'] <:+: line) (more : Text) :
    requirementLine? (line ++ more) = requirementLine? line := by
  obtain ⟨c, rest, hline, -⟩ := exists_start (x := '#') (h.subset (by decide)) rfl
  rw [requirementLine?_of_start hline,
    requirementLine?_of_start (dropWhile_append_of_start hline more)]
  split
  · rfl
  · rename_i hc
    have hinfix : [' ', '#'] <:+: c :: rest := by
      rw [← hline]
      refine (Text.pair_infix_dropWhile rfl h).resolve_right fun hhead => hc ?_
      rw [hline] at hhead
      cases hhead
      rfl
    rw [← List.cons_append, commentMark_eq,
      Text.upTo_append_of_occurs hinfix]

/-- A comment starts at a hash behind a space. -/
theorem requirementLine?_comment (line text : Text) :
    requirementLine? (line ++ ' ' :: '#' :: text) = requirementLine? line := by
  cases hline : line.dropWhile Text.isBlank with
  | nil =>
    have hlonger : (line ++ ' ' :: '#' :: text).dropWhile Text.isBlank = '#' :: text := by
      rw [List.dropWhile_append, hline]
      rfl
    rw [requirementLine?_of_blank hline, requirementLine?_of_start hlonger]
    rfl
  | cons c rest =>
    have hne : ' ' = '#' → (c :: rest).getLast? ≠ some ' ' := fun h => absurd h (by decide)
    have hcut := Text.upTo_append_pair hne text
    rw [requirementLine?_of_start hline,
      requirementLine?_of_start (dropWhile_append_of_start hline _), ← List.cons_append,
      commentMark_eq, hcut]

theorem asksFor?_append (h : ';' ∈ line) (more : Text) :
    asksFor? (line ++ more) = asksFor? line := by
  obtain ⟨c, rest, hline, hmem⟩ := exists_start h rfl
  rw [asksFor?, asksFor?, requirementLine?_of_start hline,
    requirementLine?_of_start (dropWhile_append_of_start hline more)]
  split
  · rfl
  · obtain ⟨marker, hmarker⟩ := Text.takeWhile_bne_append hmem
    have hfront := Text.not_mem_takeWhile_bne ';' (c :: rest)
    have hparse : ∀ more : Text,
        Text.trim ((Text.upTo [' ', '#'] (c :: (rest ++ more))).takeWhile (· != ';')) =
          Text.trim (Text.upTo [' ', '#'] ((c :: rest).takeWhile (· != ';'))) := by
      intro more
      rw [← List.cons_append, hmarker, List.append_assoc, List.cons_append,
        Text.takeWhile_upTo_pair (by decide) (by decide) hfront, ← hmarker]
    have hself := hparse []
    rw [List.append_nil] at hself
    have hsame := Requirement.parse_congr ((hparse more).trans hself.symm)
    rw [Option.bind_some, Option.bind_some, named?, named?, Requirement.parse_trim,
      Requirement.parse_trim, commentMark_eq, hsame]

/-- A line that is blank, a comment or an option. -/
def AsksNothing (line : Text) : Prop :=
  (Text.trim line).head? = none ∨ (Text.trim line).head? = some '#' ∨
    (Text.trim line).head? = some '-'

instance (line : Text) : Decidable (AsksNothing line) := inferInstanceAs (Decidable (_ ∨ _ ∨ _))

theorem AsksNothing.asksFor? (h : AsksNothing line) : asksFor? line = none := by
  have hline : requirementLine? line = none := by
    unfold requirementLine?
    cases htrim : Text.trim line with
    | nil => rfl
    | cons c rest =>
      rw [AsksNothing, htrim] at h
      rcases h with h | h | h <;> cases h <;> rfl
  rw [Python.asksFor?, hline]
  rfl

theorem asksFor?_comment {gap : Char} (h : gap = ' ' ∨ [' ', '#'] <:+: line ∨ ';' ∈ line)
    (text : Text) : asksFor? (line ++ gap :: '#' :: text) = asksFor? line := by
  rcases h with rfl | hcomment | hmarker
  · rw [asksFor?, asksFor?, requirementLine?_comment]
  · rw [asksFor?, asksFor?, requirementLine?_append hcomment]
  · exact asksFor?_append hmarker _

end Line

-- -------------------------------------
-- Comments
-- -------------------------------------

/-- Lines with comments behind some of them, and with lines between them that ask for nothing. A
comment stands behind a space, or where nothing is read any more: behind another comment or an
environment marker. -/
inductive Annotated : List Text → List Text → Prop where
  | nil : Annotated [] []
  | keep (line : Text) : Annotated lines annotated → Annotated (line :: lines) (line :: annotated)
  | insert (hline : AsksNothing line) :
      Annotated lines annotated → Annotated lines (line :: annotated)
  | comment (hgap : gap = ' ' ∨ [' ', '#'] <:+: line ∨ ';' ∈ line) (text : Text) :
      Annotated lines annotated →
        Annotated (line :: lines) ((line ++ gap :: '#' :: text) :: annotated)

theorem Annotated.packagesIn {lines annotated : List Text} (h : Annotated lines annotated) :
    packagesIn annotated = packagesIn lines := by
  unfold Python.packagesIn
  congr 1
  induction h with
  | nil => rfl
  | keep line _ ih => rw [List.filterMap_cons, List.filterMap_cons, ih]
  | insert hline _ ih => rw [List.filterMap_cons_none hline.asksFor?, ih]
  | comment hgap text _ ih => rw [List.filterMap_cons, List.filterMap_cons, asksFor?_comment hgap, ih]

/-- Comments behind a space and lines that ask for nothing do not matter: a requirements file with
them is read as the one without. -/
theorem requirements_annotated {content annotated : Text}
    (h : Annotated (Text.lines content) (Text.lines annotated)) :
    requirements annotated = requirements content := by
  rw [requirements_eq, requirements_eq, h.packagesIn]

theorem requirements_annotated_sample :
    let content := "Flask == 2.0\r\ndjango>=4; extra".toList
    let annotated := "# web\nFlask == 2.0 # see #12; was 1\n\n  -r base\ndjango>=4; extra\t# old\n".toList
    requirements annotated = requirements content ∧
      ((requirements annotated).run.run []).2 =
        [("Django".toList, "4".toList), ("Flask".toList, "2.0".toList)] := by
  intro content annotated
  have hplain : Text.lines content = ["Flask == 2.0".toList, "django>=4; extra".toList] := by
    decide +kernel
  have hannotated : Text.lines annotated =
      ["# web".toList, "Flask == 2.0".toList ++ ' ' :: '#' :: " see #12; was 1".toList, [],
        "  -r base".toList, "django>=4; extra".toList ++ '\t' :: '#' :: " old".toList] := by
    decide +kernel
  refine ⟨requirements_annotated ?_, by decide +kernel⟩
  rw [hplain, hannotated]
  exact .insert (by decide) <| .comment (.inl rfl) _ <| .insert (by decide) <|
    .insert (by decide) <| .comment (.inr (.inr (by decide))) _ .nil

/-- Behind a tab, a comment goes on record as a part of the version. -/
theorem requirements_tab_comment :
    ((requirements "flask==2.0\t# pinned\n").run.run []).2 =
        [("Flask".toList, "2.0\t# pinned".toList)] ∧
      ((requirements "flask==2.0\n").run.run []).2 = [("Flask".toList, "2.0".toList)] := by
  decide +kernel

-- -------------------------------------
-- Order
-- -------------------------------------

theorem mem_packagesIn_iff {lines : List Text} {name version : Text} :
    (name, version) ∈ packagesIn lines ↔ ∃ line ∈ lines, asksFor? line = some ⟨name, version⟩ := by
  rw [packagesIn, List.mem_map]
  constructor
  · rintro ⟨r, hr, hpair⟩
    cases hpair
    exact List.mem_filterMap.mp hr
  · intro h
    exact ⟨⟨name, version⟩, List.mem_filterMap.mpr h, rfl⟩

/-- Lines that name different packages may stand in any order. The frameworks are those that one of
the lines asks for, in the order of the known packages. -/
theorem requirements_perm {content reordered : Text}
    (hperm : (Text.lines content).Perm (Text.lines reordered))
    (hnames : ((packagesIn (Text.lines content)).map
      fun entry => Requirement.normalName entry.1).Nodup) :
    requirements reordered = requirements content ∧
    ∀ versions, ∃ frameworks, ((requirements content).run.run versions).1 = .ok frameworks ∧
      frameworks.Sublist (Framework.python.map (·.2)) ∧ frameworks.Nodup ∧
      ∀ framework, framework ∈ frameworks ↔
        ∃ package, (package, framework) ∈ Framework.python ∧
          ∃ line ∈ Text.lines content, ∃ r, asksFor? line = some r ∧
            Requirement.normalName r.name = Requirement.normalName package := by
  have hpackages : (packagesIn (Text.lines content)).Perm (packagesIn (Text.lines reordered)) :=
    (hperm.filterMap asksFor?).map _
  have hreordered := ((hpackages.map _).nodup_iff).mp hnames
  rw [requirements_eq, requirements_eq, Dependencies.ofList_of_nodup hnames,
    Dependencies.ofList_of_nodup hreordered, recordKnown, recordKnown,
    Dependencies.findings_perm hpackages hnames]
  refine ⟨rfl, fun versions => ⟨_, rfl, Dependencies.frameworks_findings_sublist ..,
    Grouping.nodup_eraseDups _, fun framework => ?_⟩⟩
  rw [Dependencies.mem_frameworks_findings_iff hnames]
  refine exists_congr fun package => and_congr_right fun _ => ?_
  constructor
  · rintro ⟨version, name, hmem, hname⟩
    obtain ⟨line, hline, hasks⟩ := mem_packagesIn_iff.mp hmem
    exact ⟨line, hline, ⟨name, version⟩, hasks, hname⟩
  · rintro ⟨line, hline, r, hasks, hname⟩
    exact ⟨r.version, r.name, mem_packagesIn_iff.mpr ⟨line, hline, hasks⟩, hname⟩

/-- Three packages in two orders, of which one is not known and one is in capitals. -/
theorem requirements_perm_sample :
    let content := "flask\r\nPYTEST>=7\nsix\n# web".toList
    let reordered := "six\nPYTEST>=7\n# web\nflask\n".toList
    requirements reordered = requirements content ∧
      ((requirements reordered).run.run []).1.toOption =
        some ["Flask".toList, "pytest".toList] ∧
      ((requirements reordered).run.run []).2 = [("pytest".toList, "7".toList)] := by
  intro content reordered
  have hperm : (Text.lines content).Perm (Text.lines reordered) := by decide +kernel
  exact ⟨(requirements_perm hperm (by decide +kernel)).1, by decide +kernel⟩

end Manifest.Python

end RepoAtlas
