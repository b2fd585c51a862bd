import Mathlib.Data.List.Basic
import RepoAtlas.Proofs.Manifest.Requirements

/-!
# One list of requirements in four manifests

A list of requirements may stand in a requirements file, in the table of a project, in a call of the
setup function or in the settings of a project. `Python.readers_agree`: wherever it stands, the same
frameworks are found, with the same versions.
-/

namespace RepoAtlas.Manifest.Python

open Document
open Script (Tree)

/-- A requirement that every manifest can hold: on one line, with no comment and no option. -/
structure Plain (requirement : Text) : Prop where
  unbroken : requirement.Unbroken
  uncommented : ¬[' ', '#'] <:+: requirement
  no_hash : (Text.trim requirement).head? ≠ some '#'
  no_dash : (Text.trim requirement).head? ≠ some '-'

instance (requirement : Text) : Decidable (Plain requirement) :=
  decidable_of_iff (requirement.Unbroken ∧ ¬Text.occursIn [' ', '#'] requirement = true ∧
    (Text.trim requirement).head? ≠ some '#' ∧ (Text.trim requirement).head? ≠ some '-')
    ⟨fun ⟨h₁, h₂, h₃, h₄⟩ => ⟨h₁, mt Text.occursIn_iff.mpr h₂, h₃, h₄⟩,
      fun ⟨h₁, h₂, h₃, h₄⟩ => ⟨h₁, mt Text.occursIn_iff.mp h₂, h₃, h₄⟩⟩

/-- A document with requirements in the table of its project and nowhere else. -/
inductive DocumentRequires (content : Text) (required : List Text) : Prop where
  | intro {t project tool poetry : Table} (hparse : Toml.parse content = .ok t)
      (hproject : t.get? "project" = some (.table project))
      (hrequired : project.get? "dependencies" = some (.list (required.map .text)))
      (hextras : project.get? "optional-dependencies" = none)
      (htool : subtable t "tool" = .ok tool) (hpoetry : subtable tool "poetry" = .ok poetry)
      (hnone : poetry.get? "dependencies" = none ∧ poetry.get? "dev-dependencies" = none ∧
        poetry.get? "group" = none)

/-- Values that are all texts. -/
def onlyTexts? : List Value → Option (List Text)
  | [] => some []
  | .text t :: rest => (onlyTexts? rest).map (t :: ·)
  | _ => none

/-- Looks for the requirements of a document of this kind. -/
def documentRequirements? (content : Text) : Option (List Text) :=
  match Toml.parse content with
  | .error _ => none
  | .ok t => match t.get? "project", subtable t "tool" with
    | some (.table project), .ok tool => match subtable tool "poetry" with
      | .error _ => none
      | .ok poetry =>
        if (project.lookup "optional-dependencies".toList).isNone &&
            (poetry.get? "dependencies").isNone && (poetry.get? "dev-dependencies").isNone &&
            (poetry.get? "group").isNone then
          match project.lookup "dependencies".toList with
          | some (.list items) => onlyTexts? items
          | _ => none
        else none
    | _, _ => none

/-- Whether a node of a script calls the setup function. -/
def callsSetup : Tree → Bool
  | .call callee _ _ => callee.calleeName? == some "setup".toList ||
    callee.calleeName? == some "setuptools.setup".toList
  | _ => false

/-- A script with one call of the setup function, which is given a list of requirements. -/
inductive ScriptRequires (content : Text) (required : List Text) : Prop where
  | intro {tree callee value : Tree} {args keywords items : List Tree}
      (hparse : Script.parse content = .ok tree)
      (hcall : tree.walk.filter callsSetup = [.call callee args keywords])
      (hargument : Tree.argument? "install_requires" keywords = some value)
      (hlist : value.ungroup = .list items) (hitems : items.map Tree.ungroup = required.map .text)

/-- The lines that are not blank, without the white space around them. -/
def solid (lines : List Text) : List Text := (lines.map Text.trim).filter (!·.isEmpty)

/-- Settings with requirements on the lines of an option. -/
inductive ConfigRequires (content : Text) (required : List Text) : Prop where
  | intro {settings : Ini.Settings} {value : Text} (hparse : Ini.parse? content = some settings)
      (hvalue : settings.get? "options" "install_requires" = .ok (some value))
      (hlines : solid (Text.lines value) = solid required)

-- -------------------------------------
-- Documents and scripts
-- -------------------------------------

theorem onlyTexts?_eq_some {vs : List Value} {ts : List Text} (h : onlyTexts? vs = some ts) :
    vs = ts.map .text := by
  fun_induction onlyTexts? vs generalizing ts with
  | case1 =>
    cases h
    rfl
  | case2 t rest ih =>
    obtain ⟨ts, hrest, rfl⟩ := Option.map_eq_some_iff.mp h
    rw [ih hrest, List.map_cons]
  | case3 => cases h

theorem documentRequires_of_eq_some {content : Text} {required : List Text}
    (h : documentRequirements? content = some required) : DocumentRequires content required := by
  unfold documentRequirements? at h
  split at h
  · cases h
  rename_i t hparse
  split at h
  · rename_i project tool hproject htool
    split at h
    · cases h
    · rename_i poetry hpoetry
      split at h
      · rename_i hnone
        simp only [Bool.and_eq_true, Option.isNone_iff_eq_none] at hnone
        split at h
        · rename_i items hitems
          obtain rfl := onlyTexts?_eq_some h
          exact .intro hparse hproject hitems hnone.1.1.1 htool hpoetry
            ⟨hnone.1.1.2, hnone.1.2, hnone.2⟩
        · cases h
      · cases h
  · cases h

theorem texts_map_text (ts : List Text) : texts (ts.map .text) = ts := by
  induction ts with
  | nil => rfl
  | cons t ts ih => exact congrArg (t :: ·) ih

theorem DocumentRequires.pyproject {content : Text} {required : List Text}
    (h : DocumentRequires content required) :
    pyproject content = recordKnown (.ofRequirements required) := by
  obtain @⟨t, project, tool, poetry, hparse, hproject, hrequired, hextras, htool, hpoetry, hnone⟩ := h
  have hlines : projectLines t = .ok required := by
    have hsub : subtable t "project" = .ok project := by rw [subtable, hproject]; rfl
    have hitems : itemsAt project "dependencies" = .ok (required.map .text) := by
      rw [itemsAt, hrequired]; rfl
    have hextra : subtable project "optional-dependencies" = .ok [] := by rw [subtable, hextras]
    simp only [projectLines, hsub, hitems, hextra, bind, Except.bind, texts_map_text]
    exact congrArg Except.ok (List.append_nil required)
  have htables : poetryTables t = .ok [[], []] := by
    have hgroups : subtable poetry "group" = .ok [] := by rw [subtable, hnone.2.2]
    simp only [poetryTables, htool, hpoetry, hgroups, hnone, bind, Except.bind]
    rfl
  have ht : Package.tomlTable content = .ok (some t) := by rw [Package.tomlTable, hparse]; rfl
  simpa [Manifest.reader, Dependencies.putAll] using (Names.pyproject ht hlines htables).reader

theorem setupLines_of_callsSetup {callee : Tree} {args keywords : List Tree}
    (h : callsSetup (.call callee args keywords) = true) :
    setupLines (.call callee args keywords) =
      ((Tree.argument? "install_requires" keywords).map Tree.strings).getD [] := by
  cases hname : callee.calleeName? with
  | none => simp [callsSetup, hname] at h
  | some name =>
    have hsetup : (name == "setup".toList || name == "setuptools.setup".toList) = true := by
      simpa only [callsSetup, hname, Option.some_beq_some] using h
    simp only [setupLines, hname, hsetup, if_true]
    cases Tree.argument? "install_requires" keywords <;> rfl

theorem setupLines_of_not_callsSetup {tree : Tree} (h : callsSetup tree = false) :
    setupLines tree = [] := by
  cases tree with
  | call callee args keywords =>
    cases hname : callee.calleeName? with
    | none => simp only [setupLines, hname]
    | some name =>
      have hsetup : (name == "setup".toList || name == "setuptools.setup".toList) = false := by
        simpa only [callsSetup, hname, Option.some_beq_some] using h
      simp only [setupLines, hname, hsetup]
      rfl
  | _ => rfl

theorem flatMap_setupLines (trees : List Tree) :
    trees.flatMap setupLines = (trees.filter callsSetup).flatMap setupLines := by
  induction trees with
  | nil => rfl
  | cons tree trees ih =>
    cases htree : callsSetup tree with
    | true => rw [List.filter_cons_of_pos htree, List.flatMap_cons, List.flatMap_cons, ih]
    | false =>
      rw [List.filter_cons_of_neg (by simp [htree]), List.flatMap_cons,
        setupLines_of_not_callsSetup htree, List.nil_append, ih]

theorem strings_of_list {value : Tree} {items : List Tree} {required : List Text}
    (hlist : value.ungroup = .list items) (hitems : items.map Tree.ungroup = required.map .text) :
    value.strings = required := by
  simp only [Tree.strings, hlist]
  clear hlist
  induction items generalizing required with
  | nil => cases required <;> simp_all
  | cons item items ih =>
    cases required with
    | nil => cases hitems
    | cons r required =>
      obtain ⟨hitem, hitems⟩ := List.cons.inj hitems
      rw [List.filterMap_cons]
      simp only [hitem, ih hitems]

theorem ScriptRequires.setupScript {content : Text} {required : List Text}
    (h : ScriptRequires content required) :
    setupScript content = recordKnown (.ofRequirements required) := by
  obtain @⟨tree, callee, value, args, keywords, items, hparse, hcall, hargument, hlist, hitems⟩ := h
  have hcalls : callsSetup (.call callee args keywords) = true := by
    have hmem : Tree.call callee args keywords ∈ tree.walk.filter callsSetup := by simp [hcall]
    exact (List.mem_filter.mp hmem).2
  have hlines : tree.walk.flatMap setupLines = required := by
    rw [flatMap_setupLines, hcall, List.flatMap_singleton, setupLines_of_callsSetup hcalls,
      hargument, Option.map_some, Option.getD_some, strings_of_list hlist hitems]
  simpa [Manifest.reader, hlines] using (Names.setupScript hparse).reader

-- -------------------------------------
-- Lines
-- -------------------------------------

theorem named?_trim (line : Text) : named? (Text.trim line) = named? line := by
  rw [named?, named?, Requirement.parse_trim]

theorem named?_of_blank {line : Text} (h : Text.trim line = []) : named? line = none := by
  rw [← named?_trim, h]
  rfl

theorem ofRequirements_solid (lines : List Text) :
    Dependencies.ofRequirements (solid lines) = .ofRequirements lines := by
  have hnamed : (solid lines).filterMap named? = lines.filterMap named? := by
    rw [solid, List.filterMap_filter, List.filterMap_map]
    refine List.filterMap_congr fun line _ => ?_
    by_cases hblank : Text.trim line = []
    · simp [hblank, named?_of_blank hblank]
    · simp [hblank, named?_trim]
  rw [ofRequirements_eq, hnamed, ofRequirements_eq]

variable {required : List Text}

theorem valueLines_eq_solid {value : Text} (hlines : solid (Text.lines value) = solid required)
    (hplain : ∀ requirement ∈ required, Plain requirement) : valueLines value = solid required := by
  have hvalue : valueLines value = (solid (Text.lines value)).filter (!Text.startsWith "#" ·) := by
    simp [valueLines, solid, List.filter_filter, Bool.and_comm]
  rw [hvalue, hlines, List.filter_eq_self]
  intro line hline
  obtain ⟨requirement, hrequirement, rfl⟩ := List.mem_map.mp (List.mem_of_mem_filter hline)
  rw [Bool.not_eq_true', ← Bool.not_eq_true, Text.startsWith_iff]
  rintro ⟨rest, hrest⟩
  exact (hplain requirement hrequirement).no_hash (by rw [← hrest]; rfl)

theorem Plain.asksFor? {requirement : Text} (h : Plain requirement) :
    asksFor? requirement = named? requirement := by
  obtain ⟨-, hcomment, hhash, hdash⟩ := h
  rw [Python.asksFor?, requirementLine?]
  cases htrim : Text.trim requirement with
  | nil => exact (named?_of_blank htrim).symm
  | cons c rest =>
    rw [htrim] at hhash hdash
    have hc : (c == '#' || c == '-') = false := by simpa using And.intro hhash hdash
    have hcut : Text.upTo [' ', '#'] (c :: rest) = c :: rest := by
      rw [← htrim]
      exact Text.upTo_of_absent fun hpart => hcomment (hpart.trans (Text.trim_infix _))
    simp only [hc, commentMark_eq, hcut, Bool.false_eq_true, if_false, Option.bind_some]
    rw [← htrim, Text.trim_trim, named?_trim]

theorem packagesIn_intercalate (h : ∀ requirement ∈ required, requirement.Unbroken) :
    packagesIn (Text.lines (['\n'].intercalate required)) = packagesIn required := by
  rcases List.eq_nil_or_concat required with rfl | ⟨front, last, rfl⟩
  · rfl
  · rw [List.concat_eq_append] at h ⊢
    rw [Text.lines_intercalate (fun line hline => h line (List.mem_append_left _ hline))
      (h last (by simp))]
    split
    · rename_i hlast
      simp only [packagesIn, hlast, List.filterMap_append]
      rfl
    · rfl

theorem requirements_intercalate (hplain : ∀ requirement ∈ required, Plain requirement) :
    requirements (['\n'].intercalate required) = recordKnown (.ofRequirements required) := by
  have hasked : required.filterMap asksFor? = required.filterMap named? :=
    List.filterMap_congr fun requirement hrequirement => (hplain requirement hrequirement).asksFor?
  rw [requirements_eq, packagesIn_intercalate fun r hr => (hplain r hr).unbroken, packagesIn,
    hasked, ofRequirements_eq]

/-- Requirements mean the same in all manifests. -/
theorem readers_agree (hplain : ∀ requirement ∈ required, Plain requirement) :
    (∀ {content}, DocumentRequires content required →
      pyproject content = requirements (['\n'].intercalate required)) ∧
    (∀ {content}, ScriptRequires content required →
      setupScript content = requirements (['\n'].intercalate required)) ∧
    ∀ {content}, ConfigRequires content required →
      setupConfig content = requirements (['\n'].intercalate required) := by
  rw [requirements_intercalate hplain]
  refine ⟨DocumentRequires.pyproject, ScriptRequires.setupScript, ?_⟩
  rintro content ⟨hparse, hvalue, hlines⟩
  have hreader := (Names.setupConfig hparse hvalue).reader
  rw [valueLines_eq_solid hlines hplain, ofRequirements_solid] at hreader
  exact hreader

theorem readers_agree_sample :
    let required := ["Flask==2;x".toList, [], " numpy".toList]
    let document :=
      "[project]\ndependencies = [\"Flask==2;x\", \"\", \" numpy\"]\n[tool.poetry]\nname='a'".toList
    let script := "setup(install_requires=['Flask==2;x', '', (' numpy')])".toList
    let config := "[options]\ninstall_requires=Flask==2;x\n\n numpy".toList
    pyproject document = requirements (['\n'].intercalate required) ∧
      setupScript script = requirements (['\n'].intercalate required) ∧
      setupConfig config = requirements (['\n'].intercalate required) := by
  intro required document script config
  have hplain : ∀ requirement ∈ required, Plain requirement := by decide +kernel
  obtain ⟨hdocument, hscript, hconfig⟩ := readers_agree hplain
  refine ⟨hdocument ?_, hscript ?_, hconfig ?_⟩
  · exact documentRequires_of_eq_some (by decide +kernel)
  · exact .intro rfl rfl rfl rfl rfl
  · exact .intro rfl rfl (by decide +kernel)

end RepoAtlas.Manifest.Python
