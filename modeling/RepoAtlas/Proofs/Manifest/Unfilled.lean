import RepoAtlas.Proofs.Manifest.Dependencies
import RepoAtlas.Proofs.Manifest.History
import RepoAtlas.Proofs.Pattern.Captured
import RepoAtlas.Proofs.Text.Blank

/-!
# Versions that are left empty

A version is recorded without the marks in front of it. Where a manifest has nothing but marks in
the place of a version, an empty one may be recorded, and it keeps later manifests from giving the
framework a version. Manifests that ask for packages by name never leave an empty version.
`Manifest.filled_iff` says of all others when they do.
-/

namespace RepoAtlas

-- -------------------------------------
-- Marks
-- -------------------------------------

namespace Version

/-- Nothing but marks, and so no version. -/
def OnlyMarks (t : Text) : Prop := ∀ c ∈ t, isRangeMark c = true

theorem isRangeMark_of_isBlank {c : Char} (h : Text.isBlank c = true) : isRangeMark c = true := by
  simp [isRangeMark, h]

theorem clean_eq_nil_iff {t : Text} : clean t = [] ↔ OnlyMarks t := by
  rw [clean, Text.trim_eq_nil_iff]
  constructor
  · intro h c hc
    by_contra hmark
    rw [Bool.not_eq_true] at hmark
    have hblank : Text.isBlank c = false := by
      cases hblank : Text.isBlank c with
      | false => rfl
      | true => rw [isRangeMark_of_isBlank hblank] at hmark; cases hmark
    rw [h c (Text.mem_dropWhile_of_not (Text.mem_trim_of_not_isBlank hc hblank) hmark)] at hblank
    cases hblank
  · intro h c hc
    have hall : (Text.trim t).dropWhile isRangeMark = [] :=
      List.dropWhile_eq_nil_iff.mpr fun c hc => h c (Text.mem_of_mem_trim hc)
    rw [hall] at hc
    cases hc

theorem mark_cases {c : Char} (h : isRangeMark c = true) :
    c = '^' ∨ c = '~' ∨ c = '>' ∨ c = '<' ∨ c = '=' ∨ c = '!' ∨ c = 'v' ∨
      Text.isBlank c = true := by
  simpa [isRangeMark, or_assoc] using h

theorem not_isDecimal_of_mark {c : Char} (h : isRangeMark c = true) : Text.isDecimal c = false := by
  rcases mark_cases h with rfl | rfl | rfl | rfl | rfl | rfl | rfl | hblank
  all_goals first | rfl | exact Text.not_isDecimal_of_isBlank hblank

/-- A letter or a digit is no mark, except for one. -/
theorem eq_v_of_mark {extra : Text} {c : Char} (hmark : isRangeMark c = true)
    (hword : Pattern.wordOr extra c = true) (hextra : extra.all (!isRangeMark ·) = true) :
    c = 'v' := by
  by_contra hv
  have hnot : c ∉ extra := by
    intro hmem
    have hplain := List.all_eq_true.mp hextra c hmem
    rw [hmark] at hplain
    cases hplain
  have hletter : Text.isWord c = true := by simpa [Pattern.wordOr, hnot] using hword
  rcases mark_cases hmark with rfl | rfl | rfl | rfl | rfl | rfl | rfl | hblank
  case inr.inr.inr.inr.inr.inr.inl => exact hv rfl
  case inr.inr.inr.inr.inr.inr.inr =>
    rw [Text.not_isWord_of_isBlank hblank] at hletter
    cases hletter
  all_goals cases hletter

end Version

-- -------------------------------------
-- Records without empty versions
-- -------------------------------------

namespace Versions

/-- No recorded version is empty. -/
def Filled (versions : Versions) : Prop := ∀ entry ∈ versions, entry.2 ≠ []

instance (versions : Versions) : Decidable versions.Filled :=
  inferInstanceAs (Decidable (∀ entry ∈ versions, entry.2 ≠ []))

variable {versions : Versions} {found : List Finding} {framework : Text}

theorem Filled.get?_ne (h : versions.Filled) (framework : Text) :
    versions.get? framework ≠ some [] :=
  fun hget => h _ (Text.mem_of_lookup hget) rfl

theorem mem_noteAll {entry : Text × Text} (h : entry ∈ versions.noteAll found) :
    entry ∈ versions ∨ (versions.noteAll found).get? entry.1 = some entry.2 := by
  unfold noteAll at h ⊢
  induction found generalizing versions with
  | nil => exact .inl h
  | cons finding found ih =>
    rw [List.foldl_cons] at h ⊢
    refine (ih h).elim (fun hmem => ?_) .inr
    unfold note at hmem
    split at hmem
    · rename_i version hversion hnone
      rcases List.mem_append.mp hmem with hmem | hmem
      · exact .inl hmem
      · obtain rfl := List.mem_singleton.mp hmem
        right
        have hnoted : (versions.note finding).get? finding.framework = some version := by
          rw [get?_note, hnone, Finding.versionOf, if_pos rfl, hversion, Option.none_or]
        have hkept := get?_noteAll (versions.note finding) found finding.framework
        rw [hnoted, Option.some_or] at hkept
        exact hkept
    · exact .inl hmem

theorem filled_noteAll_iff (h : versions.Filled) : (versions.noteAll found).Filled ↔
    ∀ framework, (versions.noteAll found).get? framework ≠ some [] := by
  refine ⟨Filled.get?_ne, fun hget entry hentry hempty => ?_⟩
  rcases mem_noteAll hentry with hold | hnew
  · exact h entry hold hempty
  · rw [hempty] at hnew
    exact hget entry.1 hnew

theorem get?_noteAll_eq_empty_iff (h : versions.Filled) :
    (versions.noteAll found).get? framework = some [] ↔
      versions.get? framework = none ∧ found.findSome? (·.versionOf framework) = some [] := by
  have hold := h.get?_ne framework
  rw [get?_noteAll]
  cases hget : versions.get? framework with
  | none => simp
  | some version =>
    rw [hget] at hold
    simpa using hold

end Versions

-- -------------------------------------
-- Readers that look for known packages
-- -------------------------------------

/-- A reader that leaves no version empty. -/
def Recording.KeepsFilled (r : Recording (List Text)) : Prop :=
  ∀ before : Versions, before.Filled → (r.run.run before).2.Filled

namespace Recording

theorem keepsFilled_record {found : List Finding} (h : ∀ finding ∈ found, finding.version ≠ some []) :
    KeepsFilled (record found) := by
  intro before hbefore
  refine (Versions.filled_noteAll_iff hbefore).mpr fun framework hempty => ?_
  obtain ⟨-, hfound⟩ := (Versions.get?_noteAll_eq_empty_iff hbefore).mp hempty
  obtain ⟨finding, hfinding, hof⟩ := List.exists_of_findSome?_eq_some hfound
  unfold Finding.versionOf at hof
  split at hof
  · exact h finding hfinding hof
  · cases hof

theorem keepsFilled_nothing : KeepsFilled (pure []) := fun _ h => h

theorem keepsFilled_throw (e : ManifestError) : KeepsFilled (throw e) := fun _ h => h

theorem keepsFilled_bind (x : Except ManifestError α) {next : α → Recording (List Text)}
    (hnext : ∀ a, KeepsFilled (next a)) : KeepsFilled (liftM x >>= next) := by
  cases x with
  | error e => exact keepsFilled_throw e
  | ok a => exact hnext a

theorem keepsFilled_findings (deps : Dependencies) (known : KnownPackages) (normal : Text → Text) :
    KeepsFilled (record (deps.findings known normal)) := by
  refine keepsFilled_record fun finding hfinding => ?_
  obtain ⟨entry, -, hentry⟩ := List.mem_filterMap.mp hfinding
  obtain ⟨requirement, -, rfl⟩ := Option.map_eq_some_iff.mp hentry
  simp only
  split <;> simp_all

end Recording

namespace Manifest

open Recording

/-- The kinds of manifests whose frameworks are known by the packages that they ask for. -/
def asksForPackages : Manifest → Bool
  | packageJson | requirements | pyproject | pipfile | setupScript | setupConfig | cargo | gemfile
  | composer | pubspec | csproj | vcpkg => true
  | goMod | pom | gradle | sbt | cmake | swiftPackage => false

theorem keepsFilled_table (x : Except ManifestError (Option Table))
    {next : Table → Recording (List Text)} (hnext : ∀ t, KeepsFilled (next t)) :
    KeepsFilled (do
      let some t ← x | return []
      next t) := by
  refine keepsFilled_bind x fun found => ?_
  cases found with
  | none => exact keepsFilled_nothing
  | some t => exact hnext t

theorem keepsFilled_setupScript (content : Text) : KeepsFilled (Python.setupScript content) := by
  unfold Python.setupScript
  split
  · exact keepsFilled_findings _ _ _
  · exact keepsFilled_nothing
  · exact keepsFilled_throw _
  · exact keepsFilled_throw _

theorem keepsFilled_setupConfig (content : Text) : KeepsFilled (Python.setupConfig content) := by
  unfold Python.setupConfig
  split
  · exact keepsFilled_nothing
  · split
    · exact keepsFilled_throw _
    · exact keepsFilled_nothing
    · exact keepsFilled_findings _ _ _

theorem keepsFilled_of_asksForPackages {kind : Manifest} (h : kind.asksForPackages = true)
    (content : Text) : KeepsFilled (kind.reader content) := by
  cases kind with
  | setupScript => exact keepsFilled_setupScript content
  | setupConfig => exact keepsFilled_setupConfig content
  | packageJson | composer | pipfile =>
    exact keepsFilled_table _ fun _ => keepsFilled_findings _ _ _
  | cargo | vcpkg =>
    exact keepsFilled_table _ fun _ => keepsFilled_bind _ fun _ => keepsFilled_findings _ _ _
  | pyproject =>
    refine keepsFilled_table _ fun _ => keepsFilled_bind _ fun _ => ?_
    exact keepsFilled_bind _ fun _ => keepsFilled_findings _ _ _
  | requirements | gemfile | pubspec | csproj => exact keepsFilled_findings _ _ _
  | goMod | pom | gradle | sbt | cmake | swiftPackage => cases h

-- -------------------------------------
-- Readers that take a version from the text
-- -------------------------------------

/-- The version that a text with markers has for a framework, as it is written there. -/
def Marked.written? (markers : KnownPackages) (patterns : List Marked.VersionPattern)
    (content framework : Text) : Option Text :=
  markers.findSome? fun entry =>
    if entry.2 = framework ∧ Text.occursIn entry.1 content = true then
      (patterns.findSome? fun pattern => (pattern entry.1).search? content).map (·.get "version")
    else none

/-- The version of the first module that belongs to a framework, as it is written. -/
def Listed.written? (content framework : Text) : Option Text :=
  ((Text.lines content).foldl Listed.ModuleLines.add {}).deps.findSome? fun entry =>
    if Framework.go.lookup (Listed.basePath entry.1) = some framework then some entry.2 else none

/-- The text in a manifest from which the version of a framework is taken, where all that is done to
it is to leave out the marks in front. -/
def written? (content framework : Text) : Manifest → Option Text
  | goMod => Listed.written? content framework
  | pom => Marked.written? Framework.jvm [Marked.mavenArtifact, Marked.mavenGroup] content framework
  | gradle => Marked.written? Framework.jvm
      [Marked.gradleModule, Marked.gradleGroup, Marked.gradlePlugin] content framework
  | sbt => Marked.written? Framework.scala [Marked.sbtModule] content framework
  | cmake => Marked.written? Framework.cmake [Marked.findPackage] content framework
  | swiftPackage => Marked.written? Framework.swift [Marked.swiftDependency] content framework
  | _ => none

theorem Marked.findSome?_marked (markers : KnownPackages) (patterns : List Marked.VersionPattern)
    (content framework : Text) :
    (Marked.marked markers patterns content).findSome? (·.versionOf framework) =
      (Marked.written? markers patterns content framework).map Version.clean := by
  unfold Marked.marked Marked.written?
  induction markers with
  | nil => rfl
  | cons entry markers ih =>
    rw [List.filterMap_cons, List.findSome?_cons]
    by_cases hoccurs : Text.occursIn entry.1 content = true
    · simp only [hoccurs, if_true, List.findSome?_cons, Finding.versionOf]
      by_cases hframework : entry.2 = framework
      · simp only [hframework, and_self, if_true]
        cases patterns.findSome? fun pattern => (pattern entry.1).search? content with
        | none => exact ih
        | some m => rfl
      · simp only [hframework, false_and, if_false]
        exact ih
    · simp only [hoccurs, Bool.false_eq_true, and_false, if_false]
      exact ih

theorem Listed.findSome?_goMod (deps : Dependencies) (framework : Text) :
    (deps.filterMap fun entry => Listed.moduleFinding? entry.1 entry.2).findSome?
        (·.versionOf framework) =
      (deps.findSome? fun entry => if Framework.go.lookup (Listed.basePath entry.1) = some framework
        then some entry.2 else none).map Version.clean := by
  induction deps with
  | nil => rfl
  | cons entry deps ih =>
    rw [List.filterMap_cons, List.findSome?_cons, Listed.moduleFinding?]
    cases hknown : Framework.go.lookup (Listed.basePath entry.1) with
    | none => simpa using ih
    | some known =>
      by_cases hframework : known = framework
      · simp [Finding.versionOf, hframework]
      · simpa [Finding.versionOf, hframework] using ih

theorem filled_record_iff {found : List Finding} {written? : Text → Option Text}
    (hfound : ∀ framework, found.findSome? (·.versionOf framework) =
      (written? framework).map Version.clean) {versions : Versions} (h : versions.Filled) :
    ((record found).run.run versions).2.Filled ↔ ∀ framework written,
      written? framework = some written → Version.OnlyMarks written →
        (versions.get? framework).isSome := by
  have hstate : ((record found).run.run versions).2 = versions.noteAll found := rfl
  rw [hstate, Versions.filled_noteAll_iff h]
  constructor
  · intro hfilled framework written hwritten hmarks
    cases hknown : versions.get? framework with
    | some version => rfl
    | none =>
      have hfirst : found.findSome? (·.versionOf framework) = some [] := by
        rw [hfound, hwritten, Option.map_some, Version.clean_eq_nil_iff.mpr hmarks]
      exact absurd ((Versions.get?_noteAll_eq_empty_iff h).mpr ⟨hknown, hfirst⟩) (hfilled framework)
  · intro hknown framework hempty
    obtain ⟨hnone, hfirst⟩ := (Versions.get?_noteAll_eq_empty_iff h).mp hempty
    rw [hfound] at hfirst
    obtain ⟨written, hwritten, hclean⟩ := Option.map_eq_some_iff.mp hfirst
    have hsome := hknown framework written hwritten (Version.clean_eq_nil_iff.mp hclean)
    rw [hnone] at hsome
    cases hsome

theorem reader_filled_iff {versions : Versions} (h : versions.Filled) (kind : Manifest)
    (content : Text) : ((kind.reader content).run.run versions).2.Filled ↔
      ∀ framework written, kind.written? content framework = some written →
        Version.OnlyMarks written → (versions.get? framework).isSome := by
  cases kind with
  | goMod => exact filled_record_iff (Listed.findSome?_goMod _) h
  | pom | gradle | sbt | cmake | swiftPackage =>
    exact filled_record_iff (Marked.findSome?_marked _ _ content) h
  | packageJson | requirements | pyproject | pipfile | setupScript | setupConfig | cargo | gemfile
  | composer | pubspec | csproj | vcpkg =>
    exact iff_of_true (keepsFilled_of_asksForPackages rfl content versions h) fun _ _ hnone => nomatch hnone

-- What is written in the place of a version

theorem Marked.exists_search?_of_written? {markers : KnownPackages}
    {patterns : List Marked.VersionPattern} {content framework written : Text}
    (h : Marked.written? markers patterns content framework = some written) :
    ∃ pattern ∈ patterns, ∃ marker m, (pattern marker).search? content = some m ∧
      written = m.get "version" := by
  obtain ⟨entry, -, hentry⟩ := List.exists_of_findSome?_eq_some h
  split at hentry
  · obtain ⟨m, hm, rfl⟩ := Option.map_eq_some_iff.mp hentry
    obtain ⟨pattern, hpattern, hsearch⟩ := List.exists_of_findSome?_eq_some hm
    exact ⟨pattern, hpattern, entry.1, m, hsearch, rfl⟩
  · cases hentry

theorem written?_cmake {content framework written : Text}
    (h : cmake.written? content framework = some written) : ¬Version.OnlyMarks written := by
  obtain ⟨pattern, hpattern, marker, m, hsearch, rfl⟩ := Marked.exists_search?_of_written? h
  obtain rfl := List.mem_singleton.mp hpattern
  have htakes : Pattern.Takes _ (.seq (.one Text.isDecimal) (.many (Pattern.wordOr "."))) :=
    Pattern.Takes.seq (Pattern.takes_one _) (Pattern.takes_many _)
  obtain ⟨front, back, hwritten, ⟨c, rfl, hc⟩, -⟩ := Pattern.Takes.get_of_search? htakes
    ["find_package", Pattern.blank0, "(", Pattern.blank0, .lit marker, Pattern.blank] hsearch
  intro hmarks
  rw [Version.not_isDecimal_of_mark (hmarks c (by simp [hwritten]))] at hc
  cases hc

/-- Every version has letters, digits and a few other characters only. -/
def Listed.ModuleLines.Worded (s : Listed.ModuleLines) : Prop :=
  ∀ entry ∈ s.deps, ∀ c ∈ entry.2, Pattern.wordOr ".+-" c = true

theorem requireLine_version {line : Text} {m : Match} (h : Listed.requireLine.match? line = some m) :
    ∀ c ∈ m.get "version", Pattern.wordOr ".+-" c = true := by
  have htakes : Pattern.Takes _ (.seq "v" (Pattern.many1 (Pattern.wordOr ".+-"))) :=
    Pattern.Takes.seq (Pattern.takes_lit _) (Pattern.takes_many1 _)
  obtain ⟨front, back, hversion, rfl, -, hback⟩ := Pattern.Takes.get htakes
    [Pattern.blank0, Pattern.opt (Pattern.inOrder ["require", Pattern.blank]),
      .capture "module" (Pattern.many1 (Pattern.wordOr "./~-")), Pattern.blank] h
  intro c hc
  rw [hversion, List.mem_append] at hc
  rcases hc with hc | hc
  · obtain rfl := List.mem_singleton.mp hc
    rfl
  · exact hback c hc

theorem Listed.ModuleLines.Worded.add {s : Listed.ModuleLines} (h : s.Worded) (raw : Text) :
    (s.add raw).Worded := by
  unfold Listed.ModuleLines.add
  simp only
  split
  · exact h
  split
  · exact h
  split
  · exact h
  split
  · split
    · rename_i m hm
      intro entry hentry
      rcases Dependencies.mem_put hentry with hold | hnew
      · exact h entry hold
      · rw [hnew]
        exact requireLine_version hm
    · exact h
  · exact h

theorem worded_foldl_add (lines : List Text) {s : Listed.ModuleLines} (h : s.Worded) :
    (lines.foldl Listed.ModuleLines.add s).Worded := by
  induction lines generalizing s with
  | nil => exact h
  | cons line lines ih => exact ih (h.add line)

/-- Where a version is made of letters and digits, its only marks are letters `v`. -/
theorem written?_goMod {content framework written : Text}
    (h : goMod.written? content framework = some written) :
    Version.OnlyMarks written ↔ ∀ c ∈ written, c = 'v' := by
  obtain ⟨entry, hentry, hwritten⟩ := List.exists_of_findSome?_eq_some h
  split at hwritten
  · cases hwritten
    have hworded := worded_foldl_add (Text.lines content) (s := {}) (fun _ h => nomatch h)
    constructor
    · intro hmarks c hc
      exact Version.eq_v_of_mark (hmarks c hc) (hworded entry hentry c hc) rfl
    · intro hv c hc
      rw [hv c hc]
      rfl
  · cases hwritten

-- -------------------------------------
-- All manifests
-- -------------------------------------

theorem read_leaves {filename : Text} {kind : Manifest} (hkind : find? filename = some kind)
    (content : Text) (versions : Versions) :
    ((read filename content).run.run versions).2 = ((kind.reader content).run.run versions).2 := by
  cases hrun : (kind.reader content).run.run versions with
  | mk result after =>
    cases result with
    | ok frameworks => simp only [read, hkind, run_tryCatch, hrun]
    | error e =>
      obtain ⟨rfl, hread⟩ := read_of_reader_error hkind hrun
      rw [hread]

/-- A version is left empty exactly if it is the first one of a framework and all that is written in
its place are marks. This happens to no package that is asked for by its name, and to no version that
has to start with a digit; a module version has to be nothing but letters `v` for it. -/
theorem filled_iff {versions : Versions} (h : versions.Filled) (filename content : Text) :
    (((read filename content).run.run versions).2.Filled ↔
      ∀ kind, find? filename = some kind → ((kind.reader content).run.run versions).2.Filled) ∧
    ∀ kind : Manifest,
      (((kind.reader content).run.run versions).2.Filled ↔
        ∀ framework written, kind.written? content framework = some written →
          Version.OnlyMarks written → (versions.get? framework).isSome) ∧
      (kind.asksForPackages = true ∨ kind = cmake →
        ((kind.reader content).run.run versions).2.Filled) ∧
      (kind = goMod → ∀ framework written, kind.written? content framework = some written →
        (Version.OnlyMarks written ↔ ∀ c ∈ written, c = 'v')) := by
  constructor
  · cases hkind : find? filename with
    | none =>
      have hread : ((read filename content).run.run versions).2 = versions := by
        simp only [read, hkind]
        rfl
      rw [hread]
      exact iff_of_true h fun kind hnone => by cases hnone
    | some kind =>
      rw [read_leaves hkind]
      exact ⟨fun hfilled other hother => Option.some.inj hother ▸ hfilled, fun hall => hall kind rfl⟩
  · intro kind
    refine ⟨reader_filled_iff h kind content, ?_, ?_⟩
    · rintro (hasks | rfl)
      · exact keepsFilled_of_asksForPackages hasks content versions h
      · rw [reader_filled_iff h]
        exact fun framework written hwritten hmarks => absurd hmarks (written?_cmake hwritten)
    · rintro rfl framework written hwritten
      exact written?_goMod hwritten

/-- A module whose version is nothing but letters `v`. -/
theorem filled_iff_module :
    let content := "module a\nrequire (\n  github.com/gin-gonic/gin/v2 vv // soon\n)\n".toList
    let versions := [("Chi".toList, "5".toList)]
    Versions.Filled versions ∧ ¬((read "go.mod" content).run.run versions).2.Filled := by
  intro content versions
  have hversions : Versions.Filled versions := by decide
  refine ⟨hversions, fun hfilled => ?_⟩
  obtain ⟨hread, hreaders⟩ := filled_iff hversions "go.mod" content
  have hwritten : goMod.written? content "Gin" = some "vv".toList := by decide +kernel
  have hmarks : Version.OnlyMarks "vv" := Version.clean_eq_nil_iff.mp (by decide)
  cases (hreaders goMod).1.mp (hread.mp hfilled goMod rfl) "Gin" _ hwritten hmarks

/-- The empty version stays when a later manifest gives one. -/
theorem read_only_marks :
    ((read "go.mod" "require github.com/gin-gonic/gin vv\n").run.run []).2 =
        [("Gin".toList, [])] ∧
      ((read "go.mod" "require github.com/gin-gonic/gin v1.9.1\n").run.run
        [("Gin".toList, [])]).2 = [("Gin".toList, [])] := by
  decide +kernel

end Manifest

end RepoAtlas
