import RepoAtlas.Proofs.Grouping
import RepoAtlas.Proofs.Scan

/-!
# Manifests that share a record

Reading a manifest adds versions of frameworks that it names and changes none; where it fails,
nothing is added. Over any files, and so over a scan, the first version of a framework is final and
every framework with a version has been named: `Manifest.versions_only_extended`.
-/

namespace RepoAtlas

-- -------------------------------------
-- One manifest
-- -------------------------------------

/-- What a reader that gives `result` may do to a record of versions. -/
structure Versions.Extends (before : Versions) (result : Except ManifestError (List Text))
    (after : Versions) : Prop where
  grows : before <+: after
  kept : ∀ framework version, before.get? framework = some version →
    after.get? framework = some version
  added : ∀ framework ∈ after.map (·.1), framework ∈ before.map (·.1) ∨
    ∃ named, result = .ok named ∧ framework ∈ named
  distinct : ∀ named, result = .ok named → named.Nodup
  failed : ∀ e, result = .error e → after = before
  silent : result = .ok [] → after = before

namespace Recording.RecordsLast

variable {faults : ManifestError → Prop} {r : Recording (List Text)}

/-- A framework without a version gets the one that the reader gives it on its own. -/
theorem get?_run (h : RecordsLast faults r) (before : Versions) (framework : Text) :
    (r.run.run before).2.get? framework =
      (before.get? framework).or ((r.run.run []).2.get? framework) := by
  obtain ⟨said, hrun, -⟩ := h
  rw [hrun, hrun]
  cases said with
  | ok found => simp only [outcome, Versions.get?_noteAll, Versions.get?_nil, Option.none_or]
  | error e => simp only [outcome, Versions.get?_nil, Option.or_none]

theorem run_extends (h : RecordsLast faults r) (before : Versions) :
    before.Extends (r.run.run before).1 (r.run.run before).2 := by
  have hget := h.get?_run before
  obtain ⟨said, hrun, -⟩ := h
  have hkept : ∀ framework version, before.get? framework = some version →
      (r.run.run before).2.get? framework = some version := by
    intro framework version hknown
    rw [hget, hknown, Option.some_or]
  rw [hrun] at hkept ⊢
  cases said with
  | ok found =>
    refine
      { grows := before.noteAll_prefix found
        kept := hkept
        added := fun framework hmem => ?_
        distinct := ?_
        failed := fun e h => nomatch h
        silent := fun h => ?_ }
    · exact (Versions.mem_keys_noteAll hmem).imp_right fun hfound => ⟨_, rfl, hfound⟩
    · rintro _ ⟨⟩
      exact Grouping.nodup_eraseDups _
    · cases Finding.frameworks_eq_nil (Except.ok.inj h)
      rfl
  | error e =>
    exact
      { grows := List.prefix_refl _
        kept := hkept
        added := fun _ => .inl
        distinct := fun _ h => nomatch h
        failed := fun _ _ => rfl
        silent := fun h => nomatch h }

end Recording.RecordsLast

-- -------------------------------------
-- One manifest after the other
-- -------------------------------------

namespace Manifest

/-- What is known after some files: the frameworks they name, and the versions recorded. -/
structure Known where
  frameworks : List Text := []
  versions : Versions := []

namespace Known

/-- Reads a file as a manifest; one that cannot be read names no frameworks. -/
def add (known : Known) (file : Text × Text) : Known :=
  let reading := (read file.1 file.2).run.run known.versions
  { frameworks := known.frameworks ++ reading.1.toOption.getD []
    versions := reading.2 }

def addAll (known : Known) (files : List (Text × Text)) : Known := files.foldl add known

theorem addAll_cons (known : Known) (file : Text × Text) (files : List (Text × Text)) :
    known.addAll (file :: files) = (known.add file).addAll files := rfl

/-- Every framework with a version has been named. -/
def Covered (known : Known) : Prop :=
  ∀ framework ∈ known.versions.map (·.1), framework ∈ known.frameworks

instance (known : Known) : Decidable known.Covered :=
  inferInstanceAs (Decidable (∀ framework ∈ known.versions.map (·.1), framework ∈ known.frameworks))

theorem covered_empty : ({} : Known).Covered := fun _ h => nomatch h

theorem Covered.add {known : Known} (h : known.Covered) (file : Text × Text) :
    (known.add file).Covered := by
  intro framework hmem
  rcases ((read_recordsLast file.1 file.2).run_extends known.versions).added framework hmem with
    hold | ⟨named, hresult, hnamed⟩
  · exact List.mem_append_left _ (h framework hold)
  · refine List.mem_append_right _ ?_
    rw [hresult]
    exact hnamed

theorem Covered.addAll {known : Known} (h : known.Covered) (files : List (Text × Text)) :
    (known.addAll files).Covered := by
  induction files generalizing known with
  | nil => exact h
  | cons file files ih => exact ih (h.add file)

theorem get?_add (known : Known) (file : Text × Text) (framework : Text) :
    (known.add file).versions.get? framework =
      (known.versions.get? framework).or (({} : Known).add file |>.versions.get? framework) :=
  (read_recordsLast file.1 file.2).get?_run known.versions framework

/-- The version of a framework is the one known before, or that of the first file with one. -/
theorem get?_addAll (known : Known) (files : List (Text × Text)) (framework : Text) :
    (known.addAll files).versions.get? framework = (known.versions.get? framework).or
      (files.findSome? fun file => ({} : Known).add file |>.versions.get? framework) := by
  induction files generalizing known with
  | nil => simp [addAll]
  | cons file files ih =>
    rw [addAll_cons, ih, get?_add, Option.or_assoc, List.findSome?_cons]
    cases (({} : Known).add file).versions.get? framework <;> rfl

theorem kept_addAll (known : Known) (files : List (Text × Text))
    (h : known.versions.get? framework = some version) :
    (known.addAll files).versions.get? framework = some version := by
  rw [get?_addAll, h, Option.some_or]

end Known

end Manifest

-- -------------------------------------
-- The manifests of a scan
-- -------------------------------------

namespace Scan

open Manifest (Known)

/-- Manifests as files with names and texts. -/
def named (manifests : List (WalkItem × Text)) : List (Text × Text) :=
  manifests.map fun m => (m.1.name, m.2)

theorem known_of_readManifests (known : Known) {manifests : List (WalkItem × Text)}
    (h : (readManifests manifests).run.run known.versions = (.ok detected, after)) :
    known.addAll (named manifests) = ⟨known.frameworks ++ detected.flatten, after⟩ := by
  induction manifests generalizing known detected with
  | nil =>
    cases h
    simp [named, Known.addAll]
  | cons m manifests ih =>
    obtain ⟨first, mid, rest, hfirst, hrest, rfl⟩ := Recording.run_mapM_cons_inv h
    have hadd : known.add (m.1.name, m.2) = ⟨known.frameworks ++ first, mid⟩ := by
      simp only [Known.add, hfirst]
      rfl
    rw [named, List.map_cons, Known.addAll_cons, hadd, ← named,
      ih ⟨known.frameworks ++ first, mid⟩ hrest, List.flatten_cons, List.append_assoc]

/-- A scan knows what its manifests say, read one after the other. -/
def Knows (scan : Scan) (files : List (Text × Text)) : Prop :=
  scan.stats.frameworks = (Known.addAll {} files).frameworks.eraseDups ∧
    scan.versions = (Known.addAll {} files).versions

theorem run_knows (h : run registry config top root = .ok scan) :
    ∃ base trail entries, top.resolve root = .ok base ∧ top.locate base = .ok trail ∧
      top.reached trail = .folder entries ∧
      scan.Knows (named (manifestsIn registry top base
        (Walk.files top (skipsFolder registry) config.maxFiles.toNat trail entries).files)) := by
  obtain ⟨base, trail, entries, hbase, htrail, hfolder, hscan⟩ := run_inv h
  refine ⟨base, trail, entries, hbase, htrail, hfolder, ?_⟩
  have hreading := ofWalk_reading registry config top base
    (Walk.files top (skipsFolder registry) config.maxFiles.toNat trail entries)
  split at hreading
  · rename_i detected versions hread
    obtain ⟨other, hother, hversions, hframeworks⟩ := hreading
    cases hscan.symm.trans hother
    rw [Knows, known_of_readManifests {} hread]
    exact ⟨hframeworks, hversions⟩
  · rename_i hfails
    cases hscan.symm.trans hreading

theorem Knows.covered {scan : Scan} (h : scan.Knows files) :
    ∀ framework ∈ scan.versions.map (·.1), framework ∈ scan.stats.frameworks := by
  obtain ⟨hframeworks, hversions⟩ := h
  rw [hframeworks, hversions]
  intro framework hmem
  exact List.mem_eraseDups.mpr (Known.covered_empty.addAll files framework hmem)

theorem Knows.final {scan : Scan} (h : scan.Knows (front ++ back))
    (hfront : (Known.addAll {} front).versions.get? framework = some version) :
    scan.versions.get? framework = some version := by
  rw [h.2, Known.addAll, List.foldl_append]
  exact Known.kept_addAll _ back hfront

end Scan

namespace Manifest

/-- A record shared by manifests only grows: by versions of frameworks that a manifest names, by
nothing where it fails. So all of a scan's versions are of its frameworks, and first ones. -/
theorem versions_only_extended :
    (∀ filename content (before : Versions), before.Extends
      ((read filename content).run.run before).1 ((read filename content).run.run before).2) ∧
    (∀ filename content kind before e after, find? filename = some kind →
      (kind.reader content).run.run before = (.error e, after) → after = before ∧
        (read filename content).run.run before =
          (if e.isTolerated then .ok [] else .error e, before)) ∧
    (∀ (known : Known) files, known.Covered → (known.addAll files).Covered) ∧
    (∀ (known : Known) files framework, (known.addAll files).versions.get? framework =
      (known.versions.get? framework).or
        (files.findSome? fun file => ({} : Known).add file |>.versions.get? framework)) ∧
    ∀ registry config top root scan, Scan.run registry config top root = .ok scan →
      (∀ framework ∈ scan.versions.map (·.1), framework ∈ scan.stats.frameworks) ∧
      ∃ base trail entries files, top.resolve root = .ok base ∧ top.locate base = .ok trail ∧
        top.reached trail = .folder entries ∧
        files = Scan.named (Scan.manifestsIn registry top base
          (Walk.files top (Scan.skipsFolder registry) config.maxFiles.toNat trail entries).files) ∧
        scan.Knows files ∧
        ∀ front back framework version, files = front ++ back →
          (Known.addAll {} front).versions.get? framework = some version →
          scan.versions.get? framework = some version := by
  refine ⟨fun filename content => (read_recordsLast filename content).run_extends,
    fun _ _ _ _ _ _ => read_of_reader_error, fun _ files h => h.addAll files,
    Known.get?_addAll, ?_⟩
  intro registry config top root scan h
  obtain ⟨base, trail, entries, hbase, htrail, hfolder, hknows⟩ := Scan.run_knows h
  refine ⟨hknows.covered, base, trail, entries, _, hbase, htrail, hfolder, rfl, hknows, ?_⟩
  intro front back framework version hfiles hfront
  rw [hfiles] at hknows
  exact hknows.final hfront

namespace Sample

def registry : Registry :=
  .ofList [{ Language.javaScript with manifests := ["requirements.txt".toList] }]

def requirements : Text × Entry :=
  ("requirements.txt".toList, .file (Encoding.encodeUtf8 "flask==2.0".toList))

def trail : Entry.Trail := [("repo".toList, .folder [requirements])]

/-- A repository whose only file is a list of requirements. -/
def top : Entry := .folder trail

def flask (version : String) : Versions := [("Flask".toList, version.toList)]

theorem files_eq : (Walk.files top (Scan.skipsFolder registry) ({} : ScanConfig).maxFiles.toNat
    trail [requirements]).files = [WalkItem.ofChild trail [] requirements] := by
  have hlisting : WalkItem.listing top (Scan.skipsFolder registry) trail [] [requirements] =
      [WalkItem.ofChild trail [] requirements] :=
    List.perm_singleton.mp (WalkItem.listed_listing _ _ _ _ _).survivors
  rw [Walk.files, hlisting]
  rfl

theorem returns : ∃ scan, Scan.run registry {} top "/repo".toList = .ok scan ∧
    scan.versions = flask "2.0" := by
  have hread : (Scan.readManifests (Scan.manifestsIn registry top "/repo".toList
      [WalkItem.ofChild trail [] requirements])).run.run [] =
        (.ok [["Flask".toList]], flask "2.0") :=
    Prod.ext (by decide +kernel) (by decide +kernel)
  have hbase : top.resolve "/repo".toList = .ok "/repo".toList := by rfl
  have htrail : top.locate "/repo".toList = .ok trail := by rfl
  have hfolder : top.reached trail = .folder [requirements] := by rfl
  have hreading := Scan.ofWalk_reading registry {} top "/repo".toList
    (Walk.files top (Scan.skipsFolder registry) ({} : ScanConfig).maxFiles.toNat trail
      [requirements])
  rw [files_eq, hread] at hreading
  obtain ⟨scan, hscan, hversions, -⟩ := hreading
  refine ⟨scan, ?_, hversions⟩
  simp only [Scan.run, hbase, htrail, hfolder, Except.mapError, bind, Except.bind]
  exact hscan

end Sample

/-- A malformed manifest, a second version of a framework, and a scan. -/
theorem versions_only_extended_sample :
    (read "vcpkg.json".toList "\x7b\"dependencies\":1\x7d".toList).run.run (Sample.flask "1.0") =
      (.ok [], Sample.flask "1.0") ∧
    (Known.addAll ⟨["Flask".toList], Sample.flask "1.0"⟩
      [("requirements.txt".toList, "flask==2.0".toList)]).Covered ∧
    ∃ scan, Scan.run Sample.registry {} Sample.top "/repo".toList = .ok scan ∧
      scan.versions = Sample.flask "2.0" ∧ "Flask".toList ∈ scan.stats.frameworks := by
  obtain ⟨-, hfails, hcovered, -, hscan⟩ := versions_only_extended
  refine ⟨?_, hcovered _ _ (by decide), ?_⟩
  · have hresult : ((vcpkg.reader "\x7b\"dependencies\":1\x7d".toList).run.run
        (Sample.flask "1.0")).1 = .error .notAList := by decide +kernel
    cases hreader : (vcpkg.reader "\x7b\"dependencies\":1\x7d".toList).run.run
        (Sample.flask "1.0") with
    | mk result after =>
      rw [hreader] at hresult
      cases hresult
      exact (hfails _ _ vcpkg _ _ _ (by decide) hreader).2
  · obtain ⟨scan, hrun, hversions⟩ := Sample.returns
    refine ⟨scan, hrun, hversions, (hscan _ _ _ _ _ hrun).1 _ ?_⟩
    rw [hversions]
    exact .head _

end Manifest

end RepoAtlas
