import RepoAtlas.Manifest.Basic
import RepoAtlas.Proofs.Manifest.Version

/-!
# Readers of manifests record last

Whatever is recorded already, a reader finds the same in a manifest, and it notes what it found
after everything that may fail. A reader that fails thus leaves the record as it was.
-/

namespace RepoAtlas

-- -------------------------------------
-- Faults of documents
-- -------------------------------------

/-- A computation whose faults are all tolerated. -/
def Tolerable (x : Except ManifestError α) : Prop := ∀ e, x = .error e → e.isTolerated = true

namespace Tolerable

theorem ok (a : α) : Tolerable (.ok a) := fun _ h => nomatch h

theorem error (h : e.isTolerated = true) : Tolerable (.error e : Except ManifestError α) := by
  rintro _ ⟨⟩
  exact h

theorem bind {x : Except ManifestError α} {next : α → Except ManifestError β} (hx : Tolerable x)
    (hnext : ∀ a, Tolerable (next a)) : Tolerable (x >>= next) := by
  cases x with
  | error e => exact .error (hx e rfl)
  | ok a => exact hnext a

theorem mapM {f : α → Except ManifestError β} (hf : ∀ a, Tolerable (f a)) (l : List α) :
    Tolerable (l.mapM f) := by
  induction l with
  | nil => exact .ok []
  | cons a l ih =>
    rw [List.mapM_cons]
    exact (hf a).bind fun _ => ih.bind fun _ => .ok _

theorem orAbsent (r : Except SyntaxError α) : Tolerable (Document.orAbsent r) := by
  unfold Document.orAbsent
  split
  · exact .ok _
  · exact .ok _
  · exact .error rfl
  · exact .error rfl

theorem table (v : Value) : Tolerable (Document.table v) := by
  unfold Document.table
  split
  · exact .ok _
  · exact .error rfl

theorem subtable (t : Table) (key : Text) : Tolerable (Document.subtable t key) := by
  unfold Document.subtable
  split
  · exact .ok _
  · exact .table _

theorem items (v : Value) : Tolerable (Document.items v) := by
  unfold Document.items
  split
  · exact .ok _
  · exact .error rfl

theorem itemsAt (t : Table) (key : Text) : Tolerable (Document.itemsAt t key) := by
  unfold Document.itemsAt
  split
  · exact .ok _
  · exact .items _

end Tolerable

-- -------------------------------------
-- Readers
-- -------------------------------------

namespace Recording

theorem run_bind (r : Recording α) (next : α → Recording β) (versions : Versions) :
    (r >>= next).run.run versions =
      match r.run.run versions with
      | (.ok a, after) => (next a).run.run after
      | (.error e, after) => (.error e, after) := by
  unfold ExceptT.run StateT.run
  simp only [bind, ExceptT.bind, ExceptT.mk, StateT.bind, ExceptT.bindCont]
  cases r versions with
  | mk result after => cases result <;> rfl

theorem run_tryCatch (r : Recording α) (handle : ManifestError → Recording α)
    (versions : Versions) :
    (tryCatch r handle).run.run versions =
      match r.run.run versions with
      | (.ok a, after) => (.ok a, after)
      | (.error e, after) => (handle e).run.run after := by
  unfold ExceptT.run StateT.run
  simp only [tryCatch, tryCatchThe, MonadExceptOf.tryCatch, ExceptT.tryCatch, ExceptT.mk, bind,
    StateT.bind]
  cases r versions with
  | mk result after => cases result <;> rfl

section mapM
variable {f : α → Recording β}

theorem run_mapM_ok {l : List α}
    (h : ∀ a ∈ l, ∀ versions, ∃ b after, (f a).run.run versions = (.ok b, after))
    (versions : Versions) : ∃ bs after, (l.mapM f).run.run versions = (.ok bs, after) := by
  induction l generalizing versions with
  | nil => exact ⟨[], versions, rfl⟩
  | cons a l ih =>
    obtain ⟨ha, hl⟩ := List.forall_mem_cons.mp h
    obtain ⟨b, mid, hb⟩ := ha versions
    obtain ⟨bs, after, hbs⟩ := ih hl mid
    refine ⟨b :: bs, after, ?_⟩
    rw [List.mapM_cons, run_bind, hb]
    simp only [run_bind, hbs]
    rfl

/-- A sequence that is gone through to its end is so step by step. -/
theorem run_mapM_cons_inv (h : ((a :: l).mapM f).run.run versions = (.ok all, after)) :
    ∃ b mid bs, (f a).run.run versions = (.ok b, mid) ∧ (l.mapM f).run.run mid = (.ok bs, after) ∧
      all = b :: bs := by
  rw [List.mapM_cons, run_bind] at h
  split at h
  · rename_i b mid hb
    rw [run_bind] at h
    split at h
    · rename_i bs last hbs
      cases h
      exact ⟨b, mid, bs, hb, hbs, rfl⟩
    · cases h
  · cases h

end mapM

/-- What a reader gives and leaves behind that finds something, or has a fault. -/
def outcome (said : Except ManifestError (List Finding)) (versions : Versions) :
    Except ManifestError (List Text) × Versions :=
  match said with
  | .ok found => (.ok (Finding.frameworks found), versions.noteAll found)
  | .error e => (.error e, versions)

/-- A reader that notes what it found after everything that may fail, and has only faults of a
given kind. -/
def RecordsLast (faults : ManifestError → Prop) (r : Recording (List Text)) : Prop :=
  ∃ said, (∀ versions, r.run.run versions = outcome said versions) ∧ ∀ e, said = .error e → faults e

variable {faults : ManifestError → Prop}

theorem recordsLast_record (found : List Finding) : RecordsLast faults (record found) :=
  ⟨.ok found, fun _ => rfl, fun _ h => nomatch h⟩

theorem recordsLast_nothing : RecordsLast faults (pure []) :=
  ⟨.ok [], fun _ => rfl, fun _ h => nomatch h⟩

theorem recordsLast_throw (h : faults e) : RecordsLast faults (throw e) :=
  ⟨.error e, fun _ => rfl, by rintro _ ⟨⟩; exact h⟩

theorem recordsLast_bind {x : Except ManifestError α} {next : α → Recording (List Text)}
    (hx : ∀ e, x = .error e → faults e) (hnext : ∀ a, RecordsLast faults (next a)) :
    RecordsLast faults (liftM x >>= next) := by
  cases x with
  | error e => exact recordsLast_throw (hx e rfl)
  | ok a => exact hnext a

theorem RecordsLast.mono {faults' : ManifestError → Prop} {r : Recording (List Text)}
    (h : RecordsLast faults r) (himp : ∀ e, faults e → faults' e) : RecordsLast faults' r := by
  obtain ⟨said, hrun, hfaults⟩ := h
  exact ⟨said, hrun, fun e he => himp e (hfaults e he)⟩

/-- Passing over some faults leaves only the others. -/
theorem RecordsLast.passOver {r : Recording (List Text)} (h : RecordsLast faults r)
    (passed : ManifestError → Bool) :
    RecordsLast (fun e => faults e ∧ passed e = false)
      (tryCatch r fun e => if passed e then return [] else throw e) := by
  obtain ⟨said, hrun, hfaults⟩ := h
  cases said with
  | ok found =>
    refine ⟨.ok found, fun versions => ?_, fun _ h => nomatch h⟩
    rw [run_tryCatch, hrun]
    rfl
  | error e =>
    cases hpassed : passed e with
    | true =>
      refine ⟨.ok [], fun versions => ?_, fun _ h => nomatch h⟩
      rw [run_tryCatch, hrun]
      simp only [outcome, hpassed]
      rfl
    | false =>
      refine ⟨.error e, fun versions => ?_, ?_⟩
      · rw [run_tryCatch, hrun]
        simp only [outcome, hpassed]
        rfl
      · rintro _ ⟨⟩
        exact ⟨hfaults e rfl, hpassed⟩

end Recording

namespace Manifest

open Recording

/-- A reader whose faults are all tolerated. -/
abbrev ReadsTolerantly (r : Recording (List Text)) : Prop := RecordsLast (·.isTolerated = true) r

/-- Where there is no document, nothing is said; else its table is read. -/
theorem readsTolerantly_table {x : Except ManifestError (Option Table)} (hx : Tolerable x)
    {next : Table → Recording (List Text)} (hnext : ∀ t, ReadsTolerantly (next t)) :
    ReadsTolerantly (do
      let some t ← x | return []
      next t) := by
  refine recordsLast_bind hx fun found => ?_
  cases found with
  | none => exact recordsLast_nothing
  | some t => exact hnext t

namespace Package

theorem jsonTable_tolerable (content : Text) : Tolerable (jsonTable content) := by
  refine (Tolerable.orAbsent _).bind fun v => ?_
  split
  · exact .ok _
  · exact .ok _

theorem tomlTable_tolerable (content : Text) : Tolerable (tomlTable content) := .orAbsent _

theorem packageJson_readsTolerantly (content : Text) : ReadsTolerantly (packageJson content) :=
  readsTolerantly_table (jsonTable_tolerable content) fun _ => recordsLast_record _

theorem composer_readsTolerantly (content : Text) : ReadsTolerantly (composer content) :=
  readsTolerantly_table (jsonTable_tolerable content) fun _ => recordsLast_record _

theorem cargo_readsTolerantly (content : Text) : ReadsTolerantly (cargo content) := by
  refine readsTolerantly_table (tomlTable_tolerable content) fun t => ?_
  exact recordsLast_bind (Tolerable.subtable t _) fun _ => recordsLast_record _

theorem vcpkg_readsTolerantly (content : Text) : ReadsTolerantly (vcpkg content) := by
  refine readsTolerantly_table (jsonTable_tolerable content) fun t => ?_
  exact recordsLast_bind (Tolerable.itemsAt t _) fun _ => recordsLast_record _

end Package

namespace Python

open Package

theorem projectLines_tolerable (t : Table) : Tolerable (projectLines t) := by
  refine (Tolerable.subtable t _).bind fun project => ?_
  refine (Tolerable.itemsAt project _).bind fun _ => ?_
  refine (Tolerable.subtable project _).bind fun extras => ?_
  exact (Tolerable.mapM (fun extra => .items extra.2) extras).bind fun _ => .ok _

theorem poetryTables_tolerable (t : Table) : Tolerable (poetryTables t) := by
  refine (Tolerable.subtable t _).bind fun tool => ?_
  refine (Tolerable.subtable tool _).bind fun poetry => ?_
  exact (Tolerable.subtable poetry _).bind fun _ => .ok _

theorem pyproject_readsTolerantly (content : Text) : ReadsTolerantly (pyproject content) := by
  refine readsTolerantly_table (tomlTable_tolerable content) fun t => ?_
  refine recordsLast_bind (projectLines_tolerable t) fun _ => ?_
  exact recordsLast_bind (poetryTables_tolerable t) fun _ => recordsLast_record _

theorem pipfile_readsTolerantly (content : Text) : ReadsTolerantly (pipfile content) :=
  readsTolerantly_table (tomlTable_tolerable content) fun _ => recordsLast_record _

end Python

/-- The faults of a manifest that are not tolerated. -/
def Reports (content : Text) (e : ManifestError) : Manifest → Prop
  | setupConfig => ∃ settings fault, Ini.parse? content = some settings ∧
      settings.get? "options" "install_requires" = .error fault ∧ e = .reference fault
  | setupScript => Script.parse content = .error .exhausted ∧ e = .exhausted
  | _ => False

theorem setupScript_recordsLast (content : Text) :
    RecordsLast (fun e => e.isTolerated = true ∨ setupScript.Reports content e)
      (Python.setupScript content) := by
  unfold Python.setupScript
  split
  · exact recordsLast_record _
  · exact recordsLast_nothing
  · exact recordsLast_throw (.inl rfl)
  · rename_i hparse
    exact recordsLast_throw (.inr ⟨hparse, rfl⟩)

theorem setupConfig_recordsLast (content : Text) :
    RecordsLast (fun e => e.isTolerated = true ∨ setupConfig.Reports content e)
      (Python.setupConfig content) := by
  unfold Python.setupConfig
  split
  · exact recordsLast_nothing
  · rename_i settings hparse
    split
    · rename_i fault hget
      exact recordsLast_throw (.inr ⟨settings, fault, hparse, hget, rfl⟩)
    · exact recordsLast_nothing
    · exact recordsLast_record _

/-- Every reader records last, and has no faults but tolerated and reported ones. -/
theorem reader_recordsLast (kind : Manifest) (content : Text) :
    RecordsLast (fun e => e.isTolerated = true ∨ kind.Reports content e) (kind.reader content) := by
  cases kind with
  | setupScript => exact setupScript_recordsLast content
  | setupConfig => exact setupConfig_recordsLast content
  | packageJson => exact (Package.packageJson_readsTolerantly content).mono fun _ => .inl
  | pyproject => exact (Python.pyproject_readsTolerantly content).mono fun _ => .inl
  | pipfile => exact (Python.pipfile_readsTolerantly content).mono fun _ => .inl
  | cargo => exact (Package.cargo_readsTolerantly content).mono fun _ => .inl
  | composer => exact (Package.composer_readsTolerantly content).mono fun _ => .inl
  | vcpkg => exact (Package.vcpkg_readsTolerantly content).mono fun _ => .inl
  | requirements | goMod | pom | gradle | sbt | gemfile | pubspec | csproj | cmake
  | swiftPackage => exact recordsLast_record _

/-- A reader that fails has noted nothing, and its fault is passed over or reported. -/
theorem read_of_reader_error (hkind : find? filename = some kind)
    (h : (kind.reader content).run.run before = (.error e, after)) : after = before ∧
      (read filename content).run.run before =
        (if e.isTolerated then .ok [] else .error e, before) := by
  obtain ⟨said, hrun, -⟩ := reader_recordsLast kind content
  rw [hrun] at h
  cases said with
  | ok found => cases h
  | error fault =>
    cases h
    refine ⟨rfl, ?_⟩
    simp only [read, hkind]
    rw [run_tryCatch, hrun]
    simp only [outcome]
    cases e.isTolerated <;> rfl

/-- The faults that are not tolerated are those that a file has as a manifest of its kind. -/
theorem read_recordsLast (filename content : Text) :
    RecordsLast (fun e => ∃ kind, find? filename = some kind ∧ kind.Reports content e)
      (read filename content) := by
  unfold read
  split
  · exact recordsLast_nothing
  · rename_i kind hkind
    refine ((reader_recordsLast kind content).passOver ManifestError.isTolerated).mono ?_
    rintro e ⟨htolerated | hreports, hnot⟩
    · rw [htolerated] at hnot
      cases hnot
    · exact ⟨kind, hkind, hreports⟩

end Manifest

end RepoAtlas
