import RepoAtlas.Manifest.Error
import RepoAtlas.Manifest.Version

/-!
# Recording what manifests say

Readers of manifests share one record of versions. A reader may fail, and what it has noted by then
stays noted.
-/

namespace RepoAtlas

/-- A reader that may fail, with the record of versions as its state. -/
abbrev Recording := ExceptT ManifestError (StateM Versions)

/-- Notes the versions of what was found, and gives its frameworks. -/
def record (found : List Finding) : Recording (List Text) := do
  modify (·.noteAll found)
  return Finding.frameworks found

end RepoAtlas
