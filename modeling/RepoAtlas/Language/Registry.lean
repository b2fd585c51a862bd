import RepoAtlas.Language.Basic
import RepoAtlas.Text.Case

/-!
# The registry of languages

Languages are registered one after the other; the last one registered for an extension owns it.
Extensions are compared without regard to case. Folder, entry-point and manifest names count for
all registered languages, also for those that no longer own an extension.
-/

namespace RepoAtlas

structure Registry where
  /-- All languages, in order of registration. -/
  languages : List Language := []
  /-- For each extension in lower case, the place of its owner among the languages. -/
  owners : List (Text × Nat) := []

namespace Registry

/-- Gives an extension to an owner. -/
def assign (owner : Nat) : List (Text × Nat) → Text → List (Text × Nat)
  | [], ext => [(ext, owner)]
  | (e, i) :: owners, ext =>
    if e == ext then (e, owner) :: owners else (e, i) :: assign owner owners ext

def register (r : Registry) (language : Language) : Registry where
  languages := r.languages ++ [language]
  owners := (language.extensions.map Text.lower).foldl (assign r.languages.length) r.owners

def ofList (languages : List Language) : Registry := languages.foldl register {}

/-- A language that is to be registered, and the name of the strategy that it is to have. -/
structure Candidate where
  language : Language
  strategy : Text

/-- Registers a language whose strategy is given by name; an unknown one is refused. -/
def accept (r : Registry) (candidate : Candidate) : Except LanguageError Registry := do
  return r.register (← candidate.language.withStrategy candidate.strategy)

/-- The registry after a candidate, which has no effect if it is refused. -/
def offer (r : Registry) (candidate : Candidate) : Registry :=
  match r.accept candidate with
  | .ok r' => r'
  | .error _ => r

def offerAll (r : Registry) (candidates : List Candidate) : Registry := candidates.foldl offer r

/-- The owner of an extension. -/
def find? (r : Registry) (ext : Text) : Option Language :=
  (r.owners.lookup (Text.lower ext)).bind fun i => r.languages[i]?

def extensions (r : Registry) : List Text := r.owners.map Prod.fst

/-- The languages that own an extension, in order of registration. -/
def reachable (r : Registry) : List Language :=
  (r.languages.zipIdx.filter fun (_, i) => r.owners.any fun (_, owner) => owner == i).map Prod.fst

/-- Folders of version control, which are never looked into. -/
def versionControl : List Text := [".git".toList, ".hg".toList, ".svn".toList]

def skippedFolders (r : Registry) : List Text :=
  versionControl ++ r.languages.flatMap (·.skippedFolders)

def entryPoints (r : Registry) : List Text := r.languages.flatMap (·.entryPoints)

def manifests (r : Registry) : List Text := r.languages.flatMap (·.manifests)

end Registry

end RepoAtlas
