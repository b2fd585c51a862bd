import RepoAtlas.Language.Form
import RepoAtlas.Text.Quoted

/-!
# Languages

A language is a record: its file extensions, the forms of its import statements, how an import
target is turned into a file, and the file and folder names that matter in its projects.
-/

namespace RepoAtlas

/-- How a bare import target is turned into a file of the repository. -/
inductive Strategy where
  /-- Below the search roots only. -/
  | relative
  /-- Segments divided by dots, leading dots climbing folders. -/
  | dotted
  /-- The end of a path, found among all files of the language. -/
  | modulePath
  /-- Segments divided by `::`, with names for the root and the enclosing module. -/
  | nested
  /-- Beside the file, at the root and below the search roots. -/
  | header
  deriving DecidableEq, Repr

namespace Strategy

def name : Strategy → Text
  | relative => "relative"
  | dotted => "dotted"
  | modulePath => "module_path"
  | nested => "namespace"
  | header => "header"

def all : List Strategy := [relative, dotted, modulePath, nested, header]

end Strategy

/-- Why a language cannot be described. -/
inductive LanguageError where
  | unknownStrategy (strategy language : Text)
  deriving DecidableEq, Repr

def LanguageError.message : LanguageError → Text
  | unknownStrategy strategy language =>
    "Unknown resolver ".toList ++ Text.quoted strategy ++ " for ".toList ++ language

/-- The strategy of a given name, for the description of a language. -/
def Strategy.ofName (strategy language : Text) : Except LanguageError Strategy :=
  match all.find? (·.name == strategy) with
  | some s => .ok s
  | none => .error (.unknownStrategy strategy language)

structure Language where
  name : Text
  extensions : List Text
  forms : List ImportForm
  strategy : Strategy := .relative
  entryPoints : List Text := []
  /-- Names of manifests, possibly with wildcards. -/
  manifests : List Text := []
  /-- Folders of generated or foreign code. -/
  skippedFolders : List Text := []
  defaultExtension : Text := []
  /-- What may have to be added to a target to name a file, in order of preference. -/
  probes : List Text := []
  /-- Beginnings of targets that stand for the root of the repository. -/
  aliases : List Text := []
  /-- Folders in which bare targets are looked for. -/
  searchRoots : List Text := []

/-- The language with the strategy of a given name. -/
def Language.withStrategy (language : Language) (strategy : Text) :
    Except LanguageError Language := do
  return { language with strategy := ← Strategy.ofName strategy language.name }

/-- The same language with import statements that are found but cannot be read. -/
def Language.unreadable (language : Language) : Language :=
  { language with
    forms := language.forms.map fun form =>
      { form with target := fun _ => .error .unreadable } }

end RepoAtlas
