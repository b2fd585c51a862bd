import RepoAtlas.Classification.Kind
import RepoAtlas.Graph.Basic

/-!
# Architectural layers

The layer of a file is that of its kind where the kind says it all, else that of the first keyword
in its path, else that of its kind with less confidence.
-/

namespace RepoAtlas

inductive Layer where
  | presentation | business | data | infrastructure | test | config
  deriving DecidableEq, Repr

namespace Layer

def name : Layer → Text
  | presentation => "presentation"
  | business => "business"
  | data => "data"
  | infrastructure => "infrastructure"
  | test => "test"
  | config => "config"

/-- Words in paths, for each layer in the order in which they are tried. -/
def keywords : List (Layer × List String) := [
  (presentation, ["components", "component", "pages", "views", "view", "app", "ui", "screens",
    "layouts", "templates", "widgets", "frontend", "web", "styles", "public"]),
  (business, ["services", "service", "domain", "usecases", "use_cases", "core", "business",
    "logic", "features", "workflows"]),
  (data, ["models", "model", "entities", "schemas", "db", "database", "repositories",
    "repository", "migrations", "dao", "prisma", "store", "stores", "data"]),
  (infrastructure, ["infra", "infrastructure", "utils", "util", "lib", "helpers", "middleware",
    "adapters", "clients", "scripts", "deploy", "docker", "config", "platform"])]

def isLowerOrDigit (c : Char) : Bool := 'a' ≤ c && c ≤ 'z' || '0' ≤ c && c ≤ '9'

/-- Puts a space in front of a capital that follows a small letter or a digit. -/
def splitHumps : Text → Text
  | a :: b :: t =>
    if isLowerOrDigit a && Kind.isLetterUpper b then a :: ' ' :: splitHumps (b :: t)
    else a :: splitHumps (b :: t)
  | t => t

/-- The words of a path: runs of letters and digits, divided at humps, in lower case. -/
def words (stem : Text) : List Text :=
  let spaced := (splitHumps stem).map fun c => if c.isAlphanum then c else ' '
  ((Text.splitOn ' ' spaced).filter (!·.isEmpty)).map Text.lower

/-- Keywords up to this length have to be whole words of the path. -/
def shortLength : Nat := 4

def mentions (stem keyword : Text) : Bool :=
  if keyword.length > shortLength then Text.occursIn keyword (Text.lower stem)
  else (words stem).contains keyword

/-- The first layer with a keyword in a path. -/
def ofPath? (p : Path) : Option Layer :=
  let stem := (Path.splitExtension p).1
  (keywords.find? fun (_, ks) => ks.any fun k => mentions stem k.toList).map (·.1)

def ofKind? : Kind → Option Layer
  | .component => some presentation
  | .hook => some presentation
  | .api => some presentation
  | .service => some business
  | .model => some data
  | .middleware => some infrastructure
  | .util => some infrastructure
  | _ => none

def guess (layer : Layer) (hundredths : Nat) : LayerGuess :=
  ⟨layer.name, .decimal ⟨hundredths, -2⟩⟩

/-- The layer of a file; its kind may be one that is not known here. -/
def classify (kind : Option Kind) (p : Path) : LayerGuess :=
  if kind = some .test then guess test 95
  else if kind = some .config then guess config 95
  else match ofPath? p with
    | some layer => guess layer 80
    | none => match kind.bind ofKind? with
      | some layer => guess layer 60
      | none => guess infrastructure 30

end Layer

end RepoAtlas
