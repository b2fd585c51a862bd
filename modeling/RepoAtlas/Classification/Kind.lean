import RepoAtlas.Path
import RepoAtlas.Pattern.Build

/-!
# Kinds of files

A file is classified by an ordered list of rules on its name, its folders and, for components, its
text; the first rule that applies decides.
-/

namespace RepoAtlas

inductive Kind where
  | file | component | hook | util | api | config | model | test | middleware | service
  deriving DecidableEq, Repr

namespace Kind

open Pattern

def name : Kind → Text
  | file => "file"
  | component => "component"
  | hook => "hook"
  | util => "util"
  | api => "api"
  | config => "config"
  | model => "model"
  | test => "test"
  | middleware => "middleware"
  | service => "service"

def all : List Kind :=
  [file, component, hook, util, api, config, model, test, middleware, service]

def ofName? (t : Text) : Option Kind := all.find? (·.name == t)

/-- The folders of a path, in lower case. -/
def folders (p : Path) : List Text :=
  ((Path.segments (Path.parent p)).filter (!·.isEmpty)).map Text.lower

/-- Whether a path lies in a folder of one of the given names. -/
def inFolder (names : List String) (p : Path) : Bool :=
  (folders p).any fun folder => names.any fun n => n.toList == folder

def isLetterUpper (c : Char) : Bool := 'A' ≤ c && c ≤ 'Z'

/-! ## Tests -/

def wordSuffix : Pattern := inOrder [".", many1 Text.isWord, textEnd]

def testNames : List Pattern := [
  inOrder [textStart, "test_", many notNewline, ".py", textEnd],
  inOrder ["_test", wordSuffix],
  inOrder [".", oneOf ["test", "spec"], wordSuffix],
  inOrder [textStart, many1 notNewline, "Test", opt "s", ".",
    oneOf ["java", "kt", "cs", "swift", "scala"], textEnd],
  inOrder ["_spec.rb", textEnd]]

def isTest (filename : Text) (p : Path) : Bool :=
  testNames.any (·.occursIn filename) ||
    inFolder ["test", "tests", "__tests__", "__test__", "spec", "specs", "testing", "e2e"] p

/-! ## Configuration -/

def configFiles : List Text :=
  ["settings.py".toList, "config.py".toList, "conf.py".toList, "conftest.py".toList,
    "config.go".toList, "constants.ts".toList, "env.ts".toList, "env.js".toList]

def configNames : List Pattern := [
  inOrder [oneOf [textStart, one (anyOf ".-_")], "config.",
    oneOf ["js", "ts", "mjs", "cjs", "mts", "cts", "json"], textEnd],
  inOrder [textStart, ".", many1 Text.isWord, "rc.", oneOf ["js", "cjs", "ts"], textEnd]]

def isConfig (filename : Text) (p : Path) : Bool :=
  configFiles.contains filename || configNames.any (·.occursIn filename) ||
    inFolder ["config", "configs", "configuration", "settings"] p

/-! ## Kinds known by a word in the name -/

/-- Whether a name contains one of some words, in any case. -/
def hasWord (words : List String) (stem : Text) : Bool :=
  words.any fun w => (anyCase w.toList).occursIn stem

def isApi (stem : Text) (p : Path) : Bool :=
  inFolder ["api", "apis", "routes", "routers", "controllers", "handlers", "endpoints",
    "resolvers"] p ||
  hasWord ["controller", "route", "router", "handler", "endpoint", "resolver"] stem ||
  ((anyCase "api".toList).match? stem).isSome

def isMiddleware (stem : Text) (p : Path) : Bool :=
  inFolder ["middleware", "middlewares", "interceptors", "guards"] p ||
  hasWord ["middleware", "interceptor", "guard"] stem

def isModel (stem : Text) (p : Path) : Bool :=
  inFolder ["models", "model", "entities", "entity", "schemas", "schema", "dto", "dtos"] p ||
  hasWord ["model", "schema", "entity", "dto"] stem

def isService (stem : Text) (p : Path) : Bool :=
  inFolder ["services", "service", "repositories", "usecases", "use_cases"] p ||
  hasWord ["service", "repository", "usecase"] stem

def isUtil (stem : Text) (p : Path) : Bool :=
  inFolder ["utils", "util", "helpers", "helper", "lib", "libs", "common", "shared"] p ||
  hasWord ["util", "helper"] stem

/-! ## Hooks and components -/

def hookName : Pattern :=
  inOrder ["use", one fun c => isLetterUpper c || c == '_' || c == '-']

def isOneOf (ext : Text) (extensions : List String) : Bool :=
  extensions.any fun e => e.toList == ext

def isHook (stem ext : Text) : Bool :=
  isOneOf ext [".js", ".jsx", ".ts", ".tsx"] && (hookName.match? stem).isSome

/-- Exports of something whose name starts like a component's. -/
def componentExports : List Pattern :=
  let export_ (middle : Pattern) : Pattern :=
    inOrder ["export", blank, middle, blank, one isLetterUpper]
  [export_ (inOrder [opt (inOrder ["default", blank]), "function"]),
    export_ (oneOf ["const", "let", "var"]),
    export_ (inOrder ["default", blank, "class"])]

def isComponent (ext content : Text) : Bool :=
  isOneOf ext [".vue", ".svelte"] ||
  isOneOf ext [".jsx", ".tsx"] && componentExports.any (·.occursIn content)

/-- The kind of a file, by its name, its path and its text. -/
def classify (filename : Text) (p : Path) (content : Text) : Kind :=
  let stem := (Path.splitExtension filename).1
  let ext := Text.lower (Path.splitExtension filename).2
  if isTest filename p then test
  else if isConfig filename p then config
  else if isApi stem p then api
  else if isMiddleware stem p then middleware
  else if isModel stem p then model
  else if isService stem p then service
  else if isHook stem ext then hook
  else if isComponent ext content then component
  else if isUtil stem p then util
  else file

end Kind

end RepoAtlas
