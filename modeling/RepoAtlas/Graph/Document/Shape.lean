import RepoAtlas.Document.Value
import RepoAtlas.Graph.Basic
import RepoAtlas.Text.Quoted

/-!
# The shape of graph documents

The shape in which graphs are handed to other programs. A document may leave out what has a
default; `complete` fills it in, and leaves out what is null.
-/

namespace RepoAtlas

/-- Why a document is no graph. -/
inductive DocumentError where
  | missing (key : Text)
  /-- A table was expected where optional keys are looked up. -/
  | notATable
  /-- A table was expected where keys have to be there. -/
  | noKeys
  | notAList
  /-- An item of a list of pairs has another length. -/
  | notAPair (place length : Nat)
  /-- A list or a table stands for a key. -/
  | noKey
  /-- Keys of one table have no order among each other. -/
  | mixedKeys
  /-- A field has a value of another type. -/
  | wrongType
  deriving DecidableEq, Repr

namespace DocumentError

def message? : DocumentError → Option Text
  | missing key => some (Text.quoted key)
  | notAPair place length =>
    some ("dictionary update sequence element #".toList ++ Text.ofNat place ++
      " has length ".toList ++ Text.ofNat length ++ "; 2 is required".toList)
  | _ => none

end DocumentError

namespace GraphDocument

/-- A reader of a part of a document. -/
abbrev Reader := Value → Except DocumentError Value

structure Field where
  key : Text
  /-- What stands for a missing field; without it the field has to be there. -/
  default : Option Value := none
  read : Reader := .ok

/-- A field that has to be there. -/
def required (key : String) (read : Reader := .ok) : Field := { key := key.toList, read }

def withDefault (key : String) (default : Value) (read : Reader := .ok) : Field :=
  { key := key.toList, default := some default, read }

def optional (key : String) (read : Reader := .ok) : Field := withDefault key .null read

def Field.take (t : Table) (field : Field) : Except DocumentError (Text × Value) :=
  match (t.get? field.key).or field.default with
  | some v => (field.read v).map fun v => (field.key, v)
  | none => .error (.missing field.key)

/-- Reads the fields of a table, in order. -/
def record (other : DocumentError) (fields : List Field) : Value → Except DocumentError Table
  | .table t => fields.mapM (Field.take t)
  | _ => .error other

def isNull : Value → Bool
  | .null => true
  | _ => false

def withoutNulls (t : Table) : Table := t.filter fun (_, v) => !isNull v

/-- A record as it is. -/
def whole (fields : List Field) : Reader := fun v => (record .noKeys fields v).map .table

/-- A record without what is null. -/
def trimmed (other : DocumentError) (fields : List Field) : Reader := fun v =>
  (record other fields v).map fun t => .table (withoutNulls t)

def listOf : Reader := fun v =>
  match v.items? with
  | some vs => .ok (.list vs)
  | none => .error .notAList

/-- A list whose items are read one by one. -/
def each (read : Reader) : Reader := fun v =>
  match v.items? with
  | some vs => (vs.mapM read).map .list
  | none => .error .notAList

/-- How a key is written; lists and tables are none. -/
def keyText? : Value → Option Text
  | .text t => some t
  | .null => some "null".toList
  | .bool b => some (if b then "true" else "false").toList
  | .int n => some (Text.ofInt n)
  | .decimal d => some d.text
  | .special .undefined => some "NaN".toList
  | .special (.infinite negative) => some (if negative then "-Infinity" else "Infinity").toList
  | .special .negativeZero => some "-0.0".toList
  | _ => none

/-- A key and a value from an item of a list of pairs. -/
def pair (item : Value × Nat) : Except DocumentError (Value × Value) :=
  match item.1.items? with
  | none => .error .notAList
  | some [key, v] => if (keyText? key).isSome then .ok (key, v) else .error .noKey
  | some vs => .error (.notAPair item.2 vs.length)

/-- Sets an equal key in place, or adds the key at the end. -/
def putKey (key v : Value) : List (Value × Value) → List (Value × Value)
  | [] => [(key, v)]
  | (k, old) :: rest => if k.same key then (k, v) :: rest else (k, old) :: putKey key v rest

/-- The entries of a table or of a list of pairs. -/
def entriesOf : Value → Except DocumentError (List (Value × Value))
  | .table t => .ok (t.map fun (key, v) => (.text key, v))
  | v => match v.items? with
    | none => .error .notAList
    | some vs => (vs.zipIdx.mapM pair).map fun pairs =>
      pairs.foldl (fun entries (key, v) => putKey key v entries) []

/-- A table, or a list of pairs. -/
def tableOf : Reader := fun v =>
  (entriesOf v).map fun entries => .table (entries.map fun (key, v) => ((keyText? key).getD [], v))

def isText : Value → Bool
  | .text _ => true
  | _ => false

/-- Whether keys can be put in order: all are texts, or all are numbers, or there is only one. -/
def areOrdered (keys : List Value) : Bool :=
  keys.length ≤ 1 || keys.all isText || keys.all fun key => !isText key && !isNull key

/-- Whether the keys of an entry of a document, if it is a table at all, can be put in order. -/
def isOrderedAt (key : String) : Value → Bool
  | .table t => match (Table.get? t key.toList).map entriesOf with
    | some (.ok entries) => areOrdered (entries.map (·.1))
    | _ => true
  | _ => true

/-- Nothing for a blank value. -/
def unlessBlank (read : Reader) : Reader := fun v => if v.isBlank then .ok .null else read v

def metrics : Reader :=
  whole [required "linesOfCode", required "cyclomaticComplexity", required "commentRatio"]

def layer : Reader := whole [required "layer", required "confidence"]

def risk : Reader := whole [required "level", required "score", required "factors" listOf]

def node : Reader := trimmed .notATable [
  required "id", required "label", required "type", required "path",
  withDefault "riskLevel" (.text "low".toList), withDefault "fanIn" (.int 0),
  withDefault "fanOut" (.int 0), optional "moduleRole", withDefault "inCycle" (.bool false),
  optional "metrics" (unlessBlank metrics), optional "layerClassification" (unlessBlank layer),
  optional "riskDetail" (unlessBlank risk)]

def edge : Reader := trimmed .noKeys [
  required "id", required "source", required "target",
  withDefault "type" (.text "static".toList), optional "label",
  withDefault "imports" (.list []) listOf]

def frameworkVersion : Reader := trimmed .noKeys [required "name", optional "version"]

def architecture : Reader :=
  trimmed .noKeys [required "name", required "confidence", optional "hint"]

def insight : Reader := trimmed .noKeys [
  required "type", required "filePath", required "severity", required "message", optional "line"]

def cycle : Reader := whole [required "ids" listOf, required "pathLabels" listOf]

def stats : Reader := trimmed .notATable [
  withDefault "languages" (.table []) tableOf,
  optional "languageVersions" fun v =>
    if v.isBlank then .ok .null
    else (tableOf v).map fun t => if t.isBlank then .null else t,
  withDefault "frameworks" (.list []) listOf,
  withDefault "frameworkVersions" (.list []) (each frameworkVersion),
  withDefault "entryPoints" (.list []) listOf,
  withDefault "totalFiles" (.int 0),
  optional "primaryLanguage",
  withDefault "architecturalPatterns" (.list []) (each architecture),
  withDefault "truncated" (.bool false)]

/-- Reads a document and fills in what it leaves out. -/
def filled : Value → Except DocumentError Table := record .notATable [
  optional "stats" fun v => stats (if v.isBlank then .table [] else v),
  withDefault "nodes" (.list []) (each node),
  withDefault "edges" (.list []) (each edge),
  withDefault "circularDependencies" (.list []) (each cycle),
  withDefault "highFanInIds" (.list []) listOf,
  withDefault "highFanOutIds" (.list []) listOf,
  withDefault "securityInsights" (.list []) (each insight),
  withDefault "layerBreakdown" (.table []) tableOf,
  withDefault "codeQualityScore" (.int 100)]

/-- A field of a part of a document. -/
def fieldOf (v : Value) (key : Text) : Option Value :=
  match v with
  | .table t => Table.get? t key
  | _ => none

/-- Whether all tables that a document may write as lists of pairs have keys in some order. -/
def isOrdered (v : Value) : Bool :=
  let stats := (fieldOf v "stats").getD .null
  isOrderedAt "languages" stats && isOrderedAt "languageVersions" stats &&
    isOrderedAt "layerBreakdown" v

/-- Fills in what a document leaves out. -/
def complete (v : Value) : Except DocumentError Table := do
  let t ← filled v
  if isOrdered v then return t else throw .mixedKeys

/-- The nodes of a completed document. -/
def nodes (t : Table) : List Value :=
  match t.get? "nodes" with
  | some (.list vs) => vs
  | _ => []

/-- The extension of a node, by its label. -/
def extension (node : Value) : Except DocumentError Text :=
  match fieldOf node "label" with
  | some (.text label) => .ok (labelExtension label)
  | _ => .error .notATable

/-- The first node with an id. -/
def node? (t : Table) (id : Value) : Option Value :=
  (nodes t).find? fun node => match fieldOf node "id" with
    | some i => i.same id
    | none => false

end GraphDocument

end RepoAtlas
