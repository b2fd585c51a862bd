import RepoAtlas.Document.Ini
import RepoAtlas.Document.Value

/-!
# Faults of manifests
-/

namespace RepoAtlas

/-- Why a manifest that is well formed as a document cannot be read. -/
inductive ManifestError where
  /-- A table was expected. -/
  | notATable
  /-- Something with items was expected. -/
  | notAList
  | tooDeep
  | hugeInteger (digits : Nat)
  | reference (e : Ini.ReferenceError)
  /-- Reading a script takes more room than there is. -/
  | exhausted
  deriving DecidableEq, Repr

namespace ManifestError

def hugeIntegerMessage (digits : Nat) : Text :=
  "Exceeds the limit (".toList ++ Text.ofNat SyntaxError.maxDigits ++
    " digits) for integer string conversion: value has ".toList ++ Text.ofNat digits ++
    " digits; use sys.set_int_max_str_digits() to increase the limit".toList

/-- Whether a manifest with a fault counts as one that says nothing. -/
def isTolerated : ManifestError → Bool
  | reference _ => false
  | exhausted => false
  | _ => true

/-- The explanation of a fault, where there is one beyond its kind. -/
def message? : ManifestError → Option Text
  | hugeInteger digits => some (hugeIntegerMessage digits)
  | reference e => some e.message
  | _ => none

end ManifestError

namespace Document

/-- A document that is no document at all counts as absent; other faults are kept. -/
def orAbsent {α : Type} (r : Except SyntaxError α) : Except ManifestError (Option α) :=
  match r with
  | .ok v => .ok (some v)
  | .error .malformed => .ok none
  | .error .tooDeep => .error .tooDeep
  | .error (.hugeInteger digits) => .error (.hugeInteger digits)

/-- The entries of a value that has to be a table. -/
def table : Value → Except ManifestError Table
  | .table entries => .ok entries
  | _ => .error .notATable

/-- The table under a key, empty when the key is missing. -/
def subtable (t : Table) (key : Text) : Except ManifestError Table :=
  match t.get? key with
  | none => .ok []
  | some v => table v

/-- The items of a value that has to have some. -/
def items (v : Value) : Except ManifestError (List Value) :=
  match v.items? with
  | some vs => .ok vs
  | none => .error .notAList

/-- The texts among some values. -/
def texts (vs : List Value) : List Text :=
  vs.filterMap fun v => match v with
    | .text t => some t
    | _ => none

/-- The items under a key, none when the key is missing. -/
def itemsAt (t : Table) (key : Text) : Except ManifestError (List Value) :=
  match t.get? key with
  | none => .ok []
  | some v => items v

end Document

end RepoAtlas
