import RepoAtlas.Number.Shortest
import RepoAtlas.Text.Basic

/-!
# Documents

The value type shared by all structured formats: what a reader of one of them gives back. Tables
keep their keys in order of first appearance.
-/

namespace RepoAtlas

inductive Value where
  | null
  | bool (b : Bool)
  | int (n : Int)
  /-- A number with a fraction, as the shortest decimal that is stored alike. -/
  | decimal (d : Decimal)
  | special (x : SpecialNumber)
  | text (t : Text)
  /-- A date, a time of day or both. -/
  | moment
  | list (items : List Value)
  | table (entries : List (Text × Value))
  deriving Inhabited

/-- The entries of a table; each key occurs once. -/
abbrev Table := List (Text × Value)

namespace Table

def get? (t : Table) (key : Text) : Option Value := t.lookup key

/-- Sets a key in place, or adds it at the end. -/
def put (t : Table) (key : Text) (v : Value) : Table :=
  match t with
  | [] => [(key, v)]
  | (k, old) :: rest => if k == key then (k, v) :: rest else (k, old) :: put rest key v

end Table

namespace Value

/-- Empty and zero values count as absent where a format allows a default. -/
def isBlank : Value → Bool
  | null => true
  | bool b => !b
  | int n => n == 0
  | decimal d => d.coefficient == 0
  | special x => x == .negativeZero
  | text t => t.isEmpty
  | moment => false
  | list items => items.isEmpty
  | table entries => entries.isEmpty

def ofRatio : Ratio → Value
  | .decimal d => decimal d
  | .special x => special x

/-- The value of a decimal that was written with or without a minus sign. -/
def ofDecimal (negative : Bool) (d : Decimal) : Value :=
  match d.stored? with
  | none => special (.infinite negative)
  | some d =>
    if d.coefficient != 0 then decimal d
    else if negative then special .negativeZero
    else decimal d

/-- The grains of a finite number; a truth value counts as zero or one. -/
def grains? : Value → Option Int
  | bool b => some (if b then Number.unit else 0)
  | int n => some (n * Number.unit)
  | decimal d => (Decimal.storedGrains? d.coefficient.natAbs d.exponent).map fun g =>
    if d.coefficient < 0 then -g else g
  | special .negativeZero => some 0
  | _ => none

mutual

/-- Whether two values are equal: numbers by what they amount to, tables in any order of their
keys. A number that is undefined equals nothing. -/
def same : Value → Value → Bool
  | null, null => true
  | text a, text b => a == b
  | moment, moment => true
  | special (.infinite a), special (.infinite b) => a == b
  | list a, list b => sameItems a b
  | table a, table b => a.length == b.length && sameEntries a b
  | a, b => match a.grains?, b.grains? with
    | some x, some y => x == y
    | _, _ => false

def sameItems : List Value → List Value → Bool
  | [], [] => true
  | a :: as, b :: bs => same a b && sameItems as bs
  | _, _ => false

/-- Whether each entry has an equal one under the same key. -/
def sameEntries : List (Text × Value) → List (Text × Value) → Bool
  | [], _ => true
  | (key, a) :: as, bs => (match bs.lookup key with
    | some b => same a b
    | none => false) && sameEntries as bs

end

/-- The items of a value: of a list its members, of a text its characters, of a table its keys. -/
def items? : Value → Option (List Value)
  | list vs => some vs
  | text t => some (t.map fun c => text [c])
  | table entries => some (entries.map fun (key, _) => text key)
  | _ => none

end Value

/-- Why a structured text cannot be read. -/
inductive SyntaxError where
  | malformed
  /-- Nested beyond what the reader follows. -/
  | tooDeep
  /-- An integer with more than `maxDigits` digits. -/
  | hugeInteger (digits : Nat)
  deriving DecidableEq, Repr

namespace SyntaxError

/-- The longest integer that is read. -/
def maxDigits : Nat := 4300

end SyntaxError

end RepoAtlas
