import RepoAtlas.Files.Entry
import Std.Data.HashMap

/-!
# The cache of texts

A text is read when it is first asked for and kept until the cache is cleared, whatever happens to
the file. A file that cannot be read counts as empty. No file has a null character in its path, and
a path that has one is refused.
-/

namespace RepoAtlas

/-- Why a path gives no text. -/
inductive ReadError where
  | file (e : FileError)
  | nullCharacter
  deriving DecidableEq, Repr

def ReadError.message (p : Path) : ReadError → Text
  | file e => e.message p
  | nullCharacter => "embedded null byte"

/-- Whether a path has a null character. -/
def Path.hasNull (p : Path) : Bool := p.contains '\x00'

/-- The text of the file at a path, which may be any text. -/
def Entry.openText (top : Entry) (p : Path) : Except ReadError Text :=
  if p.hasNull then .error .nullCharacter else (top.readText p).mapError .file

structure Cache where
  texts : Std.HashMap Path Text := ∅

namespace Cache

/-- The text of a file, read with `read` unless it is known. -/
def get (read : Path → Except FileError Text) (cache : Cache) (p : Path) : Text × Cache :=
  match cache.texts[p]? with
  | some t => (t, cache)
  | none =>
    let t := match read p with
      | .ok t => t
      | .error _ => []
    (t, { texts := cache.texts.insert p t })

/-- The text of a file that was asked for before. -/
def find? (cache : Cache) (p : Path) : Option Text := cache.texts[p]?

def contains (cache : Cache) (p : Path) : Bool := cache.texts.contains p

def size (cache : Cache) : Nat := cache.texts.size

/-- The text at a path, which may be any text. -/
def fetch (top : Entry) (cache : Cache) (p : Path) : Except ReadError (Text × Cache) :=
  if !cache.contains p && p.hasNull then .error .nullCharacter
  else .ok (cache.get top.readText p)

def clear (_ : Cache) : Cache := {}

/-- Reads all of the given files. -/
def getAll (read : Path → Except FileError Text) (cache : Cache) (ps : List Path) : Cache :=
  ps.foldl (fun cache p => (cache.get read p).2) cache

end Cache

end RepoAtlas
