import RepoAtlas.Files.Cache
import RepoAtlas.Files.Change

/-!
# Sessions

A file system and a cache of its texts, and what is done with them one step after the other. The
cache is not told when files change.
-/

namespace RepoAtlas

structure Session where
  files : Entry
  cache : Cache := {}

namespace Session

inductive Step where
  /-- A change of the file system, such as `Change.put` and `Change.remove`. -/
  | change (c : Change Unit)
  | get (p : Path)
  | clear
  | contains (p : Path)
  | size

inductive Answer where
  | changed (result : Except ChangeError Unit)
  | text (result : Except ReadError Text)
  | cleared
  | held (isHeld : Bool)
  | count (n : Nat)
  deriving Repr

def step (s : Session) : Step → Session × Answer
  | .change c =>
    let (result, files) := c.run.run s.files
    ({ s with files }, .changed result)
  | .get p => match s.cache.fetch s.files p with
    | .ok (t, cache) => ({ s with cache }, .text (.ok t))
    | .error e => (s, .text (.error e))
  | .clear => ({ s with cache := s.cache.clear }, .cleared)
  | .contains p => (s, .held (s.cache.contains p))
  | .size => (s, .count s.cache.size)

/-- The session after some steps, and their answers. -/
def run (s : Session) : List Step → Session × List Answer
  | [] => (s, [])
  | x :: steps =>
    let (s', answer) := s.step x
    let (final, answers) := run s' steps
    (final, answer :: answers)

end Session

end RepoAtlas
