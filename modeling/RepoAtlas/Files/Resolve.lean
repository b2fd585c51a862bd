import RepoAtlas.Files.Entry

/-!
# Resolving paths

Resolving replaces a path by one without links and dots. What does not exist is kept as it is, and
so is the rest of a path that runs into a circle of links.
-/

namespace RepoAtlas

/-- Why a path cannot be resolved. -/
inductive ResolveError where
  /-- Its links lead in a circle. -/
  | circular
  /-- Links lead to links more often than is followed. -/
  | tooDeep
  deriving DecidableEq, Repr

namespace Entry

/-- The entry at a place, no link being followed. -/
def at? (top : Entry) : (segments : List Text) → Option Entry
  | [] => some top
  | segment :: rest => match top with
    | folder children => match children.lookup segment with
      | some e => at? e rest
      | none => none
    | _ => none

/-- The path of a place, given by its segments, the last one first. -/
def pathOf (place : List Text) : Path :=
  match place with
  | [] => ['/']
  | _ => (place.reverse.map ('/' :: ·)).flatten

/-- The links met so far by their places, with the places they lead to where these are known. -/
abbrev KnownLinks := List (List Text × Option (List Text))

inductive Resolved where
  | whole (place : List Text)
  /-- A circle was met; the rest of the path is kept. -/
  | stuck (p : Path)

abbrev Resolution := Except ResolveError (Resolved × KnownLinks)

/-- Resolves segments from a place on; `enter` resolves the target of a link in the folder at a
place. -/
def advance (top : Entry) (enter : KnownLinks → (place : List Text) → (target : Path) → Resolution)
    (known : KnownLinks) (place : List Text) : List Text → Resolution
  | [] => .ok (.whole place, known)
  | segment :: rest =>
    if segment.isEmpty || segment == ['.'] then advance top enter known place rest
    else if segment == ['.', '.'] then advance top enter known place.tail rest
    else
      let next := segment :: place
      match top.at? next.reverse with
      | some (link target) => match known.lookup next with
        | some (some there) => advance top enter known there rest
        | some none => .ok (.stuck (Path.join (pathOf next) (Path.ofSegments rest)), known)
        | none => match enter ((next, none) :: known) place target with
          | .error e => .error e
          | .ok (.stuck p, known) => .ok (.stuck (Path.join p (Path.ofSegments rest)), known)
          | .ok (.whole there, known) =>
            advance top enter ((next, some there) :: known) there rest
      | _ => advance top enter known next rest

/-- Resolves a path from a place on, with links that lead to links at most `depth` times. -/
def enter (top : Entry) : (depth : Nat) → KnownLinks → (place : List Text) → Path → Resolution
  | 0, _, _, _ => .error .tooDeep
  | depth + 1, known, place, p =>
    advance top (enter top depth) known (if Text.startsWith "/" p then [] else place)
      (Path.segments p)

/-- How often links may lead to links. -/
def maxLinkDepth : Nat := 975

/-- The path without links and dots that a path leads to, as far as it exists. -/
def resolve (top : Entry) (p : Path) : Except ResolveError Path := do
  let (resolved, _) ← top.enter maxLinkDepth [] [] p
  let q := match resolved with
    | .whole place => pathOf place
    | .stuck q => Path.normalize q
  match top.locate q with
  | .error .tooManyLinks => .error .circular
  | _ => .ok q

end Entry

end RepoAtlas
