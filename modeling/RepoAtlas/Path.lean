import RepoAtlas.Text.Case

/-!
# Paths

Paths are texts with slashes between their segments. Joining and normalising only look at the
text; nothing here asks whether a file exists.
-/

namespace RepoAtlas

abbrev Path := Text

namespace Path

def segments (p : Path) : List Text := Text.splitOn '/' p

def ofSegments (segments : List Text) : Path := List.intercalate ['/'] segments

/-- What follows the last slash. -/
def name (p : Path) : Text := (p.reverse.takeWhile (· != '/')).reverse

/-- What precedes the last slash, without slashes at its end unless it has nothing else. -/
def parent (p : Path) : Path :=
  let head := p.take (p.length - (name p).length)
  if head.all (· == '/') then head else (head.reverse.dropWhile (· == '/')).reverse

/-- A path below another one; an absolute path stays as it is. -/
def join (base p : Path) : Path :=
  match p with
  | '/' :: _ => p
  | _ => match base.getLast? with
    | none => p
    | some c => if c == '/' then base ++ p else base ++ '/' :: p

def joinAll (base : Path) (ps : List Path) : Path := ps.foldl join base

/-- A path below another one without empty and `.` segments; `..` is kept. -/
def below (base p : Path) : Path :=
  base ++ (((segments p).filter fun s => !s.isEmpty && s != ['.']).map ('/' :: ·)).flatten

/-- Takes one segment of a relative path onto those taken so far, last one first. -/
def step (absolute : Bool) (taken : List Text) (segment : Text) : List Text :=
  if segment.isEmpty || segment == ['.'] then taken
  else if segment != ['.', '.'] then segment :: taken
  else match taken with
    | [] => if absolute then [] else [segment]
    | last :: rest => if last == ['.', '.'] then segment :: taken else rest

/-- Two slashes at the start are kept, more count as one. -/
def leadingSlashes : Path → Text
  | '/' :: '/' :: '/' :: _ => ['/']
  | '/' :: '/' :: _ => ['/', '/']
  | '/' :: _ => ['/']
  | _ => []

/-- Resolves empty, `.` and `..` segments as far as the text allows. -/
def normalize (p : Path) : Path :=
  let slashes := leadingSlashes p
  let taken := (segments p).foldl (step (!slashes.isEmpty)) []
  match slashes ++ ofSegments taken.reverse with
  | [] => ['.']
  | q => q

/-- A path without its extension, and the extension with its dot. Dots at the start of the last
segment begin no extension. -/
def splitExtension (p : Path) : Path × Text :=
  let file := name p
  match Text.cutLast? '.' file with
  | none => (p, [])
  | some (stem, ext) =>
    if stem.all (· == '.') then (p, [])
    else (p.take (p.length - ext.length - 1), '.' :: ext)

/-- The part of a file name from its last dot on, unless the dot is first or last. -/
def suffix (file : Text) : Text :=
  match Text.cutLast? '.' file with
  | none => []
  | some (stem, ext) => if stem.isEmpty || ext.isEmpty then [] else '.' :: ext

end Path

end RepoAtlas
