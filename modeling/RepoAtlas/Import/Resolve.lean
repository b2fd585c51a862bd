import RepoAtlas.Import.Basic
import RepoAtlas.Import.FileIndex

/-!
# Resolving imports

An import target is resolved to the id of at most one file. Targets that belong to no file of the
repository, such as those of foreign packages, resolve to nothing.
-/

namespace RepoAtlas.FileIndex

/-- The paths that a normalised path may stand for. The root itself only stands for files in it. -/
def spots (language : Language) (p : Path) : List Path :=
  if p == ['.'] then language.probes.filterMap (Text.after? ['/'])
  else p :: language.probes.map (p ++ ·)

/-- The first file that a path may stand for; none outside the repository. -/
def probe (index : FileIndex) (language : Language) (candidate : Path) : Option Text :=
  let p := Path.normalize candidate
  if p == ['.', '.'] || Text.startsWith "../" p then none
  else (spots language p).findSome? index.id?

def probeBelow (index : FileIndex) (language : Language) (target : Path) (roots : List Path) :
    Option Text :=
  roots.findSome? fun root => index.probe language (Path.join root target)

/-- Roots for targets that begin with an alias. -/
def aliasRoots : List Path := [[], "src".toList]

def resolveDotted (index : FileIndex) (language : Language) (folder target : Text) : Option Text :=
  let dots := target.takeWhile (· == '.')
  let file := Text.replaceChar '.' '/' (target.dropWhile (· == '.'))
  match dots with
  | [] => index.probeBelow language file ([] :: language.searchRoots)
  | _ :: climbs =>
    let base := Path.joinAll folder (climbs.map fun _ => ['.', '.'])
    index.probe language (Path.join base file)

/-- The nearest enclosing folder `src`, else `src` at the root. -/
def crateRoot (folder : Path) : Path :=
  match (Path.segments folder).reverse.dropWhile (· != "src".toList) with
  | [] => "src"
  | enclosing => Path.ofSegments enclosing.reverse

/-- The folder from which the segments of a nested target are followed, and those segments. -/
def nestedBase (folder : Path) (segments : List Text) : Path × List Text :=
  match segments with
  | [] => (folder, [])
  | head :: rest =>
    if head == "crate".toList then (crateRoot folder, rest)
    else if head == "super".toList then
      let supers := segments.takeWhile (· == "super".toList)
      (Path.joinAll folder (supers.map fun _ => ['.', '.']), segments.drop supers.length)
    else if head == "self".toList then (folder, rest)
    else (folder, segments)

/-- The last segment may name something inside the module. -/
def resolveNested (index : FileIndex) (language : Language) (folder target : Text) : Option Text :=
  let segments := ((Pattern.lit "::".toList).splitBy target).filter (!·.isEmpty)
  let (base, rest) := nestedBase folder segments
  ([rest, rest.dropLast].filter (!·.isEmpty)).findSome? fun segments =>
    index.probe language (Path.joinAll base segments)

/-- The file that stands for a folder: the one named like the folder, else the first that is no
test, else the first. -/
def packageFile (members : List Path) : Option Path :=
  members.head?.bind fun first =>
    let folder := Path.parent first
    let inside := members.filter fun m => Path.parent m == folder
    let named := inside.find? fun m => (Path.splitExtension (Path.name m)).1 == Path.name folder
    let untested := inside.find? fun m => !Text.occursIn "test" (Text.lower (Path.name m))
    named <|> untested <|> inside.head?

/-- The segments of a target that is the end of a path. -/
def moduleSegments (language : Language) (target : Text) : List Text :=
  let pieces :=
    if target.contains '/' || target.contains '\\' then
      Path.segments (Text.replaceChar '\\' '/' target)
    else Text.splitOn '.' target
  let segments := pieces.filter (!·.isEmpty)
  match segments.getLast? with
  | none => []
  | some last =>
    let (stem, ext) := Path.splitExtension last
    if !ext.isEmpty && language.extensions.contains (Text.lower ext) then
      segments.dropLast ++ [stem]
    else segments

/-- The ends of paths to look for: of the whole target, then without its last segment, which may
name a member of a file. -/
def moduleKeys (segments : List Text) : List Path :=
  if segments.length > 1 then endings segments ++ endings segments.dropLast else endings segments

/-- The file whose path ends in a key, else the file for a folder whose path does. -/
def fileFor (index : FileIndex) (language : Language) (key : Path) : Option Path :=
  (index.files.getD (language.name, key) []).head? <|>
    packageFile (index.folders.getD (language.name, key) [])

def resolveModule (index : FileIndex) (language : Language) (target : Text) : Option Text :=
  ((moduleKeys (moduleSegments language target)).findSome? (index.fileFor language)).bind
    fun file => index.ids[file]?

/-- The id of the file that an import target refers to from a source file. -/
def resolve (index : FileIndex) (language : Language) (source : Path) (path : Text) :
    Option Text :=
  let target := Text.trim path
  let folder := Path.parent source
  if target.isEmpty then none
  else match language.aliases.findSome? (Text.after? · target) with
    | some rest => index.probeBelow language rest aliasRoots
    | none =>
      if Text.startsWith "./" target || Text.startsWith "../" target
          || target == ['.'] || target == ['.', '.'] then
        index.probe language (Path.join folder target)
      else if Text.startsWith "/" target then
        index.probe language (target.dropWhile (· == '/'))
      else match language.strategy with
        | .relative => index.probeBelow language target language.searchRoots
        | .header => index.probeBelow language target (folder :: [] :: language.searchRoots)
        | .dotted => index.resolveDotted language folder target
        | .nested => index.resolveNested language folder target
        | .modulePath => index.resolveModule language target

end RepoAtlas.FileIndex
