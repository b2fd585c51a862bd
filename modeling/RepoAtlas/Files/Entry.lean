import RepoAtlas.Files.Encoding
import RepoAtlas.Path
import RepoAtlas.Text.Quoted

/-!
# Files, folders and links

A file system is a folder. Paths are followed from the top of it; links lead on to where they
point, a limited number of times.
-/

namespace RepoAtlas

inductive Entry where
  | file (bytes : Encoding.Bytes)
  | folder (children : List (Text × Entry))
  | link (target : Path)
  deriving Inhabited

/-- Why a file or folder cannot be reached, read or made. -/
inductive FileError where
  | notFound
  | exists_
  | notAFolder
  | isAFolder
  | nameTooLong
  | tooManyLinks
  deriving DecidableEq, Repr

namespace FileError

def code : FileError → Nat
  | notFound => 2
  | exists_ => 17
  | notAFolder => 20
  | isAFolder => 21
  | nameTooLong => 36
  | tooManyLinks => 40

def reason : FileError → Text
  | notFound => "No such file or directory"
  | exists_ => "File exists"
  | notAFolder => "Not a directory"
  | isAFolder => "Is a directory"
  | nameTooLong => "File name too long"
  | tooManyLinks => "Too many levels of symbolic links"

def message (e : FileError) (p : Path) : Text :=
  "[Errno ".toList ++ Text.ofNat e.code ++ "] ".toList ++ e.reason ++ ": ".toList ++ Text.quoted p

end FileError

namespace Entry

mutual

/-- The number of entries, the entry itself included. -/
def size : Entry → Nat
  | file _ => 1
  | link _ => 1
  | folder children => 1 + sizeAll children

def sizeAll : List (Text × Entry) → Nat
  | [] => 0
  | (_, e) :: rest => size e + sizeAll rest

end

/-! ## Following paths -/

/-- The folders passed on the way down and the entry reached, innermost first, with their names. -/
abbrev Trail := List (Text × Entry)

/-- Where a walk ends: at an entry, at a link that has to be followed, in a folder that lacks a
name, or nowhere. -/
inductive Stop where
  | arrived (trail : Trail)
  | linked (trail : Trail) (target : Path) (rest : List Text)
  | missing (trail : Trail) (name : Text) (rest : List Text)
  | failed (e : FileError)

/-- The entry at the end of a trail. -/
def reached (top : Entry) : Trail → Entry
  | [] => top
  | (_, e) :: _ => e

def byteLength (t : Text) : Nat := t.foldl (fun n c => n + c.utf8Size) 0

/-- Whether a name has more bytes than names may have. -/
def isLongName (name : Text) : Bool := decide (255 < byteLength name)

/-- Whether a path has more bytes than paths may have. -/
def isLongPath (p : Path) : Bool := decide (4095 < byteLength p)

/-- Follows segments down from the end of a trail, up to the first link. -/
def stroll (top : Entry) (trail : Trail) : List Text → Stop
  | [] => .arrived trail
  | segment :: rest => match reached top trail with
    | folder children =>
      if segment.isEmpty || segment == ['.'] then stroll top trail rest
      else if segment == ['.', '.'] then stroll top trail.tail rest
      else if isLongName segment then .failed .nameTooLong
      else match children.lookup segment with
        | none => .missing trail segment rest
        | some (link target) => .linked trail target rest
        | some e => stroll top ((segment, e) :: trail) rest
    | _ => .failed .notAFolder

/-- Where a link starts: at the folder it is in, or at the top. -/
def linkStart (trail : Trail) (target : Path) : Trail :=
  if Text.startsWith "/" target then [] else trail

/-- What a path leads to: an entry, or a name that a folder does not have yet. -/
inductive Place where
  | taken (trail : Trail)
  | free (trail : Trail) (name : Text)

/-- Follows segments and links, at most `links` of these, to a place. -/
def seek (top : Entry) : (links : Nat) → Trail → List Text → Except FileError Place
  | links, trail, segments => match stroll top trail segments with
    | .arrived trail => .ok (.taken trail)
    | .missing trail name [] => .ok (.free trail name)
    | .missing .. => .error .notFound
    | .failed e => .error e
    | .linked trail target rest => match links with
      | 0 => .error .tooManyLinks
      | links + 1 => seek top links (linkStart trail target) (Path.segments target ++ rest)

/-- Follows segments and links, at most `links` of these, to an entry. -/
def follow (top : Entry) (links : Nat) (trail : Trail) (segments : List Text) :
    Except FileError Trail := do
  match ← top.seek links trail segments with
  | .taken trail => .ok trail
  | .free .. => .error .notFound

/-- The most links that are followed for one path. -/
def maxLinks : Nat := 40

def locate (top : Entry) (p : Path) : Except FileError Trail :=
  if isLongPath p then .error .nameTooLong else top.follow maxLinks [] (Path.segments p)

def isFolder (top : Entry) (p : Path) : Bool :=
  match (top.locate p).map top.reached with
  | .ok (folder _) => true
  | _ => false

/-- The bytes of the file that a path leads to. -/
def readBytes (top : Entry) (p : Path) : Except FileError Encoding.Bytes := do
  match top.reached (← top.locate p) with
  | file bytes => .ok bytes
  | folder _ => .error .isAFolder
  | link _ => .error .tooManyLinks

def readText (top : Entry) (p : Path) : Except FileError Text :=
  (top.readBytes p).map Encoding.decode

/-- The children of the folder that a path leads to. -/
def list (top : Entry) (p : Path) : Except FileError (List (Text × Entry)) := do
  match top.reached (← top.locate p) with
  | folder children => .ok children
  | _ => .error .notAFolder

end Entry

end RepoAtlas
