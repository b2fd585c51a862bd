import RepoAtlas.Text.Blank
import RepoAtlas.Text.Case
import RepoAtlas.Text.Quoted

/-!
# Settings files

Files of sections with options, such as `[options]` followed by `name = value`. A value goes on
over the lines below it that are indented deeper; options of the section `DEFAULT` hold in every
section. Values may refer to other options as `%(name)s`; references are followed when a value is
asked for, and a faulty one is an error of its own.
-/

namespace RepoAtlas.Ini

/-- The options of a section in order of appearance, each with its lines, the last one first. -/
abbrev Options := List (Text × List Text)

structure Settings where
  defaults : Options := []
  sections : List (Text × Options) := []

def defaultSection : Text := "DEFAULT"

/-- Sets the value of a key, in place or at the end. -/
def put {α : Type} (key : Text) (v : α) : List (Text × α) → List (Text × α)
  | [] => [(key, v)]
  | (k, old) :: rest => if k == key then (k, v) :: rest else (k, old) :: put key v rest

namespace Settings

def options (s : Settings) (name : Text) : Options :=
  if name == defaultSection then s.defaults else (s.sections.lookup name).getD []

def setOptions (s : Settings) (name : Text) (options : Options) : Settings :=
  if name == defaultSection then { s with defaults := options }
  else { s with sections := put name options s.sections }

end Settings

/-- What is known while reading: the section and option that a deeper line would continue, and
the indentation it has to exceed. `seen` holds the options met so far with their sections. -/
structure Reader where
  settings : Settings := {}
  current : Option Text := none
  option : Option Text := none
  indent : Nat := 0
  seen : List (Text × Text) := []
  /-- A line that is neither a heading nor an option was met. -/
  faulty : Bool := false

namespace Reader

/-- Adds a line to the value that is being read. -/
def extend (r : Reader) (line : Text) : Reader :=
  match r.current, r.option with
  | some name, some option =>
    let options := r.settings.options name
    let lines := (options.lookup option).getD []
    { r with settings := r.settings.setOptions name (put option (line :: lines) options) }
  | _, _ => r

/-- The name in brackets at the start of a line, up to the last closing bracket. -/
def sectionName? : Text → Option Text
  | '[' :: t => match Text.cutLast? ']' t with
    | some ([], _) => none
    | some (name, _) => some name
    | none => none
  | _ => none

/-- An option and its value, divided by the first equals sign or colon. -/
def option? (t : Text) : Option (Text × Text) :=
  match t.span fun c => c != '=' && c != ':' with
  | (name, _ :: v) => some (Text.trimRight name, Text.trim v)
  | (_, []) => none

def openSection (r : Reader) (name : Text) : Option Reader :=
  if name == defaultSection then some { r with current := some name, option := none }
  else if (r.settings.sections.lookup name).isSome then none
  else some { r with
    settings := r.settings.setOptions name []
    current := some name
    option := none }

/-- A heading or an option; `none` for a repeated one or an option outside all sections. -/
def element (r : Reader) (t : Text) : Option Reader :=
  match sectionName? t with
  | some name => r.openSection name
  | none => match r.current with
    | none => none
    | some section_ => match option? t with
      | none => some { r with faulty := true }
      | some (name, v) =>
        let name := Text.lower name
        if r.seen.contains (section_, name) then none
        else some { r with
          settings := r.settings.setOptions section_ (put name [v] (r.settings.options section_))
          option := if name.isEmpty then none else some name
          seen := (section_, name) :: r.seen
          faulty := r.faulty || name.isEmpty }

def line (r : Reader) (raw : Text) : Option Reader :=
  let t := Text.trim raw
  match t with
  | [] => some (r.extend [])
  | c :: _ =>
    if c == '#' || c == ';' then some r
    else
      let indent := (raw.takeWhile Text.isBlank).length
      if r.current.isSome && r.option.isSome && r.indent < indent then some (r.extend t)
      else ({ r with indent } : Reader).element t

end Reader

/-- Reads a text; `none` when a line is faulty or a section or option is repeated. -/
def parse? (t : Text) : Option Settings := do
  let r ← (Text.splitOn '\n' t).foldlM Reader.line {}
  if r.faulty then none else some r.settings

/-- The value of an option before references are followed. -/
def joined (lines : List Text) : Text := Text.trimRight (List.intercalate ['\n'] lines.reverse)

def Settings.raw? (s : Settings) (name option : Text) : Option Text := do
  let options ← s.sections.lookup name
  let lines ← (options.lookup option).or (s.defaults.lookup option)
  return joined lines

/-- Why a reference in a value cannot be followed. -/
inductive ReferenceError where
  /-- A percent sign that starts no reference, with the rest of the value. -/
  | strayPercent (rest : Text)
  /-- A reference that is not closed, with the rest of the value. -/
  | unclosed (rest : Text)
  | missing (section_ option reference raw : Text)
  | tooDeep (section_ option raw : Text)
  deriving DecidableEq, Repr

/-- How many references may lead to one another. -/
def maxDepth : Nat := 10

def ReferenceError.message : ReferenceError → Text
  | strayPercent rest => "'%' must be followed by '%' or '(', found: " ++ Text.quoted rest
  | unclosed rest => "bad interpolation variable reference " ++ Text.quoted rest
  | missing section_ option reference raw =>
    "Bad value substitution: option " ++ Text.quoted option ++ " in section " ++
      Text.quoted section_ ++ " contains an interpolation key " ++ Text.quoted reference ++
      " which is not a valid option name. Raw value: " ++ Text.quoted raw
  | tooDeep section_ option raw =>
    "Recursion limit exceeded in value substitution: option " ++ Text.quoted option ++
      " in section " ++ Text.quoted section_ ++
      " contains an interpolation key which cannot be substituted in " ++ Text.ofNat maxDepth ++
      " steps. Raw value: " ++ Text.quoted raw

/-- Expands the references in a text, where `follow` gives the text for a name. -/
def expandWith (follow : Text → Except ReferenceError Text) (done : Text) :
    (fuel : Nat) → Text → Except ReferenceError Text
  | 0, _ => .ok done.reverse
  | _, [] => .ok done.reverse
  | fuel + 1, c :: t =>
    if c != '%' then expandWith follow (c :: done) fuel t
    else match t with
      | '%' :: t => expandWith follow ('%' :: done) fuel t
      | '(' :: t => match t.span (· != ')') with
        | ([], _) => .error (.unclosed (c :: '(' :: t))
        | (name, ')' :: 's' :: rest) => match follow name with
          | .error e => .error e
          | .ok s => expandWith follow (s.reverse ++ done) fuel rest
        | _ => .error (.unclosed (c :: '(' :: t))
      | t => .error (.strayPercent (c :: t))

/-- Expands a text at a depth of references, counted down from `maxDepth`. -/
def expand (s : Settings) (section_ option raw : Text) :
    (depth : Nat) → Text → Except ReferenceError Text
  | 0, _ => .error (.tooDeep section_ option raw)
  | depth + 1, t =>
    expandWith (fun name =>
      let reference := Text.lower name
      match s.raw? section_ reference with
      | none => .error (.missing section_ option reference raw)
      | some v => if v.contains '%' then expand s section_ option raw depth v else .ok v)
      [] (t.length + 1) t

/-- The value of an option with its references followed; `none` when there is no such option. -/
def Settings.get? (s : Settings) (section_ option : Text) : Except ReferenceError (Option Text) :=
  match s.raw? section_ option with
  | none => .ok none
  | some raw => (expand s section_ option raw maxDepth raw).map some

end RepoAtlas.Ini
