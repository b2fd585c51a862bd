import RepoAtlas.Script.Token
import RepoAtlas.Script.Tree

/-!
# Depth of scripts

Two bounds hold for scripts whose constructs nest without brackets. While a script is read, each
open construct of a chain such as `- - - x` or `a if b else a if b else c` takes up room, of which
there is only so much (`exhaustsRoom`). And a tree must not be deeper than `maxDepth`, be it of a
chain that takes no room at all, such as `1 + 1 + 1` (`Tree.deeperThan`).
-/

namespace RepoAtlas.Script

/-! ## Room -/

/-- The room that is there for open constructs. -/
def room : Nat := 5960

/-- The open constructs at one level of brackets. -/
structure Chain where
  /-- The room of choices and of functions without a name. -/
  choices : Nat := 0
  /-- The room of signs and powers around the operand that comes next or came last. -/
  signs : Nat := 0

/-- What is open at a place of a script. -/
structure Climb where
  chain : Chain := {}
  /-- The chains outside of the brackets that are open here. -/
  outer : List Chain := []
  /-- An operand comes next. -/
  expecting : Bool := true
  /-- A line starts here. -/
  lineStart : Bool := true
  /-- How many alternatives of a conditional statement precede, by indentation. -/
  alternatives : List Nat := [0]
  /-- The most room taken so far. -/
  peak : Nat := 0

namespace Climb

def openingSigns : List String := ["(", "[", "\x7b"]

def closingSigns : List String := [")", "]", "\x7d"]

/-- Signs after which no chain goes on. -/
def dividingSigns : List String := [",", ";", "=", ":=", "->"]

def constants : List String := ["None", "True", "False"]

/-- Counts an alternative at the start of a line; any other statement ends the count. -/
def startLine (s : Climb) (token : Token) : Climb :=
  if !s.lineStart then s
  else match token, s.alternatives with
    | .indent, levels => { s with alternatives := 0 :: levels }
    | .dedent, levels => { s with alternatives := levels.tail }
    | .keyword "elif", n :: levels => { s with alternatives := (n + 1) :: levels, lineStart := false }
    | _, _ :: levels => { s with alternatives := 0 :: levels, lineStart := false }
    | _, [] => { s with lineStart := false }

/-- An operator or a word after which an operand has to follow. -/
def expect (s : Climb) (chain : Chain) : Climb := { s with chain, expecting := true }

def read (s : Climb) (token : Token) : Climb :=
  let c := s.chain
  match token with
  | .newline => { s.expect {} with lineStart := true }
  | .op sign =>
    if openingSigns.contains sign then { s.expect {} with outer := c :: s.outer }
    else if closingSigns.contains sign then
      { s with chain := s.outer.headD {}, outer := s.outer.tail, expecting := false }
    else if sign == "**" then s.expect { c with signs := c.signs + 2 }
    else if dividingSigns.contains sign then s.expect {}
    else if s.expecting then s.expect { c with signs := c.signs + 1 }
    else s.expect { c with signs := 0 }
  | .keyword word =>
    if constants.contains word then { s with expecting := false }
    else if word == "not" && s.expecting then s.expect { c with signs := c.signs + 1 }
    else if word == "lambda" then s.expect ⟨c.choices + 2, 0⟩
    else if word == "else" then s.expect ⟨c.choices + 1, 0⟩
    else s.expect { c with signs := 0 }
  | .indent | .dedent | .stop => s
  | _ => { s with expecting := false }

def step (s : Climb) (token : Token) : Climb :=
  let s := (s.startLine token).read token
  { s with peak := max s.peak (s.chain.choices + s.chain.signs + s.alternatives.headD 0) }

end Climb

/-- Whether reading a script takes more room than there is. -/
def exhaustsRoom (ts : List Token) : Bool := decide (room < (ts.foldl Climb.step {}).peak)

/-! ## Depth -/

/-- The depth of the deepest tree. -/
def maxDepth : Nat := 2960

namespace Tree

mutual

/-- Whether a tree is deeper than a limit; brackets add nothing to its depth. -/
def deeperThan : Tree → (limit : Nat) → Bool
  | group inner, n => inner.deeperThan n
  | _, 0 => true
  | name _, _ + 1 => false
  | text _, _ + 1 => false
  | member object _, n + 1 => object.deeperThan n
  | item object index, n + 1 => object.deeperThan n || index.deeperThan n
  | starred inner, n + 1 => inner.deeperThan n
  | tuple items, n + 1 => anyDeeperThan items n
  | list items, n + 1 => anyDeeperThan items n
  | call callee args keywords, n + 1 =>
    callee.deeperThan n || anyDeeperThan args n || anyDeeperThan keywords n
  | keyword _ value, n + 1 => value.deeperThan n
  | node parts, n + 1 => anyDeeperThan parts n

def anyDeeperThan : List Tree → (limit : Nat) → Bool
  | [], _ => false
  | t :: ts, n => t.deeperThan n || anyDeeperThan ts n

end

end Tree

end RepoAtlas.Script
