import RepoAtlas.Text.Word
import RepoAtlas.Text.Blank

/-!
# Patterns

Patterns describe pieces of text and are matched by trying alternatives in order: an earlier
alternative wins, a greedy repetition prefers more rounds, a lazy one fewer. A matcher receives
what is left to do as a function and gives way when that fails, so the first complete way to
match is the answer.
-/

namespace RepoAtlas

/-- A place in a text: what was passed, nearest character first, and what is ahead. -/
structure Cursor where
  before : Text
  ahead : Text
  position : Nat

namespace Cursor

def start (t : Text) : Cursor := ⟨[], t, 0⟩

def next? (c : Cursor) : Option (Char × Cursor) :=
  match c.ahead with
  | [] => none
  | x :: ahead => some (x, ⟨x :: c.before, ahead, c.position + 1⟩)

/-- Steps over a given text. -/
def eat? : Text → Cursor → Option Cursor
  | [], c => some c
  | x :: t, c => match c.ahead with
    | [] => none
    | y :: ahead => if x == y then eat? t ⟨y :: c.before, ahead, c.position + 1⟩ else none

/-- Steps over the longest run of characters in a class and counts them. -/
def run (p : Char → Bool) (before : Text) (position count : Nat) : Text → Cursor × Nat
  | [] => (⟨before, [], position⟩, count)
  | x :: ahead =>
    if p x then run p (x :: before) (position + 1) (count + 1) ahead
    else (⟨before, x :: ahead, position⟩, count)

/-- One character back. -/
def back (c : Cursor) : Cursor :=
  match c.before with
  | [] => c
  | x :: before => ⟨before, x :: c.ahead, c.position - 1⟩

/-- Whether the character passed last lies in a class; false at the start. -/
def behind (p : Char → Bool) (c : Cursor) : Bool :=
  match c.before with
  | [] => false
  | x :: _ => p x

/-- Whether the next character lies in a class; false at the end. -/
def facing (p : Char → Bool) (c : Cursor) : Bool :=
  match c.ahead with
  | [] => false
  | x :: _ => p x

end Cursor

/-- A named piece of a match: the text from where it starts and its length. -/
structure Capture where
  name : String
  source : Text
  length : Nat

def Capture.text (c : Capture) : Text := c.source.take c.length

inductive Pattern where
  /-- The empty text. -/
  | empty
  | lit (text : Text)
  /-- One character of a class. -/
  | one (p : Char → Bool)
  /-- Any number of characters of a class, as many as possible. -/
  | many (p : Char → Bool)
  /-- All characters of a class that are ahead, and never fewer. -/
  | whole (p : Char → Bool)
  /-- Any number of characters of the class `p`, as few as possible, up to a character of the
  class `stop` or to the end of the text. -/
  | few (p stop : Char → Bool)
  /-- A condition on the place, which consumes nothing. -/
  | here (p : Cursor → Bool)
  | seq (first second : Pattern)
  | alt (first second : Pattern)
  /-- Any number of rounds, as many as possible. -/
  | star (body : Pattern)
  /-- Any number of rounds, as few as possible. -/
  | starLazy (body : Pattern)
  | capture (name : String) (body : Pattern)

namespace Pattern

/-- What a matcher has gathered: the place and the captures, latest first. -/
structure State where
  cursor : Cursor
  captures : List Capture

abbrev Rest := State → Option State

abbrev Matcher := State → Rest → Option State

/-- Tries the rest of the work at the end of a run of characters, then at each place before it. -/
def backOff (captures : List Capture) (k : Rest) : Nat → Cursor → Option State
  | 0, c => k ⟨c, captures⟩
  | n + 1, c => match k ⟨c, captures⟩ with
    | some s => some s
    | none => backOff captures k n c.back

/-- Tries the rest of the work here, then after each further character of the class `p`, but
only where a character of the class `stop` or the end follows. -/
def goOn (p stop : Char → Bool) (captures : List Capture) (k : Rest) (before : Text)
    (position : Nat) : Text → Option State
  | [] => k ⟨⟨before, [], position⟩, captures⟩
  | x :: ahead =>
    match if stop x then k ⟨⟨before, x :: ahead, position⟩, captures⟩ else none with
    | some s => some s
    | none => if p x then goOn p stop captures k (x :: before) (position + 1) ahead else none

/-- Rounds of a matcher, at most as many as `ahead` has characters; a round has to consume
something. -/
def greedyRounds (m : Matcher) : (ahead : Text) → Matcher
  | [], s, k => k s
  | _ :: ahead, s, k =>
    match m s (fun s' =>
        if s.cursor.position < s'.cursor.position then greedyRounds m ahead s' k else none) with
    | some r => some r
    | none => k s

def lazyRounds (m : Matcher) : (ahead : Text) → Matcher
  | [], s, k => k s
  | _ :: ahead, s, k => match k s with
    | some r => some r
    | none => m s (fun s' =>
        if s.cursor.position < s'.cursor.position then lazyRounds m ahead s' k else none)

def run : Pattern → Matcher
  | empty, s, k => k s
  | lit t, s, k => match s.cursor.eat? t with
    | some c => k ⟨c, s.captures⟩
    | none => none
  | one p, s, k => match s.cursor.next? with
    | some (x, c) => if p x then k ⟨c, s.captures⟩ else none
    | none => none
  | many p, s, k =>
    let (c, count) := Cursor.run p s.cursor.before s.cursor.position 0 s.cursor.ahead
    backOff s.captures k count c
  | whole p, s, k =>
    k ⟨(Cursor.run p s.cursor.before s.cursor.position 0 s.cursor.ahead).1, s.captures⟩
  | few p stop, s, k => goOn p stop s.captures k s.cursor.before s.cursor.position s.cursor.ahead
  | here p, s, k => if p s.cursor then k s else none
  | seq a b, s, k => run a s (fun s' => run b s' k)
  | alt a b, s, k => match run a s k with
    | some r => some r
    | none => run b s k
  | star a, s, k => greedyRounds (run a) s.cursor.ahead s k
  | starLazy a, s, k => lazyRounds (run a) s.cursor.ahead s k
  | capture name a, s, k =>
    run a s (fun s' => k ⟨s'.cursor,
      ⟨name, s.cursor.ahead, s'.cursor.position - s.cursor.position⟩ :: s'.captures⟩)

end Pattern

/-- A match: where it starts, the cursor after it, and its captures. -/
structure Match where
  first : Cursor
  last : Cursor
  captures : List Capture

namespace Match

def text (m : Match) : Text := m.first.ahead.take (m.last.position - m.first.position)

/-- The text of a capture that took part in the match. -/
def get? (m : Match) (name : String) : Option Text :=
  (m.captures.find? (·.name == name)).map Capture.text

/-- The text of a capture, empty when it took no part. -/
def get (m : Match) (name : String) : Text := (m.get? name).getD []

end Match

namespace Pattern

/-- Matches at a place. -/
def matchAt? (p : Pattern) (c : Cursor) : Option Match :=
  (p.run ⟨c, []⟩ some).map fun s => ⟨c, s.cursor, s.captures⟩

/-- The first match at or after a place; `ahead` is what lies ahead of it. -/
def searchFrom? (p : Pattern) (before : Text) (position : Nat) : (ahead : Text) → Option Match
  | [] => p.matchAt? ⟨before, [], position⟩
  | x :: ahead => match p.matchAt? ⟨before, x :: ahead, position⟩ with
    | some m => some m
    | none => searchFrom? p (x :: before) (position + 1) ahead

def match? (p : Pattern) (t : Text) : Option Match := p.matchAt? (Cursor.start t)

def search? (p : Pattern) (t : Text) : Option Match := p.searchFrom? [] 0 t

def occursIn (p : Pattern) (t : Text) : Bool := (p.search? t).isSome

/-- Successive matches from a place on, each starting where the one before ended; after an empty
match the search goes on one character later. -/
def matchesFrom (p : Pattern) : (limit : Nat) → Cursor → List Match → List Match
  | 0, _, found => found.reverse
  | n + 1, c, found => match p.searchFrom? c.before c.position c.ahead with
    | none => found.reverse
    | some m =>
      if m.first.position < m.last.position then matchesFrom p n m.last (m :: found)
      else match m.last.next? with
        | none => (m :: found).reverse
        | some (_, c') => matchesFrom p n c' (m :: found)

def findAll (p : Pattern) (t : Text) : List Match :=
  p.matchesFrom (t.length + 1) (Cursor.start t) []

/-- The pieces of a text between the matches of a pattern. -/
def splitBy (p : Pattern) (t : Text) : List Text :=
  let rec pieces (c : Cursor) : List Match → List Text
    | [] => [c.ahead]
    | m :: rest => c.ahead.take (m.first.position - c.position) :: pieces m.last rest
  pieces (Cursor.start t) (p.findAll t)

/-- The part in front of the first match, or all of it. -/
def upTo (p : Pattern) (t : Text) : Text :=
  match p.search? t with
  | some m => t.take m.first.position
  | none => t

end Pattern

end RepoAtlas
