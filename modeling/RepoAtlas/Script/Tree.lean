import RepoAtlas.Text.Basic

/-!
# Syntax trees of scripts

Only what is asked of scripts is told apart: names, members, calls with their named arguments,
strings and sequences. All other constructs are nodes that keep their parts in order, so that the
whole tree can be walked level by level.
-/

namespace RepoAtlas.Script

inductive Tree where
  | name (id : Text)
  /-- A member `object.field`. -/
  | member (object : Tree) (field : Text)
  /-- An item `object[index]`. -/
  | item (object index : Tree)
  | starred (inner : Tree)
  | tuple (items : List Tree)
  | list (items : List Tree)
  | call (callee : Tree) (args : List Tree) (keywords : List Tree)
  /-- A named argument, or with no name the entries of a table. -/
  | keyword (name : Option Text) (value : Tree)
  | text (t : Text)
  /-- An expression in brackets, which is no node of its own. -/
  | group (inner : Tree)
  | node (parts : List Tree)

namespace Tree

/-- An expression without brackets around it. -/
def ungroup : Tree → Tree
  | group inner => inner.ungroup
  | t => t

/-- A list of levels beside another one, level by level. -/
def beside {α : Type} : List (List α) → List (List α) → List (List α)
  | [], ys => ys
  | xs, [] => xs
  | x :: xs, y :: ys => (x ++ y) :: beside xs ys

mutual

/-- The nodes of a tree by their depth; within one depth from left to right. -/
def levels : Tree → List (List Tree)
  | t@(name _) => [[t]]
  | t@(member object _) => [t] :: object.levels
  | t@(item object index) => [t] :: beside object.levels index.levels
  | t@(starred inner) => [t] :: inner.levels
  | t@(tuple items) => [t] :: levelsAll items
  | t@(list items) => [t] :: levelsAll items
  | t@(call callee args keywords) =>
    [t] :: beside callee.levels (beside (levelsAll args) (levelsAll keywords))
  | t@(keyword _ value) => [t] :: value.levels
  | t@(text _) => [[t]]
  | group inner => inner.levels
  | t@(node parts) => [t] :: levelsAll parts

def levelsAll : List Tree → List (List Tree)
  | [] => []
  | t :: ts => beside t.levels (levelsAll ts)

end

/-- All nodes, level by level from the root. -/
def walk (t : Tree) : List Tree := t.levels.flatten

/-- The name of what is called: a plain name or a member of a plain name. -/
def calleeName? (callee : Tree) : Option Text :=
  match callee.ungroup with
  | name id => some id
  | member object field => match object.ungroup with
    | name id => some (id ++ '.' :: field)
    | _ => none
  | _ => none

/-- The strings among the items of a list or tuple. -/
def strings (t : Tree) : List Text :=
  let texts (items : List Tree) : List Text := items.filterMap fun item => match item.ungroup with
    | text s => some s
    | _ => none
  match t.ungroup with
  | list items => texts items
  | tuple items => texts items
  | _ => []

/-- The first named argument with a given name. -/
def argument? (wanted : Text) (keywords : List Tree) : Option Tree :=
  keywords.findSome? fun k => match k with
    | keyword (some id) value => if id == wanted then some value else none
    | _ => none

end Tree

end RepoAtlas.Script
