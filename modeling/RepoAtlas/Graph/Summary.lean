import RepoAtlas.Graph.Basic

/-!
# Counts over a project
-/

namespace RepoAtlas

/-- Counts of texts, in order of first appearance. -/
abbrev Tally := List (Text × Int)

namespace Tally

def add (tally : Tally) (key : Text) : Tally :=
  match tally with
  | [] => [(key, 1)]
  | (k, n) :: rest => if k == key then (k, n + 1) :: rest else (k, n) :: add rest key

def ofList (keys : List Text) : Tally := keys.foldl add []

def sorted (tally : Tally) : Tally := tally.mergeSort fun a b => Text.le a.1 b.1

end Tally

/-- The number of nodes in each layer, layers in order of their names. -/
def Node.layerCounts (nodes : List Node) : Tally :=
  (Tally.ofList (nodes.filterMap fun node => node.layer.map (·.layer))).sorted

/-- Whether an entry comes before another one: more counts, or as many and a smaller name. -/
def Tally.leads (a b : Text × Int) : Bool :=
  decide (b.2 < a.2) || (a.2 == b.2 && Text.le a.1 b.1)

/-- The extension with the most files, of equal ones the first by name. Given the extensions of
source files, only these compete. -/
def primaryLanguage (languages : Tally) (supported : Option (List Text)) : Option Text :=
  let candidates := languages.filter fun (ext, _) => supported.all fun s => s.contains ext
  match candidates with
  | [] => none
  | first :: rest => some (rest.foldl (fun best c => if Tally.leads best c then best else c) first).1

end RepoAtlas
