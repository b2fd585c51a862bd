import RepoAtlas.Text.Basic

/-!
# Lines

A line ends at a line feed, a carriage return, both together, or one of eight other separators.
The last line needs no end, and a text that ends in a separator has no empty line after it.
-/

namespace RepoAtlas.Text

def isLineBreak (c : Char) : Bool :=
  let n := c.toNat
  (10 ≤ n && n ≤ 13) || (28 ≤ n && n ≤ 30) || n == 0x85 || n == 0x2028 || n == 0x2029

/-- Lines of a text whose current line, read so far, is `line` in reverse. -/
def linesFrom (line : Text) : Text → List Text
  | [] => if line.isEmpty then [] else [line.reverse]
  | '\r' :: '\n' :: t => line.reverse :: linesFrom [] t
  | c :: t => if isLineBreak c then line.reverse :: linesFrom [] t else linesFrom (c :: line) t

def lines (t : Text) : List Text := linesFrom [] t

end RepoAtlas.Text
