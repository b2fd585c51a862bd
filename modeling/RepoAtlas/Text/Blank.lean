import RepoAtlas.Text.Basic

/-!
# White space

The white space of Unicode together with the four separators U+001C to U+001F.
-/

namespace RepoAtlas.Text

def isBlank (c : Char) : Bool :=
  let n := c.toNat
  if n < 128 then (9 ≤ n && n ≤ 13) || (28 ≤ n && n ≤ 32)
  else n == 0x85 || n == 0xa0 || n == 0x1680 || (0x2000 ≤ n && n ≤ 0x200a) ||
    n == 0x2028 || n == 0x2029 || n == 0x202f || n == 0x205f || n == 0x3000

def trimLeft (t : Text) : Text := t.dropWhile isBlank

def trimRight (t : Text) : Text := (t.reverse.dropWhile isBlank).reverse

def trim (t : Text) : Text := dropBoth isBlank t

end RepoAtlas.Text
