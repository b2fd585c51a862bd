import RepoAtlas.Text.CharName.Abjads
import RepoAtlas.Text.CharName.Alphabets
import RepoAtlas.Text.CharName.Antiquity
import RepoAtlas.Text.CharName.EastAsia
import RepoAtlas.Text.CharName.Forms
import RepoAtlas.Text.CharName.Further
import RepoAtlas.Text.CharName.Hieroglyphs
import RepoAtlas.Text.CharName.Mathematics
import RepoAtlas.Text.CharName.Phrases
import RepoAtlas.Text.CharName.Pictographs
import RepoAtlas.Text.CharName.Punctuation
import RepoAtlas.Text.CharName.Shapes
import RepoAtlas.Text.CharName.Syllabaries
import RepoAtlas.Text.CharTable
import Std.Data.HashMap

/-!
# Names of characters

A character by its name. Most names are in tables, and small letters count as capital ones there.
The names of ideographs hold the number of the character, and the names of Hangul syllables are
put together from the names of their sounds.
-/

namespace RepoAtlas.CharName

/-! ## Names in tables -/

/-- Words that have a sign of their own in the tables. -/
def signs : List (Char × String) :=
  [('!', " LETTER "), ('#', " WITH "), ('$', "CAPITAL"), ('%', "SMALL"), ('&', "SIGN"),
   ('\'', "RIGHT"), ('(', "LEFT"), (')', " AND "), ('*', " ARROW"), ('+', "DOUBLE"),
   (',', " ABOVE"), ('.', " ITALIC "), ('/', " TIMES "), (':', "WARDS"), (';', " SYMBOL"),
   ('<', "VERTICAL"), ('=', "MIDDLE "), ('>', "BLACK"), ('?', "DIGIT "), ('@', " BELOW"),
   ('[', "HORIZONTAL"), (']', " MARK"), ('^', "DOWN"), ('_', " ISOLATED"), ('|', "EIGHT"),
   ('~', "WHITE")]

/-- The numbers of the phrases' signs, in their order. -/
def phraseSigns : List Nat :=
  [(0xa2, 0xac), (0xae, 0x2ff), (0x391, 0x3a1), (0x3a3, 0x481), (0x48a, 0x52f), (0x531, 0x556),
   (0x561, 0x587)].flatMap fun (first, last) => List.range' first (last + 1 - first)

/-- The names of all characters in rising order, from that of the blank on. What a name has in
common with the one before it, at its start and at its end, is left out. A small letter in front
says how many signs that are at the start, `a` for none, `b` for one and so on, and a second small
letter says how many they are at the end, if there are any. After an inverted exclamation mark
comes the number of characters without a name that follow. -/
def tables : List String :=
  alphabets ++ abjads ++ syllabaries ++ punctuation ++ shapes ++ eastAsia ++ forms ++ antiquity ++
    hieroglyphs ++ mathematics ++ pictographs

/-- Phrases by the numbers of their signs. -/
abbrev Phrases := Std.HashMap Nat Text

/-- A text with phrases in the place of their signs. -/
def Phrases.expand (phrases : Phrases) (t : Text) : Text :=
  t.flatMap fun c => phrases.getD c.toNat [c]

/-- The phrases of some lines. One may hold the signs of those before it. -/
def phrasesOf (lines : List String) : Phrases :=
  (phraseSigns.zip (Text.splitOn '\x60' (lines.flatMap String.toList))).foldl
    (fun phrases (sign, phrase) => phrases.insert sign (phrases.expand phrase)) ∅

/-- An entry of the tables: how much of the name before it is kept, and what comes between and
after it, in reverse. -/
structure Entry where
  front : Nat
  back : Nat := 0
  middle : Text := []

def countOf (c : Char) : Nat := c.toNat - 'a'.toNat

/-- The entries of a table, of which some are done and one is being read. -/
def entriesFrom (done : List Entry) (entry : Entry) : Text → List Entry
  | [] => (entry :: done).reverse
  | c :: t =>
    if !c.isLower then entriesFrom done { entry with middle := c :: entry.middle } t
    else if entry.middle.isEmpty && entry.back == 0 then
      entriesFrom done { entry with back := countOf c } t
    else entriesFrom (entry :: done) { front := countOf c } t

def entriesOf : Text → List Entry
  | [] => []
  | c :: t => entriesFrom [] { front := countOf c } t

/-- An entry with what it has in common with the name before it, and how many characters without a
name follow. -/
def Entry.complete (entry : Entry) (before : Text) : Text × Nat :=
  let (middle, gap) := entry.middle.reverse.span (· != '¡')
  (before.take entry.front ++ middle ++ before.drop (before.length - entry.back),
    gap.tail.foldl (fun n c => 10 * n + (c.toNat - '0'.toNat)) 0)

/-- A name with words in the place of signs. -/
def spelled (name : Text) : String :=
  String.ofList (name.flatMap fun c => ((signs.lookup c).map String.toList).getD [c])

abbrev Names := Std.HashMap String Nat

/-- Adds the names of entries, of which the first is that of `code`. -/
def addNames : (code : Nat) → (before : Text) → Names → List Entry → Names
  | _, _, names, [] => names
  | code, before, names, entry :: entries =>
    let (name, gap) := entry.complete before
    addNames (code + 1 + gap) name (names.insert (spelled name) code) entries

/-- All names in tables with the numbers of their characters. -/
def names : Thunk Names := Thunk.mk fun _ =>
  let further := (furtherNames ++ selectorNames).foldl (fun names (code, line) =>
    (Text.splitOn '|' line.toList).foldl
      (fun names name => names.insert (String.ofList name) code) names) ∅
  let entries := entriesOf ((phrasesOf phraseLines).expand (tables.flatMap String.toList))
  addNames ' '.toNat [] further entries

/-! ## Names with numbers -/

/-- A number in hexadecimal digits with capital letters, at least four of them. -/
def hexText (n : Nat) : Text :=
  let digits := (Nat.toDigits 16 n).map Char.toUpper
  List.replicate (4 - digits.length) '0' ++ digits

/-- The characters named by a kind and their number. -/
def numbered : List (Text × CharTable) :=
  [("CJK COMPATIBILITY IDEOGRAPH-", #[(0xf900, 0xfa6d), (0xfa70, 0xfad9), (0x2f800, 0x2fa1d)]),
   ("KHITAN SMALL SCRIPT CHARACTER-", #[(0x18b00, 0x18cd5)]),
   ("NUSHU CHARACTER-", #[(0x1b170, 0x1b2fb)])]

/-- The ideographs that may be written with zeros in front of their number. -/
def ideographs : CharTable := #[
    (0x3400, 0x4dbf), (0x4e00, 0x9fff), (0x20000, 0x2a6df), (0x2a700, 0x2b738), (0x2b740, 0x2b81d),
    (0x2b820, 0x2cea1), (0x2ceb0, 0x2ebe0), (0x30000, 0x3134a)]

def hexDigit? (c : Char) : Option Nat :=
  if c.isDigit then some (c.toNat - 48)
  else if 'A' ≤ c && c ≤ 'F' then some (c.toNat - 55)
  else none

/-- The value of hexadecimal digits with capital letters, four or five of them. -/
def hexNumber? (digits : Text) : Option Nat :=
  if digits.length == 4 || digits.length == 5 then
    digits.foldlM (fun n c => (hexDigit? c).map (16 * n + ·)) 0
  else none

def numbered? (name : Text) : Option Nat :=
  numbered.findSome? fun (kind, table) => do
    let digits ← Text.after? kind name
    let n ← hexNumber? digits
    if table.containsCode n && hexText n == digits then some n else none

def ideograph? (digits : Text) : Option Nat := do
  let n ← hexNumber? digits
  if ideographs.containsCode n then some n else none

/-! ## Hangul syllables -/

def leadingSounds : List Text :=
  ["G", "GG", "N", "D", "DD", "R", "M", "B", "BB", "S", "SS", "", "J", "JJ", "C", "K", "T", "P",
    "H"]

def vowels : List Text :=
  ["A", "AE", "YA", "YAE", "EO", "E", "YEO", "YE", "O", "WA", "WAE", "OE", "YO", "U", "WEO", "WE",
   "WI", "YU", "EU", "YI", "I"]

def trailingSounds : List Text :=
  ["", "G", "GG", "GS", "N", "NJ", "NH", "D", "L", "LG", "LM", "LB", "LS", "LT", "LP", "LH", "M",
   "B", "BS", "S", "SS", "NG", "J", "C", "K", "T", "P", "H"]

/-- The longest of some sounds that a text starts with: its place in the list and what follows
it. -/
def longestSound? (sounds : List Text) (t : Text) : Option (Nat × Text) :=
  let fits := sounds.zipIdx.filterMap fun (sound, i) => (Text.after? sound t).map (i, ·)
  fits.foldl (fun best fit => match best with
    | none => some fit
    | some b => if fit.2.length < b.2.length then some fit else some b) none

/-- The syllable that some sounds make. -/
def syllable? (t : Text) : Option Nat := do
  let (l, t) ← longestSound? leadingSounds t
  let (v, t) ← longestSound? vowels t
  let (s, t) ← longestSound? trailingSounds t
  if t.isEmpty then some (0xac00 + (l * vowels.length + v) * trailingSounds.length + s) else none

/-! ## Looking names up -/

/-- The character with a name. -/
def char? (name : Text) : Option Char :=
  let code := match Text.after? "HANGUL SYLLABLE " name with
    | some sounds => syllable? sounds
    | none => match Text.after? "CJK UNIFIED IDEOGRAPH-" name with
      | some digits => ideograph? digits
      | none =>
        let name := name.map Char.toUpper
        (numbered? name).or (names.get.get? (String.ofList name))
  code.map Char.ofNat

end RepoAtlas.CharName
