import RepoAtlas.Text.Word

/-!
# Names in scripts

Which characters make up a name, and the plain spelling of a name: letters that are mere forms of
ASCII letters, such as wide or bold ones, count as those letters. Other letters stay as they are,
so two names with the same plain spelling in ASCII are the same name. The tables follow version
14 of the Unicode character data.
-/

namespace RepoAtlas.Script

/-- Characters of words that are not part of a name: numbers that are no digits, and a few letters
whose plain form has a space in it. -/
def outsideNames : CharTable := #[
    (0xb2, 0xb3), (0xb9, 0xb9), (0xbc, 0xbe), (0x37a, 0x37a), (0x9f4, 0x9f9), (0xb72, 0xb77),
    (0xbf0, 0xbf2), (0xc78, 0xc7e), (0xd58, 0xd5e), (0xd70, 0xd78), (0xf2a, 0xf33),
    (0x1372, 0x137c), (0x17f0, 0x17f9), (0x2070, 0x2070), (0x2074, 0x2079), (0x2080, 0x2089),
    (0x2150, 0x215f), (0x2189, 0x2189), (0x2460, 0x249b), (0x24ea, 0x24ff), (0x2776, 0x2793),
    (0x2cfd, 0x2cfd), (0x2e2f, 0x2e2f), (0x3192, 0x3195), (0x3220, 0x3229), (0x3248, 0x324f),
    (0x3251, 0x325f), (0x3280, 0x3289), (0x32b1, 0x32bf), (0xa830, 0xa835), (0xfc5e, 0xfc63),
    (0xfdfa, 0xfdfb), (0xfe70, 0xfe70), (0xfe72, 0xfe72), (0xfe74, 0xfe74), (0xfe76, 0xfe76),
    (0xfe78, 0xfe78), (0xfe7a, 0xfe7a), (0xfe7c, 0xfe7c), (0xfe7e, 0xfe7e), (0x10107, 0x10133),
    (0x10175, 0x10178), (0x1018a, 0x1018b), (0x102e1, 0x102fb), (0x10320, 0x10323),
    (0x10858, 0x1085f), (0x10879, 0x1087f), (0x108a7, 0x108af), (0x108fb, 0x108ff),
    (0x10916, 0x1091b), (0x109bc, 0x109bd), (0x109c0, 0x109cf), (0x109d2, 0x109ff),
    (0x10a40, 0x10a48), (0x10a7d, 0x10a7e), (0x10a9d, 0x10a9f), (0x10aeb, 0x10aef),
    (0x10b58, 0x10b5f), (0x10b78, 0x10b7f), (0x10ba9, 0x10baf), (0x10cfa, 0x10cff),
    (0x10e60, 0x10e7e), (0x10f1d, 0x10f26), (0x10f51, 0x10f54), (0x10fc5, 0x10fcb),
    (0x11052, 0x11065), (0x111e1, 0x111f4), (0x1173a, 0x1173b), (0x118ea, 0x118f2),
    (0x11c5a, 0x11c6c), (0x11fc0, 0x11fd4), (0x16b5b, 0x16b61), (0x16e80, 0x16e96),
    (0x1d2e0, 0x1d2f3), (0x1d360, 0x1d378), (0x1e8c7, 0x1e8cf), (0x1ec71, 0x1ecab),
    (0x1ecad, 0x1ecaf), (0x1ecb1, 0x1ecb4), (0x1ed01, 0x1ed2d), (0x1ed2f, 0x1ed3d),
    (0x1f100, 0x1f10c) ]

/-- Characters that are part of a name and not of a word. Most are marks that go with a letter. -/
def nameMarks : CharTable := #[
    (0xb7, 0xb7), (0x300, 0x36f), (0x387, 0x387), (0x483, 0x487), (0x591, 0x5bd), (0x5bf, 0x5bf),
    (0x5c1, 0x5c2), (0x5c4, 0x5c5), (0x5c7, 0x5c7), (0x610, 0x61a), (0x64b, 0x65f),
    (0x670, 0x670), (0x6d6, 0x6dc), (0x6df, 0x6e4), (0x6e7, 0x6e8), (0x6ea, 0x6ed),
    (0x711, 0x711), (0x730, 0x74a), (0x7a6, 0x7b0), (0x7eb, 0x7f3), (0x7fd, 0x7fd),
    (0x816, 0x819), (0x81b, 0x823), (0x825, 0x827), (0x829, 0x82d), (0x859, 0x85b),
    (0x898, 0x89f), (0x8ca, 0x8e1), (0x8e3, 0x903), (0x93a, 0x93c), (0x93e, 0x94f),
    (0x951, 0x957), (0x962, 0x963), (0x981, 0x983), (0x9bc, 0x9bc), (0x9be, 0x9c4),
    (0x9c7, 0x9c8), (0x9cb, 0x9cd), (0x9d7, 0x9d7), (0x9e2, 0x9e3), (0x9fe, 0x9fe),
    (0xa01, 0xa03), (0xa3c, 0xa3c), (0xa3e, 0xa42), (0xa47, 0xa48), (0xa4b, 0xa4d),
    (0xa51, 0xa51), (0xa70, 0xa71), (0xa75, 0xa75), (0xa81, 0xa83), (0xabc, 0xabc),
    (0xabe, 0xac5), (0xac7, 0xac9), (0xacb, 0xacd), (0xae2, 0xae3), (0xafa, 0xaff),
    (0xb01, 0xb03), (0xb3c, 0xb3c), (0xb3e, 0xb44), (0xb47, 0xb48), (0xb4b, 0xb4d),
    (0xb55, 0xb57), (0xb62, 0xb63), (0xb82, 0xb82), (0xbbe, 0xbc2), (0xbc6, 0xbc8),
    (0xbca, 0xbcd), (0xbd7, 0xbd7), (0xc00, 0xc04), (0xc3c, 0xc3c), (0xc3e, 0xc44),
    (0xc46, 0xc48), (0xc4a, 0xc4d), (0xc55, 0xc56), (0xc62, 0xc63), (0xc81, 0xc83),
    (0xcbc, 0xcbc), (0xcbe, 0xcc4), (0xcc6, 0xcc8), (0xcca, 0xccd), (0xcd5, 0xcd6),
    (0xce2, 0xce3), (0xd00, 0xd03), (0xd3b, 0xd3c), (0xd3e, 0xd44), (0xd46, 0xd48),
    (0xd4a, 0xd4d), (0xd57, 0xd57), (0xd62, 0xd63), (0xd81, 0xd83), (0xdca, 0xdca),
    (0xdcf, 0xdd4), (0xdd6, 0xdd6), (0xdd8, 0xddf), (0xdf2, 0xdf3), (0xe31, 0xe31),
    (0xe34, 0xe3a), (0xe47, 0xe4e), (0xeb1, 0xeb1), (0xeb4, 0xebc), (0xec8, 0xecd),
    (0xf18, 0xf19), (0xf35, 0xf35), (0xf37, 0xf37), (0xf39, 0xf39), (0xf3e, 0xf3f),
    (0xf71, 0xf84), (0xf86, 0xf87), (0xf8d, 0xf97), (0xf99, 0xfbc), (0xfc6, 0xfc6),
    (0x102b, 0x103e), (0x1056, 0x1059), (0x105e, 0x1060), (0x1062, 0x1064), (0x1067, 0x106d),
    (0x1071, 0x1074), (0x1082, 0x108d), (0x108f, 0x108f), (0x109a, 0x109d), (0x135d, 0x135f),
    (0x1712, 0x1715), (0x1732, 0x1734), (0x1752, 0x1753), (0x1772, 0x1773), (0x17b4, 0x17d3),
    (0x17dd, 0x17dd), (0x180b, 0x180d), (0x180f, 0x180f), (0x1885, 0x1886), (0x18a9, 0x18a9),
    (0x1920, 0x192b), (0x1930, 0x193b), (0x1a17, 0x1a1b), (0x1a55, 0x1a5e), (0x1a60, 0x1a7c),
    (0x1a7f, 0x1a7f), (0x1ab0, 0x1abd), (0x1abf, 0x1ace), (0x1b00, 0x1b04), (0x1b34, 0x1b44),
    (0x1b6b, 0x1b73), (0x1b80, 0x1b82), (0x1ba1, 0x1bad), (0x1be6, 0x1bf3), (0x1c24, 0x1c37),
    (0x1cd0, 0x1cd2), (0x1cd4, 0x1ce8), (0x1ced, 0x1ced), (0x1cf4, 0x1cf4), (0x1cf7, 0x1cf9),
    (0x1dc0, 0x1dff), (0x203f, 0x2040), (0x2054, 0x2054), (0x20d0, 0x20dc), (0x20e1, 0x20e1),
    (0x20e5, 0x20f0), (0x2118, 0x2118), (0x212e, 0x212e), (0x2cef, 0x2cf1), (0x2d7f, 0x2d7f),
    (0x2de0, 0x2dff), (0x302a, 0x302f), (0x3099, 0x309a), (0xa66f, 0xa66f), (0xa674, 0xa67d),
    (0xa69e, 0xa69f), (0xa6f0, 0xa6f1), (0xa802, 0xa802), (0xa806, 0xa806), (0xa80b, 0xa80b),
    (0xa823, 0xa827), (0xa82c, 0xa82c), (0xa880, 0xa881), (0xa8b4, 0xa8c5), (0xa8e0, 0xa8f1),
    (0xa8ff, 0xa8ff), (0xa926, 0xa92d), (0xa947, 0xa953), (0xa980, 0xa983), (0xa9b3, 0xa9c0),
    (0xa9e5, 0xa9e5), (0xaa29, 0xaa36), (0xaa43, 0xaa43), (0xaa4c, 0xaa4d), (0xaa7b, 0xaa7d),
    (0xaab0, 0xaab0), (0xaab2, 0xaab4), (0xaab7, 0xaab8), (0xaabe, 0xaabf), (0xaac1, 0xaac1),
    (0xaaeb, 0xaaef), (0xaaf5, 0xaaf6), (0xabe3, 0xabea), (0xabec, 0xabed), (0xfb1e, 0xfb1e),
    (0xfe00, 0xfe0f), (0xfe20, 0xfe2f), (0xfe33, 0xfe34), (0xfe4d, 0xfe4f), (0xff3f, 0xff3f),
    (0x101fd, 0x101fd), (0x102e0, 0x102e0), (0x10376, 0x1037a), (0x10a01, 0x10a03),
    (0x10a05, 0x10a06), (0x10a0c, 0x10a0f), (0x10a38, 0x10a3a), (0x10a3f, 0x10a3f),
    (0x10ae5, 0x10ae6), (0x10d24, 0x10d27), (0x10eab, 0x10eac), (0x10f46, 0x10f50),
    (0x10f82, 0x10f85), (0x11000, 0x11002), (0x11038, 0x11046), (0x11070, 0x11070),
    (0x11073, 0x11074), (0x1107f, 0x11082), (0x110b0, 0x110ba), (0x110c2, 0x110c2),
    (0x11100, 0x11102), (0x11127, 0x11134), (0x11145, 0x11146), (0x11173, 0x11173),
    (0x11180, 0x11182), (0x111b3, 0x111c0), (0x111c9, 0x111cc), (0x111ce, 0x111cf),
    (0x1122c, 0x11237), (0x1123e, 0x1123e), (0x112df, 0x112ea), (0x11300, 0x11303),
    (0x1133b, 0x1133c), (0x1133e, 0x11344), (0x11347, 0x11348), (0x1134b, 0x1134d),
    (0x11357, 0x11357), (0x11362, 0x11363), (0x11366, 0x1136c), (0x11370, 0x11374),
    (0x11435, 0x11446), (0x1145e, 0x1145e), (0x114b0, 0x114c3), (0x115af, 0x115b5),
    (0x115b8, 0x115c0), (0x115dc, 0x115dd), (0x11630, 0x11640), (0x116ab, 0x116b7),
    (0x1171d, 0x1172b), (0x1182c, 0x1183a), (0x11930, 0x11935), (0x11937, 0x11938),
    (0x1193b, 0x1193e), (0x11940, 0x11940), (0x11942, 0x11943), (0x119d1, 0x119d7),
    (0x119da, 0x119e0), (0x119e4, 0x119e4), (0x11a01, 0x11a0a), (0x11a33, 0x11a39),
    (0x11a3b, 0x11a3e), (0x11a47, 0x11a47), (0x11a51, 0x11a5b), (0x11a8a, 0x11a99),
    (0x11c2f, 0x11c36), (0x11c38, 0x11c3f), (0x11c92, 0x11ca7), (0x11ca9, 0x11cb6),
    (0x11d31, 0x11d36), (0x11d3a, 0x11d3a), (0x11d3c, 0x11d3d), (0x11d3f, 0x11d45),
    (0x11d47, 0x11d47), (0x11d8a, 0x11d8e), (0x11d90, 0x11d91), (0x11d93, 0x11d97),
    (0x11ef3, 0x11ef6), (0x16af0, 0x16af4), (0x16b30, 0x16b36), (0x16f4f, 0x16f4f),
    (0x16f51, 0x16f87), (0x16f8f, 0x16f92), (0x16fe4, 0x16fe4), (0x16ff0, 0x16ff1),
    (0x1bc9d, 0x1bc9e), (0x1cf00, 0x1cf2d), (0x1cf30, 0x1cf46), (0x1d165, 0x1d169),
    (0x1d16d, 0x1d172), (0x1d17b, 0x1d182), (0x1d185, 0x1d18b), (0x1d1aa, 0x1d1ad),
    (0x1d242, 0x1d244), (0x1da00, 0x1da36), (0x1da3b, 0x1da6c), (0x1da75, 0x1da75),
    (0x1da84, 0x1da84), (0x1da9b, 0x1da9f), (0x1daa1, 0x1daaf), (0x1e000, 0x1e006),
    (0x1e008, 0x1e018), (0x1e01b, 0x1e021), (0x1e023, 0x1e024), (0x1e026, 0x1e02a),
    (0x1e130, 0x1e136), (0x1e2ae, 0x1e2ae), (0x1e2ec, 0x1e2ef), (0x1e8d0, 0x1e8d6),
    (0x1e944, 0x1e94a), (0xe0100, 0xe01ef) ]

/-- Those of them that may start a name. -/
def firstMarks : CharTable := #[(0x1885, 0x1886), (0x2118, 0x2118), (0x212e, 0x212e)]

/-- Characters of words that may go on in a name and not start it, beside digits. -/
def laterLetters : CharTable :=
  #[(0xe33, 0xe33), (0xeb3, 0xeb3), (0x1369, 0x1371), (0x19da, 0x19da), (0xff9e, 0xff9f)]

/-- Characters that a name is cut out by, before its letters are looked at. -/
def isNameChar (c : Char) : Bool := c.isAlphanum || c == '_' || 128 ≤ c.toNat

def isNamePart (c : Char) : Bool :=
  if c.toNat < 128 then c.isAlphanum || c == '_'
  else Text.isWord c && !outsideNames.contains c || nameMarks.contains c

def isNameStart (c : Char) : Bool :=
  if c.toNat < 128 then c.isAlpha || c == '_'
  else if Text.isWord c then
    !outsideNames.contains c && !laterLetters.contains c && !Text.isDecimal c
  else firstMarks.contains c

def isName : Text → Bool
  | [] => false
  | c :: t => isNameStart c && t.all isNamePart

/-- Forms of ASCII letters and digits, as `(first, last, plain spelling of the first)`; in a run
the plain letters run along. -/
def letterForms : List (Nat × Nat × String) :=
  [
    (0xaa, 0xaa, "a"), (0xba, 0xba, "o"), (0x132, 0x132, "IJ"), (0x133, 0x133, "ij"),
    (0x17f, 0x17f, "s"), (0x1c7, 0x1c7, "LJ"), (0x1c8, 0x1c8, "Lj"), (0x1c9, 0x1c9, "lj"),
    (0x1ca, 0x1ca, "NJ"), (0x1cb, 0x1cb, "Nj"), (0x1cc, 0x1cc, "nj"), (0x1f1, 0x1f1, "DZ"),
    (0x1f2, 0x1f2, "Dz"), (0x1f3, 0x1f3, "dz"), (0x2b0, 0x2b0, "h"), (0x2b2, 0x2b2, "j"),
    (0x2b3, 0x2b3, "r"), (0x2b7, 0x2b7, "w"), (0x2b8, 0x2b8, "y"), (0x2e1, 0x2e1, "l"),
    (0x2e2, 0x2e2, "s"), (0x2e3, 0x2e3, "x"), (0x1d2c, 0x1d2c, "A"), (0x1d2e, 0x1d2e, "B"),
    (0x1d30, 0x1d31, "D"), (0x1d33, 0x1d3a, "G"), (0x1d3c, 0x1d3c, "O"), (0x1d3e, 0x1d3e, "P"),
    (0x1d3f, 0x1d3f, "R"), (0x1d40, 0x1d41, "T"), (0x1d42, 0x1d42, "W"), (0x1d43, 0x1d43, "a"),
    (0x1d47, 0x1d47, "b"), (0x1d48, 0x1d49, "d"), (0x1d4d, 0x1d4d, "g"), (0x1d4f, 0x1d4f, "k"),
    (0x1d50, 0x1d50, "m"), (0x1d52, 0x1d52, "o"), (0x1d56, 0x1d56, "p"), (0x1d57, 0x1d58, "t"),
    (0x1d5b, 0x1d5b, "v"), (0x1d62, 0x1d62, "i"), (0x1d63, 0x1d63, "r"), (0x1d64, 0x1d65, "u"),
    (0x1d9c, 0x1d9c, "c"), (0x1da0, 0x1da0, "f"), (0x1dbb, 0x1dbb, "z"), (0x2071, 0x2071, "i"),
    (0x207f, 0x207f, "n"), (0x2090, 0x2090, "a"), (0x2091, 0x2091, "e"), (0x2092, 0x2092, "o"),
    (0x2093, 0x2093, "x"), (0x2095, 0x2095, "h"), (0x2096, 0x2099, "k"), (0x209a, 0x209a, "p"),
    (0x209b, 0x209c, "s"), (0x2102, 0x2102, "C"), (0x210a, 0x210a, "g"), (0x210b, 0x210b, "H"),
    (0x210c, 0x210c, "H"), (0x210d, 0x210d, "H"), (0x210e, 0x210e, "h"), (0x2110, 0x2110, "I"),
    (0x2111, 0x2111, "I"), (0x2112, 0x2112, "L"), (0x2113, 0x2113, "l"), (0x2115, 0x2115, "N"),
    (0x2119, 0x211b, "P"), (0x211c, 0x211c, "R"), (0x211d, 0x211d, "R"), (0x2124, 0x2124, "Z"),
    (0x2128, 0x2128, "Z"), (0x212a, 0x212a, "K"), (0x212c, 0x212d, "B"), (0x212f, 0x212f, "e"),
    (0x2130, 0x2131, "E"), (0x2133, 0x2133, "M"), (0x2134, 0x2134, "o"), (0x2139, 0x2139, "i"),
    (0x2145, 0x2145, "D"), (0x2146, 0x2147, "d"), (0x2148, 0x2149, "i"), (0x2160, 0x2160, "I"),
    (0x2161, 0x2161, "II"), (0x2162, 0x2162, "III"), (0x2163, 0x2163, "IV"),
    (0x2164, 0x2164, "V"), (0x2165, 0x2165, "VI"), (0x2166, 0x2166, "VII"),
    (0x2167, 0x2167, "VIII"), (0x2168, 0x2168, "IX"), (0x2169, 0x2169, "X"),
    (0x216a, 0x216a, "XI"), (0x216b, 0x216b, "XII"), (0x216c, 0x216c, "L"), (0x216d, 0x216e, "C"),
    (0x216f, 0x216f, "M"), (0x2170, 0x2170, "i"), (0x2171, 0x2171, "ii"), (0x2172, 0x2172, "iii"),
    (0x2173, 0x2173, "iv"), (0x2174, 0x2174, "v"), (0x2175, 0x2175, "vi"),
    (0x2176, 0x2176, "vii"), (0x2177, 0x2177, "viii"), (0x2178, 0x2178, "ix"),
    (0x2179, 0x2179, "x"), (0x217a, 0x217a, "xi"), (0x217b, 0x217b, "xii"), (0x217c, 0x217c, "l"),
    (0x217d, 0x217e, "c"), (0x217f, 0x217f, "m"), (0x2c7c, 0x2c7c, "j"), (0x2c7d, 0x2c7d, "V"),
    (0xa7f2, 0xa7f2, "C"), (0xa7f3, 0xa7f3, "F"), (0xa7f4, 0xa7f4, "Q"), (0xfb00, 0xfb00, "ff"),
    (0xfb01, 0xfb01, "fi"), (0xfb02, 0xfb02, "fl"), (0xfb03, 0xfb03, "ffi"),
    (0xfb04, 0xfb04, "ffl"), (0xfb05, 0xfb05, "st"), (0xfb06, 0xfb06, "st"),
    (0xfe33, 0xfe33, "_"), (0xfe34, 0xfe34, "_"), (0xfe4d, 0xfe4d, "_"), (0xfe4e, 0xfe4e, "_"),
    (0xfe4f, 0xfe4f, "_"), (0xff10, 0xff19, "0"), (0xff21, 0xff3a, "A"), (0xff3f, 0xff3f, "_"),
    (0xff41, 0xff5a, "a"), (0x107a5, 0x107a5, "q"), (0x1d400, 0x1d419, "A"),
    (0x1d41a, 0x1d433, "a"), (0x1d434, 0x1d44d, "A"), (0x1d44e, 0x1d454, "a"),
    (0x1d456, 0x1d467, "i"), (0x1d468, 0x1d481, "A"), (0x1d482, 0x1d49b, "a"),
    (0x1d49c, 0x1d49c, "A"), (0x1d49e, 0x1d49f, "C"), (0x1d4a2, 0x1d4a2, "G"),
    (0x1d4a5, 0x1d4a6, "J"), (0x1d4a9, 0x1d4ac, "N"), (0x1d4ae, 0x1d4b5, "S"),
    (0x1d4b6, 0x1d4b9, "a"), (0x1d4bb, 0x1d4bb, "f"), (0x1d4bd, 0x1d4c3, "h"),
    (0x1d4c5, 0x1d4cf, "p"), (0x1d4d0, 0x1d4e9, "A"), (0x1d4ea, 0x1d503, "a"),
    (0x1d504, 0x1d505, "A"), (0x1d507, 0x1d50a, "D"), (0x1d50d, 0x1d514, "J"),
    (0x1d516, 0x1d51c, "S"), (0x1d51e, 0x1d537, "a"), (0x1d538, 0x1d539, "A"),
    (0x1d53b, 0x1d53e, "D"), (0x1d540, 0x1d544, "I"), (0x1d546, 0x1d546, "O"),
    (0x1d54a, 0x1d550, "S"), (0x1d552, 0x1d56b, "a"), (0x1d56c, 0x1d585, "A"),
    (0x1d586, 0x1d59f, "a"), (0x1d5a0, 0x1d5b9, "A"), (0x1d5ba, 0x1d5d3, "a"),
    (0x1d5d4, 0x1d5ed, "A"), (0x1d5ee, 0x1d607, "a"), (0x1d608, 0x1d621, "A"),
    (0x1d622, 0x1d63b, "a"), (0x1d63c, 0x1d655, "A"), (0x1d656, 0x1d66f, "a"),
    (0x1d670, 0x1d689, "A"), (0x1d68a, 0x1d6a3, "a"), (0x1d7ce, 0x1d7d7, "0"),
    (0x1d7d8, 0x1d7e1, "0"), (0x1d7e2, 0x1d7eb, "0"), (0x1d7ec, 0x1d7f5, "0"),
    (0x1d7f6, 0x1d7ff, "0"), (0x1fbf0, 0x1fbf9, "0") ]

def plainLetter (c : Char) : Text :=
  if c.toNat < 128 then [c]
  else match letterForms.find? (fun (first, last, _) => first ≤ c.toNat && c.toNat ≤ last) with
    | none => [c]
    | some (first, _, plain) => match plain.toList with
      | [p] => [Char.ofNat (p.toNat + (c.toNat - first))]
      | letters => letters

def plainName (t : Text) : Text := t.flatMap plainLetter

end RepoAtlas.Script
