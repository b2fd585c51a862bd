import RepoAtlas.Files.Entry

/-!
# Reading a file undoes every encoding of it

`Entry.readText_inverts`: a text comes back from UTF-16 in either byte order and from UTF-8, with
the mark in front of it taken off once. Bytes that are neither marked as UTF-16 nor the UTF-8 of any
text are read one by one. That reading as UTF-8 refuses everything else follows from a table of the
bytes that spell a character, `Spells`, in which every row is the encoding of one character.
-/

namespace RepoAtlas

namespace Encoding

variable {read t : Text} {bytes rest : Bytes} {c : Char} {n : Nat}

-- -------------------------------------
-- What spells a character in UTF-8
-- -------------------------------------

theorem isTail_iff : isTail x = true ↔ 0x80 ≤ x.toNat ∧ x.toNat < 0xC0 := by
  simp only [isTail, Bool.and_eq_true, decide_eq_true_eq, UInt8.le_iff_toNat_le, UInt8.reduceToNat]
  omega

theorem isSecondOfThree_iff : isSecondOfThree x y = true ↔ isTail y = true ∧
    (x.toNat = 0xE0 → 0xA0 ≤ y.toNat) ∧ (x.toNat = 0xED → y.toNat ≤ 0x9F) := by
  simp only [isSecondOfThree, Bool.and_eq_true, Bool.or_eq_true, bne_iff_ne, decide_eq_true_eq,
    UInt8.le_iff_toNat_le, UInt8.reduceToNat, ne_eq, ← UInt8.toNat_inj, ← Decidable.imp_iff_not_or,
    and_assoc]

theorem isSecondOfFour_iff : isSecondOfFour x y = true ↔ isTail y = true ∧
    (x.toNat = 0xF0 → 0x90 ≤ y.toNat) ∧ (x.toNat = 0xF4 → y.toNat ≤ 0x8F) := by
  simp only [isSecondOfFour, Bool.and_eq_true, Bool.or_eq_true, bne_iff_ne, decide_eq_true_eq,
    UInt8.le_iff_toNat_le, UInt8.reduceToNat, ne_eq, ← UInt8.toNat_inj, ← Decidable.imp_iff_not_or,
    and_assoc]

/-- The bytes that a character can have, with its code. -/
inductive Spells : Bytes → Nat → Prop
  | one {x} : x.toNat < 0x80 → Spells [x] x.toNat
  | two {x y} : 0xC2 ≤ x.toNat → x.toNat ≤ 0xDF → isTail y = true →
      Spells [x, y] (x.toNat % 32 * 64 + tailBits y)
  | three {x y z} : 0xE0 ≤ x.toNat → x.toNat ≤ 0xEF → isSecondOfThree x y = true →
      isTail z = true → Spells [x, y, z] ((x.toNat % 16 * 64 + tailBits y) * 64 + tailBits z)
  | four {x y z w} : 0xF0 ≤ x.toNat → x.toNat ≤ 0xF4 → isSecondOfFour x y = true →
      isTail z = true → isTail w = true →
      Spells [x, y, z, w] (((x.toNat % 8 * 64 + tailBits y) * 64 + tailBits z) * 64 + tailBits w)

theorem Spells.utf8From (h : Spells bytes n) (read : Text) (rest : Bytes) :
    utf8From read (bytes ++ rest) = utf8From (Char.ofNat n :: read) rest := by
  cases h with
  | @one x hx =>
    rw [List.cons_append, List.nil_append, utf8From.eq_def]
    simp [UInt8.lt_iff_toNat_lt, hx]
  | @two x y hx hx' hy =>
    have hone : ¬x.toNat < 0x80 := by omega
    simp only [List.cons_append, List.nil_append]
    rw [utf8From.eq_def]
    simp [UInt8.lt_iff_toNat_lt, UInt8.le_iff_toNat_le, hone, hx, hx', hy]
  | @three x y z hx hx' hy hz =>
    have hone : ¬x.toNat < 0x80 := by omega
    have htwo : ¬x.toNat ≤ 0xDF := by omega
    simp only [List.cons_append, List.nil_append]
    rw [utf8From.eq_def]
    simp [UInt8.lt_iff_toNat_lt, UInt8.le_iff_toNat_le, hone, htwo, hx, hx', hy, hz]
  | @four x y z w hx hx' hy hz hw =>
    have hone : ¬x.toNat < 0x80 := by omega
    have htwo : ¬x.toNat ≤ 0xDF := by omega
    have hthree : ¬x.toNat ≤ 0xEF := by omega
    simp only [List.cons_append, List.nil_append]
    rw [utf8From.eq_def]
    simp [UInt8.lt_iff_toNat_lt, UInt8.le_iff_toNat_le, hone, htwo, hthree, hx, hx', hy, hz, hw]

theorem utf8From_inv (h : utf8From read bytes = some t) : bytes = [] ∧ t = read.reverse ∨
    ∃ front n rest, Spells front n ∧ bytes = front ++ rest ∧
      utf8From (Char.ofNat n :: read) rest = some t := by
  rw [utf8From.eq_def] at h
  simp only [UInt8.lt_iff_toNat_lt, UInt8.le_iff_toNat_le, UInt8.reduceToNat, Bool.and_eq_true,
    decide_eq_true_eq] at h
  split at h
  · cases h
    exact .inl ⟨rfl, rfl⟩
  · right
    split at h
    · rename_i hx
      exact ⟨_, _, _, .one hx, rfl, h⟩
    · split at h
      · cases h
      · split at h
        · rename_i hx
          split at h
          · rename_i hy
            exact ⟨_, _, _, .two hx.1 hx.2 hy, rfl, h⟩
          · cases h
        · split at h
          · cases h
          · split at h
            · rename_i hx
              split at h
              · rename_i hy
                exact ⟨_, _, _, .three hx.1 hx.2 hy.1 hy.2, rfl, h⟩
              · cases h
            · split at h
              · cases h
              · split at h
                · rename_i hx
                  exact ⟨_, _, _, .four hx.1.1.1.1 hx.1.1.1.2 hx.1.1.2 hx.1.2 hx.2, rfl, h⟩
                · cases h

-- -------------------------------------
-- Encodings are what spells
-- -------------------------------------

theorem scalar (c : Char) : c.toNat < 0xD800 ∨ 0xDFFF < c.toNat ∧ c.toNat < 0x110000 := c.valid

theorem toNat_byte (h : n < 256) : (UInt8.ofNat n).toNat = n := by
  rw [UInt8.toNat_ofNat', Nat.mod_eq_of_lt h]

theorem toNat_tailByte (n : Nat) : (tailByte n).toNat = 0x80 + n % 64 :=
  toNat_byte (by omega)

@[simp] theorem isTail_tailByte (n : Nat) : isTail (tailByte n) = true := by
  rw [isTail_iff, toNat_tailByte]
  omega

@[simp] theorem tailBits_tailByte (n : Nat) : tailBits (tailByte n) = n % 64 := by
  rw [tailBits, toNat_tailByte]
  omega

theorem spells_encodeChar (c : Char) : Spells (encodeChar c) c.toNat := by
  have hc := scalar c
  unfold encodeChar
  extract_lets n
  change n < 0xD800 ∨ 0xDFFF < n ∧ n < 0x110000 at hc
  show Spells _ n
  clear_value n
  split
  · rename_i hone
    have hx : (UInt8.ofNat n).toNat = n := toNat_byte (by omega)
    have h : Spells [UInt8.ofNat n] (UInt8.ofNat n).toNat := .one (by omega)
    rwa [hx] at h
  · split
    · rename_i hone htwo
      have hx : (UInt8.ofNat (0xC0 + n / 64)).toNat = 0xC0 + n / 64 := toNat_byte (by omega)
      have hn : n = (0xC0 + n / 64) % 32 * 64 + n % 64 := by omega
      have h := Spells.two (x := UInt8.ofNat (0xC0 + n / 64)) (by omega) (by omega)
        (isTail_tailByte n)
      rwa [hx, tailBits_tailByte, ← hn] at h
    · split
      · rename_i hone htwo hthree
        have hx : (UInt8.ofNat (0xE0 + n / 4096)).toNat = 0xE0 + n / 4096 := toNat_byte (by omega)
        have hy : isSecondOfThree (UInt8.ofNat (0xE0 + n / 4096)) (tailByte (n / 64)) = true := by
          rw [isSecondOfThree_iff, hx, toNat_tailByte]
          refine ⟨isTail_tailByte _, ?_, ?_⟩ <;> omega
        have hn : n = ((0xE0 + n / 4096) % 16 * 64 + n / 64 % 64) * 64 + n % 64 := by omega
        have h := Spells.three (x := UInt8.ofNat (0xE0 + n / 4096)) (by omega) (by omega) hy
          (isTail_tailByte n)
        rwa [hx, tailBits_tailByte, tailBits_tailByte, ← hn] at h
      · rename_i hone htwo hthree
        have hx : (UInt8.ofNat (0xF0 + n / 262144)).toNat = 0xF0 + n / 262144 :=
          toNat_byte (by omega)
        have hy : isSecondOfFour (UInt8.ofNat (0xF0 + n / 262144)) (tailByte (n / 4096)) = true := by
          rw [isSecondOfFour_iff, hx, toNat_tailByte]
          refine ⟨isTail_tailByte _, ?_, ?_⟩ <;> omega
        have hn : n = (((0xF0 + n / 262144) % 8 * 64 + n / 4096 % 64) * 64 + n / 64 % 64) * 64 +
            n % 64 := by
          omega
        have h := Spells.four (x := UInt8.ofNat (0xF0 + n / 262144)) (by omega) (by omega) hy
          (isTail_tailByte (n / 64)) (isTail_tailByte n)
        rwa [hx, tailBits_tailByte, tailBits_tailByte, tailBits_tailByte, ← hn] at h

theorem eq_byte {x : UInt8} (h : n = x.toNat) : x = UInt8.ofNat n := by
  rw [h, UInt8.ofNat_toNat]

theorem tailBits_lt (x : UInt8) : tailBits x < 64 := Nat.mod_lt _ (by decide)

theorem eq_tailByte {x : UInt8} (hx : isTail x = true) (h : n % 64 = tailBits x) :
    x = tailByte n := by
  rw [isTail_iff] at hx
  rw [tailBits] at h
  exact eq_byte (by omega)

theorem toNat_scalar (h : n < 0xD800 ∨ 0xDFFF < n ∧ n < 0x110000) : (Char.ofNat n).toNat = n := by
  rw [Char.ofNat, dif_pos h]
  rfl

/-- What bytes spell is a character, and they are its encoding. -/
theorem Spells.eq_encodeChar (h : Spells bytes n) : bytes = encodeChar (Char.ofNat n) := by
  cases h with
  | @one x hx =>
    have hcode : (Char.ofNat x.toNat).toNat = x.toNat := toNat_scalar (by omega)
    simp only [encodeChar, hcode, hx, if_true, UInt8.ofNat_toNat]
  | @two x y hx hx' hy =>
    have hlow := tailBits_lt y
    generalize hn : x.toNat % 32 * 64 + tailBits y = n
    have hcode : (Char.ofNat n).toNat = n := toNat_scalar (by omega)
    have hfirst : x = UInt8.ofNat (0xC0 + n / 64) := eq_byte (by omega)
    have hsecond : y = tailByte n := eq_tailByte hy (by omega)
    simp only [encodeChar, hcode]
    rw [if_neg (by omega), if_pos (by omega), ← hfirst, ← hsecond]
  | @three x y z hx hx' hy hz =>
    obtain ⟨hy, hlong, hplane⟩ := isSecondOfThree_iff.mp hy
    have hbits : tailBits y = y.toNat % 64 := rfl
    have htail := isTail_iff.mp hy
    have hlow := tailBits_lt z
    generalize hn : (x.toNat % 16 * 64 + tailBits y) * 64 + tailBits z = n
    have hcode : (Char.ofNat n).toNat = n := toNat_scalar (by omega)
    have hfirst : x = UInt8.ofNat (0xE0 + n / 4096) := eq_byte (by omega)
    have hsecond : y = tailByte (n / 64) := eq_tailByte hy (by omega)
    have hthird : z = tailByte n := eq_tailByte hz (by omega)
    simp only [encodeChar, hcode]
    rw [if_neg (by omega), if_neg (by omega), if_pos (by omega), ← hfirst, ← hsecond, ← hthird]
  | @four x y z w hx hx' hy hz hw =>
    obtain ⟨hy, hlong, hlast⟩ := isSecondOfFour_iff.mp hy
    have hbits : tailBits y = y.toNat % 64 := rfl
    have htail := isTail_iff.mp hy
    have hmiddle := tailBits_lt z
    have hlow := tailBits_lt w
    generalize hn : ((x.toNat % 8 * 64 + tailBits y) * 64 + tailBits z) * 64 + tailBits w = n
    have hcode : (Char.ofNat n).toNat = n := toNat_scalar (by omega)
    have hfirst : x = UInt8.ofNat (0xF0 + n / 262144) := eq_byte (by omega)
    have hsecond : y = tailByte (n / 4096) := eq_tailByte hy (by omega)
    have hthird : z = tailByte (n / 64) := eq_tailByte hz (by omega)
    have hfourth : w = tailByte n := eq_tailByte hw (by omega)
    simp only [encodeChar, hcode]
    rw [if_neg (by omega), if_neg (by omega), if_neg (by omega), ← hfirst, ← hsecond, ← hthird,
      ← hfourth]

-- -------------------------------------
-- UTF-8
-- -------------------------------------

theorem utf8From_encodeChar (read : Text) (c : Char) (rest : Bytes) :
    utf8From read (encodeChar c ++ rest) = utf8From (c :: read) rest := by
  rw [(spells_encodeChar c).utf8From, Char.ofNat_toNat]

/-- Exactly the encodings of texts are read, each as its text. -/
theorem utf8From_eq_some_iff : utf8From read bytes = some t ↔
    ∃ s, t = read.reverse ++ s ∧ bytes = encodeUtf8 s := by
  constructor
  · intro h
    -- Each step takes off the encoding of one character.
    induction hlen : bytes.length using Nat.strongRecOn generalizing read bytes with
    | ind len ih =>
      obtain ⟨rfl, rfl⟩ | ⟨front, n, rest, hfront, rfl, hrest⟩ := utf8From_inv h
      · exact ⟨[], by simp, rfl⟩
      · have hshort : rest.length < len := by
          rw [← hlen, List.length_append]
          cases hfront <;> simp
        obtain ⟨s, hs, rfl⟩ := ih _ hshort hrest rfl
        refine ⟨Char.ofNat n :: s, by simpa using hs, ?_⟩
        rw [hfront.eq_encodeChar]
        rfl
  · rintro ⟨s, rfl, rfl⟩
    induction s generalizing read with
    | nil => simp [encodeUtf8, utf8From]
    | cons c s ih =>
      rw [encodeUtf8, List.flatMap_cons, utf8From_encodeChar]
      exact (@ih (c :: read)).trans (by simp)

theorem utf8?_eq_some_iff : utf8? bytes = some t ↔ bytes = encodeUtf8 t := by
  simp [utf8?, utf8From_eq_some_iff]

theorem encodeUtf8_eq (t : Text) : encodeUtf8 t = t.flatMap String.utf8EncodeChar := by
  refine congrArg t.flatMap (funext fun c => ?_)
  have hc := scalar c
  simp only [encodeChar, tailByte, String.utf8EncodeChar, Char.toNat_val]
  generalize c.toNat = n at hc ⊢
  have htail : ∀ m, UInt8.ofNat (0x80 + m % 64) = UInt8.ofNat (m % 64 + 128) :=
    fun m => by rw [Nat.add_comm]
  simp only [htail]
  have hone : n ≤ 127 ↔ n < 0x80 := by omega
  have htwo : n ≤ 2047 ↔ n < 0x800 := by omega
  have hthree : n ≤ 65535 ↔ n < 0x10000 := by omega
  simp only [hone, htwo, hthree]
  split
  · rfl
  · split
    · have hfirst : 0xC0 + n / 64 = n / 64 % 32 + 192 := by omega
      rw [hfirst]
    · split
      · have hfirst : 0xE0 + n / 4096 = n / 4096 % 16 + 224 := by omega
        rw [hfirst]
      · have hfirst : 0xF0 + n / 262144 = n / 262144 % 8 + 240 := by omega
        rw [hfirst]

-- -------------------------------------
-- UTF-16
-- -------------------------------------

variable {littleEndian : Bool}

theorem units_unitBytes (h : n < 0x10000) (rest : Bytes) :
    units littleEndian (unitBytes littleEndian n ++ rest) =
      (n :: (units littleEndian rest).1, (units littleEndian rest).2) := by
  have hlow : (UInt8.ofNat (n % 256)).toNat = n % 256 := toNat_byte (by omega)
  have hhigh : (UInt8.ofNat (n / 256)).toNat = n / 256 := toNat_byte (by omega)
  have hn : n % 256 + 256 * (n / 256) = n := by omega
  cases littleEndian with
  | true => simp [unitBytes, units, unit, hlow, hhigh, hn]
  | false => simp [unitBytes, units, unit, hlow, hhigh, Nat.add_comm, hn]

/-- The units of a character: its code, or a pair of surrogates. -/
def charUnits (c : Char) : List Nat :=
  if c.toNat < 0x10000 then [c.toNat]
  else [0xD800 + (c.toNat - 0x10000) / 1024, 0xDC00 + (c.toNat - 0x10000) % 1024]

theorem units_encodeUtf16 (t : Text) :
    units littleEndian (encodeUtf16 littleEndian t) = (t.flatMap charUnits, false) := by
  induction t with
  | nil => rfl
  | cons c t ih =>
    have hc := scalar c
    simp only [encodeUtf16, List.flatMap_cons, charUnits] at ih ⊢
    split
    · rename_i hone
      rw [units_unitBytes hone, ih]
      rfl
    · rw [List.append_assoc, units_unitBytes (by omega), units_unitBytes (by omega), ih]
      rfl

theorem isHigh_iff : isHigh n = true ↔ 0xD800 ≤ n ∧ n < 0xDC00 := by
  simp [isHigh]

theorem isLow_iff : isLow n = true ↔ 0xDC00 ≤ n ∧ n < 0xE000 := by
  simp [isLow]

theorem accept_pair {high low : Nat} (hhigh : isHigh high = true) (hlow : isLow low = true)
    (read : Text) : [high, low].foldl Utf16State.accept ⟨none, read⟩ =
      ⟨none, Char.ofNat (0x10000 + (high - 0xD800) * 1024 + (low - 0xDC00)) :: read⟩ := by
  simp only [List.foldl_cons, List.foldl_nil, Utf16State.accept, Utf16State.start, hhigh, hlow,
    if_true]

theorem accept_charUnits (read : Text) (c : Char) :
    (charUnits c).foldl Utf16State.accept ⟨none, read⟩ = ⟨none, c :: read⟩ := by
  have hc := scalar c
  have hcode := Char.ofNat_toNat c
  unfold charUnits
  generalize c.toNat = n at hc hcode ⊢
  split
  · have hhigh : isHigh n ≠ true := by rw [ne_eq, isHigh_iff]; omega
    have hlow : isLow n ≠ true := by rw [ne_eq, isLow_iff]; omega
    simp [Utf16State.accept, Utf16State.start, hhigh, hlow, hcode]
  · rename_i hplane
    have hn : 0x10000 + (0xD800 + (n - 0x10000) / 1024 - 0xD800) * 1024 +
        (0xDC00 + (n - 0x10000) % 1024 - 0xDC00) = n := by
      omega
    rw [accept_pair (isHigh_iff.mpr (by omega)) (isLow_iff.mpr (by omega)), hn, hcode]

theorem accept_flatMap (read t : Text) :
    (t.flatMap charUnits).foldl Utf16State.accept ⟨none, read⟩ = ⟨none, t.reverse ++ read⟩ := by
  induction t generalizing read with
  | nil => rfl
  | cons c t ih =>
    rw [List.flatMap_cons, List.foldl_append, accept_charUnits, ih]
    simp

theorem utf16_encodeUtf16 (t : Text) : utf16 littleEndian (encodeUtf16 littleEndian t) = t := by
  simp only [utf16, units_encodeUtf16]
  rw [accept_flatMap [] t]
  simp

-- -------------------------------------
-- Files
-- -------------------------------------

/-- The character that UTF-8 and UTF-16 files may start with. -/
def mark : Char := Char.ofNat 0xFEFF

theorem encodeUtf8_mark (t : Text) :
    encodeUtf8 (mark :: t) = 0xEF :: 0xBB :: 0xBF :: encodeUtf8 t := by
  rfl

/-- The encoding of a text never starts with a byte of a mark of UTF-16. -/
theorem head?_encodeUtf8 {x : UInt8} (h : (encodeUtf8 t).head? = some x) : x.toNat < 0xFE := by
  cases t with
  | nil => cases h
  | cons c t =>
    rw [encodeUtf8, List.flatMap_cons] at h
    have hspells := spells_encodeChar c
    generalize encodeChar c = bytes, c.toNat = n at h hspells
    cases hspells <;> cases h <;> omega

theorem decode_encodeUtf16 (t : Text) : decode (0xFF :: 0xFE :: encodeUtf16 true t) = t ∧
    decode (0xFE :: 0xFF :: encodeUtf16 false t) = t :=
  ⟨utf16_encodeUtf16 t, utf16_encodeUtf16 t⟩

/-- Without a mark of UTF-16 a file is read as UTF-8, if it is that, and byte by byte else. -/
theorem decode_eq (hle : ¬[0xFF, 0xFE] <+: bytes) (hbe : ¬[0xFE, 0xFF] <+: bytes) :
    decode bytes = (utf8? (withoutMark bytes)).getD (singleBytes bytes) := by
  unfold decode
  split
  · simp at hle
  · simp at hbe
  · rfl

theorem withoutMark_cases (bytes : Bytes) : withoutMark bytes = bytes ∨
    ∃ rest, bytes = 0xEF :: 0xBB :: 0xBF :: rest ∧ withoutMark bytes = rest := by
  unfold withoutMark
  split
  · exact .inr ⟨_, rfl, rfl⟩
  · exact .inl rfl

theorem decode_marked (t : Text) : decode (0xEF :: 0xBB :: 0xBF :: encodeUtf8 t) = t := by
  have htext : utf8? (encodeUtf8 t) = some t := utf8?_eq_some_iff.mpr rfl
  rw [decode_eq (by simp) (by simp), withoutMark, htext, Option.getD_some]

theorem decode_encodeUtf8 (h : t.head? ≠ some mark) : decode (encodeUtf8 t) = t := by
  have hunmarked : ∀ x y : UInt8, 0xFE ≤ x.toNat → ¬[x, y] <+: encodeUtf8 t := by
    rintro x y hx ⟨rest, hrest⟩
    have hlt : x.toNat < 0xFE := head?_encodeUtf8 (by rw [← hrest]; rfl)
    omega
  have hmark : withoutMark (encodeUtf8 t) = encodeUtf8 t := by
    rcases withoutMark_cases (encodeUtf8 t) with hsame | ⟨rest, hrest, -⟩
    · exact hsame
    · -- A text is read from the bytes in one way only, and so starts with the mark.
      have hread : utf8From [mark] rest = some t := by
        rw [← utf8From_encodeChar [] mark rest]
        exact utf8?_eq_some_iff.mpr hrest.symm
      obtain ⟨s, rfl, -⟩ := utf8From_eq_some_iff.mp hread
      simp at h
  have htext : utf8? (encodeUtf8 t) = some t := utf8?_eq_some_iff.mpr rfl
  rw [decode_eq (hunmarked _ _ (by decide)) (hunmarked _ _ (by decide)), hmark, htext,
    Option.getD_some]

theorem decode_singleBytes (hle : ¬[0xFF, 0xFE] <+: bytes) (hbe : ¬[0xFE, 0xFF] <+: bytes)
    (h : ∀ t, bytes ≠ encodeUtf8 t) : decode bytes = singleBytes bytes := by
  have hnone : utf8? (withoutMark bytes) = none := by
    rw [Option.eq_none_iff_forall_ne_some]
    intro t ht
    rcases withoutMark_cases bytes with hsame | ⟨rest, rfl, hrest⟩
    · exact h t (utf8?_eq_some_iff.mp (hsame ▸ ht))
    · rw [hrest, utf8?_eq_some_iff] at ht
      exact h (mark :: t) (by rw [encodeUtf8_mark, ht])
  rw [decode_eq hle hbe, hnone, Option.getD_none]

theorem toNat_singleBytes (bytes : Bytes) :
    (singleBytes bytes).map Char.toNat = bytes.map UInt8.toNat := by
  rw [singleBytes, List.map_map]
  refine List.map_congr_left fun x _ => toNat_scalar ?_
  have hx := x.toNat_lt
  omega

end Encoding

namespace Entry

variable {top : Entry} {p : Path} {bytes : Encoding.Bytes}

open Encoding

theorem readText_eq (h : top.readBytes p = .ok bytes) : top.readText p = .ok (decode bytes) := by
  rw [readText, h]
  rfl

/-- A file that can be read is read as the text that was encoded in it, if there is one, and as one
character a byte otherwise. -/
theorem readText_inverts (h : top.readBytes p = .ok bytes) :
    (∃ t, top.readText p = .ok t) ∧
    (∀ t, bytes = 0xFF :: 0xFE :: encodeUtf16 true t → top.readText p = .ok t) ∧
    (∀ t, bytes = 0xFE :: 0xFF :: encodeUtf16 false t → top.readText p = .ok t) ∧
    (∀ t : Text, bytes = 0xEF :: 0xBB :: 0xBF :: t.flatMap String.utf8EncodeChar →
      top.readText p = .ok t) ∧
    (∀ t : Text, t.head? ≠ some (Char.ofNat 0xFEFF) →
      bytes = t.flatMap String.utf8EncodeChar → top.readText p = .ok t) ∧
    (¬[0xFF, 0xFE] <+: bytes → ¬[0xFE, 0xFF] <+: bytes → ¬bytes.toByteArray.IsValidUTF8 →
      ∃ t, top.readText p = .ok t ∧ t.map Char.toNat = bytes.map UInt8.toNat) := by
  simp only [readText_eq h, ← encodeUtf8_eq]
  refine ⟨⟨_, rfl⟩, ?_, ?_, ?_, ?_, ?_⟩
  · rintro t rfl
    rw [(decode_encodeUtf16 t).1]
  · rintro t rfl
    rw [(decode_encodeUtf16 t).2]
  · rintro t rfl
    rw [decode_marked]
  · rintro t hmark rfl
    rw [decode_encodeUtf8 hmark]
  · intro hle hbe hvalid
    refine ⟨_, rfl, ?_⟩
    rw [decode_singleBytes hle hbe, toNat_singleBytes]
    rintro t rfl
    exact hvalid ⟨t, by rw [encodeUtf8_eq]; rfl⟩

/-- A pair of surrogates behind a mark of UTF-16, and the bytes of a surrogate in UTF-8. -/
theorem readText_inverts_sample :
    let pair : Bytes := [0xFF, 0xFE, 0x3D, 0xD8, 0x00, 0xDE]
    let half : Bytes := [0xED, 0xA0, 0x80]
    let top : Entry := .folder [("pair".toList, .file pair), ("half".toList, .file half)]
    top.readText "/pair".toList = .ok [Char.ofNat 0x1F600] ∧
      ∃ t, top.readText "/half".toList = .ok t ∧ t.map Char.toNat = [0xED, 0xA0, 0x80] := by
  intro pair half top
  have hpair : top.readBytes "/pair".toList = .ok pair := rfl
  have hhalf : top.readBytes "/half".toList = .ok half := rfl
  have hinvalid : ¬half.toByteArray.IsValidUTF8 := by
    rintro ⟨t, ht⟩
    have htext : utf8? half = some t := by
      rw [utf8?_eq_some_iff, encodeUtf8_eq]
      exact List.toByteArray_inj.mp ht
    exact absurd htext (by simp [utf8?, utf8From, isSecondOfThree, half])
  exact ⟨(readText_inverts hpair).2.1 [Char.ofNat 0x1F600] (by decide),
    (readText_inverts hhalf).2.2.2.2.2 (by decide) (by decide) hinvalid⟩

end Entry

end RepoAtlas
