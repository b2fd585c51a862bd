import RepoAtlas.Manifest.Requirement
import RepoAtlas.Proofs.Text.Basic
import RepoAtlas.Proofs.Text.Blank

/-!
# Requirements

A requirement is read from what stands in front of its environment marker, whatever the white space
around it. `Requirement.parse_text`: from a requirement that was written down part by part, its name
and its version requirement are read back.
-/

namespace RepoAtlas

namespace Text

theorem trim_takeWhile_trim {y : Char} (hy : isBlank y = false) (t : Text) :
    trim ((trim t).takeWhile (· != y)) = trim (t.takeWhile (· != y)) := by
  obtain ⟨before, behind, ht, hbefore, hbehind⟩ := exists_padding t
  have hne : ∀ c, isBlank c = true → (c != y) = true := by
    intro c hc
    rw [bne_iff_ne]
    rintro rfl
    rw [hy] at hc
    cases hc
  have hcut : t.takeWhile (· != y) = before ++ (trim t ++ behind).takeWhile (· != y) := by
    conv => lhs; rw [ht, List.append_assoc]
    exact List.takeWhile_append_of_pos fun c hc => hne c (hbefore c hc)
  rw [hcut, List.takeWhile_append]
  split
  · rename_i hlength
    rw [(List.takeWhile_prefix _).eq_of_length hlength,
      List.takeWhile_eq_self_iff.mpr fun c hc => hne c (hbehind c hc), ← List.append_assoc,
      trim_padded hbefore hbehind]
  · rw [trim_blank_append hbefore]

theorem not_isBlank_of_head?_trim {t : Text} {c : Char} (h : (trim t).head? = some c) :
    isBlank c = false := by
  obtain ⟨behind, hdrop, -⟩ := dropWhile_eq_trim_append t
  have hhead := List.head?_dropWhile_not isBlank t
  rw [hdrop, List.head?_append, h] at hhead
  simpa using hhead

theorem not_isBlank_of_getLast?_trim {t : Text} {c : Char} (h : (trim t).getLast? = some c) :
    isBlank c = false := by
  have hhead := List.head?_dropWhile_not isBlank (t.dropWhile isBlank).reverse
  rw [trim, dropBoth, List.getLast?_reverse] at h
  rw [h] at hhead
  simpa using hhead

/-- White space in front of a text stays when the white space behind it goes. -/
theorem exists_trimmed_behind (t : Text) : ∃ front behind, t = front ++ behind ∧
    (∀ c ∈ behind, isBlank c = true) ∧ front.dropWhile isBlank = trim t ∧
    ∀ c ∈ front.getLast?, isBlank c = false := by
  obtain ⟨before, behind, ht, hbefore, hbehind⟩ := exists_padding t
  cases htrim : trim t with
  | nil => exact ⟨[], t, rfl, trim_eq_nil_iff.mp htrim, rfl, by simp⟩
  | cons c rest =>
    have hc := not_isBlank_of_head?_trim (congrArg List.head? htrim)
    rw [htrim] at ht
    refine ⟨before ++ c :: rest, behind, ht, hbehind, ?_, fun d hd => ?_⟩
    · rw [List.dropWhile_append_of_pos hbefore, List.dropWhile_cons_of_neg (by simp [hc])]
    · refine not_isBlank_of_getLast?_trim (t := t) ?_
      rw [htrim]
      simpa using hd

end Text

namespace Requirement

open Text (trim isBlank)

theorem trim_upTo_marker (t : Text) :
    trim (Text.upTo ";" (trim t)) = trim (t.takeWhile (· != ';')) := by
  rw [show ";".toList = [';'] from rfl, Text.upTo_singleton, Text.trim_takeWhile_trim rfl]

/-- A requirement is read from the text in front of its environment marker. -/
theorem parse_congr {s t : Text}
    (h : trim (s.takeWhile (· != ';')) = trim (t.takeWhile (· != ';'))) : parse s = parse t := by
  simp only [parse, trim_upTo_marker, h]

theorem parse_trim (t : Text) : parse (trim t) = parse t :=
  parse_congr (Text.trim_takeWhile_trim rfl t)

theorem parse_of_start {t rest : Text} {c : Char} (hc : c.isAlphanum = true)
    (h : trim (t.takeWhile (· != ';')) = c :: rest) :
    parse t = ⟨(c :: rest).takeWhile isNameChar,
      trim (((skipExtras ((c :: rest).dropWhile isNameChar)).dropWhile isBlank).takeWhile
        (· != '\n'))⟩ := by
  simp only [parse, trim_upTo_marker, h, hc, if_true]

theorem not_isNameChar_of_isBlank {c : Char} (h : isBlank c = true) : isNameChar c = false := by
  have hall : ∀ n ∈ Text.blankCodes, isNameChar (Char.ofNat n) = false := by decide +kernel
  rw [← Char.ofNat_toNat c]
  exact hall _ (Text.toNat_mem_blankCodes h)

theorem not_isBlank_of_isNameChar {c : Char} (h : isNameChar c = true) : isBlank c = false := by
  cases hblank : isBlank c with
  | false => rfl
  | true =>
    rw [not_isNameChar_of_isBlank hblank] at h
    cases h

theorem skipExtras_bracketed {extras : Text} (hbracket : ']' ∉ extras) (hfeed : '\n' ∉ extras)
    (rest : Text) : skipExtras ('[' :: (extras ++ ']' :: rest)) = rest := by
  have hclosed : ((extras ++ ']' :: rest).takeWhile (· != '\n')).contains ']' = true := by
    rw [List.takeWhile_append_of_pos (Text.bne_of_not_mem hfeed), List.contains_iff_mem,
      List.takeWhile_cons_of_pos (by decide)]
    simp
  rw [skipExtras, if_pos hclosed, List.dropWhile_append_of_pos (Text.bne_of_not_mem hbracket),
    List.dropWhile_cons_of_neg (by simp), List.drop_one, List.tail_cons]

theorem skipExtras_of_head? {t : Text} (h : t.head? ≠ some '[') : skipExtras t = t := by
  cases t with
  | nil => rfl
  | cons c rest =>
    unfold skipExtras
    split
    · rename_i heq
      cases heq
      exact absurd rfl h
    · rfl

-- -------------------------------------
-- Requirements that are written part by part
-- -------------------------------------

/-- What a version requirement starts with. -/
def isComparison (c : Char) : Bool := c == '<' || c == '>' || c == '=' || c == '!' || c == '~'

/-- The parts of a requirement, in the order in which they are written. There may be white space
around all of it, and in front of the version requirement. -/
structure Written where
  before : Text := []
  name : Text
  extras : Option Text := none
  gap : Text := []
  version : Text := []
  marker : Option Text := none
  behind : Text := []
  named : (name.head?.any Char.isAlphanum && name.all isNameChar) = true := by decide
  bracketed : (extras.getD []).all (fun c => c != ']' && c != ';' && c != '\n') = true := by decide
  compared : version.head?.all isComparison = true := by decide
  plain : version.all (fun c => c != ';' && c != '\n') = true := by decide
  padded : (before ++ gap ++ behind).all isBlank = true := by decide

namespace Written

variable (w : Written)

def extrasText : Text := w.extras.elim [] fun extras => '[' :: (extras ++ [']'])

/-- All that stands in front of the environment marker. -/
def core : Text := w.name ++ (w.extrasText ++ (w.gap ++ w.version))

def text : Text := w.before ++ (w.core ++ w.marker.elim [] (';' :: ·)) ++ w.behind

theorem isBlank_of_mem {c : Char} (h : c ∈ w.before ∨ c ∈ w.gap ∨ c ∈ w.behind) :
    isBlank c = true :=
  List.all_eq_true.mp w.padded c (by simpa [or_assoc] using h)

theorem not_mem_padding {c : Char} (hc : isBlank c = false) :
    c ∉ w.before ∧ c ∉ w.gap ∧ c ∉ w.behind := by
  refine ⟨fun h => ?_, fun h => ?_, fun h => ?_⟩
  · cases hc ▸ w.isBlank_of_mem (.inl h)
  · cases hc ▸ w.isBlank_of_mem (.inr (.inl h))
  · cases hc ▸ w.isBlank_of_mem (.inr (.inr h))

theorem name_eq_cons : ∃ c rest, w.name = c :: rest ∧ c.isAlphanum = true := by
  have hnamed := w.named
  cases hname : w.name with
  | nil => simp [hname] at hnamed
  | cons c rest =>
    simp only [hname, List.head?_cons, Option.any_some, Bool.and_eq_true] at hnamed
    exact ⟨c, rest, rfl, hnamed.1⟩

theorem isNameChar_of_mem {c : Char} (h : c ∈ w.name) : isNameChar c = true := by
  have hnamed := w.named
  rw [Bool.and_eq_true] at hnamed
  exact List.all_eq_true.mp hnamed.2 c h

theorem not_mem_version : ';' ∉ w.version ∧ '\n' ∉ w.version := by
  constructor
  · intro h
    cases List.all_eq_true.mp w.plain _ h
  · intro h
    cases List.all_eq_true.mp w.plain _ h

theorem not_mem_extras {extras : Text} (h : w.extras = some extras) :
    ']' ∉ extras ∧ ';' ∉ extras ∧ '\n' ∉ extras := by
  have hall := w.bracketed
  rw [h] at hall
  refine ⟨fun h => ?_, fun h => ?_, fun h => ?_⟩ <;> cases List.all_eq_true.mp hall _ h

theorem not_mem_extrasText : ';' ∉ w.extrasText := by
  unfold extrasText
  cases hextras : w.extras with
  | none => simp
  | some extras => simp [w.not_mem_extras hextras]

theorem not_mem_core : ';' ∉ w.core := by
  have hname : ';' ∉ w.name := fun h => by cases w.isNameChar_of_mem h
  simp [core, hname, w.not_mem_extrasText, w.not_mem_padding (c := ';') rfl, w.not_mem_version]

/-- Behind the name and the extras, neither goes on. -/
theorem head?_gap_version {c : Char} (h : c ∈ (w.gap ++ w.version).head?) :
    isNameChar c = false ∧ c ≠ '[' := by
  cases hgap : w.gap with
  | cons d gap =>
    obtain rfl : d = c := by simpa [hgap] using h
    have hblank : isBlank d = true := w.isBlank_of_mem (.inr (.inl (by simp [hgap])))
    refine ⟨not_isNameChar_of_isBlank hblank, ?_⟩
    rintro rfl
    cases hblank
  | nil =>
    have hcompared := w.compared
    rw [hgap, List.nil_append] at h
    rw [h] at hcompared
    have hc : c = '<' ∨ c = '>' ∨ c = '=' ∨ c = '!' ∨ c = '~' := by
      simpa [isComparison, or_assoc] using hcompared
    rcases hc with rfl | rfl | rfl | rfl | rfl <;> decide

/-- The part in front of the environment marker, up to white space behind it. -/
theorem exists_takeWhile_text : ∃ behind : Text, (∀ c ∈ behind, isBlank c = true) ∧
    w.text.takeWhile (· != ';') = w.before ++ w.core ++ behind := by
  have hpass : ∀ c ∈ w.before ++ w.core, (c != ';') = true :=
    Text.bne_of_not_mem (by simp [w.not_mem_core, w.not_mem_padding (c := ';') rfl])
  have htext : w.text = w.before ++ w.core ++ (w.marker.elim [] (';' :: ·) ++ w.behind) := by
    simp [text]
  rw [htext, List.takeWhile_append_of_pos hpass]
  cases w.marker with
  | some marker => exact ⟨[], by simp, by simp⟩
  | none =>
    have hbehind := Text.bne_of_not_mem (w.not_mem_padding (c := ';') rfl).2.2
    refine ⟨w.behind, fun c hc => w.isBlank_of_mem (.inr (.inr hc)), ?_⟩
    rw [Option.elim_none, List.nil_append, List.takeWhile_eq_self_iff.mpr hbehind]

theorem getLast?_extrasText {c : Char} (h : c ∈ (w.name ++ w.extrasText).getLast?) :
    isBlank c = false := by
  unfold extrasText at h
  cases hextras : w.extras with
  | none =>
    rw [hextras, Option.elim_none, List.append_nil] at h
    exact not_isBlank_of_isNameChar (w.isNameChar_of_mem (List.mem_of_mem_getLast? h))
  | some extras =>
    rw [hextras, Option.elim_some, ← List.cons_append, ← List.append_assoc,
      List.getLast?_concat] at h
    cases h
    rfl

theorem skipExtras_text {rest : Text} (h : rest.head? ≠ some '[') :
    skipExtras (w.extrasText ++ rest) = rest := by
  unfold extrasText
  cases hextras : w.extras with
  | none => exact skipExtras_of_head? h
  | some extras =>
    obtain ⟨hbracket, -, hfeed⟩ := w.not_mem_extras hextras
    have hskip := skipExtras_bracketed hbracket hfeed rest
    simpa using hskip

/-- What is left in front of the environment marker, when the white space around it is gone. -/
theorem exists_stated : ∃ front, trim (w.text.takeWhile (· != ';')) =
      w.name ++ (w.extrasText ++ front) ∧ front.dropWhile isBlank = trim w.version ∧
      ∀ c ∈ front.head?, isNameChar c = false ∧ c ≠ '[' := by
  obtain ⟨behind, hbehind, htake⟩ := w.exists_takeWhile_text
  obtain ⟨front, rest, hsplit, hrest, hdrop, hlast⟩ :=
    Text.exists_trimmed_behind (w.gap ++ w.version)
  have hcore : w.core = w.name ++ (w.extrasText ++ front) ++ rest := by simp [core, hsplit]
  refine ⟨front, ?_, ?_, fun c hc => w.head?_gap_version ?_⟩
  · rw [htake, Text.trim_padded (fun c hc => w.isBlank_of_mem (.inl hc)) hbehind, hcore,
      Text.trim_append_blank hrest]
    refine Text.trim_eq_self (fun c hc => ?_) fun c hc => ?_
    · obtain ⟨d, name, hname, hd⟩ := w.name_eq_cons
      obtain rfl : d = c := by simpa [hname] using hc
      exact not_isBlank_of_isNameChar (by simp [isNameChar, hd])
    · rw [← List.append_assoc, List.getLast?_append] at hc
      rcases Option.or_eq_some_iff.mp hc with hc | ⟨-, hc⟩
      · exact hlast c hc
      · exact w.getLast?_extrasText hc
  · rw [hdrop, Text.trim_blank_append fun c hc => w.isBlank_of_mem (.inr (.inl hc))]
  · rw [hsplit, List.head?_append, hc]
    rfl

theorem dropWhile_extrasText {rest : Text} (h : ∀ c ∈ rest.head?, isNameChar c = false) :
    (w.extrasText ++ rest).takeWhile isNameChar = [] ∧
      (w.extrasText ++ rest).dropWhile isNameChar = w.extrasText ++ rest := by
  have hhead : ∀ c ∈ (w.extrasText ++ rest).head?, isNameChar c = false := by
    unfold extrasText
    cases w.extras with
    | none => exact h
    | some extras =>
      intro c hc
      obtain rfl : '[' = c := by simpa using hc
      rfl
  cases hrest : w.extrasText ++ rest with
  | nil => exact ⟨rfl, rfl⟩
  | cons c rest =>
    have hc : isNameChar c = false := hhead c (by simp [hrest])
    simp [hc]

end Written

/-- A requirement that was written down is read back: its name, and its version requirement without
the white space around it. -/
theorem parse_text (w : Written) : parse w.text = ⟨w.name, trim w.version⟩ := by
  obtain ⟨front, hstated, hdrop, hhead⟩ := w.exists_stated
  obtain ⟨c, name, hname, hc⟩ := w.name_eq_cons
  obtain ⟨htake, hkept⟩ := w.dropWhile_extrasText fun c hc => (hhead c hc).1
  have hbracket : front.head? ≠ some '[' := fun h => (hhead '[' h).2 rfl
  have hfeed : '\n' ∉ trim w.version := fun h => w.not_mem_version.2 (Text.mem_of_mem_trim h)
  have hpass := fun c => w.isNameChar_of_mem (c := c)
  have hstart : trim (w.text.takeWhile (· != ';')) = c :: (name ++ (w.extrasText ++ front)) := by
    rw [hstated, hname, List.cons_append]
  rw [parse_of_start hc hstart, ← List.cons_append, ← hname, List.takeWhile_append_of_pos hpass,
    htake, List.append_nil, List.dropWhile_append_of_pos hpass, hkept, w.skipExtras_text hbracket,
    hdrop, List.takeWhile_eq_self_iff.mpr (Text.bne_of_not_mem hfeed), Text.trim_trim]

/-- Brackets in the extras and in the marker, a name with all its separators, and white space that
breaks the line. -/
theorem parse_text_sample :
    let w : Written :=
      { before := "\n ", name := "zope.Inter-face_5", extras := some "a, [b", gap := "\t ",
        version := "~= 1.0 , !=2 ", marker := some " python_version < '3'; [x]", behind := "\n" }
    w.text = "\n zope.Inter-face_5[a, [b]\t ~= 1.0 , !=2 ; python_version < '3'; [x]\n".toList ∧
      parse w.text = ⟨"zope.Inter-face_5", "~= 1.0 , !=2"⟩ := by
  intro w
  exact ⟨by decide, parse_text w⟩

end Requirement

end RepoAtlas
