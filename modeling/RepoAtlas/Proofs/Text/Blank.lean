import Mathlib.Data.List.TakeWhile
import RepoAtlas.Text.Blank
import RepoAtlas.Text.Word

/-!
# White space

Trimming takes white space from both ends of a text and nothing else. White space is not part of
words.
-/

namespace RepoAtlas.Text

variable {t : Text} {c : Char}

theorem mem_of_mem_trim (h : c ∈ trim t) : c ∈ t := by
  rw [trim, dropBoth, List.mem_reverse] at h
  exact List.dropWhile_subset _ (List.mem_reverse.mp (List.dropWhile_subset _ h))

theorem mem_dropWhile_of_not {p : Char → Bool} (hc : c ∈ t) (hp : p c = false) :
    c ∈ t.dropWhile p := by
  rw [← List.takeWhile_append_dropWhile (p := p) (l := t), List.mem_append] at hc
  rcases hc with hc | hc
  · have hpos := List.all_eq_true.mp List.all_takeWhile c hc
    rw [hp] at hpos
    cases hpos
  · exact hc

theorem mem_dropBoth_of_not {p : Char → Bool} (hc : c ∈ t) (hp : p c = false) :
    c ∈ dropBoth p t := by
  rw [dropBoth, List.mem_reverse]
  exact mem_dropWhile_of_not (List.mem_reverse.mpr (mem_dropWhile_of_not hc hp)) hp

theorem mem_trim_of_not_isBlank (hc : c ∈ t) (hblank : isBlank c = false) : c ∈ trim t :=
  mem_dropBoth_of_not hc hblank

theorem trim_concat (hc : isBlank c = true) (t : Text) : trim (t ++ [c]) = trim t := by
  simp only [trim, dropBoth, List.dropWhile_append]
  split
  · rename_i hempty
    simp [List.isEmpty_iff.mp hempty, hc]
  · simp [hc]

theorem trim_blank_append {before : Text} (hbefore : ∀ c ∈ before, isBlank c = true) (t : Text) :
    trim (before ++ t) = trim t := by
  simp [trim, dropBoth, List.dropWhile_append_of_pos hbefore]

theorem trim_append_blank {behind : Text} (hbehind : ∀ c ∈ behind, isBlank c = true) (t : Text) :
    trim (t ++ behind) = trim t := by
  induction behind generalizing t with
  | nil => rw [List.append_nil]
  | cons c behind ih =>
    obtain ⟨hc, hrest⟩ := List.forall_mem_cons.mp hbehind
    rw [List.append_cons, ih hrest, trim_concat hc]

theorem trim_padded {before behind : Text} (hbefore : ∀ c ∈ before, isBlank c = true)
    (hbehind : ∀ c ∈ behind, isBlank c = true) (t : Text) :
    trim (before ++ t ++ behind) = trim t := by
  rw [trim_append_blank hbehind, trim_blank_append hbefore]

/-- A text without white space in front still has the white space behind it. -/
theorem dropWhile_eq_trim_append (t : Text) :
    ∃ behind, t.dropWhile isBlank = trim t ++ behind ∧ ∀ c ∈ behind, isBlank c = true := by
  refine ⟨((t.dropWhile isBlank).reverse.takeWhile isBlank).reverse, ?_, fun c hc => ?_⟩
  · rw [trim, dropBoth, ← List.reverse_append, List.takeWhile_append_dropWhile,
      List.reverse_reverse]
  · exact List.all_eq_true.mp List.all_takeWhile c (List.mem_reverse.mp hc)

theorem exists_padding (t : Text) : ∃ before behind, t = before ++ trim t ++ behind ∧
    (∀ c ∈ before, isBlank c = true) ∧ ∀ c ∈ behind, isBlank c = true := by
  obtain ⟨behind, hdrop, hbehind⟩ := dropWhile_eq_trim_append t
  refine ⟨t.takeWhile isBlank, behind, ?_, fun c hc => ?_, hbehind⟩
  · rw [List.append_assoc, ← hdrop, List.takeWhile_append_dropWhile]
  · exact List.all_eq_true.mp List.all_takeWhile c hc

theorem trim_infix (t : Text) : trim t <:+: t := by
  obtain ⟨before, behind, ht, -⟩ := exists_padding t
  exact ⟨before, behind, ht.symm⟩

theorem trim_trim (t : Text) : trim (trim t) = trim t := by
  obtain ⟨before, behind, ht, hbefore, hbehind⟩ := exists_padding t
  have htrim := congrArg trim ht
  rw [trim_padded hbefore hbehind] at htrim
  exact htrim.symm

theorem trim_eq_self (hfirst : ∀ c ∈ t.head?, isBlank c = false)
    (hlast : ∀ c ∈ t.getLast?, isBlank c = false) : trim t = t := by
  have hstart : ∀ {t : Text}, (∀ c ∈ t.head?, isBlank c = false) → t.dropWhile isBlank = t := by
    rintro (_ | ⟨c, t⟩) h
    · rfl
    · exact List.dropWhile_cons_of_neg (by simp [h c rfl])
  rw [trim, dropBoth, hstart hfirst, hstart (by simpa using hlast), List.reverse_reverse]

theorem trim_of_ends (hfirst : ∃ c, t.head? = some c ∧ isBlank c = false)
    (hlast : ∃ c, t.getLast? = some c ∧ isBlank c = false) : trim t = t := by
  obtain ⟨first, hfirst, hfirstBlank⟩ := hfirst
  obtain ⟨last, hlast, hlastBlank⟩ := hlast
  refine trim_eq_self (fun c hc => ?_) fun c hc => ?_
  · rw [hfirst] at hc
    exact Option.some.inj hc ▸ hfirstBlank
  · rw [hlast] at hc
    exact Option.some.inj hc ▸ hlastBlank

theorem trim_of_not_isBlank (h : ∀ c ∈ t, isBlank c = false) : trim t = t :=
  trim_eq_self (fun c hc => h c (List.mem_of_mem_head? hc))
    fun c hc => h c (List.mem_of_mem_getLast? hc)

theorem trim_eq_nil_iff : trim t = [] ↔ ∀ c ∈ t, isBlank c = true := by
  rw [trim, dropBoth, List.reverse_eq_nil_iff, List.dropWhile_eq_nil_iff]
  constructor
  · intro h c hc
    rw [← List.takeWhile_append_dropWhile (p := isBlank) (l := t), List.mem_append] at hc
    rcases hc with hc | hc
    · exact List.all_eq_true.mp List.all_takeWhile c hc
    · exact h c (List.mem_reverse.mpr hc)
  · intro h c hc
    exact h c (List.dropWhile_subset _ (List.mem_reverse.mp hc))

theorem dropWhile_word_gap {word gap rest : Text} (hword : ∀ c ∈ word, isBlank c = false)
    (hne : gap ≠ []) (hgap : ∀ c ∈ gap, isBlank c = true)
    (hrest : rest.head?.any isBlank = false) :
    ((word ++ (gap ++ rest)).dropWhile (!isBlank ·)).dropWhile isBlank = rest := by
  obtain ⟨c, gap, rfl⟩ := List.exists_cons_of_ne_nil hne
  have hc : isBlank c = true := hgap c (.head _)
  rw [List.dropWhile_append_of_pos (fun c hc => by simp [hword c hc]), List.cons_append,
    List.dropWhile_cons_of_neg (by simp [hc]), ← List.cons_append,
    List.dropWhile_append_of_pos hgap]
  cases rest with
  | nil => rfl
  | cons x rest => exact List.dropWhile_cons_of_neg (by simpa using hrest)

theorem not_mem_of_isBlank (hc : isBlank c = false) (h : ∀ x ∈ t, isBlank x = true) : c ∉ t := by
  intro hmem
  rw [h c hmem] at hc
  cases hc

theorem head?_trim (hc : isBlank c = false) (t : Text) : (trim (c :: t)).head? = some c := by
  obtain ⟨behind, hdrop, -⟩ := dropWhile_eq_trim_append (c :: t)
  have hmem : c ∈ trim (c :: t) := mem_trim_of_not_isBlank (.head _) hc
  rw [List.dropWhile_cons_of_neg (by simp [hc])] at hdrop
  cases htrim : trim (c :: t) with
  | nil => simp [htrim] at hmem
  | cons d rest =>
    rw [htrim] at hdrop
    cases hdrop
    rfl

def blankCodes : List Nat :=
  [9, 10, 11, 12, 13, 28, 29, 30, 31, 32, 0x85, 0xa0, 0x1680, 0x2000, 0x2001, 0x2002, 0x2003,
    0x2004, 0x2005, 0x2006, 0x2007, 0x2008, 0x2009, 0x200a, 0x2028, 0x2029, 0x202f, 0x205f, 0x3000]

theorem toNat_mem_blankCodes (h : isBlank c = true) : c.toNat ∈ blankCodes := by
  simp only [blankCodes, List.mem_cons, List.not_mem_nil, or_false]
  simp only [isBlank] at h
  split at h
  · simp only [Bool.or_eq_true, Bool.and_eq_true, decide_eq_true_eq] at h
    omega
  · simp only [Bool.or_eq_true, Bool.and_eq_true, decide_eq_true_eq, beq_iff_eq] at h
    omega

theorem not_isDecimal_of_isBlank (h : isBlank c = true) : isDecimal c = false := by
  have hall : ∀ n ∈ blankCodes, isDecimal (Char.ofNat n) = false := by decide +kernel
  rw [← Char.ofNat_toNat c]
  exact hall _ (toNat_mem_blankCodes h)

theorem not_isWord_of_isBlank (h : isBlank c = true) : isWord c = false := by
  have hall : ∀ n ∈ blankCodes, isWord (Char.ofNat n) = false := by decide +kernel
  rw [← Char.ofNat_toNat c]
  exact hall _ (toNat_mem_blankCodes h)

theorem not_isBlank_of_isWord (h : isWord c = true) : isBlank c = false := by
  cases hblank : isBlank c with
  | false => rfl
  | true =>
    rw [not_isWord_of_isBlank hblank] at h
    cases h

end RepoAtlas.Text
