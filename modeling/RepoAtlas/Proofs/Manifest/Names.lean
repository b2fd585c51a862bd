import RepoAtlas.Language.Stock
import RepoAtlas.Proofs.Text.Basic
import RepoAtlas.Scan

/-!
# Names of manifests

Two tables say what a manifest is: languages announce names to a scan, and readers go by names of
their own. `Manifest.find?_matches_stock`: with the stock languages both accept the same names. More
than one entry of the readers' table may stand for a name, and then their readers are the same, so
that it does not matter in which order entries are tried.
-/

namespace RepoAtlas

-- -------------------------------------
-- Patterns
-- -------------------------------------

namespace Glob

/-- Characters that stand for themselves in a pattern. -/
def isPlain (c : Char) : Bool := c != '*' && c != '?' && c != '['

variable {t name : Text}

theorem pieces_plain (ht : t.all isPlain = true) (fuel : Nat) (u : Text) :
    pieces (t.length + fuel) (t ++ u) = t.map .char ++ pieces fuel u := by
  induction t with
  | nil => simp
  | cons c t ih =>
    simp only [List.all_cons, Bool.and_eq_true] at ht
    have hc : (c == '*') = false ∧ (c == '?') = false ∧ (c == '[') = false := by
      simpa [isPlain, and_assoc] using ht.1
    rw [List.length_cons, Nat.succ_add, List.cons_append, pieces]
    simp [hc, ih ht.2]

theorem accepts_chars {ps : List Piece} :
    accepts (t.map .char ++ ps) name = true ↔
      ∃ rest, name = t ++ rest ∧ accepts ps rest = true := by
  induction t generalizing name with
  | nil => simp
  | cons c t ih =>
    cases name with
    | nil => simp [accepts]
    | cons d name =>
      simp only [List.map_cons, List.cons_append, accepts, Bool.and_eq_true, beq_iff_eq, ih,
        List.cons.injEq]
      constructor
      · rintro ⟨rfl, rest, rfl, hrest⟩
        exact ⟨rest, ⟨rfl, rfl⟩, hrest⟩
      · rintro ⟨rest, ⟨rfl, rfl⟩, hrest⟩
        exact ⟨rfl, rest, rfl, hrest⟩

theorem accepts_text : accepts (t.map .char) name = true ↔ name = t := by
  have h := @accepts_chars t name []
  simpa [accepts] using h

theorem someEnd_iff {p : Text → Bool} :
    someEnd p t = true ↔ ∃ ending, ending <:+ t ∧ p ending = true := by
  induction t with
  | nil => simp [someEnd]
  | cons c t ih =>
    simp only [someEnd, Bool.or_eq_true, ih, List.suffix_cons_iff]
    constructor
    · rintro (h | ⟨ending, hending, h⟩)
      · exact ⟨_, .inl rfl, h⟩
      · exact ⟨ending, .inr hending, h⟩
    · rintro ⟨ending, rfl | hending, h⟩
      · exact .inl h
      · exact .inr ⟨ending, hending, h⟩

end Glob

/-- A pattern with one wildcard, and characters that stand for themselves around it, fits the names
that begin and end like it. -/
theorem Text.fits_wildcard {front back name : Text} (hfront : front.all Glob.isPlain = true)
    (hback : back.all Glob.isPlain = true) :
    fits (front ++ '*' :: back) name = true ↔ ∃ middle, name = front ++ (middle ++ back) := by
  have hpieces : Glob.pieces (front ++ '*' :: back).length (front ++ '*' :: back) =
      front.map .char ++ .anyText :: back.map .char := by
    have hbehind := Glob.pieces_plain hback 0 []
    rw [List.append_nil, Nat.add_zero, Glob.pieces, List.append_nil] at hbehind
    rw [List.length_append, Glob.pieces_plain hfront, List.length_cons, Glob.pieces, hbehind]
    rfl
  simp only [fits, hpieces, Glob.accepts_chars, Glob.accepts, Glob.someEnd_iff, Glob.accepts_text]
  constructor
  · rintro ⟨rest, rfl, _, ⟨middle, rfl⟩, rfl⟩
    exact ⟨middle, rfl⟩
  · rintro ⟨middle, rfl⟩
    exact ⟨_, rfl, back, ⟨middle, rfl⟩, rfl⟩

namespace Manifest

variable {name pattern : Text} {kind : Manifest}

-- -------------------------------------
-- Entries that stand for the same name
-- -------------------------------------

/-- Whether an entry of a table stands for a name, as the same text or as a pattern that it fits. -/
def covers (pattern name : Text) : Bool :=
  pattern == name || hasWildcard pattern && pattern.fits name

theorem covers_iff : covers pattern name = true ↔
    pattern = name ∨ hasWildcard pattern = true ∧ pattern.fits name = true := by
  simp [covers]

/-- What stands in front of the first wildcard. -/
def beginning (pattern : Text) : Text := pattern.takeWhile (· != '*')

/-- What stands behind the first wildcard. -/
def ending (pattern : Text) : Text := (pattern.dropWhile (· != '*')).drop 1

def hasOneWildcard (pattern : Text) : Bool :=
  pattern == beginning pattern ++ '*' :: ending pattern &&
    (beginning pattern).all Glob.isPlain && (ending pattern).all Glob.isPlain

theorem ending_suffix (hone : hasOneWildcard pattern = true)
    (h : pattern.fits name = true) : ending pattern <:+ name := by
  simp only [hasOneWildcard, Bool.and_eq_true, beq_iff_eq] at hone
  obtain ⟨⟨hpattern, hbeginning⟩, hending⟩ := hone
  rw [hpattern, Text.fits_wildcard hbeginning hending] at h
  obtain ⟨middle, rfl⟩ := h
  exact ⟨beginning pattern ++ middle, List.append_assoc ..⟩

theorem covers_names : ∀ a ∈ names, ∀ b ∈ names, covers a.1 b.1 = true → a.2 = b.2 := by
  decide +kernel

theorem names_hasOneWildcard :
    ∀ a ∈ names, hasWildcard a.1 = true → hasOneWildcard a.1 = true := by
  decide +kernel

theorem endings_names : ∀ a ∈ names, ∀ b ∈ names, hasWildcard a.1 = true →
    hasWildcard b.1 = true → Text.endsWith (ending a.1) (ending b.1) = true → a.2 = b.2 := by
  decide +kernel

theorem covers_agree {a b : Text × Manifest} (ha : a ∈ names) (hb : b ∈ names)
    (hcovers : covers a.1 name = true) (hcovers' : covers b.1 name = true) : a.2 = b.2 := by
  rcases covers_iff.mp hcovers with rfl | ⟨hwild, hfits⟩
  · exact (covers_names b hb a ha hcovers').symm
  rcases covers_iff.mp hcovers' with rfl | ⟨hwild', hfits'⟩
  · exact covers_names a ha b hb hcovers
  -- Two patterns: one of the endings is an ending of the other.
  have hend := ending_suffix (names_hasOneWildcard a ha hwild) hfits
  have hend' := ending_suffix (names_hasOneWildcard b hb hwild') hfits'
  rcases List.suffix_or_suffix_of_suffix hend hend' with h | h
  · exact endings_names a ha b hb hwild hwild' (Text.endsWith_iff.mpr h)
  · exact (endings_names b hb a ha hwild' hwild (Text.endsWith_iff.mpr h)).symm

/-- Some entry of the table stands for a name, and is of a kind. -/
def Covered (name : Text) (kind : Manifest) : Prop :=
  ∃ entry ∈ names, covers entry.1 name = true ∧ entry.2 = kind

theorem Covered.unique {other : Manifest} (h : Covered name kind) (h' : Covered name other) :
    kind = other := by
  obtain ⟨a, ha, hcovers, rfl⟩ := h
  obtain ⟨b, hb, hcovers', rfl⟩ := h'
  exact covers_agree ha hb hcovers hcovers'

-- -------------------------------------
-- Ways to look a name up
-- -------------------------------------

/-- It is enough that a search finds something, and nothing that is not there. -/
theorem eq_some_iff_covered {found : Option Manifest}
    (hsound : ∀ kind, found = some kind → Covered name kind)
    (hcomplete : ∀ entry ∈ names, covers entry.1 name = true → ∃ kind, found = some kind) :
    found = some kind ↔ Covered name kind := by
  refine ⟨hsound kind, fun h => ?_⟩
  have ⟨entry, hentry, hcovers, _⟩ := h
  obtain ⟨other, hother⟩ := hcomplete entry hentry hcovers
  rw [hother, (hsound other hother).unique h]

theorem covered_of_find? (h : find? name = some kind) : Covered name kind := by
  unfold find? at h
  split at h
  · rename_i found hlookup
    cases h
    exact ⟨_, Text.mem_of_lookup hlookup, covers_iff.mpr (.inl rfl), rfl⟩
  · obtain ⟨entry, hfind, rfl⟩ := Option.map_eq_some_iff.mp h
    have hfits := List.find?_some hfind
    rw [Bool.and_eq_true] at hfits
    exact ⟨entry, List.mem_of_find?_eq_some hfind, covers_iff.mpr (.inr hfits), rfl⟩

theorem find?_eq_some_iff : find? name = some kind ↔ Covered name kind := by
  refine eq_some_iff_covered (fun _ => covered_of_find?) fun entry hentry hcovers => ?_
  unfold find?
  split
  · exact ⟨_, rfl⟩
  · rename_i hlookup
    rcases covers_iff.mp hcovers with rfl | ⟨hwild, hfits⟩
    · simpa using List.lookup_eq_none_iff.mp hlookup entry hentry
    · rw [← Option.isSome_iff_exists, Option.isSome_map, List.find?_isSome]
      exact ⟨entry, hentry, Bool.and_eq_true_iff.mpr ⟨hwild, hfits⟩⟩

/-- The kind of the first entry that stands for a name. -/
def first? (table : List (Text × Manifest)) (name : Text) : Option Manifest :=
  (table.find? fun entry => covers entry.1 name).map Prod.snd

theorem first?_eq_some_iff {table : List (Text × Manifest)} (htable : table.Perm names) :
    first? table name = some kind ↔ Covered name kind := by
  refine eq_some_iff_covered ?_ fun entry hentry hcovers => ?_
  · intro kind h
    obtain ⟨entry, hfind, rfl⟩ := Option.map_eq_some_iff.mp h
    have hcovers := List.find?_some hfind
    exact ⟨entry, htable.mem_iff.mp (List.mem_of_find?_eq_some hfind), hcovers, rfl⟩
  · rw [← Option.isSome_iff_exists, first?, Option.isSome_map, List.find?_isSome]
    exact ⟨entry, htable.mem_iff.mpr hentry, hcovers⟩

-- -------------------------------------
-- The manifests of the stock languages
-- -------------------------------------

theorem stock_mem_names :
    ∀ pattern ∈ Registry.stock.manifests, ∃ entry ∈ names, entry.1 = pattern := by
  decide +kernel

theorem wildcards_mem_stock :
    ∀ entry ∈ names, hasWildcard entry.1 = true → entry.1 ∈ Registry.stock.manifests := by
  decide +kernel

theorem isManifest_names : ∀ entry ∈ names, Scan.isManifest Registry.stock entry.1 = true := by
  decide +kernel

theorem isManifest_iff :
    Scan.isManifest Registry.stock name = true ↔ ∃ kind, Covered name kind := by
  constructor
  · intro h
    obtain ⟨pattern, hpattern, hholds⟩ := List.any_eq_true.mp h
    obtain ⟨entry, hentry, rfl⟩ := stock_mem_names pattern hpattern
    refine ⟨_, entry, hentry, covers_iff.mpr ?_, rfl⟩
    split at hholds
    · rename_i hwild
      exact .inr ⟨hwild, hholds⟩
    · exact .inl (beq_iff_eq.mp hholds)
  · rintro ⟨_, entry, hentry, hcovers, -⟩
    rcases covers_iff.mp hcovers with rfl | ⟨hwild, hfits⟩
    · exact isManifest_names entry hentry
    · refine List.any_eq_true.mpr ⟨entry.1, wildcards_mem_stock entry hentry hwild, ?_⟩
      rw [if_pos hwild, hfits]

/-- A name is that of a manifest of some stock language exactly if there is a reader for it. All
entries of the readers' table that stand for a name have the same reader, so that the first of them
gives the kind of the file, in whatever order they are tried. -/
theorem find?_matches_stock (name : Text) :
    (Scan.isManifest Registry.stock name = true ↔ ∃ kind, find? name = some kind) ∧
    (∀ a ∈ names, ∀ b ∈ names, covers a.1 name = true → covers b.1 name = true → a.2 = b.2) ∧
    ∀ table, table.Perm names → first? table name = find? name := by
  refine ⟨?_, fun a ha b hb => covers_agree ha hb, fun table htable => ?_⟩
  · simp only [isManifest_iff, find?_eq_some_iff]
  · refine Option.ext fun kind => ?_
    rw [first?_eq_some_iff htable, find?_eq_some_iff]

end Manifest

end RepoAtlas
