import RepoAtlas.Language.Family
import RepoAtlas.Proofs.Import.Block
import RepoAtlas.Proofs.Text.Cut

/-!
# The names in an import clause

A clause binds a default name, a name for the whole module or the names between braces, in any
layout. `ScriptClause.names_of_get`: the names read from a clause are those it binds, in order, by
the names they have where they come from.
-/

namespace RepoAtlas

-- -------------------------------------
-- White space in a layout
-- -------------------------------------

namespace Text

/-- White space, possibly none. -/
structure White where
  text : Text := []
  blank : text.all isBlank = true := by decide

/-- White space. -/
structure Gap where
  first : Char := ' '
  more : White := {}
  blank : isBlank first = true := by decide

def Gap.text (g : Gap) : Text := g.first :: g.more.text

theorem White.isBlank_of_mem (w : White) {c : Char} (hc : c ∈ w.text) : isBlank c = true :=
  List.all_eq_true.mp w.blank c hc

theorem Gap.isBlank_of_mem (g : Gap) {c : Char} (hc : c ∈ g.text) : isBlank c = true := by
  rcases List.mem_cons.mp hc with rfl | hc
  · exact g.blank
  · exact g.more.isBlank_of_mem hc

theorem Gap.all_text (g : Gap) : g.text.all isBlank = true :=
  List.all_eq_true.mpr fun _ hc => g.isBlank_of_mem hc

end Text

open Pattern ImportForm Text

theorem Pattern.wordOr_mono {extra more : Text} (h : extra.all more.contains = true) {c : Char}
    (hc : wordOr extra c = true) : wordOr more c = true := by
  simp only [wordOr, Bool.or_eq_true] at hc ⊢
  exact hc.imp_right fun hmem => List.all_eq_true.mp h c (List.contains_iff_mem.mp hmem)

-- -------------------------------------
-- Names
-- -------------------------------------

/-- A name in a clause, which is not one of the words that give a clause its form. -/
structure ScriptName where
  text : Text
  nonempty : text ≠ [] := by decide
  chars : text.all (wordOr "$") = true := by decide
  free : text ∉ ["type".toList, "as".toList, "from".toList, "import".toList] := by decide

namespace ScriptName

variable (n : ScriptName)

theorem wordOr_of_mem {c : Char} (hc : c ∈ n.text) : wordOr "$" c = true :=
  List.all_eq_true.mp n.chars c hc

theorem not_isBlank_of_mem {c : Char} (hc : c ∈ n.text) : isBlank c = false :=
  not_isBlank_of_wordOr (by decide) (n.wordOr_of_mem hc)

theorem not_mem {c : Char} (hc : wordOr "$" c = false) : c ∉ n.text := by
  intro hmem
  rw [n.wordOr_of_mem hmem] at hc
  cases hc

theorem trim_text : trim n.text = n.text := trim_of_not_isBlank fun _ hc => n.not_isBlank_of_mem hc

theorem head?_text : ∃ c, n.text.head? = some c ∧ isBlank c = false := by
  obtain ⟨c, t, ht⟩ := List.exists_cons_of_ne_nil n.nonempty
  exact ⟨c, by rw [ht, List.head?_cons], n.not_isBlank_of_mem (by simp [ht])⟩

theorem getLast?_text : ∃ c, n.text.getLast? = some c ∧ isBlank c = false :=
  ⟨n.text.getLast n.nonempty, List.getLast?_eq_some_getLast n.nonempty,
    n.not_isBlank_of_mem (List.getLast_mem _)⟩

end ScriptName

-- -------------------------------------
-- Entries in braces
-- -------------------------------------

/-- ` as name`. -/
structure ScriptAlias where
  before : Gap := {}
  behind : Gap := {}
  name : ScriptName

namespace ScriptAlias

variable (a : ScriptAlias)

def text : Text := a.before.text ++ ("as".toList ++ (a.behind.text ++ a.name.text))

theorem getLast?_text : ∃ c, a.text.getLast? = some c ∧ isBlank c = false := by
  obtain ⟨c, hc, hblank⟩ := a.name.getLast?_text
  refine ⟨c, ?_, hblank⟩
  rw [text, List.getLast?_append, List.getLast?_append, List.getLast?_append, hc]
  rfl

theorem mem_text {c : Char} (hc : c ∈ a.text) : wordOr "$" c = true ∨ isBlank c = true := by
  simp only [text, List.mem_append] at hc
  rcases hc with hc | hc | hc | hc
  · exact .inr (a.before.isBlank_of_mem hc)
  · have hword : "as".toList.all (wordOr "$") = true := by decide
    exact .inl (List.all_eq_true.mp hword c hc)
  · exact .inr (a.behind.isBlank_of_mem hc)
  · exact .inl (a.name.wordOr_of_mem hc)

end ScriptAlias

/-- A name in braces, with an alias or without. -/
structure ScriptEntry where
  before : White := {}
  /-- What stands behind `type` and a space, if the entry has them. -/
  typeOnly : Option White := none
  name : ScriptName
  renamed : Option ScriptAlias := none
  behind : White := {}

namespace ScriptEntry

variable (e : ScriptEntry)

/-- The name, and the alias behind it. -/
def naming : Text := e.name.text ++ e.renamed.elim [] ScriptAlias.text

def typing : Text := e.typeOnly.elim [] fun w => "type ".toList ++ w.text

def text : Text := e.before.text ++ (e.typing ++ e.naming) ++ e.behind.text

theorem naming_ends : (∃ c, e.naming.head? = some c ∧ isBlank c = false) ∧
    ∃ c, e.naming.getLast? = some c ∧ isBlank c = false := by
  constructor
  · obtain ⟨c, hc, hblank⟩ := e.name.head?_text
    exact ⟨c, by rw [naming, List.head?_append, hc, Option.some_or], hblank⟩
  · cases hrenamed : e.renamed with
    | none => simpa [naming, hrenamed] using e.name.getLast?_text
    | some a =>
      obtain ⟨c, hc, hblank⟩ := a.getLast?_text
      exact ⟨c, by rw [naming, hrenamed, Option.elim_some, List.getLast?_append, hc]; rfl, hblank⟩

theorem trim_naming : trim e.naming = e.naming := trim_of_ends e.naming_ends.1 e.naming_ends.2

theorem trim_text : trim e.text = e.typing ++ e.naming := by
  rw [text, trim_padded (fun _ hc => e.before.isBlank_of_mem hc)
    fun _ hc => e.behind.isBlank_of_mem hc]
  cases htype : e.typeOnly with
  | none => simpa [typing, htype] using e.trim_naming
  | some w =>
    obtain ⟨c, hc, hblank⟩ := e.naming_ends.2
    refine trim_of_ends ⟨'t', by simp [typing, htype], rfl⟩ ⟨c, ?_, hblank⟩
    rw [List.getLast?_append, hc, Option.some_or]

theorem takeWhile_naming : e.naming.takeWhile (!isBlank ·) = e.name.text := by
  have hname : ∀ c ∈ e.name.text, (!isBlank c) = true := fun c hc => by
    simp [e.name.not_isBlank_of_mem hc]
  rw [naming, List.takeWhile_append_of_pos hname]
  cases e.renamed with
  | none => simp
  | some a => simp [ScriptAlias.text, Gap.text, a.before.blank]

theorem after?_naming : after? "type " e.naming = none := by
  cases hafter : after? "type " e.naming with
  | none => rfl
  | some rest =>
    have hname := e.takeWhile_naming
    rw [after?_eq_some_iff.mp hafter] at hname
    exact absurd (.head _) (hname ▸ e.name.free)

theorem beforeAlias_naming : beforeAlias e.naming = e.name.text := by
  have hname : e.name.text.any isBlank = false :=
    List.any_eq_false.mpr fun c hc => by simp [e.name.not_isBlank_of_mem hc]
  cases hrenamed : e.renamed with
  | none =>
    rw [naming, hrenamed, Option.elim_none, List.append_nil]
    exact startsIn_aliasMark.upTo_eq_self hname
  | some a =>
    obtain ⟨c, hc, hblank⟩ := a.name.head?_text
    have hmark : Reads aliasMark (a.before.text ++ ("as".toList ++ a.behind.text)) a.name.text [] :=
      (reads_many1 (List.cons_ne_nil _ _) a.before.all_text (by rfl)).cons <|
        (reads_lit "as".toList).cons <|
        (reads_many1 (List.cons_ne_nil _ _) a.behind.all_text (by simp [hc, hblank])).last
    have hsplit : e.naming =
        e.name.text ++ (a.before.text ++ ("as".toList ++ a.behind.text) ++ a.name.text) := by
      simp only [naming, hrenamed, Option.elim_some, ScriptAlias.text, List.append_assoc]
    rw [hsplit]
    exact upTo_eq_of_reads hmark startsIn_aliasMark hname

theorem innerName_padded {before : Text} (hbefore : ∀ c ∈ before, isBlank c = true) (t : Text) :
    Script.innerName (before ++ t) = Script.innerName t := by
  simp only [Script.innerName, trim_blank_append hbefore]

theorem innerName_eq (t : Text) : Script.innerName t =
    trim (beforeAlias ((after? "type " (trim t)).elim (trim t) trim)) := by
  simp only [Script.innerName]
  cases after? "type ".toList (trim t) <;> rfl

theorem innerName_text : Script.innerName e.text = e.name.text := by
  have hafter : (after? "type " (e.typing ++ e.naming)).elim (e.typing ++ e.naming) trim =
      e.naming := by
    cases htype : e.typeOnly with
    | none =>
      rw [typing, htype, Option.elim_none, List.nil_append, e.after?_naming, Option.elim_none]
    | some w =>
      have hsome : after? "type " (e.typing ++ e.naming) = some (w.text ++ e.naming) := by
        rw [after?_eq_some_iff, typing, htype, Option.elim_some, List.append_assoc]
      rw [hsome, Option.elim_some, trim_blank_append fun _ hc => w.isBlank_of_mem hc, e.trim_naming]
  rw [innerName_eq, e.trim_text, hafter, e.beforeAlias_naming, e.name.trim_text]

theorem mem_text {c : Char} (hc : c ∈ e.text) : wordOr "$" c = true ∨ isBlank c = true := by
  have htype : c ∈ e.typing → wordOr "$" c = true ∨ isBlank c = true := by
    intro hc
    cases htype : e.typeOnly with
    | none => simp [typing, htype] at hc
    | some w =>
      rw [typing, htype, Option.elim_some, List.mem_append] at hc
      rcases hc with hc | hc
      · have hword : "type ".toList.all (fun c => wordOr "$" c || isBlank c) = true := by decide
        simpa using List.all_eq_true.mp hword c hc
      · exact .inr (w.isBlank_of_mem hc)
  have halias : c ∈ e.renamed.elim [] ScriptAlias.text →
      wordOr "$" c = true ∨ isBlank c = true := by
    intro hc
    cases hrenamed : e.renamed with
    | none => simp [hrenamed] at hc
    | some a => exact a.mem_text (by simpa [hrenamed] using hc)
  simp only [text, naming, List.mem_append, or_assoc] at hc
  rcases hc with hc | hc | hc | hc | hc
  · exact .inr (e.before.isBlank_of_mem hc)
  · exact htype hc
  · exact .inl (e.name.wordOr_of_mem hc)
  · exact halias hc
  · exact .inr (e.behind.isBlank_of_mem hc)

/-- What stands between the braces. -/
def list (pad : White) (entries : List ScriptEntry) : Text :=
  pad.text ++ [','].intercalate (entries.map text)

theorem filterMap_list (pad : White) (entries : List ScriptEntry) :
    (splitOn ',' (list pad entries)).filterMap (fun t => nonEmpty? (Script.innerName t)) =
      entries.map (·.name.text) := by
  have hpad : ∀ c ∈ pad.text, isBlank c = true := fun _ hc => pad.isBlank_of_mem hc
  have hcomma : ',' ∉ pad.text := not_mem_of_isBlank rfl hpad
  have hpieces : ∀ t ∈ entries.map text, ',' ∉ t := by
    intro t ht hmem
    obtain ⟨e, -, rfl⟩ := List.mem_map.mp ht
    rcases e.mem_text hmem with hword | hblank
    · exact absurd hword (by decide)
    · exact absurd hblank (by decide)
  have hentry : ∀ e : ScriptEntry, nonEmpty? (Script.innerName e.text) = some e.name.text :=
    fun e => nonEmpty?_eq_some_iff.mpr ⟨e.innerName_text, e.name.nonempty⟩
  cases entries with
  | nil =>
    have hnothing : Script.innerName (pad.text ++ []) = [] := by
      rw [innerName_padded hpad]
      rfl
    simp only [list, List.map_nil, List.intercalate_nil]
    rw [splitOn_of_not_mem (by simpa using hcomma), List.filterMap_cons, hnothing]
    rfl
  | cons e entries =>
    obtain ⟨he, hentries⟩ := List.forall_mem_cons.mp hpieces
    have hinside : list pad (e :: entries) =
        [','].intercalate ((pad.text ++ e.text) :: entries.map text) := by
      cases entries with
      | nil => simp [list]
      | cons next entries => simp [list, List.intercalate_cons_cons]
    have hfirst : ',' ∉ pad.text ++ e.text := by
      rw [List.mem_append, not_or]
      exact ⟨hcomma, he⟩
    rw [hinside, splitOn_intercalate (List.cons_ne_nil _ _)
      (List.forall_mem_cons.mpr ⟨hfirst, hentries⟩),
      List.filterMap_cons, innerName_padded hpad, hentry, List.filterMap_map]
    have hrest : (fun t => nonEmpty? (Script.innerName t)) ∘ text =
        some ∘ fun e => e.name.text := funext hentry
    rw [hrest, List.filterMap_eq_map]
    rfl

theorem mem_list {pad : White} {entries : List ScriptEntry} {c : Char}
    (hc : c ∈ list pad entries) : wordOr "$," c = true ∨ isBlank c = true := by
  rcases List.mem_append.mp hc with hc | hc
  · exact .inr (pad.isBlank_of_mem hc)
  · rcases mem_intercalate hc with rfl | ⟨t, ht, hc⟩
    · exact .inl (by decide)
    · obtain ⟨e, -, rfl⟩ := List.mem_map.mp ht
      exact (e.mem_text hc).imp_left (wordOr_mono rfl)

end ScriptEntry

-- -------------------------------------
-- Clauses
-- -------------------------------------

/-- What a clause binds beside a default name. -/
inductive ScriptBinding where
  /-- `* as name`. -/
  | star (a : ScriptAlias)
  | braces (inside : White) (entries : List ScriptEntry)

namespace ScriptBinding

/-- The character that such a binding starts with. -/
def opening : ScriptBinding → Char
  | star .. => '*'
  | braces .. => '\x7b'

def rest : ScriptBinding → Text
  | star a => a.text
  | braces inside entries => ScriptEntry.list inside entries ++ ['\x7d']

def text (b : ScriptBinding) : Text := b.opening :: b.rest

def names : ScriptBinding → List Text
  | star a => [a.name.text]
  | braces _ entries => entries.map (·.name.text)

theorem not_isBlank_opening (b : ScriptBinding) : isBlank b.opening = false := by
  cases b <;> rfl

theorem getLast?_text (b : ScriptBinding) : ∃ c, b.text.getLast? = some c ∧ isBlank c = false := by
  cases b with
  | star a =>
    obtain ⟨c, hc, hblank⟩ := a.getLast?_text
    exact ⟨c, by rw [text, rest, List.getLast?_cons, hc]; rfl, hblank⟩
  | braces inside entries =>
    exact ⟨'\x7d', by rw [text, rest, ← List.cons_append, List.getLast?_concat], rfl⟩

theorem mem_rest {b : ScriptBinding} {c : Char} (hc : c ∈ b.rest) :
    wordOr "$,\x7d" c = true ∨ isBlank c = true := by
  cases b with
  | star a => exact (a.mem_text hc).imp_left (wordOr_mono rfl)
  | braces inside entries =>
    rcases List.mem_append.mp hc with hc | hc
    · exact (ScriptEntry.mem_list hc).imp_left (wordOr_mono rfl)
    · rw [List.mem_singleton.mp hc]
      exact .inl (by decide)

end ScriptBinding

inductive ScriptClause where
  | default (name : ScriptName)
  | binding (b : ScriptBinding)
  | both (name : ScriptName) (before behind : White) (b : ScriptBinding)

namespace ScriptClause

def text : ScriptClause → Text
  | default name => name.text
  | binding b => b.text
  | both name before behind b => name.text ++ before.text ++ ',' :: behind.text ++ b.text

/-- The default name, then the others. -/
def names : ScriptClause → List Text
  | default name => [name.text]
  | binding b => b.names
  | both name _ _ b => name.text :: b.names

-- -------------------------------------
-- Names outside braces
-- -------------------------------------

/-- The names bound by what stands outside braces. -/
def outerNames (t : Text) : List Text :=
  ((splitOn ',' t).map trim).filterMap fun part =>
    if part.isEmpty then none else some (Script.outerName part)

theorem outerNames_append (front t : Text) :
    outerNames (front ++ ',' :: t) = outerNames front ++ outerNames t := by
  simp [outerNames, splitOn_append]

theorem outerNames_blank_append {before t : Text} (hbefore : ∀ c ∈ before, isBlank c = true)
    (ht : ',' ∉ t) : outerNames (before ++ t) = outerNames t := by
  have hcomma : ',' ∉ before ++ t := by
    rw [List.mem_append, not_or]
    exact ⟨not_mem_of_isBlank rfl hbefore, ht⟩
  simp only [outerNames, splitOn_of_not_mem hcomma, splitOn_of_not_mem ht, List.map_cons,
    trim_blank_append hbefore]

theorem startsIn_nameSpace : StartsIn (· == '*') Script.nameSpace :=
  StartsIn.inOrder (startsIn_lit rfl rfl) _

/-- The name stays the same with white space behind it. -/
theorem outerNames_name (n : ScriptName) (w : White) :
    outerNames (n.text ++ w.text) = [n.text] := by
  have hmiss : Script.nameSpace.match? n.text = none := by
    have hhead : n.text.head?.any (· == '*') = false := by
      obtain ⟨c, t, ht⟩ := List.exists_cons_of_ne_nil n.nonempty
      have hc : c ≠ '*' := fun hstar => n.not_mem (by decide : wordOr "$" '*' = false)
        (by simp [ht, hstar])
      simpa [ht] using hc
    rw [match?, matchAt?, startsIn_nameSpace.misses hhead _ _ rfl]
    rfl
  have hcomma : ',' ∉ n.text ++ w.text := by
    rw [List.mem_append, not_or]
    exact ⟨n.not_mem (by decide), not_mem_of_isBlank rfl fun _ hc => w.isBlank_of_mem hc⟩
  simp [outerNames, splitOn_of_not_mem hcomma, trim_append_blank fun _ hc => w.isBlank_of_mem hc,
    n.trim_text, n.nonempty, Script.outerName, hmiss]

theorem outerNames_both (name : ScriptName) (before behind : White) {t : Text} (ht : ',' ∉ t) :
    outerNames (name.text ++ before.text ++ ',' :: behind.text ++ t) =
      name.text :: outerNames t := by
  rw [List.append_assoc, List.cons_append, outerNames_append, outerNames_name,
    outerNames_blank_append (fun _ hc => behind.isBlank_of_mem hc) ht]
  rfl

theorem not_mem_star {a : ScriptAlias} {c : Char} (hc : c ≠ '*') (hword : wordOr "$" c = false)
    (hblank : isBlank c = false) : c ∉ (ScriptBinding.star a).text := by
  intro hmem
  rcases List.mem_cons.mp hmem with hstar | hmem
  · exact hc hstar
  · rcases a.mem_text hmem with h | h
    · rw [h] at hword
      cases hword
    · rw [h] at hblank
      cases hblank

theorem outerNames_star (a : ScriptAlias) :
    outerNames (ScriptBinding.star a).text = [a.name.text] := by
  obtain ⟨first, hfirst, hblank⟩ := a.name.head?_text
  have hread : Reads Script.nameSpace (['*'] ++ a.text) [] [("name", a.name.text)] :=
    (reads_lit ['*']).cons <|
      (reads_many1 (List.cons_ne_nil _ _) a.before.all_text (by rfl)).cons <|
      (reads_lit "as".toList).cons <|
      (reads_many1 (List.cons_ne_nil _ _) a.behind.all_text (by simp [hfirst, hblank])).cons <|
      ((reads_many1 a.name.nonempty a.name.chars rfl).capture "name").last
  have htrim : trim (ScriptBinding.star a).text = (ScriptBinding.star a).text :=
    trim_of_ends ⟨'*', rfl, rfl⟩ (ScriptBinding.getLast?_text _)
  obtain ⟨m, hm, -, -, hget⟩ := hread.matchAt? (c := Cursor.start _) (List.append_nil _).symm
  have hmatch : Script.nameSpace.match? (ScriptBinding.star a).text = some m := hm
  have hname : Script.outerName (ScriptBinding.star a).text = a.name.text := by
    simp only [Script.outerName, hmatch, Match.get, hget]
    rfl
  have hcomma : ',' ∉ (ScriptBinding.star a).text :=
    not_mem_star (by decide) (by decide) (by decide)
  rw [outerNames, splitOn_of_not_mem hcomma, List.map_singleton, htrim, List.filterMap_cons, hname]
  rfl

-- -------------------------------------
-- Names of a clause
-- -------------------------------------

theorem startsIn_braces : StartsIn (· == '\x7b') Script.braces :=
  StartsIn.inOrder (startsIn_lit rfl rfl) _

theorem reads_braces (pad : White) (entries : List ScriptEntry) (rest : Text) :
    Reads Script.braces (['\x7b'] ++ (ScriptEntry.list pad entries ++ ['\x7d'])) rest
      [("inside", ScriptEntry.list pad entries)] := by
  have hinside : (ScriptEntry.list pad entries).all (noneOf "\x7d") = true := by
    refine List.all_eq_true.mpr fun c hc => ?_
    have hbrace : c ≠ '\x7d' := by
      rintro rfl
      rcases ScriptEntry.mem_list hc with hword | hblank
      · exact absurd hword (by decide)
      · exact absurd hblank (by decide)
    simpa [noneOf] using hbrace
  exact (reads_lit ['\x7b']).cons <| ((reads_many hinside rfl).capture "inside").cons <|
    (reads_lit ['\x7d']).last

variable {m : Match} {t : Text}

theorem names_of_unbraced (hm : trim (m.get "names") = t) (ht : '\x7b' ∉ t) :
    Script.names m = outerNames t := by
  have hnone : Script.braces.search? t = none :=
    startsIn_braces.search?_eq_none (by simpa [List.any_beq'] using ht)
  simp only [Script.names, hm, hnone]
  rfl

theorem names_of_braced {pad : White} {entries : List ScriptEntry} (front : Text)
    (hfront : '\x7b' ∉ front)
    (hm : trim (m.get "names") = front ++ (ScriptBinding.braces pad entries).text) :
    Script.names m = outerNames front ++ entries.map (·.name.text) := by
  obtain ⟨b, hb, hfirst, hget⟩ := (reads_braces pad entries []).searchAt? startsIn_braces
    (c := Cursor.start _)
    (show front.any (· == '\x7b') = false by simpa [List.any_beq'] using hfront) rfl
  have hsearch : Script.braces.search? (front ++ (ScriptBinding.braces pad entries).text) =
      some b := by
    rw [← hb, List.append_nil]
    rfl
  have hinside : b.get "inside" = ScriptEntry.list pad entries := by
    rw [Match.get, hget]
    rfl
  have hposition : b.first.position = front.length := by simp [hfirst, Cursor.past, Cursor.start]
  simp only [Script.names, hm, hsearch, hinside, hposition, List.take_left,
    ScriptEntry.filterMap_list]
  rfl

theorem head?_text (clause : ScriptClause) :
    ∃ c, clause.text.head? = some c ∧ isBlank c = false := by
  cases clause with
  | default name => exact name.head?_text
  | binding b => exact ⟨b.opening, rfl, b.not_isBlank_opening⟩
  | both name before behind b =>
    obtain ⟨c, hc, hblank⟩ := name.head?_text
    exact ⟨c, by simp [text, List.head?_append, hc], hblank⟩

theorem getLast?_text (clause : ScriptClause) :
    ∃ c, clause.text.getLast? = some c ∧ isBlank c = false := by
  cases clause with
  | default name => exact name.getLast?_text
  | binding b => exact b.getLast?_text
  | both name before behind b =>
    obtain ⟨c, hc, hblank⟩ := b.getLast?_text
    exact ⟨c, by rw [text, List.getLast?_append, hc, Option.some_or], hblank⟩

theorem names_of_get (clause : ScriptClause) (hm : m.get "names" = clause.text) :
    Script.names m = clause.names := by
  have htrim : trim (m.get "names") = clause.text := by
    rw [hm, trim_of_ends clause.head?_text clause.getLast?_text]
  have hbrace (n : ScriptName) : '\x7b' ∉ n.text := n.not_mem (by decide)
  have hblank (w : White) : ∀ c ∈ w.text, isBlank c = true := fun _ hc => w.isBlank_of_mem hc
  cases clause with
  | default name =>
    rw [names_of_unbraced htrim (hbrace name)]
    simpa [text, names] using outerNames_name name {}
  | binding b =>
    cases b with
    | star a =>
      rw [names_of_unbraced htrim (not_mem_star (by decide) (by decide) (by decide))]
      exact outerNames_star a
    | braces pad entries => exact names_of_braced [] List.not_mem_nil htrim
  | both name before behind b =>
    have hfront : '\x7b' ∉ name.text ++ before.text ++ ',' :: behind.text := by
      simp only [List.mem_append, List.mem_cons, not_or]
      exact ⟨⟨hbrace name, not_mem_of_isBlank rfl (hblank before)⟩, by decide,
        not_mem_of_isBlank rfl (hblank behind)⟩
    cases b with
    | star a =>
      have hunbraced : '\x7b' ∉ (both name before behind (.star a)).text := by
        rw [text, List.mem_append, not_or]
        exact ⟨hfront, not_mem_star (by decide) (by decide) (by decide)⟩
      rw [names_of_unbraced htrim hunbraced, text,
        outerNames_both name before behind (not_mem_star (by decide) (by decide) (by decide)),
        outerNames_star]
      rfl
    | braces pad entries =>
      have houter := outerNames_both name before behind List.not_mem_nil
      rw [List.append_nil] at houter
      rw [names_of_braced _ hfront htrim, houter]
      rfl

-- -------------------------------------
-- Characters of a clause
-- -------------------------------------

section Characters
variable {c : Char}

/-- A character in a clause that opens no binding. -/
def isPlain (c : Char) : Bool := wordOr "$,\x7d" c || isBlank c

def isOpening (c : Char) : Bool := c == '*' || c == '\x7b'

theorem isPlain_of_isBlank (h : isBlank c = true) : isPlain c = true := by simp [isPlain, h]

theorem isPlain_of_mem_name {n : ScriptName} (h : c ∈ n.text) : isPlain c = true := by
  rw [isPlain, wordOr_mono rfl (n.wordOr_of_mem h), Bool.true_or]

theorem not_isOpening_of_isPlain (h : isPlain c = true) : isOpening c = false := by
  rw [Bool.eq_false_iff]
  intro hopening
  have hc : c = '*' ∨ c = '\x7b' := by simpa [isOpening] using hopening
  rcases hc with rfl | rfl
  · cases h
  · cases h

theorem clauseChar_of_isPlain (h : isPlain c = true) : Script.clauseChar c = true := by
  rw [isPlain, Bool.or_eq_true] at h
  rcases h with h | h
  · rw [Script.clauseChar, wordOr_mono rfl h, Bool.true_or]
  · rw [Script.clauseChar, h, Bool.or_true]

theorem isPlain_of_mem_word {word : Text} (hword : word.all isWord = true) (h : c ∈ word) :
    isPlain c = true := by
  have hc := List.all_eq_true.mp hword c h
  simp [isPlain, wordOr, hc]

/-- A clause has at most one binding, which stands at its start or behind a comma. -/
theorem text_cases (clause : ScriptClause) : (∀ c ∈ clause.text, isPlain c = true) ∨
    ∃ (head : Text) (b : ScriptBinding), clause.text = head ++ b.opening :: b.rest ∧
      (∀ c ∈ head, isPlain c = true) ∧ (head = [] ∨ (ink head).getLast? = some ',') := by
  cases clause with
  | default name => exact .inl fun c hc => isPlain_of_mem_name hc
  | binding b => exact .inr ⟨[], b, rfl, List.forall_mem_nil _, .inl rfl⟩
  | both name before behind b =>
    refine .inr ⟨name.text ++ before.text ++ ',' :: behind.text, b, rfl, fun c hc => ?_, .inr ?_⟩
    · simp only [List.mem_append, List.mem_cons, or_assoc] at hc
      rcases hc with hc | hc | rfl | hc
      · exact isPlain_of_mem_name hc
      · exact isPlain_of_isBlank (before.isBlank_of_mem hc)
      · decide
      · exact isPlain_of_isBlank (behind.isBlank_of_mem hc)
    · have hbehind : ink (',' :: behind.text) = [','] := by
        rw [← List.singleton_append, ink_append, ink_of_blank fun _ hc => behind.isBlank_of_mem hc]
        rfl
      rw [ink_append, hbehind, List.getLast?_concat]

theorem clauseChar_of_mem {clause : ScriptClause} (h : c ∈ clause.text) :
    Script.clauseChar c = true := by
  rcases text_cases clause with hplain | ⟨head, b, htext, hhead, -⟩
  · exact clauseChar_of_isPlain (hplain c h)
  · rw [htext, List.mem_append, List.mem_cons] at h
    rcases h with h | rfl | h
    · exact clauseChar_of_isPlain (hhead c h)
    · cases b <;> rfl
    · exact clauseChar_of_isPlain (by simpa [isPlain] using ScriptBinding.mem_rest h)

end Characters

-- -------------------------------------
-- A clause behind `type`
-- -------------------------------------

theorem takeWhile_name (n : ScriptName) {t : Text} (ht : t.head?.any (wordOr "$") = false) :
    (n.text ++ t).takeWhile (wordOr "$") = n.text := by
  rw [List.takeWhile_append_of_pos fun _ hc => n.wordOr_of_mem hc]
  cases t with
  | nil => simp
  | cons x t =>
    have hx : wordOr "$" x = false := ht
    rw [List.takeWhile_cons_of_neg (Bool.eq_false_iff.mp hx), List.append_nil]

theorem not_wordOr_of_isBlank {c : Char} (h : isBlank c = true) : wordOr "$" c = false := by
  rw [Bool.eq_false_iff]
  intro hword
  rw [not_isBlank_of_wordOr (by decide) hword] at h
  cases h

/-- No clause starts with `type`. -/
theorem takeWhile_text (clause : ScriptClause) (g : Gap) (rest : Text) :
    (clause.text ++ (g.text ++ rest)).takeWhile (wordOr "$") ≠ "type".toList := by
  have hname (n : ScriptName) {t : Text} (ht : t.head?.any (wordOr "$") = false) :
      (n.text ++ t).takeWhile (wordOr "$") ≠ "type".toList := by
    rw [takeWhile_name n ht]
    exact fun htype => n.free (htype ▸ .head _)
  cases clause with
  | default name => exact hname name (not_wordOr_of_isBlank g.blank)
  | binding b =>
    have hopening : wordOr "$" b.opening = false := by cases b <;> rfl
    rw [text, ScriptBinding.text, List.cons_append,
      List.takeWhile_cons_of_neg (Bool.eq_false_iff.mp hopening)]
    decide
  | both name before behind b =>
    rw [text, List.append_assoc, List.append_assoc, List.append_assoc]
    refine hname name ?_
    cases hbefore : before.text with
    | nil => rfl
    | cons x t =>
      exact not_wordOr_of_isBlank (before.isBlank_of_mem (c := x) (by simp [hbefore]))

theorem misses_type {ps : List Pattern} (clause : ScriptClause) (g : Gap) (rest : Text) :
    Misses (inOrder (inOrder ["type", blank] :: ps)) (clause.text ++ (g.text ++ rest)) := by
  intro s k hs
  refine Option.eq_none_iff_forall_ne_some.mpr fun r hrun => ?_
  rw [run_inOrder_cons, run_inOrder_cons] at hrun
  obtain ⟨c₁, ⟨hahead₁, -⟩, hrun⟩ := run_lit_inv hrun
  obtain ⟨gap, c₂, hne, hgap, ⟨hahead₂, -⟩, -⟩ := run_many1_inv hrun
  obtain ⟨x, gap, rfl⟩ := List.exists_cons_of_ne_nil hne
  refine takeWhile_text clause g rest ?_
  have hword : ∀ c ∈ "type".toList, wordOr "$" c = true :=
    List.all_eq_true.mp (by decide : "type".toList.all (wordOr "$") = true)
  simp only at hahead₂
  rw [← hs, hahead₁, hahead₂, List.takeWhile_append_of_pos hword, List.cons_append,
    List.takeWhile_cons_of_neg (Bool.eq_false_iff.mp (not_wordOr_of_isBlank (hgap x (.head _)))),
    List.append_nil]

end ScriptClause

end RepoAtlas
