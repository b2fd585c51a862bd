import Mathlib.Data.List.Forall2
import Mathlib.Data.List.Nodup
import RepoAtlas.Files.Listing
import RepoAtlas.Files.Resolve
import RepoAtlas.Proofs.Files.Entry

/-!
# The order of the entries in folders

`Entry.Rearranged`: two file systems that differ only in the orders in which their folders list
their entries. Paths lead to the same files in both, since names are looked up and not counted.
-/

namespace RepoAtlas

/-- The same error, or results that are related. -/
inductive SameOutcome {α β ε : Type} (r : α → β → Prop) : Except ε α → Except ε β → Prop
  | ok {a b} : r a b → SameOutcome r (.ok a) (.ok b)
  | error (e) : SameOutcome r (.error e) (.error e)

namespace Entry

/-- The same entries, with those of each folder listed in any order. The argument `inside` says what
becomes of the children of a folder. -/
inductive Rearranged : Entry → Entry → Prop
  | file (bytes : Encoding.Bytes) : Rearranged (.file bytes) (.file bytes)
  | link (target : Path) : Rearranged (.link target) (.link target)
  | folder {children children' : List (Text × Entry)} (inside : Text × Entry → Entry) :
      (∀ child ∈ children, Rearranged child.2 (inside child)) →
      children'.Perm (children.map fun child => (child.1, inside child)) →
      Rearranged (.folder children) (.folder children')

/-- Well-formed entries, the second ones rearranged. -/
structure Alike (e e' : Entry) : Prop where
  wellFormed : e.WellFormed
  rearranged : Rearranged e e'

variable {top top' e e' : Entry} {trail trail' : Trail} {children children' : List (Text × Entry)}

-- -------------------------------------
-- Folders
-- -------------------------------------

theorem Rearranged.wellFormed (h : Rearranged e e') (hw : e.WellFormed) : e'.WellFormed := by
  induction h with
  | file bytes => exact .file bytes
  | link target => exact .link target
  | @folder children children' inside _ hperm ih =>
    obtain ⟨hnodup, hnames, hwf⟩ := hw.inside
    have hmem : ∀ child' ∈ children', ∃ child ∈ children, child' = (child.1, inside child) := by
      intro child' hchild'
      obtain ⟨child, hchild, heq⟩ := List.mem_map.mp (hperm.mem_iff.mp hchild')
      exact ⟨child, hchild, heq.symm⟩
    have hfirst : (children'.map Prod.fst).Perm (children.map Prod.fst) := by
      simpa [Function.comp_def] using hperm.map Prod.fst
    refine .folder (hfirst.nodup_iff.mpr hnodup) (fun child' hchild' => ?_) fun child' hchild' => ?_
    · obtain ⟨child, hchild, rfl⟩ := hmem child' hchild'
      exact hnames child hchild
    · obtain ⟨child, hchild, rfl⟩ := hmem child' hchild'
      exact ih child hchild (hwf child hchild)

/-- A name leads to the same child, wherever this stands. -/
theorem Alike.lookup (h : Alike (.folder children) (.folder children')) (name : Text) :
    Option.Rel Alike (children.lookup name) (children'.lookup name) := by
  obtain ⟨hnodup, -, hwf⟩ := h.wellFormed.inside
  obtain ⟨hnodup', -, -⟩ := (h.rearranged.wellFormed h.wellFormed).inside
  cases h.rearranged with
  | folder inside hinside hperm =>
    cases hlookup : children.lookup name with
    | some e =>
      have hmem := (Text.lookup_iff_mem hnodup).mp hlookup
      have hmem' : (name, inside (name, e)) ∈ children' :=
        hperm.mem_iff.mpr (List.mem_map_of_mem (f := fun child => (child.1, inside child)) hmem)
      rw [(Text.lookup_iff_mem hnodup').mpr hmem']
      exact .some ⟨hwf _ hmem, hinside _ hmem⟩
    | none =>
      cases hlookup' : children'.lookup name with
      | none => exact .none
      | some e' =>
        have hmem' := hperm.mem_iff.mp ((Text.lookup_iff_mem hnodup').mp hlookup')
        obtain ⟨⟨first, e⟩, hchild, heq⟩ := List.mem_map.mp hmem'
        cases heq
        rw [(Text.lookup_iff_mem hnodup).mpr hchild] at hlookup
        cases hlookup

-- -------------------------------------
-- Following paths
-- -------------------------------------

/-- Trails of the same names through entries that are alike. -/
def TrailAlike (trail trail' : Trail) : Prop :=
  List.Forall₂ (fun a b => a.1 = b.1 ∧ Alike a.2 b.2) trail trail'

theorem reached_alike (htop : Alike top top') (ht : TrailAlike trail trail') :
    Alike (top.reached trail) (top'.reached trail') := by
  cases ht with
  | nil => exact htop
  | cons hstep _ => exact hstep.2

inductive Stop.Alike : Stop → Stop → Prop
  | arrived {trail trail' : Trail} : TrailAlike trail trail' →
      Stop.Alike (.arrived trail) (.arrived trail')
  | linked {trail trail' : Trail} (target : Path) (rest : List Text) : TrailAlike trail trail' →
      Stop.Alike (.linked trail target rest) (.linked trail' target rest)
  | missing {trail trail' : Trail} (name : Text) (rest : List Text) : TrailAlike trail trail' →
      Stop.Alike (.missing trail name rest) (.missing trail' name rest)
  | failed (e : FileError) : Stop.Alike (.failed e) (.failed e)

theorem TrailAlike.tail (h : TrailAlike trail trail') : TrailAlike trail.tail trail'.tail := by
  cases h with
  | nil => exact .nil
  | cons _ h => exact h

theorem stroll_alike (htop : Alike top top') (ht : TrailAlike trail trail')
    (segments : List Text) :
    Stop.Alike (top.stroll trail segments) (top'.stroll trail' segments) := by
  induction segments generalizing trail trail' with
  | nil => exact .arrived ht
  | cons segment rest ih =>
    have hreached := reached_alike htop ht
    unfold stroll
    generalize top.reached trail = here at hreached
    generalize top'.reached trail' = here' at hreached
    cases hreached.rearranged with
    | file bytes => exact .failed _
    | link target => exact .failed _
    | @folder children children' inside hinside hperm =>
      have hlookup := hreached.lookup segment
      dsimp only
      generalize children.lookup segment = child at hlookup ⊢
      generalize children'.lookup segment = child' at hlookup ⊢
      split
      · exact ih ht
      · split
        · exact ih ht.tail
        · split
          · exact .failed _
          · -- Either both folders lack the name, or it leads to entries that are alike.
            cases hlookup with
            | none => exact .missing segment rest ht
            | @some e e' halike =>
              have hnext : TrailAlike ((segment, e) :: trail) ((segment, e') :: trail') :=
                .cons ⟨rfl, halike⟩ ht
              cases halike.rearranged with
              | file bytes => exact ih hnext
              | link target => exact .linked target rest ht
              | folder inside hinside hperm => exact ih hnext

/-- Places that are taken by entries that are alike, or free in folders that are alike. -/
inductive Place.Alike : Place → Place → Prop
  | taken {trail trail' : Trail} : TrailAlike trail trail' →
      Place.Alike (.taken trail) (.taken trail')
  | free {trail trail' : Trail} (name : Text) : TrailAlike trail trail' →
      Place.Alike (.free trail name) (.free trail' name)

theorem linkStart_alike (ht : TrailAlike trail trail') (target : Path) :
    TrailAlike (linkStart trail target) (linkStart trail' target) := by
  unfold linkStart
  split
  · exact .nil
  · exact ht

theorem seek_alike (htop : Alike top top') (links : Nat) (ht : TrailAlike trail trail')
    (segments : List Text) :
    SameOutcome Place.Alike (top.seek links trail segments) (top'.seek links trail' segments) := by
  induction links using Nat.strongRecOn generalizing trail trail' segments with
  | ind links ih =>
    have hstop := stroll_alike htop ht segments
    unfold seek
    generalize top.stroll trail segments = stop at hstop
    generalize top'.stroll trail' segments = stop' at hstop
    cases hstop with
    | arrived h => exact .ok (.taken h)
    | linked target rest h =>
      cases links with
      | zero => exact .error _
      | succ links => exact ih links (Nat.lt_succ_self _) (linkStart_alike h target) _
    | missing name rest h =>
      cases rest with
      | nil => exact .ok (.free name h)
      | cons next rest => exact .error _
    | failed e => exact .error e

theorem follow_alike (htop : Alike top top') (links : Nat) (ht : TrailAlike trail trail')
    (segments : List Text) :
    SameOutcome TrailAlike (top.follow links trail segments)
      (top'.follow links trail' segments) := by
  have hplace := seek_alike htop links ht segments
  unfold follow
  generalize top.seek links trail segments = place at hplace
  generalize top'.seek links trail' segments = place' at hplace
  cases hplace with
  | error e => exact .error e
  | ok h => cases h with
    | taken h => exact .ok h
    | free name _ => exact .error _

theorem locate_alike (htop : Alike top top') (p : Path) :
    SameOutcome TrailAlike (top.locate p) (top'.locate p) := by
  unfold locate
  split
  · exact .error _
  · exact follow_alike htop maxLinks .nil _

theorem readBytes_alike (htop : Alike top top') (p : Path) :
    top'.readBytes p = top.readBytes p := by
  have hplace := locate_alike htop p
  unfold readBytes
  generalize top.locate p = found at hplace
  generalize top'.locate p = found' at hplace
  cases hplace with
  | error e => rfl
  | ok h =>
    have hreached := (reached_alike htop h).rearranged
    simp only [bind, Except.bind]
    generalize top.reached _ = here at hreached
    generalize top'.reached _ = here' at hreached
    cases hreached <;> rfl

theorem readText_alike (htop : Alike top top') : top'.readText = top.readText := by
  funext p
  rw [readText, readText, readBytes_alike htop]

theorem nature_alike (htop : Alike top top') (ht : TrailAlike trail trail')
    (h : Rearranged e e') : top'.nature trail' e' = top.nature trail e := by
  cases h with
  | file bytes => rfl
  | folder inside hinside hperm => rfl
  | link target =>
    have hplace := follow_alike htop (maxLinks - 1) (linkStart_alike ht target)
      (Path.segments target)
    unfold nature
    dsimp only
    generalize top.follow _ _ _ = found at hplace
    generalize top'.follow _ _ _ = found' at hplace
    cases hplace with
    | error e => rfl
    | ok h =>
      have hreached := (reached_alike htop h).rearranged
      dsimp only
      generalize top.reached _ = here at hreached
      generalize top'.reached _ = here' at hreached
      cases hreached <;> rfl

-- -------------------------------------
-- Resolving paths
-- -------------------------------------

theorem at?_alike (h : Alike top top') (segments : List Text) :
    Option.Rel Alike (top.at? segments) (top'.at? segments) := by
  induction segments generalizing top top' with
  | nil => exact .some h
  | cons segment rest ih =>
    cases h.rearranged with
    | file bytes => exact .none
    | link target => exact .none
    | @folder children children' inside hinside hperm =>
      have hlookup := h.lookup segment
      simp only [at?]
      generalize children.lookup segment = child at hlookup ⊢
      generalize children'.lookup segment = child' at hlookup ⊢
      cases hlookup with
      | none => exact .none
      | some halike => exact ih halike

theorem advance_alike (htop : Alike top top')
    {enter : KnownLinks → List Text → Path → Resolution} (known : KnownLinks)
    (place segments : List Text) :
    top'.advance enter known place segments = top.advance enter known place segments := by
  induction segments generalizing known place with
  | nil => rfl
  | cons segment rest ih =>
    have hat := at?_alike htop (segment :: place).reverse
    unfold advance
    simp only [ih]
    generalize top.at? (segment :: place).reverse = found at hat ⊢
    generalize top'.at? (segment :: place).reverse = found' at hat ⊢
    cases hat with
    | none => rfl
    | some halike => cases halike.rearranged <;> rfl

theorem enter_alike (htop : Alike top top') (depth : Nat) : top'.enter depth = top.enter depth := by
  induction depth with
  | zero => rfl
  | succ depth ih =>
    funext known place p
    rw [enter, enter, ih, advance_alike htop]

theorem resolve_alike (htop : Alike top top') (p : Path) : top'.resolve p = top.resolve p := by
  unfold resolve
  rw [enter_alike htop]
  cases top.enter maxLinkDepth [] [] p with
  | error e => rfl
  | ok result =>
    obtain ⟨resolved, known⟩ := result
    simp only [bind, Except.bind]
    cases resolved with
    | whole place =>
      have hplace := locate_alike htop (pathOf place)
      generalize top.locate (pathOf place) = found at hplace
      generalize top'.locate (pathOf place) = found' at hplace
      cases hplace <;> rfl
    | stuck q =>
      have hplace := locate_alike htop (Path.normalize q)
      generalize top.locate (Path.normalize q) = found at hplace
      generalize top'.locate (Path.normalize q) = found' at hplace
      cases hplace <;> rfl

end Entry

end RepoAtlas
