import RepoAtlas.Proofs.Files.Entry
import RepoAtlas.Proofs.Import.FileIndex
import RepoAtlas.Proofs.Path

/-!
# Walks along the segments of a path

A walk starts at a place of the repository, goes down by each segment that it reads and up at `..`.
It fails where it would leave the root, also if it came back later. `FileIndex.probe_walk`: a path
is looked for at the end of the walk along it, and nowhere if there is no such walk.
-/

namespace RepoAtlas

namespace Path

/-- Goes on by one segment from a place, which is given by the segments that lead to it. -/
def walkStep (place : List Text) (segment : Text) : Option (List Text) :=
  if segment = [] ∨ segment = ['.'] then some place
  else if segment = ['.', '.'] then (if place = [] then none else some place.dropLast)
  else some (place ++ [segment])

def walk? (place segments : List Text) : Option (List Text) := segments.foldlM walkStep place

variable {place place' route : List Text} {segment : Text} {p : Path}

@[simp] theorem walk?_nil (place : List Text) : walk? place [] = some place := rfl

theorem walk?_cons (place : List Text) (segment : Text) (route : List Text) :
    walk? place (segment :: route) = (walkStep place segment).bind (walk? · route) := by
  rw [walk?, List.foldlM_cons]
  rfl

theorem walk?_append (place first second : List Text) :
    walk? place (first ++ second) = (walk? place first).bind (walk? · second) := by
  rw [walk?, List.foldlM_append]
  rfl

theorem walkStep_name (h : Entry.IsName segment) (place : List Text) :
    walkStep place segment = some (place ++ [segment]) := by
  obtain ⟨hne, -, hdot, hdots⟩ := h
  simp [walkStep, hne, hdot, hdots]

theorem walk?_names {names : List Text} (h : ∀ name ∈ names, Entry.IsName name)
    (place : List Text) : walk? place names = some (place ++ names) := by
  induction names generalizing place with
  | nil => simp
  | cons name names ih =>
    obtain ⟨hname, hnames⟩ := List.forall_mem_cons.mp h
    rw [walk?_cons, walkStep_name hname, Option.bind_some, ih hnames, List.append_assoc]
    rfl

/-- As many folders can be left as lie above the place. -/
theorem walk?_climbs (count : Nat) (place : List Text) :
    walk? place (List.replicate count ['.', '.']) =
      if count ≤ place.length then some (place.take (place.length - count)) else none := by
  induction count generalizing place with
  | zero => simp
  | succ count ih =>
    rw [List.replicate_succ, walk?_cons]
    by_cases hplace : place = []
    · simp [walkStep, hplace]
    · have hlength := List.length_pos_of_ne_nil hplace
      have hstep : walkStep place ['.', '.'] = some place.dropLast := by simp [walkStep, hplace]
      rw [hstep, Option.bind_some, ih, List.length_dropLast, List.dropLast_eq_take, List.take_take]
      have hiff : count ≤ place.length - 1 ↔ count + 1 ≤ place.length := by omega
      have hmin : min (place.length - 1 - count) (place.length - 1) = place.length - (count + 1) := by
        omega
      simp only [hiff, hmin]

theorem walkStep_isName (hplace : ∀ name ∈ place, Entry.IsName name) (hslash : '/' ∉ segment)
    (h : walkStep place segment = some place') : ∀ name ∈ place', Entry.IsName name := by
  unfold walkStep at h
  split at h
  · cases h
    exact hplace
  · rename_i hkept
    split at h
    · split at h
      · cases h
      · cases h
        exact fun name hname => hplace name ((List.dropLast_sublist _).subset hname)
    · rename_i hdots
      cases h
      rw [not_or] at hkept
      intro name hname
      rcases List.mem_append.mp hname with hname | hname
      · exact hplace name hname
      · rw [List.mem_singleton.mp hname]
        exact ⟨hkept.1, hslash, hkept.2, hdots⟩

theorem walk?_isName (hplace : ∀ name ∈ place, Entry.IsName name)
    (hslash : ∀ segment ∈ route, '/' ∉ segment) (h : walk? place route = some place') :
    ∀ name ∈ place', Entry.IsName name := by
  induction route generalizing place with
  | nil =>
    cases h
    exact hplace
  | cons segment route ih =>
    obtain ⟨hfirst, hrest⟩ := List.forall_mem_cons.mp hslash
    rw [walk?_cons] at h
    obtain ⟨next, hnext, h⟩ := Option.bind_eq_some_iff.mp h
    exact ih (walkStep_isName hplace hfirst hnext) hrest h

-- -------------------------------------
-- Normal forms
-- -------------------------------------

theorem step_of_walkStep (hplace : ['.', '.'] ∉ place)
    (h : walkStep place segment = some place') :
    step false place.reverse segment = place'.reverse := by
  unfold walkStep at h
  split at h
  · rename_i hkept
    cases h
    rcases hkept with rfl | rfl <;> rfl
  · rename_i hkept
    rw [not_or] at hkept
    split at h
    · rename_i hdots
      subst hdots
      split at h
      · cases h
      · rename_i hne
        cases h
        obtain ⟨front, last, rfl⟩ : ∃ front last, place = front ++ [last] :=
          ⟨_, _, (List.dropLast_append_getLast hne).symm⟩
        have hlast : last ≠ ['.', '.'] := by
          rintro rfl
          exact hplace (by simp)
        simp [step, hlast]
    · rename_i hdots
      cases h
      simp [step, hkept, hdots]

/-- Once the root is left, the lowest segment taken is `..` for good. -/
theorem getLast?_step {taken : List Text} (h : taken.getLast? = some ['.', '.'])
    (segment : Text) : (step false taken segment).getLast? = some ['.', '.'] := by
  have hne : taken ≠ [] := by
    rintro rfl
    cases h
  unfold step
  split
  · exact h
  · split
    · rwa [List.getLast?_cons_of_ne_nil hne]
    · obtain ⟨last, rest, rfl⟩ := List.exists_cons_of_ne_nil hne
      simp only
      split
      · rwa [List.getLast?_cons_of_ne_nil hne]
      · cases rest with
        | nil => simp_all
        | cons next rest => simpa using h

theorem getLast?_foldl_step {taken : List Text} (h : taken.getLast? = some ['.', '.'])
    (route : List Text) : (route.foldl (step false) taken).getLast? = some ['.', '.'] := by
  induction route generalizing taken with
  | nil => exact h
  | cons segment route ih => exact ih (getLast?_step h segment)

theorem walkStep_eq_none_iff :
    walkStep place segment = none ↔ place = [] ∧ segment = ['.', '.'] := by
  unfold walkStep
  split
  · rename_i hkept
    refine ⟨fun h => (nomatch h), ?_⟩
    rintro ⟨-, rfl⟩
    simp at hkept
  · split <;> simp_all

/-- A place at the end of a walk is taken as it is; where there is no way on, `..` is kept. -/
theorem foldl_step_walk (hplace : ∀ name ∈ place, Entry.IsName name)
    (hslash : ∀ segment ∈ route, '/' ∉ segment) :
    (∀ place', walk? place route = some place' →
      route.foldl (step false) place.reverse = place'.reverse) ∧
    (walk? place route = none →
      (route.foldl (step false) place.reverse).getLast? = some ['.', '.']) := by
  induction route generalizing place with
  | nil => simp
  | cons segment route ih =>
    obtain ⟨hfirst, hrest⟩ := List.forall_mem_cons.mp hslash
    have hdots : ['.', '.'] ∉ place := fun hmem => (hplace _ hmem).2.2.2 rfl
    rw [walk?_cons, List.foldl_cons]
    cases hnext : walkStep place segment with
    | some next =>
      rw [step_of_walkStep hdots hnext]
      exact ih (walkStep_isName hplace hfirst hnext) hrest
    | none =>
      obtain ⟨rfl, rfl⟩ := walkStep_eq_none_iff.mp hnext
      exact ⟨fun _ h => (nomatch h), fun _ => getLast?_foldl_step rfl route⟩

theorem leadingSlashes_eq_nil (h : p.head? ≠ some '/') : leadingSlashes p = [] := by
  unfold leadingSlashes
  split <;> simp_all

theorem normalize_relative (h : p.head? ≠ some '/') {taken : List Text}
    (htaken : (segments p).foldl (step false) [] = taken) :
    normalize p =
      if ofSegments taken.reverse = [] then ['.'] else ofSegments taken.reverse := by
  simp only [normalize, leadingSlashes_eq_nil h, List.isEmpty_nil, Bool.not_true, htaken,
    List.nil_append]
  split <;> simp_all

theorem ofSegments_ne_nil (h : ∀ name ∈ place, name ≠ []) (hne : place ≠ []) :
    ofSegments place ≠ [] := by
  obtain ⟨first, rest, rfl⟩ := List.exists_cons_of_ne_nil hne
  have hfirst := h first (.head _)
  cases rest with
  | nil => simpa [ofSegments, List.intercalate] using hfirst
  | cons next rest =>
    rw [ofSegments_cons first (by simp)]
    simp [hfirst]

/-- The normal form of a path is the place at the end of the walk along it. -/
theorem normalize_of_walk (h : p.head? ≠ some '/') (hwalk : walk? [] (segments p) = some place) :
    normalize p = if place = [] then ['.'] else ofSegments place := by
  have hslash : ∀ segment ∈ segments p, '/' ∉ segment :=
    fun segment hsegment => Text.not_mem_of_mem_splitOn hsegment
  have hnames := walk?_isName (by simp) hslash hwalk
  rw [normalize_relative h ((foldl_step_walk (by simp) hslash).1 place hwalk),
    List.reverse_reverse]
  by_cases hplace : place = []
  · simp [hplace, ofSegments]
  · rw [if_neg hplace, if_neg (ofSegments_ne_nil (fun name hname => (hnames name hname).1) hplace)]

/-- Where there is no walk along a path, its normal form leads out of the repository. -/
theorem normalize_of_no_walk (h : p.head? ≠ some '/') (hwalk : walk? [] (segments p) = none) :
    normalize p = ['.', '.'] ∨ "../".toList <+: normalize p := by
  have hslash : ∀ segment ∈ segments p, '/' ∉ segment :=
    fun segment hsegment => Text.not_mem_of_mem_splitOn hsegment
  have hlast := (foldl_step_walk (by simp) hslash).2 hwalk
  rw [normalize_relative h rfl]
  rw [List.reverse_nil] at hlast
  generalize (segments p).foldl (step false) [] = taken at hlast ⊢
  obtain ⟨front, rfl⟩ := List.getLast?_eq_some_iff.mp hlast
  rw [List.reverse_append, List.reverse_singleton, List.singleton_append]
  cases hfront : front.reverse with
  | nil => exact .inl rfl
  | cons next rest =>
    rw [ofSegments_cons _ (List.cons_ne_nil _ _), if_neg (by simp)]
    exact .inr ⟨_, rfl⟩

-- -------------------------------------
-- Joined paths
-- -------------------------------------

theorem walk?_concat_empty (place route : List Text) :
    walk? place (route ++ [[]]) = walk? place route := by
  rw [walk?_append]
  cases walk? place route <;> rfl

/-- A walk along a path below another one goes along the one and then along the other. -/
theorem walk?_join (place : List Text) (base : Path) (hp : p.head? ≠ some '/') :
    walk? place (segments (join base p)) =
      (walk? place (segments base)).bind (walk? · (segments p)) := by
  unfold join
  split
  · simp at hp
  · cases hlast : base.getLast? with
    | none =>
      rw [List.getLast?_eq_none_iff.mp hlast]
      rfl
    | some c =>
      obtain ⟨front, rfl⟩ := List.getLast?_eq_some_iff.mp hlast
      by_cases hc : c = '/'
      · subst hc
        have hfront : segments (front ++ ['/']) = segments front ++ [[]] :=
          Text.splitOn_append '/' front []
        have hjoined : segments (front ++ ['/'] ++ p) = segments front ++ segments p := by
          rw [List.append_assoc]
          exact Text.splitOn_append '/' front p
        rw [hfront, walk?_concat_empty, ← walk?_append, ← hjoined]
        rfl
      · have hjoined : segments (front ++ [c] ++ '/' :: p) =
            segments (front ++ [c]) ++ segments p := Text.splitOn_append '/' _ p
        simp only [beq_iff_eq, hc, if_false, hjoined, walk?_append]

theorem walk?_joinAll (place : List Text) (base : Path) {ps : List Path}
    (h : ∀ p ∈ ps, p.head? ≠ some '/') :
    walk? place (segments (joinAll base ps)) =
      (walk? place (segments base)).bind (walk? · (ps.flatMap segments)) := by
  induction ps generalizing base with
  | nil => simp [joinAll]
  | cons p ps ih =>
    obtain ⟨hp, hps⟩ := List.forall_mem_cons.mp h
    have hstep : joinAll base (p :: ps) = joinAll (join base p) ps := rfl
    rw [hstep, ih (join base p) hps, walk?_join _ _ hp, List.flatMap_cons, Option.bind_assoc]
    simp only [walk?_append]

theorem head?_join_ne {base : Path} (hbase : base.head? ≠ some '/') (hp : p.head? ≠ some '/') :
    (join base p).head? ≠ some '/' := by
  unfold join
  split
  · simp at hp
  · cases base with
    | nil => exact hp
    | cons c base =>
      split
      · exact hp
      · split <;> simpa using hbase

theorem head?_joinAll_ne {base : Path} (hbase : base.head? ≠ some '/') {ps : List Path}
    (h : ∀ p ∈ ps, p.head? ≠ some '/') : (joinAll base ps).head? ≠ some '/' := by
  induction ps generalizing base with
  | nil => exact hbase
  | cons p ps ih =>
    obtain ⟨hp, hps⟩ := List.forall_mem_cons.mp h
    exact ih (head?_join_ne hbase hp) hps

end Path

namespace FileIndex

open RepoAtlas.Path

/-- The paths that a place of the repository may stand for: the place itself and what a probe makes
of it. The root is no file, and only probes for files in a folder count there. -/
def filesAt (language : Language) (place : List Text) : List Path :=
  if place = [] then (language.probes.filter (·.head? = some '/')).map List.tail
  else ofSegments place :: language.probes.map (ofSegments place ++ ·)

variable {registry : Registry} {entries : List (Path × Text)} {language : Language}

theorem id?_eq_givenId? (hids : ∀ entry ∈ entries, entry.2 ≠ []) :
    (ofList registry entries).id? = givenId? entries := by
  rw [id?_ofList]
  funext file
  unfold givenId?
  cases hfile : entries.reverse.lookup file with
  | none => rfl
  | some id =>
    have hid := hids _ (List.mem_reverse.mp (Text.mem_of_lookup hfile))
    simp_all

theorem filterMap_after?_slash (probes : List Text) :
    probes.filterMap (Text.after? ['/']) =
      (probes.filter (·.head? = some '/')).map List.tail := by
  induction probes with
  | nil => rfl
  | cons probe probes ih =>
    rw [List.filterMap_cons, List.filter_cons, ih]
    cases probe with
    | nil => rfl
    | cons c probe =>
      by_cases hc : c = '/'
      · subst hc
        rfl
      · simp [Text.after?, hc, Ne.symm hc]

/-- No place has the path of the root or one that leads out of the repository. -/
theorem ofSegments_inside {place : List Text} (hnames : ∀ name ∈ place, Entry.IsName name)
    (hne : place ≠ []) : ofSegments place ≠ ['.'] ∧ ofSegments place ≠ ['.', '.'] ∧
      ¬"../".toList <+: ofSegments place := by
  have hplace := segments_ofSegments hne fun name hname => (hnames name hname).2.1
  have hdot : ['.'] ∉ place := fun hmem => (hnames _ hmem).2.2.1 rfl
  have hdots : ['.', '.'] ∉ place := fun hmem => (hnames _ hmem).2.2.2 rfl
  refine ⟨fun h => hdot ?_, fun h => hdots ?_, ?_⟩
  · rw [← hplace, h]
    exact .head _
  · rw [← hplace, h]
    exact .head _
  · rintro ⟨rest, hrest⟩
    refine hdots ?_
    rw [← hplace, ← hrest]
    exact .head _

theorem probe_walk (hids : ∀ entry ∈ entries, entry.2 ≠ []) {candidate : Path}
    (h : candidate.head? ≠ some '/') :
    (ofList registry entries).probe language candidate =
      (walk? [] (segments candidate)).bind
        fun place => (filesAt language place).findSome? (givenId? entries) := by
  have hslash : ∀ segment ∈ segments candidate, '/' ∉ segment :=
    fun segment hsegment => Text.not_mem_of_mem_splitOn hsegment
  unfold probe
  rw [id?_eq_givenId? hids]
  cases hwalk : walk? [] (segments candidate) with
  | none =>
    have hout := normalize_of_no_walk h hwalk
    rw [← Text.startsWith_iff] at hout
    simp only [Bool.or_eq_true, beq_iff_eq, hout, if_true]
    rfl
  | some place =>
    have hnames := walk?_isName (by simp) hslash hwalk
    simp only [normalize_of_walk h hwalk, Option.bind_some, filesAt]
    by_cases hplace : place = []
    · rw [if_pos hplace, if_pos hplace, ← filterMap_after?_slash]
      rfl
    · obtain ⟨hdot, hdots, hout⟩ := ofSegments_inside hnames hplace
      rw [← Text.startsWith_iff, Bool.not_eq_true] at hout
      simp only [if_neg hplace, hout, beq_eq_false_iff_ne.mpr hdots, Bool.or_self, spots,
        beq_eq_false_iff_ne.mpr hdot]
      rfl

end FileIndex

end RepoAtlas
