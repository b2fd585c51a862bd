import Mathlib.Data.List.Induction
import Mathlib.Data.List.Nodup
import RepoAtlas.Language.Registry
import RepoAtlas.Proofs.Text.Basic

/-!
# Registries and their histories

A registry keeps the languages in a list and the owners of extensions in a table. Both are told by
the history, the languages in the order in which they were registered: `Registry.Reflects`.
`Registry.offerAll_reflects`: after any run of registrations, refused ones among them, the registry
reflects the languages that were accepted.
-/

namespace RepoAtlas

/-- The language lists an extension, letter case apart. -/
def Language.Lists (language : Language) (ext : Text) : Prop :=
  Text.lower ext ∈ language.extensions.map Text.lower

instance (language : Language) (ext : Text) : Decidable (language.Lists ext) :=
  inferInstanceAs (Decidable (_ ∈ _))

namespace Registry

variable {history : List Language} {language : Language} {r : Registry} {ext key : Text} {i : Nat}

-- -------------------------------------
-- The table of owners
-- -------------------------------------

theorem lookup_assign (owner : Nat) (owners : List (Text × Nat)) (ext key : Text) :
    (assign owner owners ext).lookup key = if key = ext then some owner else owners.lookup key := by
  induction owners with
  | nil => rw [assign, Text.lookup_cons]
  | cons entry owners ih =>
    obtain ⟨e, i⟩ := entry
    by_cases he : e = ext
    · subst he
      by_cases hkey : key = e <;> simp [assign, Text.lookup_cons, hkey]
    · simp only [assign, beq_iff_eq, he, if_false, Text.lookup_cons, ih]
      by_cases hkey : key = e
      · subst hkey
        simp [he]
      · simp [hkey]

/-- An extension that had no owner comes last. -/
theorem keys_assign (owner : Nat) (owners : List (Text × Nat)) (ext : Text) :
    (assign owner owners ext).map Prod.fst =
      if ext ∈ owners.map Prod.fst then owners.map Prod.fst else owners.map Prod.fst ++ [ext] := by
  induction owners with
  | nil => rfl
  | cons entry owners ih =>
    obtain ⟨e, i⟩ := entry
    by_cases he : e = ext
    · simp [assign, he]
    · simp only [assign, beq_iff_eq, he, if_false, List.map_cons, ih, List.mem_cons, Ne.symm he,
        false_or]
      split <;> rfl

theorem lookup_foldl_assign (owner : Nat) (exts : List Text) (owners : List (Text × Nat))
    (key : Text) : (exts.foldl (assign owner) owners).lookup key =
      if key ∈ exts then some owner else owners.lookup key := by
  induction exts generalizing owners with
  | nil => simp
  | cons ext exts ih =>
    rw [List.foldl_cons, ih, lookup_assign]
    by_cases hkey : key = ext <;> by_cases hmem : key ∈ exts <;> simp [hkey, hmem]

theorem keys_foldl_assign (owner : Nat) (exts : List Text) (owners : List (Text × Nat)) :
    owners.map Prod.fst <+: (exts.foldl (assign owner) owners).map Prod.fst ∧
    ((owners.map Prod.fst).Nodup → ((exts.foldl (assign owner) owners).map Prod.fst).Nodup) ∧
    ∀ key, key ∈ (exts.foldl (assign owner) owners).map Prod.fst ↔
      key ∈ owners.map Prod.fst ∨ key ∈ exts := by
  induction exts generalizing owners with
  | nil => exact ⟨List.prefix_refl _, id, by simp⟩
  | cons ext exts ih =>
    obtain ⟨hextends, hnodup, hmem⟩ := ih (assign owner owners ext)
    rw [List.foldl_cons]
    rw [keys_assign] at hextends hnodup hmem
    split at hextends
    · rename_i hknown
      simp only [hknown, if_true] at hnodup hmem
      refine ⟨hextends, hnodup, fun key => ?_⟩
      rw [hmem, List.mem_cons]
      refine ⟨fun h => h.imp_right .inr, ?_⟩
      rintro (h | rfl | h)
      · exact .inl h
      · exact .inl hknown
      · exact .inr h
    · rename_i hnew
      simp only [hnew, if_false] at hnodup hmem
      refine ⟨(List.prefix_append _ _).trans hextends, fun h => hnodup ?_, fun key => ?_⟩
      · simpa using h.concat hnew
      · rw [hmem, List.mem_append, List.mem_singleton, List.mem_cons, or_assoc]

-- -------------------------------------
-- Owners by history
-- -------------------------------------

/-- The language at place `i` of a history lists an extension, and no later one does. -/
structure Owns (history : List Language) (i : Nat) (language : Language) (ext : Text) : Prop where
  place : history[i]? = some language
  lists : language.Lists ext
  last : ∀ j later, i < j → history[j]? = some later → ¬later.Lists ext

theorem getElem?_concat_iff {new : Language} : (history ++ [new])[i]? = some language ↔
    history[i]? = some language ∨ i = history.length ∧ language = new := by
  rcases Nat.lt_trichotomy i history.length with hi | rfl | hi
  · simp [List.getElem?_append_left hi, Nat.ne_of_lt hi]
  · simp [eq_comm]
  · have hlength : (history ++ [new]).length ≤ i := by
      rw [List.length_append]
      exact hi
    simp [List.getElem?_eq_none hlength, List.getElem?_eq_none (Nat.le_of_lt hi), Nat.ne_of_gt hi]

/-- A new language takes over all the extensions that it lists. -/
theorem owns_concat {new : Language} : Owns (history ++ [new]) i language ext ↔
    if new.Lists ext then i = history.length ∧ language = new else Owns history i language ext := by
  constructor
  · rintro ⟨hplace, hlists, hlast⟩
    rcases getElem?_concat_iff.mp hplace with hold | ⟨rfl, rfl⟩
    · -- The new language comes after an old one, and so does not list the extension.
      have hi : i < history.length := (List.getElem?_eq_some_iff.mp hold).1
      rw [if_neg (hlast _ _ hi (getElem?_concat_iff.mpr (.inr ⟨rfl, rfl⟩)))]
      exact ⟨hold, hlists, fun j later hj hlater =>
        hlast j later hj (getElem?_concat_iff.mpr (.inl hlater))⟩
    · rw [if_pos hlists]
      exact ⟨rfl, rfl⟩
  · intro h
    split at h
    · rename_i hlists
      obtain ⟨rfl, rfl⟩ := h
      refine ⟨getElem?_concat_iff.mpr (.inr ⟨rfl, rfl⟩), hlists, fun j later hj hlater => ?_⟩
      have hlt := (List.getElem?_eq_some_iff.mp hlater).1
      rw [List.length_append, List.length_singleton] at hlt
      omega
    · rename_i hlists
      refine ⟨getElem?_concat_iff.mpr (.inl h.place), h.lists, fun j later hj hlater => ?_⟩
      rcases getElem?_concat_iff.mp hlater with hold | ⟨-, rfl⟩
      · exact h.last j later hj hold
      · exact hlists

-- -------------------------------------
-- One registration
-- -------------------------------------

/-- The list of languages and the table of owners agree with a history. -/
structure Keeps (r : Registry) (history : List Language) : Prop where
  languages : r.languages = history
  owner : ∀ ext i,
    r.owners.lookup (Text.lower ext) = some i ↔ ∃ language, Owns history i language ext
  nodup : r.extensions.Nodup
  listed : ∀ key, key ∈ r.extensions ↔
    ∃ language ∈ history, key ∈ language.extensions.map Text.lower

theorem keeps_empty : Keeps {} [] where
  languages := rfl
  owner ext i := by
    constructor
    · intro h
      cases h
    · rintro ⟨language, h⟩
      cases h.place
  nodup := List.nodup_nil
  listed key := by simp [extensions]

/-- One registration adds one language to the history. -/
theorem Keeps.register (h : Keeps r history) (new : Language) :
    Keeps (r.register new) (history ++ [new]) := by
  obtain ⟨-, hnodup, hmem⟩ := keys_foldl_assign r.languages.length
    (new.extensions.map Text.lower) r.owners
  refine ⟨congrArg (· ++ [new]) h.languages, fun ext i => ?_, hnodup h.nodup, fun key => ?_⟩
  · have hlookup : (r.register new).owners.lookup (Text.lower ext) =
        if new.Lists ext then some r.languages.length else r.owners.lookup (Text.lower ext) :=
      lookup_foldl_assign ..
    rw [hlookup, h.languages]
    simp only [owns_concat]
    split
    · simp [eq_comm]
    · exact h.owner ext i
  · have hold := h.listed key
    simp only [extensions, Registry.register] at hold ⊢
    rw [hmem, hold]
    simp [or_and_right, exists_or]

theorem keeps_ofList (history : List Language) : Keeps (ofList history) history := by
  unfold ofList
  induction history using List.reverseRecOn with
  | nil => exact keeps_empty
  | append_singleton history language ih =>
    rw [List.foldl_append]
    exact ih.register language

theorem extensions_register (r : Registry) (new : Language) :
    r.extensions <+: (r.register new).extensions :=
  (keys_foldl_assign ..).1

-- -------------------------------------
-- What a registry shows
-- -------------------------------------

theorem mem_extensions_of_find? (h : (r.find? ext).isSome = true) :
    Text.lower ext ∈ r.extensions := by
  obtain ⟨language, hlanguage⟩ := Option.isSome_iff_exists.mp h
  obtain ⟨i, hlookup, -⟩ := Option.bind_eq_some_iff.mp hlanguage
  exact List.mem_map_of_mem (Text.mem_of_lookup hlookup)

theorem Keeps.find?_iff (h : Keeps r history) :
    r.find? ext = some language ↔ ∃ i, Owns history i language ext := by
  rw [find?, Option.bind_eq_some_iff]
  constructor
  · rintro ⟨i, hlookup, hplace⟩
    obtain ⟨owner, howner⟩ := (h.owner ext i).mp hlookup
    rw [h.languages, howner.place] at hplace
    cases hplace
    exact ⟨i, howner⟩
  · rintro ⟨i, howner⟩
    exact ⟨i, (h.owner ext i).mpr ⟨language, howner⟩, h.languages ▸ howner.place⟩

/-- An extension that is listed has an owner. -/
theorem Keeps.find?_none_iff (h : Keeps r history) :
    r.find? ext = none ↔ ∀ language ∈ history, ¬language.Lists ext := by
  have hlisted : Text.lower ext ∈ r.extensions ↔ ∃ language ∈ history, language.Lists ext :=
    h.listed _
  have hsome : (r.find? ext).isSome = true ↔ Text.lower ext ∈ r.extensions := by
    constructor
    · exact mem_extensions_of_find?
    · intro hmem
      obtain ⟨⟨key, i⟩, hentry, rfl⟩ := List.mem_map.mp hmem
      obtain ⟨language, howner⟩ := (h.owner ext i).mp ((Text.lookup_iff_mem h.nodup).mpr hentry)
      rw [h.find?_iff.mpr ⟨i, howner⟩]
      rfl
  rw [← Option.not_isSome_iff_eq_none, hsome, hlisted]
  simp only [not_exists, not_and]

/-- The place of each language that owns an extension. -/
theorem Keeps.owned_iff (h : Keeps r history) :
    (∃ key, (key, i) ∈ r.owners) ↔ ∃ language ext, Owns history i language ext := by
  constructor
  · rintro ⟨key, hmem⟩
    obtain ⟨language, -, hkey⟩ := (h.listed key).mp (List.mem_map_of_mem hmem)
    obtain ⟨ext, -, rfl⟩ := List.mem_map.mp hkey
    obtain ⟨owner, howner⟩ := (h.owner ext i).mp ((Text.lookup_iff_mem h.nodup).mpr hmem)
    exact ⟨owner, ext, howner⟩
  · rintro ⟨language, ext, howner⟩
    exact ⟨_, Text.mem_of_lookup ((h.owner ext i).mpr ⟨language, howner⟩)⟩

theorem Keeps.reachable (h : Keeps r history) : ∃ places : List Nat, places.Pairwise (· < ·) ∧
    (∀ i, i ∈ places ↔ ∃ language ext, Owns history i language ext) ∧
    r.reachable = places.filterMap (history[·]?) := by
  let owning := r.languages.zipIdx.filter fun entry => r.owners.any fun owner => owner.2 == entry.2
  refine ⟨owning.map Prod.snd, ?_, fun i => ?_, ?_⟩
  · have hall : (r.languages.zipIdx.map Prod.snd).Pairwise (· < ·) := by
      rw [List.zipIdx_map_snd]
      exact List.pairwise_lt_range'
    exact hall.sublist (List.filter_sublist.map _)
  · rw [← h.owned_iff]
    simp only [owning, List.mem_map, List.mem_filter, List.any_eq_true, beq_iff_eq]
    constructor
    · rintro ⟨entry, ⟨-, owner, howner, hsame⟩, rfl⟩
      exact ⟨owner.1, hsame ▸ howner⟩
    · rintro ⟨key, hkey⟩
      obtain ⟨language, ext, howner⟩ := h.owned_iff.mp ⟨key, hkey⟩
      refine ⟨(language, i), ⟨?_, (key, i), hkey, rfl⟩, rfl⟩
      rw [List.mem_zipIdx_iff_getElem?, h.languages]
      exact howner.place
  · rw [List.filterMap_map, Registry.reachable]
    change owning.map Prod.fst = _
    rw [← List.filterMap_eq_map]
    refine List.filterMap_congr fun entry hentry => ?_
    have hplace := List.mem_zipIdx_iff_getElem?.mp (List.mem_filter.mp hentry).1
    rw [h.languages] at hplace
    exact hplace.symm

/-- What a registry shows is told by the languages registered so far, the last one last. -/
structure Reflects (r : Registry) (history : List Language) : Prop where
  /-- The owner of an extension is the last language that lists it. -/
  owner : ∀ ext language, r.find? ext = some language ↔ ∃ i, Owns history i language ext
  unowned : ∀ ext, r.find? ext = none ↔ ∀ language ∈ history, ¬language.Lists ext
  extensions : ∀ key, key ∈ r.extensions ↔
    ∃ language ∈ history, key ∈ language.extensions.map Text.lower
  nodup : r.extensions.Nodup
  /-- The languages that own an extension, in order of registration. -/
  reachable : ∃ places : List Nat, places.Pairwise (· < ·) ∧
    (∀ i, i ∈ places ↔ ∃ language ext, Owns history i language ext) ∧
    r.reachable = places.filterMap (history[·]?)
  skippedFolders : ∀ name, name ∈ r.skippedFolders ↔
    name ∈ versionControl ∨ ∃ language ∈ history, name ∈ language.skippedFolders
  entryPoints : ∀ name, name ∈ r.entryPoints ↔ ∃ language ∈ history, name ∈ language.entryPoints
  manifests : ∀ name, name ∈ r.manifests ↔ ∃ language ∈ history, name ∈ language.manifests

theorem Keeps.reflects (h : Keeps r history) : Reflects r history where
  owner _ _ := h.find?_iff
  unowned _ := h.find?_none_iff
  extensions := h.listed
  nodup := h.nodup
  reachable := h.reachable
  skippedFolders name := by simp [Registry.skippedFolders, h.languages]
  entryPoints name := by simp [Registry.entryPoints, h.languages]
  manifests name := by simp [Registry.manifests, h.languages]

-- -------------------------------------
-- Runs of registrations
-- -------------------------------------

/-- The language that a candidate becomes, if there is a strategy of the given name. -/
def Candidate.accepted? (candidate : Candidate) : Option Language :=
  (Strategy.all.find? (·.name == candidate.strategy)).map fun strategy =>
    { candidate.language with strategy }

theorem accept_eq (r : Registry) (candidate : Candidate) :
    r.accept candidate = match candidate.accepted? with
      | some language => .ok (r.register language)
      | none => .error (.unknownStrategy candidate.strategy candidate.language.name) := by
  unfold accept Language.withStrategy Strategy.ofName Candidate.accepted?
  cases Strategy.all.find? (·.name == candidate.strategy) <;> rfl

theorem accepted?_of_known {candidate : Candidate} {strategy : Strategy}
    (h : candidate.strategy = strategy.name) :
    candidate.accepted? = some { candidate.language with strategy } := by
  have hfind : Strategy.all.find? (·.name == strategy.name) = some strategy := by
    cases strategy <;> decide
  rw [Candidate.accepted?, h, hfind]
  rfl

theorem accepted?_of_unknown {candidate : Candidate}
    (h : ∀ strategy : Strategy, candidate.strategy ≠ strategy.name) :
    candidate.accepted? = none := by
  rw [Candidate.accepted?, Option.map_eq_none_iff, List.find?_eq_none]
  intro strategy _
  simpa using (h strategy).symm

theorem offer_eq (r : Registry) (candidate : Candidate) :
    r.offer candidate = (candidate.accepted?.map r.register).getD r := by
  rw [offer, accept_eq]
  cases candidate.accepted? <;> rfl

/-- Only the languages that are accepted count. -/
theorem offerAll_ofList (initial : List Language) (candidates : List Candidate) :
    (ofList initial).offerAll candidates =
      ofList (initial ++ candidates.filterMap Candidate.accepted?) := by
  unfold offerAll
  induction candidates using List.reverseRecOn with
  | nil => simp
  | append_singleton candidates candidate ih =>
    rw [List.foldl_append, ih, List.foldl_cons, List.foldl_nil, offer_eq, List.filterMap_append,
      ← List.append_assoc]
    cases haccepted : candidate.accepted? with
    | none => simp [haccepted]
    | some language => simp [haccepted, ofList, List.foldl_append]

theorem extensions_offerAll (r : Registry) (candidates : List Candidate) :
    r.extensions <+: (r.offerAll candidates).extensions := by
  unfold offerAll
  induction candidates generalizing r with
  | nil => exact List.prefix_refl _
  | cons candidate candidates ih =>
    refine List.IsPrefix.trans ?_ (ih (r.offer candidate))
    rw [offer_eq]
    cases candidate.accepted? with
    | none => exact List.prefix_refl _
    | some language => exact extensions_register r language

/-- After a run of registrations on top of any languages, the registry reflects all languages that
were accepted, and extensions are never lost. A candidate is accepted if its strategy is known; one
that is refused changes nothing. -/
theorem offerAll_reflects (initial : List Language) (candidates : List Candidate) :
    ((ofList initial).offerAll candidates).Reflects
      (initial ++ candidates.filterMap Candidate.accepted?) ∧
    (∀ more, ((ofList initial).offerAll candidates).extensions ⊆
      ((ofList initial).offerAll (candidates ++ more)).extensions) ∧
    ∀ candidate : Candidate, ∀ r : Registry,
      (∀ strategy : Strategy, candidate.strategy = strategy.name →
        candidate.accepted? = some { candidate.language with strategy } ∧
        r.accept candidate = .ok (r.register { candidate.language with strategy })) ∧
      ((∀ strategy : Strategy, candidate.strategy ≠ strategy.name) →
        candidate.accepted? = none ∧ r.offer candidate = r ∧
        r.accept candidate =
          .error (.unknownStrategy candidate.strategy candidate.language.name)) := by
  refine ⟨?_, fun more => ?_, fun candidate r => ⟨fun strategy hknown => ?_, fun hunknown => ?_⟩⟩
  · rw [offerAll_ofList]
    exact (keeps_ofList _).reflects
  · have hsplit : (ofList initial).offerAll (candidates ++ more) =
        ((ofList initial).offerAll candidates).offerAll more := List.foldl_append
    rw [hsplit]
    exact (extensions_offerAll _ more).subset
  · have haccepted := accepted?_of_known hknown
    rw [accept_eq, haccepted]
    exact ⟨rfl, rfl⟩
  · have hrefused := accepted?_of_unknown hunknown
    rw [offer_eq, accept_eq, hrefused]
    exact ⟨rfl, rfl, rfl⟩

end Registry

end RepoAtlas
