import Mathlib.Data.List.Induction
import Mathlib.Data.List.Nodup

/-!
# Groups in order of first appearance

Adding the members of a list one after the other, each unless it is there already, gives the list
without its repetitions. Adding each to the entry for its key, or else a new entry at the end, gives
one entry for each key, made from the members with that key.
-/

namespace RepoAtlas.Grouping

variable {ι α β : Type} [BEq α] [LawfulBEq α]

theorem eraseDups_concat (l : List α) (a : α) :
    (l ++ [a]).eraseDups = if l.contains a then l.eraseDups else l.eraseDups ++ [a] := by
  rw [List.eraseDups_append]
  by_cases h : a ∈ l <;> simp [List.removeAll, h, List.eraseDups_cons]

theorem nodup_eraseDups (l : List α) : l.eraseDups.Nodup := by
  induction l using List.reverseRecOn with
  | nil => simp
  | append_singleton l a ih =>
    rw [eraseDups_concat]
    split
    · exact ih
    · rename_i h
      have ha : a ∉ l.eraseDups := by simpa [List.mem_eraseDups] using h
      simpa using ih.concat ha

theorem eraseDups_sublist (l : List α) : l.eraseDups.Sublist l := by
  induction l using List.reverseRecOn with
  | nil => simp
  | append_singleton l a ih =>
    rw [eraseDups_concat]
    split
    · exact ih.trans (List.sublist_append_left l [a])
    · exact ih.append (List.Sublist.refl [a])

theorem find?_eraseDups (p : α → Bool) (l : List α) : l.eraseDups.find? p = l.find? p := by
  induction l using List.reverseRecOn with
  | nil => rfl
  | append_singleton l a ih =>
    rw [eraseDups_concat, List.find?_append]
    split
    · rename_i h
      rw [ih]
      cases hp : p a with
      | false => simp [hp]
      | true =>
        have hsome : (l.find? p).isSome := List.find?_isSome.mpr ⟨a, by simpa using h, hp⟩
        rw [Option.or_of_isSome hsome]
    · rw [List.find?_append, ih]

theorem eraseDups_filterMap_eraseDups [BEq β] [LawfulBEq β] (f : α → Option β) (l : List α) :
    (l.eraseDups.filterMap f).eraseDups = (l.filterMap f).eraseDups := by
  induction l using List.reverseRecOn with
  | nil => rfl
  | append_singleton l a ih =>
    rw [eraseDups_concat, List.filterMap_append]
    split
    · rename_i h
      rw [ih]
      cases hf : f a with
      | none => simp [hf]
      | some b =>
        have hb : b ∈ l.filterMap f := List.mem_filterMap.mpr ⟨a, by simpa using h, hf⟩
        simp [hf, eraseDups_concat, hb]
    · cases hf : f a with
      | none => simpa [hf] using ih
      | some b =>
        have hb : (l.eraseDups.filterMap f).contains b = (l.filterMap f).contains b := by
          simp [List.mem_eraseDups]
        simp only [List.filterMap_append, List.filterMap_cons, hf, List.filterMap_nil,
          eraseDups_concat, ih, hb]

/-- Adding to first occurrences gives the first occurrences of all. -/
theorem foldl_add_new (old new : List α) :
    new.foldl (fun known a => if known.contains a then known else known ++ [a]) old.eraseDups =
      (old ++ new).eraseDups := by
  induction new using List.reverseRecOn with
  | nil => simp
  | append_singleton new a ih =>
    rw [List.foldl_append, ih, ← List.append_assoc, eraseDups_concat]
    simp only [List.foldl_cons, List.foldl_nil, List.contains_eq_mem, List.mem_eraseDups]

/-- Updates the first entry that a test picks out, or adds one at the end. -/
def upsert (hit : β → Bool) (update : β → β) (new : β) : List β → List β
  | [] => [new]
  | b :: rest => if hit b then update b :: rest else b :: upsert hit update new rest

theorem upsert_map {known : List α} {entry : α → β} {key : α}
    (hhit : ∀ k, hit (entry k) = (k == key)) (hnodup : known.Nodup) :
    upsert hit update new (known.map entry) =
      if known.contains key then
        known.map fun k => if k == key then update (entry k) else entry k
      else known.map entry ++ [new] := by
  induction known with
  | nil => rfl
  | cons k known ih =>
    obtain ⟨hk, hnodup⟩ := List.nodup_cons.mp hnodup
    rw [List.map_cons, upsert, hhit, ih hnodup]
    by_cases hkey : k = key
    · subst hkey
      have hrest : ∀ a ∈ known, entry a = if a == k then update (entry a) else entry a := by
        intro a ha
        have hne : a ≠ k := fun h => hk (h ▸ ha)
        simp [hne]
      simpa using hrest
    · by_cases hmem : key ∈ known <;> simp [hkey, Ne.symm hkey, hmem]

/-- A fold that updates or adds makes one entry for each key. -/
theorem foldl_upsert {step : List β → ι → List β} (key : ι → α) (tag : β → α)
    (entry : α → List ι → β) {update : ι → β → β} {new : ι → β}
    (hstep : ∀ l i, step l i = upsert (fun b => tag b == key i) (update i) (new i) l)
    (htag : ∀ k is, tag (entry k is) = k) (hnew : ∀ i, new i = entry (key i) [i])
    (hupdate : ∀ i is, update i (entry (key i) is) = entry (key i) (is ++ [i]))
    (items : List ι) : items.foldl step [] =
      (items.map key).eraseDups.map fun k => entry k (items.filter fun i => key i == k) := by
  induction items using List.reverseRecOn with
  | nil => rfl
  | append_singleton items i ih =>
    rw [List.foldl_append, ih, List.foldl_cons, List.foldl_nil, hstep,
      upsert_map (fun k => by rw [htag]) (nodup_eraseDups _), List.map_append, List.map_cons,
      List.map_nil, eraseDups_concat]
    simp only [List.contains_eq_mem, List.mem_eraseDups, List.filter_append]
    split
    · refine List.map_congr_left fun k _ => ?_
      by_cases hk : k = key i
      · subst hk
        simp [hupdate]
      · simp [hk, Ne.symm hk]
    · rename_i hi
      have hnone : items.filter (fun j => key j == key i) = [] := by
        simpa using hi
      rw [List.map_append, hnew]
      congr 1
      · refine List.map_congr_left fun k hk => ?_
        have hne : key i ≠ k := by
          rintro rfl
          simp [List.mem_eraseDups] at hk hi
          obtain ⟨j, hj, hji⟩ := hk
          exact hi j hj hji
        simp [hne]
      · simp [hnone]

end RepoAtlas.Grouping
