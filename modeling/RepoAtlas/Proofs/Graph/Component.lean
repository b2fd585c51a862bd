import Mathlib.Logic.Relation
import RepoAtlas.Graph.Component

/-!
# The search finds the strongly connected components

`components_exact`: the components of a graph are classes of vertices that reach one another, every
vertex is in one of them, and a component comes after those that it reaches.

A search is described by what holds between its steps. The marks say which vertices lie on the path
and which are in a component (`Marked`), numbers grow along the path (`Numbered`), each segment is
connected and reaches the segments inside it (`Linked`), and a successor that was looked at lies no
further out than the segment it was reached from (`Explored`). A segment with nothing left to look
at is then closed under successors up to vertices that are done, so it is a whole component
(`Separated`). The bound on the number of steps is a count of the work that is left.
-/

namespace RepoAtlas.Component

def Arc (successors : Nat → List Nat) (v w : Nat) : Prop := w ∈ successors v

abbrev Reaches (successors : Nat → List Nat) : Nat → Nat → Prop :=
  Relation.ReflTransGen (Arc successors)

namespace Search

variable {size : Nat} {successors : Nat → List Nat} {s s' : Search} {inner : List Segment}

/-- The vertices on the path, from the innermost segment outwards. -/
def onPath (s : Search) : List Nat := s.path.flatMap (·.members)

/-- The search with fewer successors to look at in its innermost segment. -/
def withPending (s : Search) (seg : Segment) (pending : List Nat) (outer : List Segment) : Search :=
  { s with path := { seg with pending } :: outer }

-- -------------------------------------
-- What a step does
-- -------------------------------------

/-- All that a step can do. -/
inductive Step (successors : Nat → List Nat) (s : Search) : Search → Prop
  | finished : s.path = [] → s.roots = [] → Step successors s s
  | skipRoot {r roots} : s.path = [] → s.roots = r :: roots → s.mark r ≠ .unseen →
      Step successors s { s with roots }
  | start {r roots} : s.path = [] → s.roots = r :: roots → s.mark r = .unseen →
      Step successors s (visit successors r { s with roots })
  | close {seg outer} : s.path = seg :: outer → seg.pending = [] →
      Step successors s (s.close seg outer)
  | skip {seg outer w pending} : s.path = seg :: outer → seg.pending = w :: pending →
      s.mark w = .done → Step successors s (s.withPending seg pending outer)
  | descend {seg outer w pending} : s.path = seg :: outer → seg.pending = w :: pending →
      s.mark w = .unseen → Step successors s (visit successors w (s.withPending seg pending outer))
  | collapse {seg outer w pending number} : s.path = seg :: outer → seg.pending = w :: pending →
      s.mark w = .active number →
      Step successors s
        { s with path := Search.collapse number (s.withPending seg pending outer).path }

theorem step_spec (successors : Nat → List Nat) (s : Search) : Step successors s (s.step successors) := by
  unfold step
  split
  · rename_i hp
    split
    · rename_i hr
      exact .finished hp hr
    · rename_i r roots hr
      simp only
      split
      · rename_i hm
        exact .start hp hr hm
      · rename_i hm
        exact .skipRoot hp hr hm
  · rename_i seg outer hp
    split
    · rename_i hn
      exact .close hp hn
    · rename_i w pending hn
      simp only
      split
      · rename_i hm
        exact .descend hp hn hm
      · rename_i number hm
        exact .collapse hp hn hm
      · rename_i hm
        exact .skip hp hn hm

theorem run_induct {P : Search → Prop} (hstep : ∀ s s', P s → Step successors s s' → P s')
    (h : P s) (steps : Nat) : P (s.run successors steps) := by
  induction steps generalizing s with
  | zero => exact h
  | succ steps ih => exact ih (hstep s _ h (step_spec successors s))

-- -------------------------------------
-- Marks
-- -------------------------------------

theorem mark_eq (s : Search) (v : Nat) : s.mark v = (s.marks[v]?).getD .done := by
  simp [mark, Array.getD_eq_getD_getElem?]

theorem lt_of_mark_ne_done (h : s.mark v ≠ .done) : v < s.marks.size := by
  refine Nat.lt_of_not_le fun hv => h ?_
  simp [mark_eq, Array.getElem?_eq_none hv]

@[simp] theorem mark_withPending : (s.withPending seg pending outer).mark v = s.mark v := rfl

theorem mark_visit (hv : s.mark v = .unseen) :
    (visit successors v s).mark w = if w = v then .active s.count else s.mark w := by
  have hlt : v < s.marks.size := lt_of_mark_ne_done (by simp [hv])
  simp only [mark_eq, visit, Array.getElem?_setIfInBounds]
  by_cases h : v = w
  · simp [← h, hlt]
  · simp [h, Ne.symm h]

theorem getD_foldl_done (members : List Nat) (marks : Array Mark) (w : Nat) :
    ((members.foldl (fun marks v => marks.setIfInBounds v .done) marks)[w]?).getD .done =
      if w ∈ members then .done else (marks[w]?).getD .done := by
  induction members generalizing marks with
  | nil => simp
  | cons v members ih =>
    rw [List.foldl_cons, ih]
    by_cases hw : w ∈ members
    · simp [hw]
    · simp only [hw, if_false, List.mem_cons, or_false, Array.getElem?_setIfInBounds]
      by_cases h : v = w
      · subst h
        by_cases hlt : v < marks.size <;> simp [hlt]
      · simp [h, Ne.symm h]

theorem mark_close :
    (s.close seg outer).mark w = if w ∈ seg.members then .done else s.mark w := by
  simp only [mark_eq, close, getD_foldl_done]

theorem size_foldl_done (members : List Nat) (marks : Array Mark) :
    (members.foldl (fun marks v => marks.setIfInBounds v .done) marks).size = marks.size := by
  induction members generalizing marks with
  | nil => rfl
  | cons v members ih => simp [ih]

/-- The marks of the vertices on the path and of those in a component; the latter are done, and so
is, for want of a mark, everything beyond the size of the graph. -/
structure Marked (size : Nat) (s : Search) : Prop where
  marks_size : s.marks.size = size
  active_iff : ∀ v, (∃ k, s.mark v = .active k) ↔ v ∈ s.onPath
  done_iff : ∀ v, s.mark v = .done ↔ v ∈ s.found.flatten ∨ size ≤ v
  found_lt : ∀ v ∈ s.found.flatten, v < size
  nodup : (s.onPath ++ s.found.flatten).Nodup

theorem Marked.lt_of_onPath (h : Marked size s) (hv : v ∈ s.onPath) : v < size := by
  obtain ⟨k, hk⟩ := (h.active_iff v).mpr hv
  exact h.marks_size ▸ lt_of_mark_ne_done (by simp [hk])

theorem Marked.congr (h : Marked size s) (hm : s'.marks = s.marks) (hp : s'.onPath = s.onPath)
    (hf : s'.found = s.found) : Marked size s' := by
  have hmark (v : Nat) : s'.mark v = s.mark v := by simp [mark, hm]
  refine ⟨hm ▸ h.marks_size, ?_, ?_, ?_, ?_⟩
  · simpa only [hmark, hp] using h.active_iff
  · simpa only [hmark, hf] using h.done_iff
  · simpa only [hf] using h.found_lt
  · simpa only [hp, hf] using h.nodup

theorem Marked.visit (h : Marked size s) (hv : s.mark v = .unseen) :
    Marked size (visit successors v s) := by
  have hpath : (Search.visit successors v s).onPath = v :: s.onPath := rfl
  have hfound : (Search.visit successors v s).found = s.found := rfl
  have hnotOn : v ∉ s.onPath := fun hin => by
    obtain ⟨k, hk⟩ := (h.active_iff v).mpr hin
    simp [hv] at hk
  have hnotDone : v ∉ s.found.flatten := fun hin => by
    simpa [hv] using (h.done_iff v).mpr (.inl hin)
  have hlt : v < size := h.marks_size ▸ lt_of_mark_ne_done (by simp [hv])
  refine ⟨?_, ?_, ?_, ?_, ?_⟩
  · simpa [Search.visit] using h.marks_size
  · intro w
    rw [mark_visit hv, hpath]
    by_cases hw : w = v
    · simp [hw]
    · simpa [hw] using h.active_iff w
  · intro w
    rw [mark_visit hv, hfound]
    by_cases hw : w = v
    · subst hw
      simp only [if_true, reduceCtorEq, false_iff, not_or]
      exact ⟨hnotDone, Nat.not_le.mpr hlt⟩
    · simpa only [hw, if_false] using h.done_iff w
  · simpa only [hfound] using h.found_lt
  · rw [hpath, hfound, List.cons_append, List.nodup_cons, List.mem_append]
    exact ⟨fun hin => hin.elim hnotOn hnotDone, h.nodup⟩

theorem onPath_of_cons (hp : s.path = seg :: outer) :
    s.onPath = seg.members ++ (s.close seg outer).onPath := by
  simp [onPath, hp, Search.close]

theorem Marked.close (h : Marked size s) (hp : s.path = seg :: outer) :
    Marked size (s.close seg outer) := by
  have hfound : (s.close seg outer).found.flatten = seg.members ++ s.found.flatten := rfl
  have hnodup := h.nodup
  rw [onPath_of_cons hp, List.append_assoc] at hnodup
  refine ⟨?_, ?_, ?_, ?_, ?_⟩
  · exact (size_foldl_done seg.members s.marks).trans h.marks_size
  · intro v
    rw [mark_close]
    by_cases hv : v ∈ seg.members
    · have hnot : v ∉ (s.close seg outer).onPath := fun hin =>
        (List.nodup_append.mp hnodup).2.2 v hv v (List.mem_append_left _ hin) rfl
      simp [hv, hnot]
    · simpa [hv, onPath_of_cons hp] using h.active_iff v
  · intro v
    rw [mark_close, hfound]
    by_cases hv : v ∈ seg.members
    · simp [hv]
    · simpa [hv] using h.done_iff v
  · intro v hv
    rw [hfound, List.mem_append] at hv
    rcases hv with hv | hv
    · exact h.lt_of_onPath (onPath_of_cons hp ▸ List.mem_append_left _ hv)
    · exact h.found_lt v hv
  · rw [hfound]
    exact (List.perm_append_comm_assoc _ _ _).nodup_iff.mp hnodup

-- -------------------------------------
-- Numbers, and the segment that a circle closes on
-- -------------------------------------

/-- One segment made of a segment and those inside it. -/
def merge (inner : List Segment) (seg : Segment) : Segment :=
  ⟨seg.number, inner.flatMap (·.members) ++ seg.members, inner.flatMap (·.pending) ++ seg.pending⟩

theorem collapse_split (hi : ∀ i ∈ inner, number < i.number) (hs : seg.number ≤ number) :
    collapse number (inner ++ seg :: outer) = merge inner seg :: outer := by
  have hpos : ∀ i ∈ inner, decide (number < i.number) = true := by simpa using hi
  have hneg : decide (number < seg.number) = false := by simpa using hs
  simp [collapse, List.takeWhile_append_of_pos hpos, List.dropWhile_append_of_pos hpos, hneg, merge,
    List.flatMap]

/-- Segments have numbers that grow inwards, and the number of each lies between those of the
vertices outside it and those of its own. -/
structure Numbered (s : Search) : Prop where
  number_lt : ∀ seg ∈ s.path, seg.number < s.count
  active_lt : ∀ v k, s.mark v = .active k → k < s.count
  number_le : ∀ seg ∈ s.path, ∀ v ∈ seg.members, ∀ k, s.mark v = .active k → seg.number ≤ k
  nested : s.path.Pairwise fun inner outer => outer.number < inner.number ∧
    ∀ v ∈ outer.members, ∀ k, s.mark v = .active k → k < inner.number

/-- An active vertex lies in the outermost segment whose number is not above its own. -/
theorem exists_segment (hm : Marked size s) (hn : Numbered s) (hw : s.mark w = .active number) :
    ∃ inner seg outer, s.path = inner ++ seg :: outer ∧ w ∈ seg.members ∧ seg.number ≤ number ∧
      ∀ i ∈ inner, number < i.number := by
  have hin : w ∈ s.onPath := (hm.active_iff w).mp ⟨number, hw⟩
  obtain ⟨seg, hseg, hws⟩ := List.mem_flatMap.mp hin
  obtain ⟨inner, outer, hp⟩ := List.append_of_mem hseg
  refine ⟨inner, seg, outer, hp, hws, hn.number_le seg hseg w hws number hw, ?_⟩
  intro i hi
  have hnested := hn.nested
  rw [hp] at hnested
  exact ((List.pairwise_append.mp hnested).2.2 i hi seg List.mem_cons_self).2 w hws number hw

theorem Numbered.withPending (h : Numbered s) (hp : s.path = seg :: outer) :
    Numbered (s.withPending seg pending outer) := by
  obtain ⟨hlt, hact, hle, hnest⟩ := h
  simp only [hp, List.pairwise_cons, List.forall_mem_cons] at hlt hle hnest
  refine ⟨?_, hact, ?_, ?_⟩
  · exact List.forall_mem_cons.mpr hlt
  · exact List.forall_mem_cons.mpr hle
  · exact List.pairwise_cons.mpr hnest

theorem Numbered.visit (h : Numbered s) (hm : Marked size s) (hv : s.mark v = .unseen) :
    Numbered (visit successors v s) := by
  have hold {u k} (hu : u ∈ s.onPath) (hk : (Search.visit successors v s).mark u = .active k) :
      s.mark u = .active k := by
    rw [mark_visit hv] at hk
    split at hk
    · rename_i huv
      obtain ⟨j, hj⟩ := (hm.active_iff u).mpr hu
      simp [huv, hv] at hj
    · exact hk
  have hon {seg u} (hseg : seg ∈ s.path) (hu : u ∈ seg.members) : u ∈ s.onPath :=
    List.mem_flatMap.mpr ⟨seg, hseg, hu⟩
  refine ⟨?_, ?_, ?_, ?_⟩
  · refine List.forall_mem_cons.mpr ⟨Nat.lt_succ_self _, fun seg hseg => ?_⟩
    exact Nat.lt_succ_of_lt (h.number_lt seg hseg)
  · intro u k hk
    rw [mark_visit hv] at hk
    split at hk
    · cases hk
      exact Nat.lt_succ_self _
    · exact Nat.lt_succ_of_lt (h.active_lt u k hk)
  · refine List.forall_mem_cons.mpr ⟨?_, ?_⟩
    · intro u hu k hk
      rw [List.mem_singleton] at hu
      rw [mark_visit hv, if_pos hu] at hk
      cases hk
      exact Nat.le_refl _
    · intro seg hseg u hu k hk
      exact h.number_le seg hseg u hu k (hold (hon hseg hu) hk)
  · refine List.pairwise_cons.mpr ⟨?_, ?_⟩
    · intro seg hseg
      refine ⟨h.number_lt seg hseg, fun u hu k hk => ?_⟩
      exact h.active_lt u k (hold (hon hseg hu) hk)
    · refine h.nested.imp_of_mem ?_
      intro inner outer _ houter hlt
      exact ⟨hlt.1, fun u hu k hk => hlt.2 u hu k (hold (hon houter hu) hk)⟩

theorem Numbered.close (h : Numbered s) (hp : s.path = seg :: outer) :
    Numbered (s.close seg outer) := by
  have hold {u k} (hk : (s.close seg outer).mark u = .active k) : s.mark u = .active k := by
    rw [mark_close] at hk
    split at hk
    · cases hk
    · exact hk
  obtain ⟨hlt, hact, hle, hnest⟩ := h
  simp only [hp, List.pairwise_cons, List.forall_mem_cons] at hlt hle hnest
  refine ⟨hlt.2, fun u k hk => hact u k (hold hk), ?_, ?_⟩
  · intro i hi u hu k hk
    exact hle.2 i hi u hu k (hold hk)
  · refine hnest.2.imp fun hio => ⟨hio.1, fun u hu k hk => hio.2 u hu k (hold hk)⟩

theorem Numbered.merge (h : Numbered s) (hp : s.path = inner ++ seg :: outer) :
    Numbered { s with path := Search.merge inner seg :: outer } := by
  obtain ⟨hlt, hact, hle, hnest⟩ := h
  simp only [hp, List.pairwise_append, List.pairwise_cons, List.forall_mem_cons,
    List.forall_mem_append] at hlt hle hnest
  obtain ⟨-, hlts, hlto⟩ := hlt
  obtain ⟨hlei, hles, hleo⟩ := hle
  obtain ⟨-, ⟨hns, hno⟩, hni⟩ := hnest
  refine ⟨?_, hact, ?_, ?_⟩
  · exact List.forall_mem_cons.mpr ⟨hlts, hlto⟩
  · refine List.forall_mem_cons.mpr ⟨?_, hleo⟩
    intro v hv k hk
    rcases List.mem_append.mp hv with hv | hv
    · obtain ⟨i, hi, hvi⟩ := List.mem_flatMap.mp hv
      exact Nat.le_trans (Nat.le_of_lt (hni i hi).1.1) (hlei i hi v hvi k hk)
    · exact hles v hv k hk
  · exact List.pairwise_cons.mpr ⟨hns, hno⟩

-- -------------------------------------
-- Reachability along the path
-- -------------------------------------

/-- The vertices of a segment reach one another and all that lies further in. -/
structure Linked (successors : Nat → List Nat) (s : Search) : Prop where
  connected : ∀ seg ∈ s.path, ∀ v ∈ seg.members, ∀ w ∈ seg.members, Reaches successors v w
  inward : s.path.Pairwise fun inner outer =>
    ∀ v ∈ outer.members, ∀ w ∈ inner.members, Reaches successors v w
  pending_arc : ∀ seg ∈ s.path, ∀ w ∈ seg.pending, ∃ v ∈ seg.members, Arc successors v w

/-- Every vertex on the path reaches what the innermost segment looks at next. -/
theorem Linked.reaches_next (h : Linked successors s) (hp : s.path = seg :: outer)
    (hn : seg.pending = w :: pending) :
    ∀ i ∈ (s.withPending seg pending outer).path, ∀ u ∈ i.members, Reaches successors u w := by
  have hseg : seg ∈ s.path := by simp [hp]
  obtain ⟨v, hv, harc⟩ := h.pending_arc seg hseg w (by simp [hn])
  have hinward := h.inward
  rw [hp] at hinward
  refine List.forall_mem_cons.mpr ⟨?_, ?_⟩
  · intro u hu
    exact (h.connected seg hseg u hu v hv).tail harc
  · intro i hi u hu
    exact ((List.pairwise_cons.mp hinward).1 i hi u hu v hv).tail harc

theorem Linked.withPending (h : Linked successors s) (hp : s.path = seg :: outer)
    (hn : seg.pending = w :: pending) : Linked successors (s.withPending seg pending outer) := by
  obtain ⟨hcon, hin, hpend⟩ := h
  simp only [hp, List.pairwise_cons, List.forall_mem_cons] at hcon hin hpend
  refine ⟨?_, ?_, ?_⟩
  · exact List.forall_mem_cons.mpr hcon
  · exact List.pairwise_cons.mpr hin
  · refine List.forall_mem_cons.mpr ⟨?_, hpend.2⟩
    intro x hx
    exact hpend.1 x (hn ▸ List.mem_cons_of_mem w hx)

theorem Linked.visit (h : Linked successors s)
    (hv : ∀ i ∈ s.path, ∀ u ∈ i.members, Reaches successors u v) :
    Linked successors (visit successors v s) := by
  refine ⟨?_, ?_, ?_⟩
  · refine List.forall_mem_cons.mpr ⟨?_, h.connected⟩
    intro u hu w hw
    rw [List.mem_singleton] at hu hw
    exact hu ▸ hw ▸ .refl
  · refine List.pairwise_cons.mpr ⟨?_, h.inward⟩
    intro i hi u hu w hw
    rw [List.mem_singleton] at hw
    exact hw ▸ hv i hi u hu
  · refine List.forall_mem_cons.mpr ⟨?_, h.pending_arc⟩
    intro w hw
    exact ⟨v, List.mem_singleton_self v, hw⟩

theorem Linked.close (h : Linked successors s) (hp : s.path = seg :: outer) :
    Linked successors (s.close seg outer) := by
  obtain ⟨hcon, hin, hpend⟩ := h
  simp only [hp, List.pairwise_cons, List.forall_mem_cons] at hcon hin hpend
  exact ⟨hcon.2, hin.2, hpend.2⟩

theorem Linked.merge (h : Linked successors s) (hp : s.path = inner ++ seg :: outer)
    (hw : w ∈ seg.members) (hback : ∀ i ∈ inner, ∀ u ∈ i.members, Reaches successors u w) :
    Linked successors { s with path := Search.merge inner seg :: outer } := by
  obtain ⟨hcon, hin, hpend⟩ := h
  simp only [hp, List.pairwise_append, List.pairwise_cons, List.forall_mem_cons,
    List.forall_mem_append] at hcon hin hpend
  obtain ⟨-, hcons, hcono⟩ := hcon
  obtain ⟨-, ⟨hins, hino⟩, hini⟩ := hin
  obtain ⟨hpendi, hpends, hpendo⟩ := hpend
  -- Every vertex of the new segment reaches `w` and is reached from it.
  have hto : ∀ u ∈ (Search.merge inner seg).members, Reaches successors u w := by
    intro u hu
    rcases List.mem_append.mp hu with hu | hu
    · obtain ⟨i, hi, hui⟩ := List.mem_flatMap.mp hu
      exact hback i hi u hui
    · exact hcons u hu w hw
  have hfrom : ∀ u ∈ (Search.merge inner seg).members, Reaches successors w u := by
    intro u hu
    rcases List.mem_append.mp hu with hu | hu
    · obtain ⟨i, hi, hui⟩ := List.mem_flatMap.mp hu
      exact (hini i hi).1 w hw u hui
    · exact hcons w hw u hu
  refine ⟨?_, ?_, ?_⟩
  · refine List.forall_mem_cons.mpr ⟨?_, hcono⟩
    exact fun u hu v hv => (hto u hu).trans (hfrom v hv)
  · refine List.pairwise_cons.mpr ⟨?_, hino⟩
    exact fun o ho v hv u hu => (hins o ho v hv w hw).trans (hfrom u hu)
  · refine List.forall_mem_cons.mpr ⟨?_, hpendo⟩
    intro x hx
    rcases List.mem_append.mp hx with hx | hx
    · obtain ⟨i, hi, hxi⟩ := List.mem_flatMap.mp hx
      obtain ⟨v, hv, harc⟩ := hpendi i hi x hxi
      exact ⟨v, List.mem_append_left _ (List.mem_flatMap.mpr ⟨i, hi, hv⟩), harc⟩
    · obtain ⟨v, hv, harc⟩ := hpends x hx
      exact ⟨v, List.mem_append_right _ hv, harc⟩

-- -------------------------------------
-- Successors that were looked at
-- -------------------------------------

/-- A successor of a segment is still to be looked at, or is done, or lies no further out. -/
def Looked (s : Search) (seg : Segment) (w : Nat) : Prop :=
  w ∈ seg.pending ∨ s.mark w = .done ∨ ∃ k, s.mark w = .active k ∧ seg.number ≤ k

/-- What is known of all successors but those that are being looked at. -/
structure Explored (successors : Nat → List Nat) (current : List Nat) (s : Search) : Prop where
  looked : ∀ seg ∈ s.path, ∀ v ∈ seg.members, ∀ w, Arc successors v w →
    w ∈ current ∨ s.Looked seg w
  closed : ∀ v ∈ s.found.flatten, ∀ w, Arc successors v w → s.mark w = .done

theorem Explored.withPending (h : Explored successors [] s) (hp : s.path = seg :: outer)
    (hn : seg.pending = w :: pending) :
    Explored successors [w] (s.withPending seg pending outer) := by
  obtain ⟨hlook, hclosed⟩ := h
  simp only [hp, List.forall_mem_cons, List.not_mem_nil, false_or] at hlook
  refine ⟨List.forall_mem_cons.mpr ⟨?_, ?_⟩, hclosed⟩
  · intro v hv x harc
    rcases hlook.1 v hv x harc with hx | hx
    · rw [hn, List.mem_cons] at hx
      rcases hx with rfl | hx
      · exact .inl (List.mem_singleton_self x)
      · exact .inr (.inl hx)
    · exact .inr (.inr hx)
  · intro o ho v hv x harc
    exact .inr (hlook.2 o ho v hv x harc)

/-- A successor has been looked at once it is done or no segment lies further in than it. -/
theorem Explored.finish (h : Explored successors [w] s)
    (hw : s.mark w = .done ∨ ∃ k, s.mark w = .active k ∧ ∀ seg ∈ s.path, seg.number ≤ k) :
    Explored successors [] s := by
  refine ⟨?_, h.closed⟩
  intro seg hseg v hv x harc
  rcases h.looked seg hseg v hv x harc with hx | hx
  · rw [List.mem_singleton] at hx
    subst hx
    rcases hw with hd | ⟨k, hk, hle⟩
    · exact .inr (.inr (.inl hd))
    · exact .inr (.inr (.inr ⟨k, hk, hle seg hseg⟩))
  · exact .inr hx

theorem Explored.visit (h : Explored successors current s) (hv : s.mark v = .unseen) :
    Explored successors current (visit successors v s) := by
  have hkeep {x m} (hm : m ≠ .unseen) (hx : s.mark x = m) :
      (Search.visit successors v s).mark x = m := by
    have hne : x ≠ v := fun hxv => hm (by rw [← hx, hxv, hv])
    rw [mark_visit hv, if_neg hne, hx]
  refine ⟨List.forall_mem_cons.mpr ⟨?_, ?_⟩, ?_⟩
  · intro u hu x harc
    rw [List.mem_singleton] at hu
    exact .inr (.inl (hu ▸ harc))
  · intro seg hseg u hu x harc
    rcases h.looked seg hseg u hu x harc with hx | hx | hx | ⟨k, hk, hle⟩
    · exact .inl hx
    · exact .inr (.inl hx)
    · exact .inr (.inr (.inl (hkeep (by simp) hx)))
    · exact .inr (.inr (.inr ⟨k, hkeep (by simp) hk, hle⟩))
  · intro u hu x harc
    exact hkeep (by simp) (h.closed u hu x harc)

theorem Explored.merge (h : Explored successors current s) (hn : Numbered s)
    (hp : s.path = inner ++ seg :: outer) :
    Explored successors current { s with path := Search.merge inner seg :: outer } := by
  obtain ⟨hlook, hclosed⟩ := h
  have hnested := hn.nested
  simp only [hp, List.pairwise_append, List.forall_mem_cons] at hnested
  simp only [hp, List.forall_mem_cons, List.forall_mem_append] at hlook
  obtain ⟨hlooki, hlooks, hlooko⟩ := hlook
  refine ⟨List.forall_mem_cons.mpr ⟨?_, hlooko⟩, hclosed⟩
  intro v hv x harc
  rcases List.mem_append.mp hv with hv | hv
  · obtain ⟨i, hi, hvi⟩ := List.mem_flatMap.mp hv
    rcases hlooki i hi v hvi x harc with hx | hx | hx | ⟨k, hk, hle⟩
    · exact .inl hx
    · exact .inr (.inl (List.mem_append_left _ (List.mem_flatMap.mpr ⟨i, hi, hx⟩)))
    · exact .inr (.inr (.inl hx))
    · exact .inr (.inr (.inr ⟨k, hk, Nat.le_trans (Nat.le_of_lt (hnested.2.2 i hi).1.1) hle⟩))
  · rcases hlooks v hv x harc with hx | hx | hx
    · exact .inl hx
    · exact .inr (.inl (List.mem_append_right _ hx))
    · exact .inr (.inr hx)

/-- An active vertex whose number is not below that of the innermost segment lies in it. -/
theorem mem_innermost (hm : Marked size s) (hn : Numbered s) (hp : s.path = seg :: outer)
    (hw : s.mark w = .active k) (hk : seg.number ≤ k) : w ∈ seg.members := by
  have hin : w ∈ s.onPath := (hm.active_iff w).mp ⟨k, hw⟩
  obtain ⟨i, hi, hwi⟩ := List.mem_flatMap.mp hin
  have hnested := hn.nested
  rw [hp] at hi hnested
  rcases List.mem_cons.mp hi with rfl | hi
  · exact hwi
  · have := ((List.pairwise_cons.mp hnested).1 i hi).2 w hwi k hw
    exact absurd hk (Nat.not_le.mpr this)

/-- The successors of a segment with nothing left to look at are its own or done. -/
theorem Explored.exhausted (h : Explored successors [] s) (hm : Marked size s) (hn : Numbered s)
    (hp : s.path = seg :: outer) (hnil : seg.pending = []) (hv : v ∈ seg.members)
    (harc : Arc successors v w) : w ∈ seg.members ∨ s.mark w = .done := by
  rcases h.looked seg (by simp [hp]) v hv w harc with hw | hw | hw | ⟨k, hk, hle⟩
  · simp at hw
  · simp [hnil] at hw
  · exact .inr hw
  · exact .inl (mem_innermost hm hn hp hk hle)

theorem Explored.close (h : Explored successors [] s) (hm : Marked size s) (hn : Numbered s)
    (hp : s.path = seg :: outer) (hnil : seg.pending = []) :
    Explored successors [] (s.close seg outer) := by
  refine ⟨?_, ?_⟩
  · intro i hi v hv w harc
    refine .inr ?_
    by_cases hw : w ∈ seg.members
    · exact .inr (.inl (by simp [mark_close, hw]))
    · have hmark : (s.close seg outer).mark w = s.mark w := by simp [mark_close, hw]
      have hi' : i ∈ s.path := hp ▸ List.mem_cons_of_mem _ hi
      simpa [Looked, hmark] using h.looked i hi' v hv w harc
  · intro v hv w harc
    have hdone : w ∈ seg.members ∨ s.mark w = .done := by
      rcases List.mem_append.mp hv with hv | hv
      · exact h.exhausted hm hn hp hnil hv harc
      · exact .inr (h.closed v hv w harc)
    rcases hdone with hw | hw
    · simp [mark_close, hw]
    · simp [mark_close, hw]

-- -------------------------------------
-- Components
-- -------------------------------------

/-- The components found are classes of vertices that reach one another, and none reaches one that
was found after it. -/
structure Separated (successors : Nat → List Nat) (s : Search) : Prop where
  component : ∀ c ∈ s.found, ∀ v ∈ c, ∀ w,
    w ∈ c ↔ Reaches successors v w ∧ Reaches successors w v
  ordered : s.found.Pairwise fun later earlier =>
    ∀ v ∈ earlier, ∀ w ∈ later, ¬Reaches successors v w

/-- Successors of vertices of the graph are vertices of the graph. -/
def Bounded (size : Nat) (successors : Nat → List Nat) : Prop :=
  ∀ v < size, ∀ w, Arc successors v w → w < size

theorem reaches_found (hb : Bounded size successors) (hm : Marked size s)
    (he : Explored successors [] s) (hv : v ∈ s.found.flatten) (hr : Reaches successors v w) :
    w ∈ s.found.flatten := by
  induction hr with
  | refl => exact hv
  | tail _ harc ih =>
    have hlt := hb _ (hm.found_lt _ ih) _ harc
    rcases (hm.done_iff _).mp (he.closed _ ih _ harc) with hw | hw
    · exact hw
    · exact absurd hlt (Nat.not_lt.mpr hw)

theorem reaches_innermost (hb : Bounded size successors) (hm : Marked size s) (hn : Numbered s)
    (he : Explored successors [] s) (hp : s.path = seg :: outer) (hnil : seg.pending = [])
    (hv : v ∈ seg.members) (hr : Reaches successors v w) :
    w ∈ seg.members ∨ w ∈ s.found.flatten := by
  induction hr with
  | refl => exact .inl hv
  | tail _ harc ih =>
    rcases ih with hu | hu
    · rcases he.exhausted hm hn hp hnil hu harc with hw | hw
      · exact .inl hw
      · have hlt := hb _ (hm.lt_of_onPath (onPath_of_cons hp ▸ List.mem_append_left _ hu)) _ harc
        exact .inr (((hm.done_iff _).mp hw).resolve_right (Nat.not_le.mpr hlt))
    · exact .inr (reaches_found hb hm he hu (.single harc))

theorem Separated.close (h : Separated successors s) (hb : Bounded size successors)
    (hm : Marked size s) (hn : Numbered s) (hl : Linked successors s)
    (he : Explored successors [] s) (hp : s.path = seg :: outer) (hnil : seg.pending = []) :
    Separated successors (s.close seg outer) := by
  have happart {u w} (hu : u ∈ s.found.flatten) (hw : w ∈ seg.members) :
      ¬Reaches successors u w := fun hr =>
    (List.nodup_append.mp hm.nodup).2.2 w (onPath_of_cons hp ▸ List.mem_append_left _ hw) w
      (reaches_found hb hm he hu hr) rfl
  refine ⟨List.forall_mem_cons.mpr ⟨?_, h.component⟩, List.pairwise_cons.mpr ⟨?_, h.ordered⟩⟩
  · intro v hv w
    constructor
    · intro hw
      have hcon := hl.connected seg (by simp [hp])
      exact ⟨hcon v hv w hw, hcon w hw v hv⟩
    · rintro ⟨hvw, hwv⟩
      rcases reaches_innermost hb hm hn he hp hnil hv hvw with hw | hw
      · exact hw
      · exact absurd hwv (happart hw hv)
  · intro c hc v hv w hw
    exact happart (List.mem_flatten.mpr ⟨c, hc, hv⟩) hw

/-- What holds of a search between its steps. -/
structure Invariant (size : Nat) (successors : Nat → List Nat) (s : Search) : Prop where
  marked : Marked size s
  numbered : Numbered s
  linked : Linked successors s
  explored : Explored successors [] s
  separated : Separated successors s
  rooted : ∀ v, s.mark v = .unseen → v ∈ s.roots

theorem Invariant.skipRoot {roots : List Nat} (h : Invariant size successors s)
    (hr : s.roots = r :: roots) (hm : s.mark r ≠ .unseen) :
    Invariant size successors { s with roots } := by
  obtain ⟨hmark, hnum, hlink, hexp, hsep, hroot⟩ := h
  refine ⟨hmark.congr rfl rfl rfl, ⟨hnum.1, hnum.2, hnum.3, hnum.4⟩, ⟨hlink.1, hlink.2, hlink.3⟩,
    ⟨hexp.1, hexp.2⟩, ⟨hsep.1, hsep.2⟩, ?_⟩
  intro v hv
  have hin := hroot v hv
  rw [hr] at hin
  refine (List.mem_cons.mp hin).resolve_left ?_
  rintro rfl
  exact hm hv

theorem visit_rooted (h : ∀ v, s.mark v = .unseen → v ∈ r :: s.roots) (hr : s.mark r = .unseen)
    (v : Nat) (hv : (visit successors r s).mark v = .unseen) :
    v ∈ (visit successors r s).roots := by
  rw [mark_visit hr] at hv
  split at hv
  · cases hv
  · rename_i hne
    exact (List.mem_cons.mp (h v hv)).resolve_left hne

theorem Invariant.start {roots : List Nat} (h : Invariant size successors s) (hp : s.path = [])
    (hr : s.roots = r :: roots) (hm : s.mark r = .unseen) :
    Invariant size successors (visit successors r { s with roots }) := by
  obtain ⟨hmark, hnum, hlink, hexp, hsep, hroot⟩ := h
  have hmark' : Marked size { s with roots } := hmark.congr rfl rfl rfl
  have hnum' : Numbered { s with roots } := ⟨hnum.1, hnum.2, hnum.3, hnum.4⟩
  have hlink' : Linked successors { s with roots } := ⟨hlink.1, hlink.2, hlink.3⟩
  have hexp' : Explored successors [] { s with roots } := ⟨hexp.1, hexp.2⟩
  refine ⟨hmark'.visit hm, hnum'.visit hmark' hm, hlink'.visit ?_, hexp'.visit hm,
    ⟨hsep.1, hsep.2⟩, visit_rooted ?_ hm⟩
  · simp [hp]
  · intro v hv
    exact hr ▸ hroot v hv

theorem Invariant.close (h : Invariant size successors s) (hb : Bounded size successors)
    (hp : s.path = seg :: outer) (hnil : seg.pending = []) :
    Invariant size successors (s.close seg outer) := by
  obtain ⟨hmark, hnum, hlink, hexp, hsep, hroot⟩ := h
  refine ⟨hmark.close hp, hnum.close hp, hlink.close hp, hexp.close hmark hnum hp hnil,
    hsep.close hb hmark hnum hlink hexp hp hnil, ?_⟩
  intro v hv
  rw [mark_close] at hv
  split at hv
  · cases hv
  · exact hroot v hv

theorem Marked.withPending (h : Marked size s) (hp : s.path = seg :: outer) :
    Marked size (s.withPending seg pending outer) := by
  refine h.congr rfl ?_ rfl
  simp [onPath, hp, Search.withPending]

theorem Invariant.skip (h : Invariant size successors s) (hp : s.path = seg :: outer)
    (hn : seg.pending = w :: pending) (hw : s.mark w = .done) :
    Invariant size successors (s.withPending seg pending outer) := by
  obtain ⟨hmark, hnum, hlink, hexp, hsep, hroot⟩ := h
  exact ⟨hmark.withPending hp, hnum.withPending hp, hlink.withPending hp hn,
    (hexp.withPending hp hn).finish (.inl hw), ⟨hsep.1, hsep.2⟩, hroot⟩

theorem Invariant.descend (h : Invariant size successors s) (hp : s.path = seg :: outer)
    (hn : seg.pending = w :: pending) (hw : s.mark w = .unseen) :
    Invariant size successors (visit successors w (s.withPending seg pending outer)) := by
  obtain ⟨hmark, hnum, hlink, hexp, hsep, hroot⟩ := h
  have hmark' : Marked size (s.withPending seg pending outer) := hmark.withPending hp
  have hw' : (s.withPending seg pending outer).mark w = .unseen := hw
  have hnum' : Numbered (visit successors w (s.withPending seg pending outer)) :=
    (hnum.withPending hp).visit hmark' hw'
  refine ⟨hmark'.visit hw', hnum', (hlink.withPending hp hn).visit (hlink.reaches_next hp hn), ?_,
    ⟨hsep.1, hsep.2⟩, visit_rooted ?_ hw'⟩
  · refine ((hexp.withPending hp hn).visit hw').finish (.inr ⟨s.count, ?_, ?_⟩)
    · rw [mark_visit hw', if_pos rfl]
      rfl
    · intro i hi
      exact Nat.le_of_lt_succ (hnum'.number_lt i hi)
  · intro v hv
    exact List.mem_cons_of_mem _ (hroot v hv)

theorem Invariant.collapse (h : Invariant size successors s) (hp : s.path = seg :: outer)
    (hn : seg.pending = w :: pending) (hw : s.mark w = .active number) :
    Invariant size successors
      { s with path := Search.collapse number (s.withPending seg pending outer).path } := by
  obtain ⟨hmark, hnum, hlink, hexp, hsep, hroot⟩ := h
  have hmark' : Marked size (s.withPending seg pending outer) := hmark.withPending hp
  have hnum' : Numbered (s.withPending seg pending outer) := hnum.withPending hp
  obtain ⟨inner, home, rest, hpath, hwin, hle, hinner⟩ := exists_segment hmark' hnum' hw
  have hnum'' := hnum'.merge hpath
  rw [hpath, collapse_split hinner hle]
  refine ⟨hmark'.congr rfl ?_ rfl, hnum'', (hlink.withPending hp hn).merge hpath hwin ?_, ?_,
    ⟨hsep.1, hsep.2⟩, hroot⟩
  · simp [onPath, hpath, Search.merge]
  · intro i hi
    exact hlink.reaches_next hp hn i (by simp [hpath, hi])
  · refine ((hexp.withPending hp hn).merge hnum' hpath).finish (.inr ⟨number, hw, ?_⟩)
    have hnested := (List.pairwise_cons.mp hnum''.nested).1
    refine List.forall_mem_cons.mpr ⟨hle, fun i hi => ?_⟩
    exact Nat.le_trans (Nat.le_of_lt (hnested i hi).1) hle

theorem Invariant.step (hb : Bounded size successors) (h : Invariant size successors s)
    (hs : Step successors s s') : Invariant size successors s' := by
  cases hs with
  | finished => exact h
  | skipRoot _ hr hm => exact h.skipRoot hr hm
  | start hp hr hm => exact h.start hp hr hm
  | close hp hnil => exact h.close hb hp hnil
  | skip hp hn hw => exact h.skip hp hn hw
  | descend hp hn hw => exact h.descend hp hn hw
  | collapse hp hn hw => exact h.collapse hp hn hw

-- -------------------------------------
-- The bound on the number of steps
-- -------------------------------------

/-- The steps that a vertex not yet discovered will cost. -/
def cost (successors : Nat → List Nat) (s : Search) (v : Nat) : Nat :=
  if s.mark v = .unseen then 1 + (successors v).length else 0

def total (costs : List Nat) : Nat := costs.foldr (· + ·) 0

/-- A bound on the steps that are left. -/
def workLeft (size : Nat) (successors : Nat → List Nat) (s : Search) : Nat :=
  s.roots.length + total ((List.range size).map (cost successors s)) + s.path.length +
    (s.path.flatMap (·.pending)).length

theorem total_map_le {f g : Nat → Nat} (h : ∀ v, f v ≤ g v) (l : List Nat) :
    total (l.map f) ≤ total (l.map g) := by
  induction l with
  | nil => exact Nat.le_refl _
  | cons v l ih => exact Nat.add_le_add (h v) ih

theorem total_map_update {f g : Nat → Nat} {l : List Nat} (hl : l.Nodup) (hv : v ∈ l) (hf : f v = 0)
    (h : ∀ u, u ≠ v → f u = g u) : total (l.map f) + g v = total (l.map g) := by
  induction l with
  | nil => simp at hv
  | cons u l ih =>
    obtain ⟨hnot, hl⟩ := List.nodup_cons.mp hl
    simp only [List.map_cons, total, List.foldr_cons] at ih ⊢
    by_cases huv : u = v
    · subst huv
      have hrest : l.map f = l.map g :=
        List.map_congr_left fun x hx => h x fun hxu => hnot (hxu ▸ hx)
      rw [hf, hrest]
      omega
    · rw [← ih hl ((List.mem_cons.mp hv).resolve_left (Ne.symm huv)), h u huv]
      omega

/-- Discovering a vertex moves its cost to the path. -/
theorem workLeft_visit (hm : Marked size s) (hv : s.mark v = .unseen) :
    workLeft size successors (visit successors v s) = workLeft size successors s := by
  have hlt : v < size := hm.marks_size ▸ lt_of_mark_ne_done (by simp [hv])
  have hmoved : total ((List.range size).map (cost successors (visit successors v s))) +
      cost successors s v = total ((List.range size).map (cost successors s)) := by
    refine total_map_update List.nodup_range (List.mem_range.mpr hlt) ?_ ?_
    · simp [cost, mark_visit hv]
    · intro u hu
      simp [cost, mark_visit hv, hu]
  have hcost : cost successors s v = 1 + (successors v).length := by simp [cost, hv]
  simp only [workLeft, visit, List.length_cons, List.flatMap_cons, List.length_append] at hmoved ⊢
  omega

theorem workLeft_withPending (hp : s.path = seg :: outer) (hn : seg.pending = w :: pending) :
    workLeft size successors (s.withPending seg pending outer) + 1 = workLeft size successors s := by
  have hcost : cost successors (s.withPending seg pending outer) = cost successors s := rfl
  simp only [workLeft, hcost]
  simp only [withPending, hp, hn, List.length_cons, List.flatMap_cons, List.length_append]
  omega

/-- Segments are merged or left as they are. -/
theorem collapse_cases (number : Nat) (path : List Segment) :
    collapse number path = path ∨ ∃ inner seg outer, path = inner ++ seg :: outer ∧
      collapse number path = merge inner seg :: outer := by
  have hsplit := List.takeWhile_append_dropWhile (p := fun seg : Segment => number < seg.number)
    (l := path)
  simp only [collapse]
  split
  · exact .inl rfl
  · rename_i seg outer hdrop
    rw [hdrop] at hsplit
    exact .inr ⟨_, seg, outer, hsplit.symm, by simp [merge, List.flatMap]⟩

theorem workLeft_collapse (number : Nat) :
    workLeft size successors { s with path := collapse number s.path } ≤
      workLeft size successors s := by
  have hcost : cost successors { s with path := collapse number s.path } = cost successors s := rfl
  simp only [workLeft, hcost]
  rcases collapse_cases number s.path with h | ⟨inner, seg, outer, hp, h⟩
  · exact Nat.le_of_eq (by rw [h])
  · rw [h, hp]
    simp [merge, Nat.add_assoc]

theorem workLeft_close (hp : s.path = seg :: outer) (hnil : seg.pending = []) :
    workLeft size successors (s.close seg outer) + 1 ≤ workLeft size successors s := by
  have hle : total ((List.range size).map (cost successors (s.close seg outer))) ≤
      total ((List.range size).map (cost successors s)) := by
    refine total_map_le (fun v => ?_) _
    by_cases hv : v ∈ seg.members <;> simp [cost, mark_close, hv]
  simp only [workLeft, hp, hnil, List.length_cons, List.flatMap_cons, List.nil_append]
  simp only [close] at hle ⊢
  omega

theorem workLeft_roots {roots : List Nat} (hr : s.roots = r :: roots) :
    workLeft size successors { s with roots } + 1 = workLeft size successors s := by
  have hcost : cost successors { s with roots } = cost successors s := rfl
  simp only [workLeft, hcost, hr, List.length_cons]
  omega

theorem workLeft_step (hm : Marked size s) (hs : Step successors s s') :
    workLeft size successors s' + 1 ≤ workLeft size successors s ∨ s.path = [] ∧ s.roots = [] := by
  cases hs with
  | finished hp hr => exact .inr ⟨hp, hr⟩
  | skipRoot _ hr _ => exact .inl (Nat.le_of_eq (workLeft_roots hr))
  | @start r roots _ hr hv =>
    have hm' : Marked size { s with roots } := hm.congr rfl rfl rfl
    rw [workLeft_visit hm' hv, workLeft_roots hr]
    exact .inl (Nat.le_refl _)
  | close hp hnil => exact .inl (workLeft_close hp hnil)
  | skip hp hn _ => exact .inl (Nat.le_of_eq (workLeft_withPending hp hn))
  | descend hp hn hw =>
    rw [workLeft_visit (hm.withPending hp) hw, workLeft_withPending hp hn]
    exact .inl (Nat.le_refl _)
  | @collapse seg outer w pending number hp hn _ =>
    rw [← workLeft_withPending hp hn]
    have hle : workLeft size successors
        { s with path := Search.collapse number (s.withPending seg pending outer).path } ≤
        workLeft size successors (s.withPending seg pending outer) :=
      workLeft_collapse (s := s.withPending seg pending outer) number
    exact .inl (Nat.add_le_add_right hle 1)

theorem run_of_finished (hp : s.path = []) (hr : s.roots = []) (steps : Nat) :
    s.run successors steps = s := by
  induction steps with
  | zero => rfl
  | succ steps ih =>
    have hstep : s.step successors = s := by simp [step, hp, hr]
    rw [run, hstep, ih]

theorem run_finishes (hb : Bounded size successors) (h : Invariant size successors s)
    (hle : workLeft size successors s ≤ steps) :
    (s.run successors steps).path = [] ∧ (s.run successors steps).roots = [] := by
  induction steps generalizing s with
  | zero =>
    rcases workLeft_step h.marked (step_spec successors s) with hlt | hdone
    · omega
    · exact hdone
  | succ steps ih =>
    rcases workLeft_step h.marked (step_spec successors s) with hlt | ⟨hp, hr⟩
    · exact ih (h.step hb (step_spec successors s)) (by omega)
    · rw [run_of_finished hp hr]
      exact ⟨hp, hr⟩

-- -------------------------------------
-- Whole searches
-- -------------------------------------

/-- The search before its first step. -/
def initial (size : Nat) : Search :=
  { roots := List.range size, marks := Array.replicate size .unseen }

theorem mark_initial : (initial size).mark v = if v < size then .unseen else .done := by
  by_cases hv : v < size <;> simp [initial, mark_eq, hv]

theorem Marked.initial : Marked size (initial size) := by
  refine ⟨by simp [Search.initial], ?_, ?_, ?_, ?_⟩
  · intro v
    rw [mark_initial]
    split <;> simp [Search.initial, onPath]
  · intro v
    rw [mark_initial]
    split <;> simp [Search.initial] <;> omega
  · simp [Search.initial]
  · simp [Search.initial, onPath]

theorem Numbered.initial : Numbered (initial size) := by
  refine ⟨by simp [Search.initial], ?_, by simp [Search.initial], by simp [Search.initial]⟩
  intro v k hk
  rw [mark_initial] at hk
  split at hk <;> cases hk

theorem Invariant.initial : Invariant size successors (initial size) := by
  refine ⟨.initial, .initial, ⟨?_, ?_, ?_⟩, ⟨?_, ?_⟩, ⟨?_, ?_⟩, ?_⟩
  · simp [Search.initial]
  · simp [Search.initial]
  · simp [Search.initial]
  · simp [Search.initial]
  · simp [Search.initial]
  · simp [Search.initial]
  · simp [Search.initial]
  · intro v hv
    rw [mark_initial] at hv
    split at hv
    · rename_i hlt
      exact List.mem_range.mpr hlt
    · cases hv

theorem total_map_succ (f : Nat → Nat) (l : List Nat) :
    total (l.map fun v => 1 + f v) = l.length + total (l.map f) := by
  induction l with
  | nil => rfl
  | cons v l ih =>
    simp only [total, List.map_cons, List.foldr_cons, List.length_cons] at ih ⊢
    omega

theorem workLeft_initial : workLeft size successors (initial size) = limit size successors := by
  have hcost : (List.range size).map (cost successors (initial size)) =
      (List.range size).map fun v => 1 + (successors v).length := by
    refine List.map_congr_left fun v hv => ?_
    simp [cost, mark_initial, List.mem_range.mp hv]
  have htotal := total_map_succ (fun v => (successors v).length) (List.range size)
  rw [List.length_range] at htotal
  simp only [workLeft, hcost, htotal]
  simp only [initial, limit, total, List.length_range, List.flatMap_nil, List.length_nil]
  omega

end Search

/-- The components of a graph are exactly the classes of its vertices that reach one another. Each
vertex is in one of them, once, and no component reaches one that comes after it. -/
theorem components_exact (hb : Search.Bounded size successors) :
    (components size successors).flatten.Nodup ∧
      (∀ v, v ∈ (components size successors).flatten ↔ v < size) ∧
      (∀ c ∈ components size successors, ∀ v ∈ c, ∀ w,
        w ∈ c ↔ Reaches successors v w ∧ Reaches successors w v) ∧
      (components size successors).Pairwise fun earlier later =>
        ∀ v ∈ earlier, ∀ w ∈ later, ¬Reaches successors v w := by
  let final := (Search.initial size).run successors (limit size successors)
  have hfinal : Search.Invariant size successors final :=
    Search.run_induct (fun _ _ => Search.Invariant.step hb) .initial _
  obtain ⟨hpath, hroots⟩ : final.path = [] ∧ final.roots = [] :=
    Search.run_finishes hb .initial (Nat.le_of_eq Search.workLeft_initial)
  have hcomponents : components size successors = final.found.reverse := rfl
  have hflat : (components size successors).flatten.Perm final.found.flatten := by
    rw [hcomponents]
    exact (List.reverse_perm final.found).flatten
  have honPath : final.onPath = [] := by simp [Search.onPath, hpath]
  refine ⟨?_, ?_, ?_, ?_⟩
  · rw [hflat.nodup_iff]
    simpa [honPath] using hfinal.marked.nodup
  · intro v
    rw [hflat.mem_iff]
    refine ⟨hfinal.marked.found_lt v, fun hv => ?_⟩
    -- Nothing is left unseen or active.
    cases hm : final.mark v with
    | unseen => simpa [hroots] using hfinal.rooted v hm
    | active k => simpa [honPath] using (hfinal.marked.active_iff v).mp ⟨k, hm⟩
    | done => exact ((hfinal.marked.done_iff v).mp hm).resolve_right (Nat.not_le.mpr hv)
  · simpa [hcomponents] using hfinal.separated.component
  · rw [hcomponents, List.pairwise_reverse]
    exact hfinal.separated.ordered

end RepoAtlas.Component
