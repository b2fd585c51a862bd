import RepoAtlas.Document.Ini
import RepoAtlas.Proofs.Text.Basic
import RepoAtlas.Proofs.Text.Blank
import Mathlib.Data.List.TakeDrop
import Mathlib.Data.List.TakeWhile

/-!
# References in settings

A value of a settings file can be had exactly if its text has an expansion, in which references are
followed to a limited depth (`Settings.get?_error_iff`). Without percent signs every value can
(`get?_of_not_mem`).
-/

namespace RepoAtlas.Ini

-- -------------------------------------
-- Expansions
-- -------------------------------------

/-- A text and what it stands for, where `refers` says what a name stands for. -/
inductive Expansion (refers : Text → Text → Prop) : Text → Text → Prop
  | nil : Expansion refers [] []
  | plain : c ≠ '%' → Expansion refers t v → Expansion refers (c :: t) (c :: v)
  | percent : Expansion refers t v → Expansion refers ('%' :: '%' :: t) ('%' :: v)
  | reference : name ≠ [] → ')' ∉ name → refers name u → Expansion refers t v →
    Expansion refers ('%' :: '(' :: (name ++ ')' :: 's' :: t)) (u ++ v)

theorem Expansion.of_not_mem (h : '%' ∉ t) : Expansion refers t t := by
  induction t with
  | nil => exact .nil
  | cons c t ih =>
    obtain ⟨hc, ht⟩ := not_or.mp (mt List.mem_cons.mpr h)
    exact .plain (Ne.symm hc) (ih ht)

theorem span_reference (h : ')' ∉ name) :
    (name ++ ')' :: t).span (· != ')') = (name, ')' :: t) := by
  have hname : ∀ c ∈ name, (c != ')') = true := by
    intro c hc
    rw [bne_iff_ne]
    rintro rfl
    exact h hc
  rw [List.span_eq_takeWhile_dropWhile, List.takeWhile_append_of_pos hname,
    List.dropWhile_append_of_pos hname]
  simp

theorem span_reference_inv {t : Text} (h : t.span (· != ')') = (name, rest)) :
    t = name ++ rest ∧ ')' ∉ name := by
  rw [List.span_eq_takeWhile_dropWhile] at h
  cases h
  refine ⟨List.takeWhile_append_dropWhile.symm, fun hmem => ?_⟩
  have hbracket := List.mem_takeWhile_imp hmem
  simp at hbracket

section
variable {follow : Text → Except ReferenceError Text}

theorem expandWith_of_expansion (h : Expansion (fun name u => follow name = .ok u) t v)
    (hfuel : t.length < fuel) : expandWith follow done fuel t = .ok (done.reverse ++ v) := by
  induction h generalizing done fuel with
  | nil =>
    cases fuel <;> simp [expandWith]
  | plain hc _ ih =>
    obtain ⟨fuel, rfl⟩ := Nat.exists_eq_add_one_of_ne_zero (Nat.ne_zero_of_lt hfuel)
    unfold expandWith
    rw [if_pos (bne_iff_ne.mpr hc), ih (Nat.lt_of_succ_lt_succ hfuel)]
    simp
  | percent _ ih =>
    obtain ⟨fuel, rfl⟩ := Nat.exists_eq_add_one_of_ne_zero (Nat.ne_zero_of_lt hfuel)
    simp only [List.length_cons] at hfuel
    simp only [expandWith]
    rw [ih (by omega)]
    simp
  | @reference name u t v hname hclosed hrefers _ ih =>
    obtain ⟨fuel, rfl⟩ := Nat.exists_eq_add_one_of_ne_zero (Nat.ne_zero_of_lt hfuel)
    simp only [List.length_cons, List.length_append] at hfuel
    obtain ⟨c, name, rfl⟩ := List.exists_cons_of_ne_nil hname
    simp only [expandWith, span_reference hclosed, hrefers]
    rw [ih (by omega)]
    simp

theorem expansion_of_expandWith (h : expandWith follow done fuel t = .ok r)
    (hfuel : t.length < fuel) :
    ∃ v, Expansion (fun name u => follow name = .ok u) t v ∧ r = done.reverse ++ v := by
  fun_induction expandWith follow done fuel t with
  | case1 => omega
  | case2 =>
    cases h
    exact ⟨[], .nil, by simp⟩
  | case3 done fuel c t hc ih =>
    obtain ⟨v, hv, rfl⟩ := ih h (Nat.lt_of_succ_lt_succ hfuel)
    exact ⟨c :: v, .plain (bne_iff_ne.mp hc) hv, by simp⟩
  | case4 done fuel c hc t ih =>
    simp only [bne_iff_ne, ne_eq, not_not] at hc
    simp only [List.length_cons] at hfuel
    obtain ⟨v, hv, rfl⟩ := ih h (by omega)
    exact ⟨'%' :: v, hc ▸ .percent hv, by simp⟩
  | case5 => cases h
  | case6 => cases h
  | case7 done fuel c hc t name rest hname hspan u hfollow ih =>
    simp only [bne_iff_ne, ne_eq, not_not] at hc
    obtain ⟨rfl, hclosed⟩ := span_reference_inv hspan
    simp only [List.length_cons, List.length_append] at hfuel
    obtain ⟨v, hv, rfl⟩ := ih h (by omega)
    exact ⟨u ++ v, hc ▸ .reference hname hclosed hfollow hv, by simp⟩
  | case8 => cases h
  | case9 => cases h

end

/-- What a text in a section stands for; at most `depth` references may lead to one another. -/
def Settings.Expands (s : Settings) (section_ : Text) : (depth : Nat) → Text → Text → Prop
  | 0, _, _ => False
  | depth + 1, t, v => Expansion (fun name u => ∃ w, s.raw? section_ (Text.lower name) = some w ∧
      if '%' ∈ w then s.Expands section_ depth w u else u = w) t v

/-- What a reference in a value is followed to. -/
def Settings.follow (s : Settings) (section_ option raw : Text) (depth : Nat) (name : Text) :
    Except ReferenceError Text :=
  match s.raw? section_ (Text.lower name) with
  | none => .error (.missing section_ option (Text.lower name) raw)
  | some w => if w.contains '%' then expand s section_ option raw depth w else .ok w

theorem expand_succ {s : Settings} : expand s section_ option raw (depth + 1) t =
    expandWith (s.follow section_ option raw depth) [] (t.length + 1) t := rfl

theorem Settings.follow_ok_iff {s : Settings}
    (h : ∀ t v, expand s section_ option raw depth t = .ok v ↔ s.Expands section_ depth t v) :
    s.follow section_ option raw depth name = .ok u ↔
      ∃ w, s.raw? section_ (Text.lower name) = some w ∧
        if '%' ∈ w then s.Expands section_ depth w u else u = w := by
  unfold follow
  cases s.raw? section_ (Text.lower name) with
  | none => simp
  | some w => by_cases hw : '%' ∈ w <;> simp [hw, h, eq_comm]

theorem expand_ok_iff {s : Settings} :
    expand s section_ option raw depth t = .ok v ↔ s.Expands section_ depth t v := by
  induction depth generalizing t v with
  | zero => simp [expand, Settings.Expands]
  | succ depth ih =>
    simp only [expand_succ, Settings.Expands, ← Settings.follow_ok_iff (fun t v => @ih t v)]
    constructor
    · intro h
      obtain ⟨w, hw, rfl⟩ := expansion_of_expandWith h (Nat.lt_succ_self _)
      exact hw
    · intro h
      exact expandWith_of_expansion h (Nat.lt_succ_self _)

/-- The value of an option cannot be had if its text has no expansion. -/
theorem Settings.get?_error_iff {s : Settings} :
    (∃ fault, s.get? section_ option = .error fault) ↔
      ∃ raw, s.raw? section_ option = some raw ∧ ∀ v, ¬ s.Expands section_ maxDepth raw v := by
  unfold get?
  cases s.raw? section_ option with
  | none => simp
  | some raw =>
    simp only
    cases hexpand : expand s section_ option raw maxDepth raw with
    | ok v =>
      constructor
      · rintro ⟨fault, ⟨⟩⟩
      · rintro ⟨_, ⟨⟩, hnone⟩
        exact absurd (expand_ok_iff.mp hexpand) (hnone v)
    | error fault =>
      refine ⟨fun _ => ⟨raw, rfl, fun v hv => ?_⟩, fun _ => ⟨fault, rfl⟩⟩
      have hok : expand s section_ option raw maxDepth raw = .ok v := expand_ok_iff.mpr hv
      cases hexpand.symm.trans hok

-- -------------------------------------
-- Settings without percent signs
-- -------------------------------------

theorem mem_of_mem_joined {lines : List Text} (h : c ∈ joined lines) :
    c = '\n' ∨ ∃ line ∈ lines, c ∈ line := by
  rw [joined, Text.trimRight, List.mem_reverse] at h
  have hlines := List.mem_reverse.mp (List.dropWhile_subset _ h)
  have hany : ∀ rest : List Text, c ∈ List.intercalate ['\n'] rest →
      c = '\n' ∨ ∃ line ∈ rest, c ∈ line := by
    intro rest hrest
    induction rest with
    | nil => simp [List.intercalate] at hrest
    | cons line rest ih =>
      cases rest with
      | nil => exact .inr ⟨line, .head _, by simpa [List.intercalate] using hrest⟩
      | cons next rest =>
        rw [List.intercalate_cons_cons, List.mem_append, List.mem_append,
          List.mem_singleton] at hrest
        rcases hrest with (hline | hnewline) | hrest
        · exact .inr ⟨line, .head _, hline⟩
        · exact .inl hnewline
        · exact (ih hrest).imp_right fun ⟨other, hother, hc⟩ => ⟨other, .tail _ hother, hc⟩
  exact (hany _ hlines).imp_right fun ⟨line, hline, hc⟩ => ⟨line, List.mem_reverse.mp hline, hc⟩

/-- No line of any value has a percent sign. -/
def PercentFree (options : Options) : Prop := ∀ entry ∈ options, ∀ line ∈ entry.2, '%' ∉ line

theorem mem_put (h : entry ∈ put key v l) : entry ∈ l ∨ entry.2 = v := by
  induction l with
  | nil =>
    cases List.mem_singleton.mp h
    exact .inr rfl
  | cons first rest ih =>
    unfold put at h
    split at h
    · rcases List.mem_cons.mp h with rfl | hrest
      · exact .inr rfl
      · exact .inl (.tail _ hrest)
    · rcases List.mem_cons.mp h with rfl | hrest
      · exact .inl (.head _)
      · exact (ih hrest).imp_left (.tail _)

theorem PercentFree.put (h : PercentFree options) (hlines : ∀ line ∈ lines, '%' ∉ line) :
    PercentFree (put key lines options) := by
  intro entry hentry
  rcases mem_put hentry with hold | hnew
  · exact h entry hold
  · rw [hnew]
    exact hlines

theorem PercentFree.lookup (h : PercentFree options) :
    ∀ line ∈ (options.lookup key).getD [], '%' ∉ line := by
  cases hlookup : options.lookup key with
  | none => simp
  | some lines => exact h _ (Text.mem_of_lookup hlookup)

structure Settings.PercentFree (s : Settings) : Prop where
  defaults : Ini.PercentFree s.defaults
  sections : ∀ entry ∈ s.sections, Ini.PercentFree entry.2

namespace Settings.PercentFree

variable {s : Settings}

theorem options (h : s.PercentFree) (name : Text) : Ini.PercentFree (s.options name) := by
  unfold Settings.options
  split
  · exact h.defaults
  · cases hlookup : s.sections.lookup name with
    | none => exact fun _ h => nomatch h
    | some found => exact h.sections _ (Text.mem_of_lookup hlookup)

theorem setOptions (h : s.PercentFree) (hfound : Ini.PercentFree found) :
    (s.setOptions name found).PercentFree := by
  unfold Settings.setOptions
  split
  · exact ⟨hfound, h.sections⟩
  · refine ⟨h.defaults, fun entry hentry => ?_⟩
    rcases mem_put hentry with hold | hnew
    · exact h.sections entry hold
    · rw [hnew]
      exact hfound

theorem raw? (h : s.PercentFree) (hraw : s.raw? section_ option = some raw) : '%' ∉ raw := by
  obtain ⟨options, hoptions, hraw⟩ := Option.bind_eq_some_iff.mp hraw
  obtain ⟨lines, hlines, hraw⟩ := Option.bind_eq_some_iff.mp hraw
  cases hraw
  intro hmem
  rcases mem_of_mem_joined hmem with hnewline | ⟨line, hline, hpercent⟩
  · cases hnewline
  · rcases Option.or_eq_some_iff.mp hlines with hfound | ⟨-, hfound⟩
    · have hclean := h.sections _ (Text.mem_of_lookup hoptions)
      exact hclean _ (Text.mem_of_lookup hfound) line hline hpercent
    · exact h.defaults _ (Text.mem_of_lookup hfound) line hline hpercent

end Settings.PercentFree

namespace Reader

variable {r r' : Reader}

theorem extend_percentFree {t : Text} (h : r.settings.PercentFree) (ht : '%' ∉ t) :
    (r.extend t).settings.PercentFree := by
  unfold extend
  split
  · exact h.setOptions ((h.options _).put
      (List.forall_mem_cons.mpr ⟨ht, (h.options _).lookup⟩))
  · exact h

theorem openSection_percentFree (h : r.settings.PercentFree)
    (hopen : r.openSection name = some r') : r'.settings.PercentFree := by
  unfold openSection at hopen
  split at hopen
  · cases hopen
    exact h
  · split at hopen
    · cases hopen
    · cases hopen
      exact h.setOptions fun _ h => nomatch h

theorem mem_of_option? {t : Text} (h : option? t = some (name, v)) (hc : c ∈ v) : c ∈ t := by
  unfold option? at h
  rw [List.span_eq_takeWhile_dropWhile] at h
  split at h
  · rename_i front sign rest hspan
    cases h
    have hrest : sign :: rest <:+ t := by
      rw [← (Prod.mk.inj hspan).2]
      exact List.dropWhile_suffix _
    exact hrest.mem (.tail _ (Text.mem_of_mem_trim hc))
  · cases h

theorem element_percentFree (h : r.settings.PercentFree) (ht : '%' ∉ t)
    (helement : r.element t = some r') : r'.settings.PercentFree := by
  unfold element at helement
  split at helement
  · exact openSection_percentFree h helement
  · split at helement
    · cases helement
    · split at helement
      · cases helement
        exact h
      · rename_i name v hoption
        simp only at helement
        split at helement
        · cases helement
        · cases helement
          refine h.setOptions ((h.options _).put (List.forall_mem_singleton.mpr ?_))
          exact fun hmem => ht (mem_of_option? hoption hmem)

theorem line_percentFree (h : r.settings.PercentFree) (hraw : '%' ∉ raw)
    (hline : r.line raw = some r') : r'.settings.PercentFree := by
  have htrim : '%' ∉ Text.trim raw := fun hmem => hraw (Text.mem_of_mem_trim hmem)
  unfold line at hline
  simp only at hline
  split at hline
  · cases hline
    exact extend_percentFree h (by simp)
  · split at hline
    · cases hline
      exact h
    · split at hline
      · cases hline
        exact extend_percentFree h htrim
      · have hsettings : ({ r with indent := (raw.takeWhile Text.isBlank).length } :
            Reader).settings.PercentFree := h
        exact element_percentFree hsettings htrim hline

theorem lines_percentFree {lines : List Text} (h : r.settings.PercentFree)
    (hlines : ∀ raw ∈ lines, '%' ∉ raw) (hrun : lines.foldlM line r = some r') :
    r'.settings.PercentFree := by
  induction lines generalizing r with
  | nil =>
    cases hrun
    exact h
  | cons raw lines ih =>
    obtain ⟨hraw, hrest⟩ := List.forall_mem_cons.mp hlines
    rw [List.foldlM_cons] at hrun
    obtain ⟨mid, hmid, hrun⟩ := Option.bind_eq_some_iff.mp hrun
    exact ih (line_percentFree h hraw hmid) hrest hrun

end Reader

theorem parse?_percentFree (h : '%' ∉ t) (hparse : parse? t = some s) : s.PercentFree := by
  obtain ⟨r, hr, hs⟩ := Option.bind_eq_some_iff.mp hparse
  split at hs
  · cases hs
  · cases hs
    have hempty : ({} : Reader).settings.PercentFree := ⟨by simp [PercentFree], by simp⟩
    refine Reader.lines_percentFree hempty (fun raw hraw hmem => ?_) hr
    exact h (Text.mem_of_mem_splitOn hraw hmem)

theorem get?_of_not_mem (h : '%' ∉ t) (hparse : parse? t = some s) :
    ∃ v, s.get? section_ option = .ok v := by
  cases hget : s.get? section_ option with
  | ok v => exact ⟨v, rfl⟩
  | error fault =>
    obtain ⟨raw, hraw, hnone⟩ := Settings.get?_error_iff.mp ⟨fault, hget⟩
    exact absurd (.of_not_mem ((parse?_percentFree h hparse).raw? hraw)) (hnone raw)

end RepoAtlas.Ini
