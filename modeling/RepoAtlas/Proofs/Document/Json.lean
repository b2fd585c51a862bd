import RepoAtlas.Document.Json
import RepoAtlas.Proofs.Document.Limits
import RepoAtlas.Proofs.Text.Basic

/-!
# The limits of JSON

A text that is nested too deep has more than `Json.depthLimit` opening brackets and braces, and one
with an integer that is too long has more than `SyntaxError.maxDigits` digits.
-/

namespace RepoAtlas.Json

open SyntaxError

variable {t rest : Text} {depth : Nat}

theorem skip_suffix (t : Text) : skip t <:+ t := List.dropWhile_suffix _

theorem stringBody_suffix {read body : Text} (h : stringBody read t = some (body, rest)) :
    rest <:+ t := by
  fun_induction stringBody read t with
  | case1 => cases h
  | case2 read c t ih => exact (ih h).trans ⟨['\\', c], rfl⟩
  | case3 read c t hne hc =>
    cases h
    exact List.suffix_cons ..
  | case4 read c t hne hc ih => exact (ih h).trans (List.suffix_cons ..)

theorem string_consumes (depth : Nat) (t : Text) : Consumes depthLimit depth t (string t) := by
  unfold string
  split
  · trivial
  · rename_i body rest hbody
    split
    · trivial
    · exact stringBody_suffix hbody

theorem word?_suffix {v : Value} (h : word? t = some (v, rest)) : rest <:+ t :=
  Text.suffix_of_findSome?_after? (f := id) h

theorem integerPart?_readsOff {digits : Text} (h : integerPart? t = some (digits, rest)) :
    Text.ReadsOff Char.isDigit t digits rest := by
  cases t with
  | nil => cases h
  | cons c t =>
    simp only [integerPart?] at h
    split at h
    · rename_i hc
      cases h
      rw [beq_iff_eq] at hc
      subst hc
      exact ⟨List.suffix_cons .., by simp⟩
    · split at h
      · exact Text.readsOff_span (Option.some.inj h)
      · cases h

theorem fraction_suffix (t : Text) : (fraction t).2 <:+ t := by
  unfold fraction
  split
  · rename_i t
    split
    · exact List.suffix_rfl
    · rename_i digits rest _ hspan
      exact (Text.readsOff_span hspan).1.trans (List.suffix_cons ..)
  · exact List.suffix_rfl

theorem exponent?_suffix {n : Int} (h : exponent? t = some (n, rest)) : rest <:+ t := by
  unfold exponent? at h
  split at h
  · rename_i c t
    split at h
    · simp only at h
      split at h
      · cases h
      · rename_i digits after _ hspan
        cases h
        refine (Text.readsOff_span hspan).1.trans (List.IsSuffix.trans ?_ (List.suffix_cons ..))
        split
        · exact List.suffix_cons ..
        · exact List.suffix_cons ..
        · exact List.suffix_rfl
    · cases h
  · cases h

theorem number_consumes (t : Text) : Consumes depthLimit depth t (number t) := by
  unfold number
  simp only
  split
  · trivial
  · rename_i digits after hdigits
    have hread : Text.ReadsOff Char.isDigit t digits after := by
      split at hdigits
      · exact (integerPart?_readsOff hdigits).of_suffix (List.suffix_cons ..)
      · exact integerPart?_readsOff hdigits
    have hplaces : (fraction after).2 <:+ t := (fraction_suffix after).trans hread.1
    split
    · rename_i exponent rest hexponent
      exact (exponent?_suffix hexponent).trans hplaces
    · split
      · exact hplaces
      · split
        · rename_i hlong
          exact ⟨hlong, hread.2⟩
        · exact hplaces

/-! ## Values

The three readers call each other with less fuel, so what they consume is shown for all of them
at once. A bracket or brace that opens a collection pays for the level it adds. -/

/-- What all readers of values do with a given amount of fuel. -/
structure ValuesConsume (fuel : Nat) : Prop where
  value (depth : Nat) (t : Text) : Consumes depthLimit depth t (value fuel depth t)
  items (depth : Nat) (read : List Value) (t : Text) :
    Consumes depthLimit depth t (items fuel depth read t)
  entries (depth : Nat) (read : Table) (t : Text) :
    Consumes depthLimit depth t (entries fuel depth read t)

theorem value_consumes {fuel : Nat} (ih : ValuesConsume fuel) (depth : Nat) (t : Text) :
    Consumes depthLimit depth t (value (fuel + 1) depth t) := by
  unfold value
  split
  · rename_i t
    refine Consumes.of_suffix (List.suffix_cons ..) ?_
    have hstring := string_consumes depth t
    split
    · rename_i s rest hs
      exact hstring.suffix hs
    · rename_i e he
      exact hstring.founded he
  · rename_i t
    split
    · rename_i hdepth
      exact founded_tooDeep rfl hdepth
    -- the bracket itself pays for the level that is added
    · refine Consumes.of_deeper rfl ?_
      split
      · rename_i rest hrest
        exact Text.suffix_of_dropWhile hrest
      · exact (ih.items ..).of_suffix (skip_suffix t)
  · rename_i t
    split
    · rename_i hdepth
      exact founded_tooDeep rfl hdepth
    · refine Consumes.of_deeper rfl ?_
      split
      · rename_i rest hrest
        exact Text.suffix_of_dropWhile hrest
      · exact (ih.entries ..).of_suffix (skip_suffix t)
  · split
    · rename_i v rest hword
      exact word?_suffix hword
    · exact number_consumes _

theorem items_consumes {fuel : Nat} (ih : ValuesConsume fuel) (depth : Nat) (read : List Value)
    (t : Text) : Consumes depthLimit depth t (items (fuel + 1) depth read t) := by
  unfold items
  split
  · rename_i e he
    exact (ih.value depth t).founded he
  · rename_i v after hvalue
    refine Consumes.of_suffix ((ih.value depth t).suffix hvalue) ?_
    split
    · rename_i rest hrest
      refine Consumes.of_suffix (Text.suffix_of_dropWhile hrest) ?_
      exact (ih.items ..).of_suffix (skip_suffix rest)
    · rename_i rest hrest
      exact Text.suffix_of_dropWhile hrest
    · trivial

theorem entries_consumes {fuel : Nat} (ih : ValuesConsume fuel) (depth : Nat) (read : Table)
    (t : Text) : Consumes depthLimit depth t (entries (fuel + 1) depth read t) := by
  unfold entries
  split
  · rename_i t
    have hstring := string_consumes depth t
    refine Consumes.of_suffix (List.suffix_cons ..) ?_
    split
    · rename_i e he
      exact hstring.founded he
    · rename_i key afterKey hkey
      refine Consumes.of_suffix (hstring.suffix hkey) ?_
      split
      · rename_i atValue hcolon
        refine Consumes.of_suffix ((skip_suffix atValue).trans (Text.suffix_of_dropWhile hcolon)) ?_
        have hvalue := ih.value depth (skip atValue)
        split
        · rename_i e he
          exact hvalue.founded he
        · rename_i v after hv
          refine Consumes.of_suffix (hvalue.suffix hv) ?_
          split
          · rename_i rest hrest
            refine Consumes.of_suffix (Text.suffix_of_dropWhile hrest) ?_
            exact (ih.entries ..).of_suffix (skip_suffix rest)
          · rename_i rest hrest
            exact Text.suffix_of_dropWhile hrest
          · trivial
      · trivial
  · trivial

theorem valuesConsume (fuel : Nat) : ValuesConsume fuel := by
  induction fuel with
  | zero =>
    refine ⟨fun depth t => ?_, fun depth read t => ?_, fun depth read t => ?_⟩
    · unfold value
      trivial
    · unfold items
      trivial
    · unfold entries
      trivial
  | succ fuel ih => exact ⟨value_consumes ih, items_consumes ih, entries_consumes ih⟩

/-- A text on which the reader gives up has the characters that this takes. -/
theorem parse_founded {e : SyntaxError} (h : parse t = .error e) : e.Founded depthLimit 0 t := by
  unfold parse at h
  have hvalue := (valuesConsume (2 * t.length + 2)).value 0 (skip t)
  split at h
  · rename_i e' he
    cases h
    exact (hvalue.founded he).of_suffix (skip_suffix t)
  · split at h
    · cases h
    · cases h
      trivial

/-! ## Long integers -/

end RepoAtlas.Json
