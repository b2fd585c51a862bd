import RepoAtlas.Document.Toml
import RepoAtlas.Proofs.Document.Json

/-!
# The limits of TOML

As for JSON: a document that is nested too deep has more than `Toml.depthLimit` opening brackets
and braces, and one with an integer that is too long has more than `SyntaxError.maxDigits` digits.
Of all that a document can hold only values count: keys, strings, dates and headings are never
more than malformed.
-/

namespace RepoAtlas.Toml

open SyntaxError

variable {t rest : Text} {depth : Nat}

theorem skip_suffix (t : Text) : skip t <:+ t := List.dropWhile_suffix _

/-- A result of stepping over something: a rest of the text, if that is well-formed. -/
def StepsOver (t : Text) : Except SyntaxError Text → Prop
  | .ok rest => rest <:+ t
  | .error e => e = malformed

theorem StepsOver.of_suffix {s : Text} {r : Except SyntaxError Text} (hs : s <:+ t)
    (h : StepsOver s r) : StepsOver t r := by
  cases r with
  | ok rest => exact List.IsSuffix.trans h hs
  | error e => exact h

theorem StepsOver.suffix {r : Except SyntaxError Text} (h : StepsOver t r) (hr : r = .ok rest) :
    rest <:+ t := by
  subst hr
  exact h

theorem StepsOver.founded {r : Except SyntaxError Text} {e : SyntaxError} (h : StepsOver t r)
    (hr : r = .error e) : e.Founded depthLimit depth t := by
  subst hr
  cases h
  trivial

theorem skipComment_stepsOver (t : Text) : StepsOver t (skipComment t) := by
  unfold skipComment
  split
  · rename_i t
    split
    rename_i comment rest hspan
    split
    · rfl
    · exact (Text.readsOff_span hspan).1.trans (List.suffix_cons ..)
  · exact List.suffix_rfl

theorem skipLinesFrom_stepsOver (inComment : Bool) (t : Text) :
    StepsOver t (skipLinesFrom inComment t) := by
  fun_induction skipLinesFrom inComment t with
  | case1 => exact List.suffix_rfl
  | case2 c t _ ih => exact ih.of_suffix (List.suffix_cons ..)
  | case3 => rfl
  | case4 c t _ _ ih => exact ih.of_suffix (List.suffix_cons ..)
  | case5 c t _ ih => exact ih.of_suffix (List.suffix_cons ..)
  | case6 c t _ _ ih => exact ih.of_suffix (List.suffix_cons ..)
  | case7 => exact List.suffix_rfl

theorem skipLines_stepsOver (t : Text) : StepsOver t (skipLines t) :=
  skipLinesFrom_stepsOver false t

/-! ## Strings -/

theorem literal_consumes (depth : Nat) (t : Text) : Consumes depthLimit depth t (literal t) := by
  unfold literal
  split
  · rename_i s c rest hspan
    split
    · trivial
    · exact (List.suffix_cons ..).trans (Text.readsOff_span hspan).1
  · trivial

theorem unescaped_consumes {multiline : Bool} {body : Option (Text × Text)}
    (h : ∀ s rest, body = some (s, rest) → rest <:+ t) :
    Consumes depthLimit depth t (unescaped multiline body) := by
  unfold unescaped
  split
  · trivial
  · split
    · trivial
    · exact h _ _ rfl

theorem basicLine_consumes (depth : Nat) (t : Text) :
    Consumes depthLimit depth t (basicLine t) :=
  unescaped_consumes fun _ _ => Json.stringBody_suffix

theorem linesBody_suffix {read body : Text} (h : linesBody read t = some (body, rest)) :
    rest <:+ t := by
  fun_induction linesBody read t with
  | case1 => cases h
  | case2 read c t ih => exact (ih h).trans ⟨['\\', c], rfl⟩
  | case3 read t =>
    cases h
    exact ⟨['"', '"', '"'], rfl⟩
  | case4 read c t _ _ ih => exact (ih h).trans (List.suffix_cons ..)

theorem extraQuotes_suffix (quote : Char) (s t : Text) : (extraQuotes quote s t).2 <:+ t := by
  unfold extraQuotes
  split
  · exact List.suffix_rfl
  · rename_i a t
    split
    · exact List.suffix_rfl
    · split
      · exact List.suffix_cons ..
      · rename_i b t
        split
        · exact ⟨[a, b], rfl⟩
        · exact List.suffix_cons ..

theorem dropFirstNewline_suffix (t : Text) : dropFirstNewline t <:+ t := by
  unfold dropFirstNewline
  split
  · exact List.suffix_cons ..
  · exact List.suffix_rfl

theorem basicLines_consumes (depth : Nat) (t : Text) :
    Consumes depthLimit depth t (basicLines t) := by
  have hbody : Consumes depthLimit depth t (unescaped true (linesBody [] (dropFirstNewline t))) :=
    unescaped_consumes fun _ _ h => (linesBody_suffix h).trans (dropFirstNewline_suffix t)
  exact hbody.map fun s rest h => (extraQuotes_suffix '"' s rest).trans h

theorem literalLines_consumes (depth : Nat) (t : Text) :
    Consumes depthLimit depth t (literalLines t) := by
  unfold literalLines
  split
  · trivial
  · rename_i s after hcut
    split
    · trivial
    · have hafter : after <:+ t := (Text.cut?_suffix hcut).trans (dropFirstNewline_suffix t)
      exact (extraQuotes_suffix ..).trans hafter

/-! ## Keys -/

theorem keyPart_consumes (depth : Nat) (t : Text) : Consumes depthLimit depth t (keyPart t) := by
  unfold keyPart
  split
  · trivial
  · rename_i c t
    split
    · exact (Text.readsOff_span (t := c :: t) rfl).1
    · split
      · exact (literal_consumes depth t).of_suffix (List.suffix_cons ..)
      · split
        · exact (basicLine_consumes depth t).of_suffix (List.suffix_cons ..)
        · trivial

theorem keyParts_consumes (depth : Nat) (read : List Text) (fuel : Nat) (t : Text) :
    Consumes depthLimit depth t (keyParts read fuel t) := by
  induction fuel generalizing read t with
  | zero => trivial
  | succ fuel ih =>
    unfold keyParts
    split
    · rename_i e he
      exact (keyPart_consumes depth t).founded he
    · rename_i part after hpart
      refine Consumes.of_suffix ((keyPart_consumes depth t).suffix hpart) ?_
      split
      · rename_i rest hdot
        exact (ih ..).of_suffix ((skip_suffix rest).trans (Text.suffix_of_dropWhile hdot))
      · exact skip_suffix after

/-! ## Numbers, dates and times -/

theorem moreDigits_readsOff (p : Char → Bool) (t : Text) :
    Text.ReadsOff p t (moreDigits p t).1 (moreDigits p t).2 := by
  fun_induction moreDigits p t with
  | case1 => exact ⟨List.suffix_rfl, Nat.le_refl _⟩
  | case2 c t hc digits rest heq ih =>
    rw [heq] at ih
    exact (ih.cons hc).of_suffix (List.suffix_cons ..)
  | case3 => exact ⟨List.suffix_rfl, Nat.zero_le _⟩
  | case4 c t _ hc digits rest heq ih =>
    rw [heq] at ih
    exact ih.cons hc
  | case5 => exact ⟨List.suffix_rfl, Nat.zero_le _⟩

theorem digits?_readsOff {p : Char → Bool} {digits : Text} (h : digits? p t = some (digits, rest)) :
    Text.ReadsOff p t digits rest := by
  unfold digits? at h
  split at h
  · cases h
  · rename_i c t
    split at h
    · rename_i hc
      cases h
      exact (moreDigits_readsOff p t).cons hc
    · cases h

theorem suffix_of_map_digits? {α : Type} {p : Char → Bool} {f : Text × Text → α × Text} {a : α}
    (h : (digits? p t).map f = some (a, rest)) (hf : ∀ found, (f found).2 = found.2) :
    rest <:+ t := by
  obtain ⟨found, hfound, hpair⟩ := Option.map_eq_some_iff.mp h
  have hrest : rest = found.2 := by rw [← hf found, hpair]
  rw [hrest]
  exact (digits?_readsOff hfound).1

theorem based?_suffix {v : Value} (h : based? t = some (v, rest)) : rest <:+ t := by
  unfold based? at h
  split at h
  · rename_i mark t
    refine List.IsSuffix.trans ?_ (⟨['0', mark], rfl⟩ : t <:+ '0' :: mark :: t)
    simp only at h
    split at h
    · exact suffix_of_map_digits? h fun _ => rfl
    · split at h
      · exact suffix_of_map_digits? h fun _ => rfl
      · split at h
        · exact suffix_of_map_digits? h fun _ => rfl
        · cases h
  · cases h

theorem fraction_suffix (t : Text) : (fraction t).2 <:+ t := by
  unfold fraction
  split
  · rename_i t
    cases hdigits : digits? Char.isDigit t with
    | none => exact List.suffix_rfl
    | some found => exact (digits?_readsOff hdigits).1.trans (List.suffix_cons ..)
  · exact List.suffix_rfl

theorem exponent?_suffix {n : Int} (h : exponent? t = some (n, rest)) : rest <:+ t := by
  unfold exponent? at h
  split at h
  · cases h
  · rename_i c t
    split at h
    · simp only at h
      refine (suffix_of_map_digits? h fun _ => rfl).trans
        (List.IsSuffix.trans ?_ (List.suffix_cons ..))
      split
      · exact List.suffix_cons ..
      · exact List.suffix_cons ..
      · exact List.suffix_rfl
    · cases h

theorem integerPart?_readsOff {digits : Text} (h : integerPart? t = some (digits, rest)) :
    Text.ReadsOff Char.isDigit t digits rest := by
  unfold integerPart? at h
  split at h
  · cases h
    exact ⟨List.suffix_cons .., by simp⟩
  · exact digits?_readsOff h

theorem number_consumes (depth : Nat) (t : Text) : Consumes depthLimit depth t (number t) := by
  unfold number
  split
  · rename_i found hbased
    exact based?_suffix hbased
  · simp only
    split
    · trivial
    · rename_i digits after hdigits
      have hread : Text.ReadsOff Char.isDigit t digits after := by
        split at hdigits
        · exact (integerPart?_readsOff hdigits).of_suffix (List.suffix_cons ..)
        · exact (integerPart?_readsOff hdigits).of_suffix (List.suffix_cons ..)
        · exact integerPart?_readsOff hdigits
      have hplaces : (fraction after).2 <:+ t := (fraction_suffix after).trans hread.1
      split
      · rename_i exponent rest hexponent
        exact (exponent?_suffix hexponent).trans hplaces
      · split
        · exact hplaces
        · split
          · rename_i hlong
            exact ⟨hlong, hread.2⟩
          · exact hplaces

theorem twoDigits?_suffix {low high n : Nat} (h : twoDigits? low high t = some (n, rest)) :
    rest <:+ t := by
  unfold twoDigits? at h
  split at h
  · rename_i a b t
    split at h
    · simp only at h
      split at h
      · cases h
        exact ⟨[a, b], rfl⟩
      · cases h
    · cases h
  · cases h

theorem timeOfDay?_suffix (h : timeOfDay? t = some rest) : rest <:+ t := by
  unfold timeOfDay? at h
  obtain ⟨⟨_, s₁⟩, hhours, h⟩ := Option.bind_eq_some_iff.mp h
  obtain ⟨s₂, hcolon, h⟩ := Option.bind_eq_some_iff.mp h
  obtain ⟨⟨_, s₃⟩, hminutes, h⟩ := Option.bind_eq_some_iff.mp h
  obtain ⟨s₄, hcolon', h⟩ := Option.bind_eq_some_iff.mp h
  obtain ⟨⟨_, s₅⟩, hseconds, h⟩ := Option.bind_eq_some_iff.mp h
  have hread : s₅ <:+ t :=
    (twoDigits?_suffix hseconds).trans <| (Text.after?_suffix hcolon').trans <|
      (twoDigits?_suffix hminutes).trans <| (Text.after?_suffix hcolon).trans <|
        twoDigits?_suffix hhours
  refine List.IsSuffix.trans ?_ hread
  simp only at h
  split at h
  · split at h
    · cases h
      exact List.suffix_rfl
    · rename_i digits after _ hspan
      cases h
      exact (Text.readsOff_span hspan).1.trans (List.suffix_cons ..)
  · cases h
    exact List.suffix_rfl

theorem getD_suffix {read : Option Text} (h : ∀ rest, read = some rest → rest <:+ t) :
    read.getD t <:+ t := by
  cases read with
  | none => exact List.suffix_rfl
  | some rest => exact h rest rfl

theorem offset_suffix (t : Text) : offset t <:+ t := by
  unfold offset
  split
  · exact List.suffix_rfl
  · rename_i c t
    split
    · exact List.suffix_cons ..
    · split
      · refine getD_suffix fun rest h => ?_
        obtain ⟨⟨_, s₁⟩, hhours, h⟩ := Option.bind_eq_some_iff.mp h
        obtain ⟨s₂, hcolon, h⟩ := Option.bind_eq_some_iff.mp h
        obtain ⟨⟨_, s₃⟩, hminutes, h⟩ := Option.bind_eq_some_iff.mp h
        cases h
        exact (twoDigits?_suffix hminutes).trans <| (Text.after?_suffix hcolon).trans <|
          (twoDigits?_suffix hhours).trans (List.suffix_cons ..)
      · exact List.suffix_rfl

theorem date?_suffix {date : Nat × Nat × Nat} (h : date? t = some (date, rest)) : rest <:+ t := by
  unfold date? at h
  split at h
  · rename_i a b c d t
    have hyear : t <:+ a :: b :: c :: d :: '-' :: t := ⟨[a, b, c, d, '-'], rfl⟩
    simp only at h
    split at h
    · cases h
    · obtain ⟨⟨_, s₁⟩, hmonth, h⟩ := Option.bind_eq_some_iff.mp h
      obtain ⟨s₂, hdash, h⟩ := Option.bind_eq_some_iff.mp h
      obtain ⟨⟨_, s₃⟩, hday, h⟩ := Option.bind_eq_some_iff.mp h
      cases h
      exact (twoDigits?_suffix hday).trans <| (Text.after?_suffix hdash).trans <|
        (twoDigits?_suffix hmonth).trans hyear
  · cases h

theorem timeAfterDate_suffix (t : Text) : timeAfterDate t <:+ t := by
  unfold timeAfterDate
  split
  · exact List.suffix_rfl
  · rename_i c t
    split
    · split
      · rename_i rest hrest
        exact (offset_suffix rest).trans ((timeOfDay?_suffix hrest).trans (List.suffix_cons ..))
      · exact List.suffix_rfl
    · exact List.suffix_rfl

theorem special?_suffix {v : Value} (h : special? t = some (v, rest)) : rest <:+ t :=
  Text.suffix_of_findSome?_after? h

theorem scalar_consumes (depth : Nat) (t : Text) : Consumes depthLimit depth t (scalar t) := by
  unfold scalar
  split
  · rename_i year month day rest hdate
    split
    · exact (timeAfterDate_suffix rest).trans (date?_suffix hdate)
    · trivial
  · split
    · rename_i rest htime
      exact timeOfDay?_suffix htime
    · split
      · split
        · rename_i found hspecial
          exact special?_suffix hspecial
        · trivial
      · exact number_consumes depth t

/-! ## Values

As in JSON the readers call each other with less fuel, and only the two that open a collection go
one level deeper. -/

/-- What all readers of values do with a given amount of fuel. -/
structure ValuesConsume (fuel : Nat) : Prop where
  value (depth : Nat) (t : Text) : Consumes depthLimit depth t (value fuel depth t)
  items (depth : Nat) (read : List Value) (t : Text) :
    Consumes depthLimit depth t (items fuel depth read t)
  entries (depth : Nat) (read : Table) (closed : List Key) (t : Text) :
    Consumes depthLimit depth t (entries fuel depth read closed t)
  keyValue (depth : Nat) (t : Text) : Consumes depthLimit depth t (keyValue fuel depth t)

variable {fuel : Nat}

theorem ofText_consumes {s : Text} {r : Result Text} (hs : s <:+ t)
    (h : Consumes depthLimit depth s r) :
    Consumes depthLimit depth t (r.map fun (s, t) => (Value.text s, t)) :=
  (h.map fun _ _ => id).of_suffix hs

theorem value_consumes (ih : ValuesConsume fuel) (depth : Nat) (t : Text) :
    Consumes depthLimit depth t (value (fuel + 1) depth t) := by
  unfold value
  simp only
  split
  · rename_i t
    exact ofText_consumes ⟨['"', '"', '"'], rfl⟩ (basicLines_consumes depth t)
  · rename_i t _
    exact ofText_consumes (List.suffix_cons ..) (basicLine_consumes depth t)
  · rename_i t
    exact ofText_consumes ⟨['\'', '\'', '\''], rfl⟩ (literalLines_consumes depth t)
  · rename_i t _
    exact ofText_consumes (List.suffix_cons ..) (literal_consumes depth t)
  · rename_i t
    exact (⟨"true".toList, rfl⟩ : t <:+ 't' :: 'r' :: 'u' :: 'e' :: t)
  · rename_i t
    exact (⟨"false".toList, rfl⟩ : t <:+ 'f' :: 'a' :: 'l' :: 's' :: 'e' :: t)
  · rename_i t
    split
    · rename_i hdepth
      exact founded_tooDeep rfl hdepth
    · refine Consumes.of_deeper rfl ?_
      split
      · rename_i e he
        exact (skipLines_stepsOver t).founded he
      · rename_i rest hrest
        exact (List.suffix_cons ..).trans ((skipLines_stepsOver t).suffix hrest)
      · rename_i rest _ hrest
        exact (ih.items ..).of_suffix ((skipLines_stepsOver t).suffix hrest)
  · rename_i t
    split
    · rename_i hdepth
      exact founded_tooDeep rfl hdepth
    · refine Consumes.of_deeper rfl ?_
      split
      · rename_i rest hrest
        exact Text.suffix_of_dropWhile hrest
      · exact (ih.entries ..).of_suffix (skip_suffix t)
  · exact scalar_consumes depth _

theorem items_consumes (ih : ValuesConsume fuel) (depth : Nat) (read : List Value) (t : Text) :
    Consumes depthLimit depth t (items (fuel + 1) depth read t) := by
  unfold items
  split
  · rename_i e he
    exact (ih.value depth t).founded he
  · rename_i v after hvalue
    refine Consumes.of_suffix ((ih.value depth t).suffix hvalue) ?_
    split
    · rename_i e he
      exact (skipLines_stepsOver after).founded he
    · rename_i rest hrest
      exact (List.suffix_cons ..).trans ((skipLines_stepsOver after).suffix hrest)
    · rename_i next hnext
      refine Consumes.of_suffix
        ((List.suffix_cons ..).trans ((skipLines_stepsOver after).suffix hnext)) ?_
      split
      · rename_i e he
        exact (skipLines_stepsOver next).founded he
      · rename_i rest hrest
        exact (List.suffix_cons ..).trans ((skipLines_stepsOver next).suffix hrest)
      · rename_i rest _ hrest
        exact (ih.items ..).of_suffix ((skipLines_stepsOver next).suffix hrest)
    · trivial

theorem entries_consumes (ih : ValuesConsume fuel) (depth : Nat) (read : Table)
    (closed : List Key) (t : Text) :
    Consumes depthLimit depth t (entries (fuel + 1) depth read closed t) := by
  unfold entries
  split
  · rename_i e he
    exact (ih.keyValue depth t).founded he
  · rename_i k v after hentry
    refine Consumes.of_suffix ((ih.keyValue depth t).suffix hentry) ?_
    split
    · trivial
    · simp only
      split
      · trivial
      · split
        · rename_i rest hrest
          exact Text.suffix_of_dropWhile hrest
        · rename_i rest hrest
          refine Consumes.of_suffix (Text.suffix_of_dropWhile hrest) ?_
          exact (ih.entries ..).of_suffix (skip_suffix rest)
        · trivial

theorem keyValue_consumes (ih : ValuesConsume fuel) (depth : Nat) (t : Text) :
    Consumes depthLimit depth t (keyValue (fuel + 1) depth t) := by
  unfold keyValue
  have hkey := keyParts_consumes depth [] fuel t
  split
  · rename_i e he
    exact hkey.founded he
  · rename_i k after hk
    refine Consumes.of_suffix ((List.suffix_cons ..).trans (hkey.suffix hk)) ?_
    refine Consumes.of_suffix (skip_suffix after) ?_
    have hvalue := ih.value depth (skip after)
    split
    · rename_i e he
      exact hvalue.founded he
    · rename_i v rest hv
      exact hvalue.suffix hv
  · trivial

theorem valuesConsume (fuel : Nat) : ValuesConsume fuel := by
  induction fuel with
  | zero =>
    refine ⟨fun depth t => ?_, fun depth read t => ?_, fun depth read closed t => ?_,
      fun depth t => ?_⟩
    · unfold value
      trivial
    · unfold items
      trivial
    · unfold entries
      trivial
    · unfold keyValue
      trivial
  | succ fuel ih =>
    exact ⟨value_consumes ih, items_consumes ih, entries_consumes ih, keyValue_consumes ih⟩

/-! ## Documents -/

theorem heading_consumes (fuel : Nat) (d : Draft) (t : Text) :
    Consumes depthLimit 0 t (heading fuel d t) := by
  unfold heading
  split
  rename_i isItem key hitem
  have hkey : key <:+ t := by
    split at hitem
    · cases hitem
      exact List.suffix_cons ..
    · cases hitem
      exact List.suffix_rfl
  refine Consumes.of_suffix ((skip_suffix key).trans hkey) ?_
  have hparts := keyParts_consumes 0 [] fuel (skip key)
  simp only
  split
  · rename_i e he
    exact hparts.founded he
  · rename_i k after hk
    split
    · trivial
    · split
      · rename_i rest hrest
        exact (Text.after?_suffix hrest).trans (hparts.suffix hk)
      · trivial

theorem statement_consumes (fuel : Nat) (d : Draft) (t : Text) :
    Consumes depthLimit 0 t (statement fuel d t) := by
  have hentry := (valuesConsume fuel).keyValue 0 t
  unfold statement
  split
  · exact List.suffix_rfl
  · rename_i c t
    split
    · split
      · rename_i e he
        exact hentry.founded he
      · rename_i k v rest hkv
        split
        · exact hentry.suffix hkv
        · trivial
    · split
      · exact (heading_consumes fuel d t).of_suffix (List.suffix_cons ..)
      · split
        · exact List.suffix_rfl
        · trivial

theorem statements_founded {e : SyntaxError} {d : Draft} (h : statements fuel d t = .error e) :
    e.Founded depthLimit 0 t := by
  induction fuel generalizing d t with
  | zero => cases h
  | succ fuel ih =>
    unfold statements at h
    split at h
    · cases h
    · rename_i rest hrest
      exact (ih h).of_suffix (Text.suffix_of_dropWhile hrest)
    · have hstatement := statement_consumes fuel d (skip t)
      refine Founded.of_suffix (skip_suffix t) ?_
      split at h
      · rename_i e' he
        cases h
        exact hstatement.founded he
      · rename_i d' after hd
        refine Founded.of_suffix ((skip_suffix after).trans (hstatement.suffix hd)) ?_
        have hcomment := skipComment_stepsOver (skip after)
        split at h
        · rename_i e' he
          cases h
          exact hcomment.founded he
        · cases h
        · rename_i rest hrest
          exact (ih h).of_suffix ((List.suffix_cons ..).trans (hcomment.suffix hrest))
        · cases h
          trivial

/-- Line ends of one character or two, the text has the same other characters. -/
theorem countP_plainNewlines {p : Char → Bool} (hreturn : p '\r' = false) (read t : Text) :
    (plainNewlines read t).countP p = read.countP p + t.countP p := by
  fun_induction plainNewlines read t with
  | case1 read => simp
  | case2 read t ih =>
    rw [ih]
    simp [List.countP_cons, hreturn]
    omega
  | case3 read c t _ ih =>
    rw [ih]
    simp [List.countP_cons]
    omega

/-- A document on which the reader gives up has the characters that this takes. -/
theorem parse_founded {e : SyntaxError} (h : parse t = .error e) : e.Founded depthLimit 0 t := by
  unfold parse at h
  simp only at h
  cases hread : statements (2 * (plainNewlines [] t).length + 8) {} (plainNewlines [] t) with
  | ok table =>
    rw [hread] at h
    cases h
  | error e' =>
    rw [hread] at h
    cases h
    refine (statements_founded hread).of_count ?_ ?_
    · rw [countP_plainNewlines rfl]
      simp
    · rw [countP_plainNewlines rfl]
      simp

end RepoAtlas.Toml
