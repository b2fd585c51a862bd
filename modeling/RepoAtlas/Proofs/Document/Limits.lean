import Mathlib.Data.List.TakeDrop
import Mathlib.Data.List.TakeWhile
import RepoAtlas.Document.Value

/-!
# Limits of readers

A reader of a structured text gives up on deep nesting and on long integers. Both need many
characters of some kind in the text: opening brackets and braces, or digits. `Consumes` says of a
reader that it gives back a rest of its text, or an error for which the text has the characters.
-/

namespace RepoAtlas

namespace Text

/-- `rest` is left of a text from which the characters `found`, all of one kind, were read. -/
def ReadsOff (p : Char → Bool) (t found rest : Text) : Prop :=
  rest <:+ t ∧ found.length ≤ t.countP p

variable {p : Char → Bool} {s t found rest : Text}

theorem ReadsOff.of_suffix (hs : s <:+ t) (h : ReadsOff p s found rest) :
    ReadsOff p t found rest :=
  ⟨h.1.trans hs, Nat.le_trans h.2 hs.sublist.countP_le⟩

theorem ReadsOff.cons {c : Char} (hc : p c = true) (h : ReadsOff p t found rest) :
    ReadsOff p (c :: t) (c :: found) rest := by
  refine ⟨h.1.trans (List.suffix_cons ..), ?_⟩
  rw [List.countP_cons_of_pos hc]
  exact Nat.succ_le_succ h.2

theorem readsOff_span (h : t.span p = (found, rest)) : ReadsOff p t found rest := by
  rw [List.span_eq_takeWhile_dropWhile] at h
  cases h
  refine ⟨List.dropWhile_suffix _, ?_⟩
  have hall : (t.takeWhile p).countP p = (t.takeWhile p).length :=
    List.countP_eq_length.mpr fun c hc => List.mem_takeWhile_imp hc
  rw [← hall]
  exact (List.takeWhile_sublist p).countP_le

theorem suffix_of_dropWhile {c : Char} (h : t.dropWhile p = c :: rest) : rest <:+ t :=
  (List.suffix_cons c rest).trans (h ▸ List.dropWhile_suffix p)

end Text

namespace SyntaxError

def isOpening (c : Char) : Bool := c == '[' || c == '\x7b'

/-- The text has the characters that an error takes, when it is read at a depth. -/
def Founded (limit depth : Nat) (t : Text) : SyntaxError → Prop
  | malformed => True
  | tooDeep => limit < depth + t.countP isOpening
  | hugeInteger digits => maxDigits < digits ∧ digits ≤ t.countP Char.isDigit

variable {limit depth : Nat} {s t : Text} {e : SyntaxError} {c : Char}

theorem Founded.of_count (hopening : s.countP isOpening ≤ t.countP isOpening)
    (hdigits : s.countP Char.isDigit ≤ t.countP Char.isDigit) (h : e.Founded limit depth s) :
    e.Founded limit depth t := by
  cases e with
  | malformed => trivial
  | tooDeep =>
    simp only [Founded] at h ⊢
    omega
  | hugeInteger digits => exact ⟨h.1, Nat.le_trans h.2 hdigits⟩

theorem Founded.of_suffix (hs : s <:+ t) (h : e.Founded limit depth s) :
    e.Founded limit depth t :=
  h.of_count hs.sublist.countP_le hs.sublist.countP_le

theorem founded_tooDeep (hc : isOpening c = true) (hdepth : limit ≤ depth) :
    tooDeep.Founded limit depth (c :: t) := by
  simp only [Founded, List.countP_cons_of_pos hc]
  omega

/-- One level deeper there is one opening character less to come. -/
theorem Founded.of_deeper (hc : isOpening c = true) (h : e.Founded limit (depth + 1) t) :
    e.Founded limit depth (c :: t) := by
  cases e with
  | malformed => trivial
  | tooDeep =>
    simp only [Founded, List.countP_cons_of_pos hc] at h ⊢
    omega
  | hugeInteger digits => exact ⟨h.1, Nat.le_trans h.2 (List.sublist_cons_self ..).countP_le⟩

end SyntaxError

open SyntaxError

/-- A result of reading `t` at a depth: it leaves a rest of `t`, or `t` has what its error takes. -/
def Consumes {α : Type} (limit depth : Nat) (t : Text) : Except SyntaxError (α × Text) → Prop
  | .ok (_, rest) => rest <:+ t
  | .error e => e.Founded limit depth t

namespace Consumes

variable {α β : Type} {limit depth : Nat} {s t rest : Text} {e : SyntaxError} {v : α}
  {r : Except SyntaxError (α × Text)}

theorem suffix (h : Consumes limit depth t r) (hr : r = .ok (v, rest)) : rest <:+ t := by
  subst hr
  exact h

theorem founded (h : Consumes limit depth t r) (hr : r = .error e) :
    e.Founded limit depth t := by
  subst hr
  exact h

theorem of_suffix (hs : s <:+ t) (h : Consumes limit depth s r) : Consumes limit depth t r := by
  cases r with
  | ok found => exact List.IsSuffix.trans h hs
  | error e => exact SyntaxError.Founded.of_suffix hs h

theorem of_deeper {c : Char} (hc : isOpening c = true) (h : Consumes limit (depth + 1) t r) :
    Consumes limit depth (c :: t) r := by
  cases r with
  | ok found => exact List.IsSuffix.trans h (List.suffix_cons ..)
  | error e => exact SyntaxError.Founded.of_deeper hc h

theorem map {f : α × Text → β × Text} (h : Consumes limit depth t r)
    (hf : ∀ v rest, rest <:+ t → (f (v, rest)).2 <:+ t) :
    Consumes limit depth t (r.map f) := by
  cases r with
  | ok found => exact hf _ _ h
  | error e => exact h

end Consumes

end RepoAtlas
