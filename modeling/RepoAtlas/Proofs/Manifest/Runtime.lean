import RepoAtlas.Manifest.Runtime
import RepoAtlas.Proofs.Document.Toml
import RepoAtlas.Proofs.Manifest.Faults

/-!
# Manifests that are read twice

Some manifests are read once for frameworks and once more for the version of a runtime. A document
on which its reader gives up has no frameworks, but the version cannot be looked for.
-/

namespace RepoAtlas

/-- A reader gives up on a text that it could not tell to be malformed. -/
def GivesUp {α : Type} (r : Except SyntaxError α) : Prop := ∃ e, r = .error e ∧ e ≠ .malformed

/-- Where all errors of a text are founded, it takes many characters to make a reader give up. -/
theorem GivesUp.cause {α : Type} {r : Except SyntaxError α} {limit : Nat} {t : Text}
    (hr : ∀ e, r = .error e → e.Founded limit 0 t) (h : GivesUp r) :
    limit < t.countP SyntaxError.isOpening ∨ SyntaxError.maxDigits < t.countP Char.isDigit := by
  obtain ⟨e, he, hne⟩ := h
  have hfounded := hr e he
  cases e with
  | malformed => exact absurd rfl hne
  | tooDeep =>
    left
    simpa [SyntaxError.Founded] using hfounded
  | hugeInteger digits => exact .inr (Nat.lt_of_lt_of_le hfounded.1 hfounded.2)

namespace Runtime

open Manifest

def jsonFiles : List Text := ["package.json".toList, "composer.json".toList]

def tomlFiles : List Text := ["pyproject.toml".toList, "Cargo.toml".toList]

/-- A file that is a document and may ask for a runtime, on which the reader of documents gives
up. -/
def Overtaxing (filename content : Text) : Prop :=
  (filename ∈ jsonFiles ∧ GivesUp (Json.parse content)) ∨
    (filename ∈ tomlFiles ∧ GivesUp (Toml.parse content))

variable {filename content : Text}

theorem Overtaxing.cause (h : Overtaxing filename content) :
    (filename ∈ jsonFiles ∧ Json.depthLimit < content.countP SyntaxError.isOpening) ∨
      (filename ∈ tomlFiles ∧ Toml.depthLimit < content.countP SyntaxError.isOpening) ∨
      SyntaxError.maxDigits < content.countP Char.isDigit := by
  rcases h with ⟨hname, hgives⟩ | ⟨hname, hgives⟩
  · exact (hgives.cause fun _ => Json.parse_founded).imp (fun h => ⟨hname, h⟩) .inr
  · exact .inr ((hgives.cause fun _ => Toml.parse_founded).imp (fun h => ⟨hname, h⟩) id)

end Runtime

end RepoAtlas
