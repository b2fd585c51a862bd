import RepoAtlas.Language.Basic
import RepoAtlas.Text.Lines

/-!
# Imports of a file

All forms of a language are looked for in the whole text, one form after the other. A target of
several lines stands for one import a line, without names.
-/

namespace RepoAtlas

structure Import where
  path : Text
  names : List Text := []
  deriving DecidableEq, Repr

namespace Import

/-- The imports that a match of a form stands for. -/
def ofMatch (form : ImportForm) (m : Match) : Except ReadFault (List Import) := do
  match ← form.target m with
  | none => return []
  | some target =>
    if target.isEmpty then return []
    else if target.contains '\n' then
      return ((Text.lines target).filterMap ImportForm.blockEntry?).map fun path => { path }
    else return [{ path := target, names := form.names m }]

/-- All imports of a text, form by form and then in the order of the text. -/
def extract (language : Language) (content : Text) : Except ReadFault (List Import) := do
  let found ← language.forms.mapM fun form => (form.pattern.findAll content).mapM (ofMatch form)
  return (found.map List.flatten).flatten

end Import

end RepoAtlas
