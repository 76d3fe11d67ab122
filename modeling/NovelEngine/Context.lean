import NovelEngine.Document.Fields

/-!
Contract: the identity of a running script.

Owns: the pair of an id and an owner, its text and its document form.

Does not own: what is stored under a context.
-/

namespace NovelEngine

/-- Local variables are scoped to a context and the message box is owned by one. -/
structure Context where
  id : String
  owner : Option String := none
deriving DecidableEq, Repr, Inhabited

namespace Context

/-- The text `id`, or `id@owner` for a called or spawned script. -/
def toText (context : Context) : String :=
  match context.owner with
  | some owner => context.id ++ "@" ++ owner
  | none => context.id

def decode? (document : Document) : Option Context :=
  match document.fields? ["id", "owner"] with
  | some [id, owner] => do
      return { id := ← id.required? Document.text?, owner := ← owner.lenient? Document.text? }
  | _ => none

end Context

end NovelEngine
