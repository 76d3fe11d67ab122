import NovelEngine.Document.Fields

/-!
Contract: the lines of a script as authors write them.

Owns: the id, indent and parameters of a command, and the label name it carries.

Does not own: what a command does.
-/

namespace NovelEngine

/-- One line of a script. The indent carries the block structure. -/
structure Command where
  id : String
  indent : Nat := 0
  params : Document := .null
deriving Repr, Inhabited

namespace Command

/-- The text under `name` in the parameters, which labels and jumps carry. -/
def labelName? (command : Command) : Option String :=
  command.params.get? "name" >>= Document.text?

/-- Whether the command asks the player for an answer. A game saved behind such
a command goes back to it. -/
def isInputPrompt (command : Command) : Bool :=
  ["InputNumber", "InputText", "Choice", "ShowChoices"].contains command.id

/-- Parameters may be any document without faults; of repeated keys the last counts. -/
def decode? (document : Document) : Option Command :=
  match document.fields? ["id", "indent", "params"] with
  | some [id, indent, params] => do
      return {
        id := ← id.required? Document.text?
        indent := ← indent.defaulted? 0 Document.size?
        params := ← params.defaulted? .null (fun value =>
          if value.isValid then some value.collapse else none) }
  | _ => none

end Command

end NovelEngine
