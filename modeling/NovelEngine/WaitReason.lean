import NovelEngine.Variable

/-!
Contract: what a script can wait for without an end in sight.

Owns: the reasons and their document form, a record tagged with `type`.

Does not own: the events that end such a wait.
-/

namespace NovelEngine

inductive WaitReason where
  | message
  /-- The label each choice jumps to, and the slot that receives its number. -/
  | choice (labels : List (Option String)) (target : Option VariableRef)
  | input (target : VariableRef)
  | transition
  /-- A called script is still running. -/
  | callee
deriving DecidableEq, Repr

namespace WaitReason

def reference? : Document → Option VariableRef :=
  VariableRef.decodeWith? Document.relaxedName?

/-- The reason of a tag, whose fields are the rest of the record or list. -/
def ofTag? (tag : String) (fields : Document) : Option WaitReason :=
  let plain (reason : WaitReason) : Option WaitReason :=
    match fields with
    | .list [] => some reason
    | .record _ => some reason
    | _ => none
  match tag with
  | "message" => plain .message
  | "transition" => plain .transition
  | "subInterpreter" => plain .callee
  | "choice" =>
      match fields.fields? ["labels", "variable"] with
      | some [labels, target] => do
          return .choice
            (← labels.required? (Document.list? (Document.nullable? Document.text?)))
            (← target.optional? reference?)
      | _ => none
  | "input" =>
      match fields.fields? ["variable"] with
      | some [target] => do return .input (← target.required? reference?)
      | _ => none
  | _ => none

def decode? (document : Document) : Option WaitReason :=
  if document.isValid then
    match document with
    | .list (.text tag :: fields) => ofTag? tag (.list fields)
    | .record entries =>
        match entries.filter (fun entry => entry.1 = "type") with
        | [(_, .text tag)] =>
            ofTag? tag (.record (entries.filter (fun entry => entry.1 ≠ "type")))
        | _ => none
    | _ => none
  else none

def encode : WaitReason → Document
  | .message => .record [("type", .text "message")]
  | .choice labels target =>
      .record [
        ("type", .text "choice"),
        ("labels", .list (labels.map (.ofOption .text))),
        ("variable", .ofOption VariableRef.encode target)]
  | .input target => .record [("type", .text "input"), ("variable", target.encode)]
  | .transition => .record [("type", .text "transition")]
  | .callee => .record [("type", .text "subInterpreter")]

end WaitReason

end NovelEngine
