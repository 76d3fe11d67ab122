/-!
Contract: everything that can go wrong, by cause.

Owns: the causes and their wording.

Does not own: who reports an error and whether a script goes on after it.
-/

namespace NovelEngine

inductive Error where
  /-- A command is indented deeper than one level below its predecessor. -/
  | malformedIndent (index indent previous : Nat)
  | unknownLabel (name : String)
  /-- The parameters of a command do not have the shape it needs. -/
  | invalidParams (command : String)
  /-- An embedded snippet could not be read or failed while running. -/
  | snippetFailed
  | divisionByZero
  | callDepth (limit : Nat)
  | slotOutOfRange (slot : Nat)
  | missingScene (uid : String)
  | emptyProject
  /-- A file could not be read. -/
  | unreadable
  /-- A text is no document, or a document has the wrong shape. -/
  | undecodable
deriving DecidableEq, Repr

namespace Error

def message : Error → String
  | .malformedIndent index indent previous =>
      s!"command {index} has indent {indent} but follows indent {previous}"
  | .unknownLabel name => s!"no label named '{name}'"
  | .invalidParams command => s!"invalid params for {command}"
  | .snippetFailed => "script error"
  | .divisionByZero => "division by zero"
  | .callDepth limit => s!"calls nested deeper than {limit} levels"
  | .slotOutOfRange slot => s!"slot {slot} is out of range"
  | .missingScene uid => s!"no scene with uid '{uid}'"
  | .emptyProject => "project has no scenes"
  | .unreadable => "the file could not be read"
  | .undecodable => "the document could not be decoded"

end Error

end NovelEngine
