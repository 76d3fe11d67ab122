import NovelEngine.Decimal.Layout
import NovelEngine.Document
import NovelEngine.Document.Quoted

/-!
Contract: from documents to text.

Owns: the compact text of a document, without blanks.

Does not own: what the document says.
-/

namespace NovelEngine.Document

/-- A double keeps a point or a power, so that it reads back as a double. -/
private def writeFloat (number : Float) : String :=
  let text := Decimal.positionalText number
  if number.isNaN || number.isInf then "null"
  else if text.contains '.' then text
  else text ++ ".0"

mutual

def write : Document → String
  | .null | .invalid => "null"
  | .boolean value => if value then "true" else "false"
  | .integer value => toString value
  | .float value => writeFloat value
  | .text value => writeQuoted value
  | .list items => "[" ++ writeItems items ++ "]"
  | .record entries => "\x7b" ++ writeEntries entries ++ "\x7d"

def writeItems : List Document → String
  | [] => ""
  | [item] => write item
  | item :: rest => write item ++ "," ++ writeItems rest

def writeEntries : List (String × Document) → String
  | [] => ""
  | [(key, value)] => writeQuoted key ++ ":" ++ write value
  | (key, value) :: rest => writeQuoted key ++ ":" ++ write value ++ "," ++ writeEntries rest

end

end NovelEngine.Document
