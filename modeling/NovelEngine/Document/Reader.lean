import NovelEngine.Document.Number
import NovelEngine.Document.Quoted

/-!
Contract: from text to documents.

Owns:
- the format: blanks, lists, records, words, no trailing commas, nothing after
  the document;
- the nesting limit: what stands deeper than 127 levels is `invalid`.

Does not own: the format of numbers and quoted text.
-/

namespace NovelEngine.Document

/-- Levels of lists and records that have a value. -/
def nestingLimit : Nat :=
  127

/-- The blanks between the parts of a document. -/
def skipBlanks (text : List Char) : List Char :=
  text.dropWhile (fun character =>
    character == ' ' || character == '\n' || character == '\t' || character == '\r')

/-- A list or record, unless it stands too deep. -/
def atDepth (remaining : Nat) (document : Document) : Document :=
  if remaining = 0 then .invalid else document

/-- A record, unless one of its keys has no value. -/
def ofEntries (entries : List (Option String × Document)) : Document :=
  match entries.mapM (fun entry => entry.1.map (fun key => (key, entry.2))) with
  | some entries => .record entries
  | none => .invalid

/-- Reads the key of a record entry and the colon behind it. -/
def readKey? (text : List Char) : Option (Option String × List Char) :=
  match skipBlanks text with
  | '"' :: rest =>
      match readQuoted? {} rest with
      | some (key, rest) =>
          match skipBlanks rest with
          | ':' :: rest => some (key, rest)
          | _ => none
      | none => none
  | _ => none

mutual

/-- Reads one document at the start of the text. `remaining` counts the levels
that may still be opened; `fuel` bounds the characters left to read. -/
def readDocument? (fuel remaining : Nat) (text : List Char) :
    Option (Document × List Char) :=
  match fuel with
  | 0 => none
  | fuel + 1 =>
      match skipBlanks text with
      | 'n' :: 'u' :: 'l' :: 'l' :: rest => some (.null, rest)
      | 't' :: 'r' :: 'u' :: 'e' :: rest => some (.boolean true, rest)
      | 'f' :: 'a' :: 'l' :: 's' :: 'e' :: rest => some (.boolean false, rest)
      | '"' :: rest =>
          (readQuoted? {} rest).map (fun (text?, rest) =>
            (match text? with
              | some text => .text text
              | none => .invalid, rest))
      | '[' :: rest =>
          match skipBlanks rest with
          | ']' :: rest => some (atDepth remaining (.list []), rest)
          | rest =>
              (readItems? fuel (remaining - 1) [] rest).map (fun (items, rest) =>
                (atDepth remaining (.list items), rest))
      | '{' :: rest =>
          match skipBlanks rest with
          | '}' :: rest => some (atDepth remaining (.record []), rest)
          | rest =>
              (readEntries? fuel (remaining - 1) [] rest).map (fun (entries, rest) =>
                (atDepth remaining (ofEntries entries), rest))
      | rest => readNumber? rest

/-- Reads the items of a list up to its closing bracket. -/
def readItems? (fuel remaining : Nat) (items : List Document) (text : List Char) :
    Option (List Document × List Char) :=
  match fuel with
  | 0 => none
  | fuel + 1 =>
      match readDocument? fuel remaining text with
      | none => none
      | some (item, rest) =>
          match skipBlanks rest with
          | ',' :: rest => readItems? fuel remaining (item :: items) rest
          | ']' :: rest => some ((item :: items).reverse, rest)
          | _ => none

/-- Reads the entries of a record up to its closing brace. -/
def readEntries? (fuel remaining : Nat) (entries : List (Option String × Document))
    (text : List Char) : Option (List (Option String × Document) × List Char) :=
  match fuel with
  | 0 => none
  | fuel + 1 =>
      match readKey? text with
      | none => none
      | some (key, rest) =>
          match readDocument? fuel remaining rest with
          | none => none
          | some (value, rest) =>
              match skipBlanks rest with
              | ',' :: rest => readEntries? fuel remaining ((key, value) :: entries) rest
              | '}' :: rest => some (((key, value) :: entries).reverse, rest)
              | _ => none

end

/-- Reads a whole text. Every step consumes a character, so twice the length is
fuel enough. -/
def read? (text : String) : Option Document :=
  let characters := text.toList
  match readDocument? (2 * characters.length + 2) nestingLimit characters with
  | some (document, rest) => if (skipBlanks rest).isEmpty then some document else none
  | none => none

end NovelEngine.Document
