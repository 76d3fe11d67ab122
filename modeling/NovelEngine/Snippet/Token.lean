import NovelEngine.Decimal.Reading
import NovelEngine.Document.Quoted
import NovelEngine.Text.Blank

/-!
Contract: the words of the snippet language.

Owns: tokens and the split of a source text into them; comments and blanks fall
away.

Does not own: how tokens combine.
-/

namespace NovelEngine.Snippet

inductive Token where
  | integer (value : Int64)
  | float (value : Float)
  | text (value : String)
  | name (value : String)
  | symbol (value : String)
deriving Repr, BEq

namespace Token

/-- Symbols of two characters are tried before those of one. -/
def longSymbols : List String :=
  ["||", "&&", "==", "!=", "<=", ">=", "+=", "-=", "*=", "/=", "%="]

def shortSymbols : List Char :=
  ['<', '>', '+', '-', '*', '/', '%', '!', '(', ')', '[', ']', '\x7b', '\x7d', ',', ';', '.', '=']

private def isNameStart (character : Char) : Bool :=
  character.isAlpha || character == '_'

private def isNamePart (character : Char) : Bool :=
  isNameStart character || character.isDigit

/-- The power behind the digits of a number, if there is one. -/
private def takePower (source : List Char) : List Char × List Char :=
  match source with
  | 'e' :: rest | 'E' :: rest =>
      let mark := 'e'
      match rest with
      | sign :: digit :: _ =>
          if (sign == '+' || sign == '-') && digit.isDigit then
            let (digits, after) := Decimal.takeDigits (rest.drop 1)
            (mark :: sign :: digits, after)
          else if sign.isDigit then
            let (digits, after) := Decimal.takeDigits rest
            (mark :: digits, after)
          else ([], source)
      | [digit] => if digit.isDigit then ([mark, digit], []) else ([], source)
      | [] => ([], source)
  | _ => ([], source)

/-- A number: whole if it has neither point nor power and fits 64 bits, else a double. -/
private def takeNumber? (source : List Char) : Option (Token × List Char) :=
  let (whole, rest) := Decimal.takeDigits source
  let (fraction, rest) := match rest with
    | '.' :: digit :: after =>
        if digit.isDigit then
          let (digits, after) := Decimal.takeDigits (digit :: after)
          ('.' :: digits, after)
        else ([], rest)
    | _ => ([], rest)
  let (power, rest) := takePower rest
  let integer? :=
    if fraction.isEmpty && power.isEmpty then Decimal.readInt64? whole else none
  match integer? with
  | some value => some (.integer value, rest)
  | none =>
      (Decimal.readFloat? (whole ++ fraction ++ power)).map
        (fun value => (.float value, rest))

/-- The character with a hexadecimal code. -/
private def hexCharacter? (digits : List Char) : Option Char := do
  let values ← digits.mapM Document.hexDigit?
  let code := values.foldl (fun total value => total * 16 + value) 0
  if code.isValidChar then some (Char.ofNat code) else none

/-- Reads quoted text up to its closing quote; line ends are not allowed inside. -/
private def takeText? (characters : List Char) : List Char → Option (String × List Char)
  | [] => none
  | '"' :: rest => some (String.ofList characters.reverse, rest)
  | '\\' :: 'n' :: rest => takeText? ('\n' :: characters) rest
  | '\\' :: 't' :: rest => takeText? ('\t' :: characters) rest
  | '\\' :: 'r' :: rest => takeText? ('\r' :: characters) rest
  | '\\' :: '"' :: rest => takeText? ('"' :: characters) rest
  | '\\' :: '\\' :: rest => takeText? ('\\' :: characters) rest
  | '\\' :: 'x' :: first :: second :: rest =>
      match hexCharacter? [first, second] with
      | some character => takeText? (character :: characters) rest
      | none => none
  | '\\' :: 'u' :: first :: second :: third :: fourth :: rest =>
      match hexCharacter? [first, second, third, fourth] with
      | some character => takeText? (character :: characters) rest
      | none => none
  | character :: rest =>
      if character == '\\' || character == '\n' then none
      else takeText? (character :: characters) rest

/-- Drops a comment up to its closing mark. -/
private def skipBlockComment : List Char → List Char
  | [] => []
  | '*' :: '/' :: rest => rest
  | _ :: rest => skipBlockComment rest

private def takeSymbol? (source : List Char) : Option (Token × List Char) :=
  let pair := String.ofList (source.take 2)
  if longSymbols.contains pair then some (.symbol pair, source.drop 2)
  else
    match source with
    | character :: rest =>
        if shortSymbols.contains character then
          some (.symbol (String.ofList [character]), rest)
        else none
    | [] => none

/-- Splits a source text. Every round drops at least one character. -/
def scan? : Nat → List Char → Option (List Token)
  | 0, _ => none
  | _, [] => some []
  | _ + 1, '/' :: '/' :: [] => some []
  | fuel + 1, '/' :: '/' :: rest => scan? fuel (rest.dropWhile (· != '\n'))
  | fuel + 1, '/' :: '*' :: rest => scan? fuel (skipBlockComment rest)
  | fuel + 1, '"' :: rest => do
      let (quoted, rest) ← takeText? [] rest
      return .text quoted :: (← scan? fuel rest)
  | fuel + 1, character :: rest =>
      if Text.isBlank character then scan? fuel rest
      else if character.isDigit then do
        let (token, rest) ← takeNumber? (character :: rest)
        return token :: (← scan? fuel rest)
      else if isNameStart character then
        let word := (character :: rest).takeWhile isNamePart
        let rest := (character :: rest).dropWhile isNamePart
        (scan? fuel rest).map (.name (String.ofList word) :: ·)
      else do
        let (token, rest) ← takeSymbol? (character :: rest)
        return token :: (← scan? fuel rest)

/-- The tokens of a source text. -/
def ofSource? (source : String) : Option (List Token) :=
  scan? (source.length + 1) source.toList

end Token

end NovelEngine.Snippet
