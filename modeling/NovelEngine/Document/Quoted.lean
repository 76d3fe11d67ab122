/-!
Contract: quoted text inside a document.

Owns:
- reading: escapes, pairs of escaped surrogates, no raw control characters;
- writing: the escapes that reading undoes.

Does not own: where quoted text may stand.
-/

namespace NovelEngine.Document

/-- Text read so far. `high` is an escaped high surrogate that waits for its low
half; `sound` is lost when a surrogate has no partner. -/
structure QuotedState where
  characters : List Char := []
  high : Option Nat := none
  sound : Bool := true

namespace QuotedState

/-- Adds a plain character; a waiting surrogate can no longer be paired. -/
def push (state : QuotedState) (character : Char) : QuotedState :=
  { state with
    characters := character :: state.characters
    high := none
    sound := state.sound && state.high.isNone }

/-- Adds an escaped 16-bit unit. -/
def pushUnit (state : QuotedState) (unit : Nat) : QuotedState :=
  if 0xDC00 ≤ unit ∧ unit ≤ 0xDFFF then
    match state.high with
    | some high =>
        let code := 0x10000 + (high - 0xD800) * 0x400 + (unit - 0xDC00)
        { state with characters := Char.ofNat code :: state.characters, high := none }
    | none => { state with sound := false }
  else if 0xD800 ≤ unit ∧ unit ≤ 0xDBFF then
    { state with high := some unit, sound := state.sound && state.high.isNone }
  else state.push (Char.ofNat unit)

/-- The text, unless a surrogate stands alone. -/
def finish (state : QuotedState) : Option String :=
  if state.sound && state.high.isNone then some (String.ofList state.characters.reverse)
  else none

end QuotedState

/-- The value of a hexadecimal digit. -/
def hexDigit? (digit : Char) : Option Nat :=
  if digit.isDigit then some (digit.toNat - '0'.toNat)
  else if 'a' ≤ digit ∧ digit ≤ 'f' then some (digit.toNat - 'a'.toNat + 10)
  else if 'A' ≤ digit ∧ digit ≤ 'F' then some (digit.toNat - 'A'.toNat + 10)
  else none

/-- The unit spelled by four hexadecimal digits. -/
def hexUnit? (first second third fourth : Char) : Option Nat := do
  let first ← hexDigit? first
  let second ← hexDigit? second
  let third ← hexDigit? third
  let fourth ← hexDigit? fourth
  return ((first * 16 + second) * 16 + third) * 16 + fourth

/-- The character named by a one-letter escape. -/
def shortEscape? : Char → Option Char
  | '"' => some '"'
  | '\\' => some '\\'
  | '/' => some '/'
  | 'b' => some (Char.ofNat 8)
  | 'f' => some (Char.ofNat 12)
  | 'n' => some '\n'
  | 'r' => some '\r'
  | 't' => some '\t'
  | _ => none

/-- Reads up to the closing quote. `none` is a fault of writing; an inner `none`
is text with a lone surrogate. -/
def readQuoted? (state : QuotedState) : List Char → Option (Option String × List Char)
  | [] => none
  | '"' :: rest => some (state.finish, rest)
  | '\\' :: 'u' :: first :: second :: third :: fourth :: rest =>
      match hexUnit? first second third fourth with
      | some unit => readQuoted? (state.pushUnit unit) rest
      | none => none
  | '\\' :: letter :: rest =>
      match shortEscape? letter with
      | some character => readQuoted? (state.push character) rest
      | none => none
  | character :: rest =>
      if character = '\\' ∨ character.toNat < 0x20 then none
      else readQuoted? (state.push character) rest

/-! ## Writing -/

def hexLetter (value : Nat) : Char :=
  if value < 10 then Char.ofNat ('0'.toNat + value) else Char.ofNat ('a'.toNat + value - 10)

/-- The letter behind the backslash of characters that have a one-letter escape. -/
def shortLetter? (character : Char) : Option Char :=
  ['"', '\\', 'b', 'f', 'n', 'r', 't'].find? (fun letter =>
    shortEscape? letter = some character)

/-- The written form of one character. -/
def writeCharacter (character : Char) : List Char :=
  match shortLetter? character with
  | some letter => ['\\', letter]
  | none =>
      if character.toNat < 0x20 then
        ['\\', 'u', '0', '0', hexLetter (character.toNat / 16),
          hexLetter (character.toNat % 16)]
      else [character]

/-- Text between quotes. -/
def writeQuoted (text : String) : String :=
  String.ofList ('"' :: text.toList.flatMap writeCharacter ++ ['"'])

end NovelEngine.Document
