import NovelEngine.Text.CaseTable

/-!
Contract: lower and upper case of a whole text.

Owns:
- full case mapping, where one character may become several;
- the rule for a capital sigma: at the end of a word it becomes the final form.

Does not own: the tables, and any rule that depends on a language.
-/

namespace NovelEngine.Text

private def shiftIn? (runs : List CaseRun) (code : Nat) : Option Int :=
  match runs.find? (fun run => run.first ≤ code && code ≤ run.last) with
  | some run => if (code - run.first) % run.stride = 0 then some run.shift else none
  | none => none

private def inRuns (runs : List (Nat × Nat)) (character : Char) : Bool :=
  runs.any (fun run => run.1 ≤ character.toNat && character.toNat ≤ run.2)

private def moved (runs : List CaseRun) (character : Char) : Char :=
  match shiftIn? runs character.toNat with
  | some shift => Char.ofNat (character.toNat + shift).toNat
  | none => character

/-- The lower case of one character, a sigma inside a word included. -/
def lowerOf (character : Char) : List Char :=
  if character.toNat < 0x80 then [character.toLower]
  else if character.toNat = 0x130 then ['i', Char.ofNat 0x307]
  else [moved lowerRuns character]

/-- The upper case of one character. -/
def upperOf (character : Char) : List Char :=
  if character.toNat < 0x80 then [character.toUpper]
  else
    match upperExpansions.lookup character.toNat with
    | some codes => codes.map Char.ofNat
    | none => [moved upperRuns character]

/-- Whether the nearest character that is not case-ignorable is a letter with case. -/
private def meetsLetter (characters : List Char) : Bool :=
  match characters.dropWhile (inRuns ignorableRuns) with
  | [] => false
  | nearest :: _ => inRuns casedRuns nearest

/-- Lowers the rest of a text; `before` holds the characters already passed, nearest first. -/
private def lowerRest (before : List Char) : List Char → List Char
  | [] => []
  | character :: rest =>
      let lowered :=
        if character.toNat = 0x3A3 then
          if meetsLetter before && !meetsLetter rest then [Char.ofNat 0x3C2]
          else [Char.ofNat 0x3C3]
        else lowerOf character
      lowered ++ lowerRest (character :: before) rest

def toLowerCase (text : String) : String :=
  String.ofList (lowerRest [] text.toList)

def toUpperCase (text : String) : String :=
  String.ofList (text.toList.flatMap upperOf)

end NovelEngine.Text
