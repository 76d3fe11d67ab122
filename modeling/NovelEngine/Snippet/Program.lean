import NovelEngine.Snippet.Token

/-!
Contract: programs of the snippet language.

Owns:
- expressions and statements;
- reading a program from tokens, with the binding strength of each operator.

Does not own: what a program does.
-/

namespace NovelEngine.Snippet

inductive Operator where
  | add
  | subtract
  | multiply
  | divide
  | modulo
  | equal
  | notEqual
  | less
  | lessOrEqual
  | greater
  | greaterOrEqual
deriving DecidableEq, Repr

mutual

inductive Expression where
  | unit
  | boolean (value : Bool)
  | integer (value : Int64)
  | float (value : Float)
  | text (value : String)
  | named (name : String)
  | array (items : List Expression)
  | negate (operand : Expression)
  | invert (operand : Expression)
  | both (left right : Expression)
  | either (left right : Expression)
  | apply (operator : Operator) (left right : Expression)
  | element (array index : Expression)
  | method (receiver : Expression) (name : String) (arguments : List Expression)
  | conditional (test : Expression) (yes no : List Statement)

inductive Statement where
  | evaluate (expression : Expression)
  | bind (name : String) (expression : Expression)
  /-- The operator, if there is one, combines the old value with the new one. -/
  | assign (place : Expression) (operator : Option Operator) (expression : Expression)
  | repeated (test : Expression) (body : List Statement)
  | loop (body : List Statement)
  | fail (expression : Expression)

end

abbrev Program := List Statement

/-! ## Reading -/

private def reserved : List String :=
  ["let", "if", "else", "while", "loop", "throw", "true", "false"]

/-- The connectives by binding strength, weakest level first. -/
private def connective? (level : Nat) : Token → Option (Expression → Expression → Expression)
  | .symbol symbol =>
      match level, symbol with
      | 0, "||" => some .either
      | 1, "&&" => some .both
      | 2, "==" => some (.apply .equal)
      | 2, "!=" => some (.apply .notEqual)
      | 3, "<" => some (.apply .less)
      | 3, "<=" => some (.apply .lessOrEqual)
      | 3, ">" => some (.apply .greater)
      | 3, ">=" => some (.apply .greaterOrEqual)
      | 4, "+" => some (.apply .add)
      | 4, "-" => some (.apply .subtract)
      | 5, "*" => some (.apply .multiply)
      | 5, "/" => some (.apply .divide)
      | 5, "%" => some (.apply .modulo)
      | _, _ => none
  | _ => none

/-- The level of signs and negation, above all connectives. -/
private def unaryLevel : Nat :=
  6

/-- The sign in front of an operand. A negative number is one literal. -/
private def negated : Expression → Expression
  | .integer value =>
      if value == Int64.minValue then .negate (.integer value) else .integer (-value)
  | .float value =>
      if value == 9223372036854775808.0 then .integer Int64.minValue else .float (-value)
  | operand => .negate operand

/-- Whether an expression names something that can be assigned. -/
private def isPlace : Expression → Bool
  | .named _ => true
  | .element array _ => isPlace array
  | _ => false

private def assignment? : Token → Option (Option Operator)
  | .symbol "=" => some none
  | .symbol "+=" => some (some .add)
  | .symbol "-=" => some (some .subtract)
  | .symbol "*=" => some (some .multiply)
  | .symbol "/=" => some (some .divide)
  | .symbol "%=" => some (some .modulo)
  | _ => none

private def symbolIs (symbol : String) : List Token → Bool
  | .symbol found :: _ => found == symbol
  | _ => false

private def openBrace : String := "\x7b"

private def closeBrace : String := "\x7d"

/-- Drops an expected symbol. -/
private def expect? (symbol : String) : List Token → Option (List Token)
  | .symbol found :: rest => if found == symbol then some rest else none
  | _ => none

mutual

/-- Reads an expression whose connectives bind at least as strongly as `level`. -/
def readLevel? : (fuel : Nat) → (level : Nat) → List Token →
    Option (Expression × List Token)
  | 0, _, _ => none
  | fuel + 1, level, tokens =>
      if level < unaryLevel then
        match readLevel? fuel (level + 1) tokens with
        | some (left, rest) => readTail? fuel level left rest
        | none => none
      else
        match tokens with
        | .symbol "-" :: rest =>
            (readLevel? fuel unaryLevel rest).map (fun (operand, rest) => (negated operand, rest))
        | .symbol "+" :: rest => readLevel? fuel unaryLevel rest
        | .symbol "!" :: rest =>
            (readLevel? fuel unaryLevel rest).map (fun (operand, rest) => (.invert operand, rest))
        | _ =>
            match readAtom? fuel tokens with
            | some (atom, rest) => readAccess? fuel atom rest
            | none => none

/-- Goes on with connectives of one level, to the left. -/
def readTail? : (fuel : Nat) → (level : Nat) → Expression → List Token →
    Option (Expression × List Token)
  | 0, _, _, _ => none
  | fuel + 1, level, left, token :: rest =>
      match connective? level token with
      | some connect =>
          match readLevel? fuel (level + 1) rest with
          | some (right, rest) => readTail? fuel level (connect left right) rest
          | none => none
      | none => some (left, token :: rest)
  | _ + 1, _, left, [] => some (left, [])

/-- Goes on with indexing and method calls. -/
def readAccess? : (fuel : Nat) → Expression → List Token → Option (Expression × List Token)
  | 0, _, _ => none
  | fuel + 1, target, .symbol "[" :: rest =>
      match readLevel? fuel 0 rest with
      | some (index, .symbol "]" :: rest) => readAccess? fuel (.element target index) rest
      | _ => none
  | fuel + 1, target, .symbol "." :: .name name :: .symbol "(" :: rest =>
      match readItems? fuel ")" rest with
      | some (arguments, rest) => readAccess? fuel (.method target name arguments) rest
      | none => none
  | _ + 1, target, tokens => some (target, tokens)

/-- Reads expressions with commas between them, up to the closing symbol. -/
def readItems? : (fuel : Nat) → (closing : String) → List Token →
    Option (List Expression × List Token)
  | 0, _, _ => none
  | fuel + 1, closing, tokens =>
      if symbolIs closing tokens then some ([], tokens.drop 1)
      else
        match readLevel? fuel 0 tokens with
        | some (item, rest) =>
            if symbolIs closing rest then some ([item], rest.drop 1)
            else
              match expect? "," rest with
              | some rest =>
                  (readItems? fuel closing rest).map (fun (items, rest) => (item :: items, rest))
              | none => none
        | none => none

/-- Reads a literal, a variable, an array, a conditional or a parenthesis. -/
def readAtom? : (fuel : Nat) → List Token → Option (Expression × List Token)
  | 0, _ => none
  | _ + 1, .integer value :: rest => some (.integer value, rest)
  | _ + 1, .float value :: rest => some (.float value, rest)
  | _ + 1, .text value :: rest => some (.text value, rest)
  | _ + 1, .symbol "(" :: .symbol ")" :: rest => some (.unit, rest)
  | fuel + 1, .symbol "(" :: rest =>
      match readLevel? fuel 0 rest with
      | some (inner, .symbol ")" :: rest) => some (inner, rest)
      | _ => none
  | fuel + 1, .symbol "[" :: rest =>
      (readItems? fuel "]" rest).map (fun (items, rest) => (.array items, rest))
  | fuel + 1, .name "if" :: rest => readConditional? fuel rest
  | _ + 1, .name "true" :: rest => some (.boolean true, rest)
  | _ + 1, .name "false" :: rest => some (.boolean false, rest)
  | _ + 1, .name name :: rest =>
      if reserved.contains name then none else some (.named name, rest)
  | _ + 1, _ => none

/-- Reads the test and the branches of a conditional. -/
def readConditional? : (fuel : Nat) → List Token → Option (Expression × List Token)
  | 0, _ => none
  | fuel + 1, tokens =>
      match readLevel? fuel 0 tokens with
      | none => none
      | some (test, rest) =>
          match readBlock? fuel rest with
          | none => none
          | some (yes, .name "else" :: .name "if" :: rest) =>
              (readConditional? fuel rest).map (fun (no, rest) =>
                (.conditional test yes [.evaluate no], rest))
          | some (yes, .name "else" :: rest) =>
              (readBlock? fuel rest).map (fun (no, rest) => (.conditional test yes no, rest))
          | some (yes, rest) => some (.conditional test yes [], rest)

/-- Reads statements between braces. -/
def readBlock? : (fuel : Nat) → List Token → Option (List Statement × List Token)
  | 0, _ => none
  | fuel + 1, tokens =>
      match expect? openBrace tokens with
      | none => none
      | some rest =>
          match readStatements? fuel rest with
          | some (statements, rest) => (expect? closeBrace rest).map (statements, ·)
          | none => none

/-- Reads statements up to the end of the block or program. A semicolon divides
them; behind a block it may be left out. -/
def readStatements? : (fuel : Nat) → List Token → Option (List Statement × List Token)
  | 0, _ => none
  | fuel + 1, tokens =>
      if tokens.isEmpty || symbolIs closeBrace tokens then some ([], tokens)
      else if symbolIs ";" tokens then readStatements? fuel (tokens.drop 1)
      else
        match readStatement? fuel tokens with
        | none => none
        | some (statement, endsInBlock, rest) =>
            if endsInBlock || rest.isEmpty || symbolIs ";" rest || symbolIs closeBrace rest then
              (readStatements? fuel rest).map (fun (statements, rest) =>
                (statement :: statements, rest))
            else none

/-- Reads one statement and says whether it ends in a block. -/
def readStatement? : (fuel : Nat) → List Token → Option (Statement × Bool × List Token)
  | 0, _ => none
  | fuel + 1, .name "let" :: .name name :: rest =>
      if reserved.contains name then none
      else
        match rest with
        | .symbol "=" :: rest =>
            (readLevel? fuel 0 rest).map (fun (value, rest) => (.bind name value, false, rest))
        | rest => some (.bind name .unit, false, rest)
  | fuel + 1, .name "while" :: rest =>
      match readLevel? fuel 0 rest with
      | some (test, rest) =>
          (readBlock? fuel rest).map (fun (body, rest) => (.repeated test body, true, rest))
      | none => none
  | fuel + 1, .name "loop" :: rest =>
      (readBlock? fuel rest).map (fun (body, rest) => (.loop body, true, rest))
  | fuel + 1, .name "throw" :: rest =>
      if rest.isEmpty || symbolIs ";" rest || symbolIs closeBrace rest then
        some (.fail .unit, false, rest)
      else (readLevel? fuel 0 rest).map (fun (value, rest) => (.fail value, false, rest))
  | fuel + 1, .name "if" :: rest =>
      (readConditional? fuel rest).map (fun (value, rest) => (.evaluate value, true, rest))
  | fuel + 1, tokens =>
      match readLevel? fuel 0 tokens with
      | none => none
      | some (target, []) => some (.evaluate target, false, [])
      | some (target, token :: rest) =>
          match assignment? token with
          | some operator =>
              if isPlace target then
                (readLevel? fuel 0 rest).map (fun (value, rest) =>
                  (.assign target operator value, false, rest))
              else none
          | none => some (.evaluate target, false, token :: rest)

end

/-- Reads a whole program. A token passes through at most a dozen readers. -/
def Program.ofSource? (source : String) : Option Program :=
  match Token.ofSource? source with
  | none => none
  | some tokens =>
      match readStatements? (16 * tokens.length + 16) tokens with
      | some (program, []) => some program
      | _ => none

end NovelEngine.Snippet
