import NovelEngine.Context

/-!
Contract: the single message box on screen.

Owns:
- what is shown and the backlog of lines shown before;
- the lock that an open input prompt holds.

Does not own: when a script shows something or waits for the box.
-/

namespace NovelEngine

/-- Lines kept in the backlog before the oldest are dropped. -/
def backlogLimit : Nat :=
  200

/-- What the message box presents. -/
inductive Content where
  | line (character : Option String) (text : String)
  | choices (texts : List String)
  | numberInput (digits : Nat)
  | textInput (letters : Nat)
deriving DecidableEq, Repr

/-- A line as it is spoken: `character: text`, or the text alone. -/
def spokenLine (character : Option String) (text : String) : String :=
  match character with
  | some character => character ++ ": " ++ text
  | none => text

/-- Messages and choices replace what is shown. An input prompt locks the box for
its context until the player submits; a script never waits for a lock held by
one of its callers. -/
structure MessageBox where
  owner : Option Context := none
  content : Option Content := none
  backlog : List String := []
deriving DecidableEq, Repr, Inhabited

namespace MessageBox

/-- Whether an input prompt of an unrelated context holds the box. -/
def isLockedAgainst (box : MessageBox) (context : Context) (callers : List Context) : Bool :=
  match box.owner with
  | some owner => owner ≠ context && !callers.contains owner
  | none => false

/-- Locks the box for `context`; `none` if an unrelated context holds it. -/
def lock? (box : MessageBox) (context : Context) (callers : List Context) :
    Option MessageBox :=
  if box.isLockedAgainst context callers then none
  else some { box with owner := some context }

/-- Gives up the lock of `context` and clears the box. Does nothing for any other context. -/
def release (box : MessageBox) (context : Context) : MessageBox :=
  if box.owner = some context then { box with owner := none, content := none } else box

/-- Clears the box unless an input prompt is open. -/
def erase (box : MessageBox) : MessageBox :=
  if box.owner.isNone then { box with content := none } else box

/-- The backlog with one more line, within its limit. -/
def appendLine (backlog : List String) (line : String) : List String :=
  (if backlog.length = backlogLimit then backlog.drop 1 else backlog) ++ [line]

/-- Replaces what is shown. Only spoken lines enter the backlog. -/
def present (box : MessageBox) (content : Content) : MessageBox :=
  match content with
  | .line character text =>
      { box with
        content := some content
        backlog := appendLine box.backlog (spokenLine character text) }
  | _ => { box with content := some content }

end MessageBox

end NovelEngine
