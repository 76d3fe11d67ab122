import NovelEngine.Registry
import NovelEngine.WaitReason

/-!
Contract: the saved form of a running script.

Owns: the snapshot record, the message settings and their document form.

Does not own: which moment a snapshot describes and how a script resumes from it.
-/

namespace NovelEngine

structure MessageSettings where
  /-- Clear the message box once the player dismisses a message. -/
  autoErase : Bool := true
  /-- Block on every message until it is dismissed. -/
  waitAtEnd : Bool := true
deriving DecidableEq, Repr, Inhabited

namespace MessageSettings

def decode? (document : Document) : Option MessageSettings :=
  match document.fields? ["autoErase", "waitAtEnd"] with
  | some [autoErase, waitAtEnd] => do
      return {
        autoErase := ← autoErase.required? Document.boolean?
        waitAtEnd := ← waitAtEnd.required? Document.boolean? }
  | _ => none

def encode (settings : MessageSettings) : Document :=
  .record [
    ("autoErase", .boolean settings.autoErase),
    ("waitAtEnd", .boolean settings.waitAtEnd)]

end MessageSettings

/-- A snapshot of one running script. -/
structure SavedState where
  pointer : Nat
  conditions : Array Bool
  loops : Array (Option Nat)
  labels : Registry String Nat
  isWaiting : Bool
  isRunning : Bool
  waitCounter : Nat
  waitingFor : Option WaitReason
  indent : Nat
  settings : MessageSettings
deriving DecidableEq, Repr

namespace SavedState

def decode? (document : Document) : Option SavedState :=
  match document.fields?
      ["pointer", "conditions", "loops", "labels", "isWaiting", "isRunning", "waitCounter",
        "waitingFor", "indent", "settings"] with
  | some [pointer, conditions, loops, labels, isWaiting, isRunning, waitCounter, waitingFor,
      indent, settings] => do
      let conditions ← conditions.required? (Document.list? Document.boolean?)
      let loops ← loops.required? (Document.list? (Document.nullable? Document.size?))
      let labels ← labels.required? (Document.entries? Document.size?)
      return {
        pointer := ← pointer.required? Document.size?
        conditions := conditions.toArray
        loops := loops.toArray
        labels := Registry.ofList labels
        isWaiting := ← isWaiting.required? Document.boolean?
        isRunning := ← isRunning.required? Document.boolean?
        waitCounter := ← waitCounter.required? Document.word?
        waitingFor := ← waitingFor.optional? WaitReason.decode?
        indent := ← indent.required? Document.size?
        settings := ← settings.required? MessageSettings.decode? }
  | _ => none

def encode (state : SavedState) : Document :=
  .record [
    ("pointer", .integer state.pointer),
    ("conditions", .list (state.conditions.toList.map .boolean)),
    ("loops", .list (state.loops.toList.map (.ofOption (fun start : Nat => .integer start)))),
    ("labels", .record (state.labels.entries.map (fun entry =>
      (entry.1, .integer entry.2)))),
    ("isWaiting", .boolean state.isWaiting),
    ("isRunning", .boolean state.isRunning),
    ("waitCounter", .integer state.waitCounter),
    ("waitingFor", .ofOption WaitReason.encode state.waitingFor),
    ("indent", .integer state.indent),
    ("settings", state.settings.encode)]

end SavedState

end NovelEngine
