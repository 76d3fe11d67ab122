import NovelEngine.Context
import NovelEngine.Error
import NovelEngine.Stage

/-!
Contract: what the engine reports while it runs.

Owns: the notices, their severity and their wording.

Does not own: where notices are shown.
-/

namespace NovelEngine

inductive Severity where
  | error
  | warning
  | info
  | debug
  | trace
deriving DecidableEq, Repr

inductive Notice where
  | unknownCommand (id : String)
  | commandFailed (context : Context) (id : String) (index : Nat) (error : Error)
  | budgetSpent (context : Context) (count : Nat)
  | previewPaused (context : Context)
  | finished (context : Context)
  | choiceFailed (context : Context) (index : Nat) (error : Error)
  | missingEvent (context : Context) (id : String)
  | callingEvent (context : Context) (name : String)
  | spawningEvent (context : Context) (name : String)
  | missingScene (context : Context) (uid : String)
  | callingScene (context : Context) (name : String)
  | returned (caller callee : Context)
  | emptySlot (context : Context) (kind : ObjectKind) (slot : Nat)
  | snippetFailed (context : Context) (error : Error)
  | textSnippetFailed (context : Context) (error : Error)
  | parallelDone (context : Context)
  | startingScene (uid : String)
  | changingScene (uid : String)
  | sceneChangeFailed (error : Error)
deriving DecidableEq, Repr

namespace Notice

def severity : Notice → Severity
  | .unknownCommand .. | .finished .. | .callingEvent .. | .spawningEvent .. | .callingScene ..
  | .returned .. | .emptySlot .. | .parallelDone .. => .debug
  | .commandFailed .. => .error
  | .budgetSpent .. | .choiceFailed .. | .missingEvent .. | .missingScene ..
  | .snippetFailed .. | .textSnippetFailed .. | .sceneChangeFailed .. => .warning
  | .previewPaused .. => .trace
  | .startingScene .. | .changingScene .. => .info

def message : Notice → String
  | .unknownCommand id => "no handler for command '" ++ id ++ "', it will be skipped"
  | .commandFailed context id index error =>
      context.toText ++ ": " ++ id ++ " at " ++ toString index ++ " failed: " ++ error.message
  | .budgetSpent context count =>
      context.toText ++ ": " ++ toString count
        ++ " commands ran without waiting, yielding until the next frame"
  | .previewPaused context => context.toText ++ ": pausing preview for a frame"
  | .finished context => context.toText ++ ": finished"
  | .choiceFailed context index error =>
      context.toText ++ ": choice " ++ toString index ++ ": " ++ error.message
  | .missingEvent context id => context.toText ++ ": no common event '" ++ id ++ "'"
  | .callingEvent context name => context.toText ++ ": calling common event '" ++ name ++ "'"
  | .spawningEvent context name => context.toText ++ ": spawning common event '" ++ name ++ "'"
  | .missingScene context uid => context.toText ++ ": no scene '" ++ uid ++ "'"
  | .callingScene context name => context.toText ++ ": calling scene '" ++ name ++ "'"
  | .returned caller callee => caller.toText ++ ": " ++ callee.toText ++ " returned"
  | .emptySlot context kind slot =>
      context.toText ++ ": no " ++ kind.title ++ " in slot " ++ toString slot
  | .snippetFailed context error => context.toText ++ ": " ++ error.message
  | .textSnippetFailed context error =>
      context.toText ++ ": string script failed: " ++ error.message
  | .parallelDone context => context.toText ++ ": parallel event done"
  | .startingScene uid => "starting scene '" ++ uid ++ "'"
  | .changingScene uid => "changing scene to '" ++ uid ++ "'"
  | .sceneChangeFailed error => error.message

end Notice

end NovelEngine
