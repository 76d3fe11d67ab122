import NovelEngine.Engine.Perform

/-!
Contract: running scripts, together with the scripts they wait for.

Owns:
- executing one command and the run of commands within one update;
- the command budget and the preview limit, which make a run yield;
- nested calls: only the innermost script of a thread runs.

Does not own: the order in which threads are updated.
-/

namespace NovelEngine

/-- A run and the runs it waits for, outermost first. -/
structure Thread where
  root : Activation
  callees : List Activation := []
deriving Inhabited

inductive Progress where
  /-- Not at its end: running, waiting or stopped. -/
  | running
  /-- The script came to its end in this update. -/
  | finished
deriving DecidableEq, Repr

/-- The state after some commands, and what they reported. -/
structure Run where
  thread : Thread
  world : World
  notices : List Notice := []

/-- The state after an update. -/
structure Update where
  progress : Progress
  thread : Thread
  world : World
  notices : List Notice := []

/-- A way to update a script that was just called. `none` stands for a run that
did not come to rest within its fuel. -/
abbrev CalleeRunner := Activation → World → Option Update

/-! ## Calls -/

/-- What the update of a called script means for its caller: at its end the caller
goes on, else it keeps waiting. -/
def receive (caller : Activation) (update : Update) : Run :=
  match update.progress with
  | .finished =>
      { thread := { root := caller.clearWait }
        world := update.world.deactivate update.thread.root.context.id
        notices := update.notices ++ [.returned caller.context update.thread.root.context] }
  | .running =>
      { thread := { root := caller, callees := update.thread.root :: update.thread.callees }
        world := update.world
        notices := update.notices }

/-- Runs the script that an instruction called, if any. -/
def Outcome.resolve (outcome : Outcome) (runCallee : CalleeRunner)
    (callees : List Activation) : Option Run :=
  match outcome.callee with
  | none =>
      some {
        thread := { root := outcome.activation, callees }
        world := outcome.world
        notices := outcome.notices }
  | some callee =>
      match runCallee callee outcome.world with
      | none => none
      | some update =>
          let run := receive outcome.activation update
          some { run with notices := outcome.notices ++ run.notices }

/-! ## Commands -/

/-- Reports a failed command. -/
def failureNotices (context : Context) (id : String) (index : Nat) :
    Option Error → List Notice
  | some error => [.commandFailed context id index error]
  | none => []

/-- Runs the instruction at `index`; unknown commands do nothing. -/
def Thread.performAt (thread : Thread) (world : World) (runCallee : CalleeRunner)
    (index : Nat) (command : Command) : Option Run :=
  match thread.root.script.instruction? index with
  | none => some { thread, world }
  | some instruction =>
      let outcome := thread.root.perform world command.id instruction
      match outcome.resolve runCallee thread.callees with
      | none => none
      | some run =>
          let failures :=
            failureNotices run.thread.root.context command.id index outcome.failure
          some { run with notices := run.notices ++ failures }

/-- Runs the command at `index` if its indent is the current one, then steps past it.
In a preview the run pauses when it reaches the cursor. -/
def Thread.execute (thread : Thread) (world : World) (runCallee : CalleeRunner)
    (index : Nat) : Option Run :=
  let root := thread.root
  match root.script.command? index with
  | none => some { thread, world }
  | some command =>
      if world.config.preview && root.preview.cursor = some index then
        let paused := { root with
          preview := { root.preview with cursor := none, waiting := true } }
        some { thread := { thread with root := paused }, world }
      else
        let performed :=
          if command.indent = root.indent then
            thread.performAt world runCallee index command
          else some { thread, world }
        match performed with
        | none => none
        | some run =>
            some { run with
              thread := { run.thread with root := run.thread.root.stepPast } }

/-! ## Yielding -/

/-- Counts a command and makes the run yield for a frame when it has run too many. -/
def Activation.yieldIfDue (activation : Activation) (config : Config) (executed : Nat) :
    Activation × List Notice :=
  let counted (count : Nat) : Activation :=
    { activation with preview := { activation.preview with executedCommands := count } }
  if activation.isWaiting then (counted 0, [])
  else if config.preview then
    let count := activation.preview.executedCommands + 1
    if config.previewCommandLimit < count then
      ((counted 0).wait 1, [.previewPaused activation.context])
    else (counted count, [])
  else
    match config.commandBudget with
    | some budget =>
        if budget ≤ executed then
          (activation.wait 1, [.budgetSpent activation.context executed])
        else (activation, [])
    | none => (activation, [])

/-- Whether the run can execute a command now. -/
def Activation.canStep (activation : Activation) : Bool :=
  !(activation.isWaiting || activation.preview.waiting)
    && activation.pointer < activation.script.size && activation.isRunning

/-- Executes commands until the run yields. `executed` counts the commands of this
update, `reported` holds the notices so far, latest first. -/
def runCommands (runCallee : CalleeRunner) :
    (fuel executed : Nat) → Thread → World → List Notice → Option Run
  | 0, _, thread, world, reported =>
      if thread.root.canStep then none
      else some { thread, world, notices := reported.reverse }
  | fuel + 1, executed, thread, world, reported =>
      if thread.root.canStep then
        match thread.execute world runCallee thread.root.pointer with
        | none => none
        | some run =>
            let (root, notices) := run.thread.root.yieldIfDue run.world.config (executed + 1)
            runCommands runCallee fuel (executed + 1) { run.thread with root } run.world
              (notices.reverse ++ run.notices.reverse ++ reported)
      else some { thread, world, notices := reported.reverse }

/-! ## Updates -/

/-- Whether the script ends here instead of going on or starting over. -/
def Activation.endsHere (activation : Activation) : Bool :=
  activation.isAtEnd && !activation.repeats

/-- Ends the run: its prompt is given up and the end is counted. -/
def Thread.finish (thread : Thread) (world : World) (notices : List Notice) : Update :=
  let root := thread.root
  { progress := .finished
    thread := { thread with root := { root with
      isRunning := false
      completions := root.completions + 1 } }
    world := world.releaseBox root.context
    notices := notices ++ [.finished root.context] }

/-- Starts the run over, which drops the scripts it called. -/
def Thread.start (thread : Thread) : Thread :=
  { root := thread.root.start }

/-- Starts a repeating script over at its end. -/
def Thread.restartAtEnd (thread : Thread) : Thread :=
  if thread.root.isAtEnd && thread.root.repeats then thread.start else thread

/-- Ends or restarts a script at its end, and leaves any other alone. -/
def Run.conclude (run : Run) : Update :=
  if run.thread.root.endsHere then run.thread.finish run.world run.notices
  else
    { progress := .running
      thread := run.thread.restartAtEnd
      world := run.world
      notices := run.notices }

/-- Advances a run that waits for no other script by one frame. -/
def updateFrame (fuel : Nat) (runCallee : CalleeRunner) (activation : Activation)
    (world : World) : Option Update :=
  let world := world.resetTemporaries activation.context
  if activation.endsHere then some (Thread.finish { root := activation } world [])
  else
    let activation := (Thread.restartAtEnd { root := activation }).root
    let unchanged : Update := { progress := .running, thread := { root := activation }, world }
    if !activation.isRunning then some unchanged
    else if 0 < activation.waitCounter then
      let remaining := activation.waitCounter - 1
      let counted := { activation with waitCounter := remaining, isWaiting := 0 < remaining }
      some { unchanged with thread := { root := counted } }
    else if activation.isWaitingForMessage && activation.isLockedOut world then some unchanged
    else
      let ready :=
        if activation.isWaitingForMessage then
          { activation with isWaitingForMessage := false, isWaiting := false }
        else activation
      (runCommands runCallee fuel 0 { root := ready } world []).map Run.conclude

/-- Updates a run under which `room` more levels of calls may be opened. -/
def advance (fuel : Nat) : (room : Nat) → CalleeRunner
  | 0 => fun _ _ => none
  | room + 1 => updateFrame fuel (advance fuel room)

/-- The levels a run may use, its own included. -/
def Activation.callRoom (activation : Activation) : Nat :=
  maxCallDepth - activation.callers.length

/-- Updates the innermost run of a thread and tells its callers. -/
def updateFrames (fuel : Nat) : Activation → List Activation → World → Option Update
  | root, [], world => advance fuel root.callRoom root world
  | root, callee :: rest, world =>
      match updateFrames fuel callee rest world with
      | none => none
      | some update =>
          let run := receive root update
          some {
            progress := .running
            thread := run.thread
            world := run.world
            notices := run.notices }

namespace Thread

/-- Advances a thread by one frame. `fuel` bounds the commands of each run in it;
`none` is the answer when that is not enough. -/
def update (thread : Thread) (fuel : Nat) (world : World) : Option Update :=
  updateFrames fuel thread.root thread.callees world

/-- How the outermost run of a thread runs the scripts it calls. -/
def calleeRunner (thread : Thread) (fuel : Nat) : CalleeRunner :=
  advance fuel (thread.root.callRoom - 1)

/-- Executes one command of the outermost run, wherever its pointer is. -/
def executeAt (thread : Thread) (fuel : Nat) (world : World) (index : Nat) : Option Run :=
  thread.execute world (thread.calleeRunner fuel) index

/-- Lets the outermost run call a common event, outside of any command. -/
def callEvent (thread : Thread) (fuel : Nat) (world : World) (id : String)
    (parameters : List Value) (wait : Bool) : Option (Run × Option Error) :=
  let outcome := thread.root.callEvent world id parameters wait
  (outcome.resolve (thread.calleeRunner fuel) thread.callees).map (·, outcome.failure)

/-- Lets the outermost run call a scene, outside of any command. -/
def callScene (thread : Thread) (fuel : Nat) (world : World) (uid : String) :
    Option (Run × Option Error) :=
  let outcome := thread.root.callScene world uid
  (outcome.resolve (thread.calleeRunner fuel) thread.callees).map (·, outcome.failure)

/-- The run that everything else in the thread waits for. -/
def innermost (thread : Thread) : Activation :=
  thread.callees.getLast?.getD thread.root

/-- What the innermost run waits for. -/
def pendingWait (thread : Thread) : Option WaitReason :=
  thread.innermost.waitingFor

/-- Applies a change to the outermost run. -/
def mapRoot (thread : Thread) (change : Activation → Activation) : Thread :=
  { thread with root := change thread.root }

/-- Takes over a snapshot, which drops the scripts the run called. -/
def restore (thread : Thread) (state : SavedState) : Thread :=
  { root := thread.root.restore state }

end Thread

end NovelEngine
