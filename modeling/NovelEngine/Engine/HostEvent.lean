import NovelEngine.Engine.Thread

/-!
Contract: events from outside that end a wait.

Owns: which event ends which wait, and its effect. An event reaches only the
innermost run of a thread; an event that nothing waits for changes nothing.

Does not own: which thread an event is offered to first.
-/

namespace NovelEngine

inductive HostEvent where
  | messageDismissed
  | choiceSelected (index : Nat)
  | inputSubmitted (value : Value)
  | transitionFinished
deriving Repr

/-- The state after an accepted event. -/
structure Delivery where
  activation : Activation
  world : World
  notices : List Notice := []

namespace Activation

/-- Clears the message box if the settings ask for it. -/
def eraseIfAutomatic (activation : Activation) (world : World) : World :=
  if activation.settings.autoErase then world.eraseBox else world

/-- Stores the number of a choice and goes to its label. -/
def takeChoice (activation : Activation) (world : World) (index : Nat)
    (label : Option String) (target : Option VariableRef) : Delivery :=
  let world := match target with
    | some target =>
        { world with store :=
            world.store.setNumber activation.context target (Decimal.ofInt index) }
    | none => world
  match label with
  | none => { activation, world }
  | some name =>
      match activation.jumpToLabel name with
      | .ok jumped => { activation := jumped, world }
      | .error error =>
          { activation, world, notices := [.choiceFailed activation.context index error] }

/-- Delivers an event to a run; `none` if it waits for something else. -/
def deliver? (activation : Activation) (world : World) (event : HostEvent) :
    Option Delivery :=
  match activation.waitingFor, event with
  | some .message, .messageDismissed =>
      some { activation := activation.clearWait, world := activation.eraseIfAutomatic world }
  | some (.choice labels target), .choiceSelected index =>
      match labels[index]? with
      | none => none
      | some label =>
          some (activation.clearWait.takeChoice (activation.eraseIfAutomatic world) index
            label target)
  | some (.input target), .inputSubmitted value =>
      let world :=
        { world with store := world.store.assign activation.context target value }
      some { activation := activation.clearWait, world := world.releaseBox activation.context }
  | some .transition, .transitionFinished =>
      some { activation := activation.clearWait, world }
  | _, _ => none

end Activation

/-- Delivers an event to the last of a chain of runs. -/
def deliverInnermost? (event : HostEvent) :
    Activation → List Activation → World → Option Run
  | root, [], world =>
      (root.deliver? world event).map (fun delivery =>
        { thread := { root := delivery.activation }
          world := delivery.world
          notices := delivery.notices })
  | root, callee :: rest, world =>
      (deliverInnermost? event callee rest world).map (fun run =>
        { run with thread := { root, callees := run.thread.root :: run.thread.callees } })

/-- Delivers an event to the innermost run of a thread; `none` if nothing waits for it. -/
def Thread.notify? (thread : Thread) (world : World) (event : HostEvent) : Option Run :=
  deliverInnermost? event thread.root thread.callees world

end NovelEngine
