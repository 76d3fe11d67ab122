import NovelEngine.Proofs.Answering

/-!
Contract: the delivery of an event to one run of a game.

Owns:
- which event ends which wait, and the run that takes an event;
- what an accepted event does to the run that takes it;
- that nothing else of the game hears an event, and that a refused event changes nothing.

Does not own: what the player is told.

The statements are about all states of a game, reachable or not.
-/

namespace NovelEngine

/-! ## Waits and the events that end them -/

/-- Whether the event ends the wait. A choice must be among those that are offered. -/
def HostEvent.ends : HostEvent → WaitReason → Bool
  | .messageDismissed, .message => true
  | .choiceSelected index, .choice labels _ => index < labels.length
  | .inputSubmitted _, .input _ => true
  | .transitionFinished, .transition => true
  | _, _ => false

namespace Activation

variable {activation : Activation} {world : World} {event : HostEvent}

/-- Whether the run waits for the event. -/
def awaits (activation : Activation) (event : HostEvent) : Bool :=
  activation.waitingFor.any event.ends

/-- A run accepts exactly the events that it waits for. -/
theorem deliver?_isSome (activation : Activation) (world : World) (event : HostEvent) :
    (activation.deliver? world event).isSome = activation.awaits event := by
  unfold deliver? awaits
  cases activation.waitingFor with
  | none => rfl
  | some reason =>
      cases reason with
      | choice labels target =>
          cases event with
          | choiceSelected index =>
              simp only [Option.any_some, HostEvent.ends]
              cases offered : labels[index]? with
              | none =>
                  have beyond : labels.length ≤ index := List.getElem?_eq_none_iff.mp offered
                  exact (decide_eq_false (Nat.not_lt.mpr beyond)).symm
              | some label =>
                  obtain ⟨inside, _⟩ := List.getElem?_eq_some_iff.mp offered
                  exact (decide_eq_true inside).symm
          | _ => rfl
      | _ => cases event <;> rfl

/-- Where a jump to a label leads: to the place that was noted, else to where it stands in the
script. -/
def label? (activation : Activation) (name : String) : Option Nat :=
  activation.labels.find? name <|> activation.script.findLabel? name

theorem jumpToLabel_label? (activation : Activation) (name : String) :
    (activation.label? name = none ∧
        activation.jumpToLabel name = .error (.unknownLabel name)) ∨
      ∃ position labels, activation.label? name = some position ∧
        activation.jumpToLabel name = .ok ({ activation with labels }.jumpTo position) := by
  unfold label? jumpToLabel
  cases activation.labels.find? name with
  | some position => exact .inr ⟨position, activation.labels, rfl, rfl⟩
  | none =>
      cases activation.script.findLabel? name with
      | some position => exact .inr ⟨position, _, rfl, rfl⟩
      | none => exact .inl ⟨rfl, rfl⟩

/-- The place of the label that the run goes to when it takes the event; `none` if the event is
no choice, the choice has no label or the label does not exist. -/
def destination? (activation : Activation) : HostEvent → Option Nat
  | .choiceSelected index =>
      match activation.waitingFor with
      | some (.choice labels _) => labels[index]?.join >>= activation.label?
      | _ => none
  | _ => none

/-- The wait of the run has been ended by the event. The run is where it was, or at the label of
the choice. -/
structure Answered (event : HostEvent) (before after : Activation) : Prop where
  isWaiting : after.isWaiting = false
  waitCounter : after.waitCounter = 0
  waitingFor : after.waitingFor = none
  stays : before.destination? event = none → after = before.clearWait
  jumps : ∀ position, before.destination? event = some position →
    ∃ labels, after = { before with labels }.jumpTo position

theorem Answered.of_clearWait {before : Activation} (still : before.destination? event = none) :
    before.Answered event before.clearWait where
  isWaiting := rfl
  waitCounter := rfl
  waitingFor := rfl
  stays _ := rfl
  jumps _ leads := by
    rw [still] at leads
    cases leads

theorem takeChoice_answered {before : Activation} {labels : List (Option String)}
    {target : Option VariableRef} {index : Nat} {label : Option String}
    (waits : before.waitingFor = some (.choice labels target))
    (offered : labels[index]? = some label) :
    before.Answered (.choiceSelected index)
      (before.clearWait.takeChoice world index label target).activation := by
  have leads : before.destination? (.choiceSelected index) = label >>= before.label? := by
    simp only [destination?, waits, offered, Option.join_some]
  unfold takeChoice
  cases label with
  | none => exact .of_clearWait leads
  | some name =>
      have same : before.clearWait.label? name = before.label? name := rfl
      obtain ⟨missing, failed⟩ | ⟨position, noted, found, jumped⟩ :=
        before.clearWait.jumpToLabel_label? name
      · simp only [failed]
        exact .of_clearWait (leads.trans (same.symm.trans missing))
      · simp only [jumped]
        have place : before.destination? (.choiceSelected index) = some position :=
          leads.trans (same.symm.trans found)
        refine ⟨rfl, rfl, rfl, fun still => ?_, fun other leads => ?_⟩
        · rw [place] at still
          cases still
        · rw [place] at leads
          cases leads
          exact ⟨noted, rfl⟩

theorem deliver?_answered {delivery : Delivery}
    (delivered : activation.deliver? world event = some delivery) :
    activation.Answered event delivery.activation := by
  unfold deliver? at delivered
  split at delivered
  · cases delivered
    exact .of_clearWait rfl
  · rename_i waits
    split at delivered
    · cases delivered
    · rename_i offered
      cases delivered
      exact takeChoice_answered waits offered
  · cases delivered
    exact .of_clearWait rfl
  · cases delivered
    exact .of_clearWait rfl
  · cases delivered

theorem eraseIfAutomatic_eq (activation : Activation) (world : World) :
    ∃ box, activation.eraseIfAutomatic world = { world with box } := by
  unfold eraseIfAutomatic
  split
  · exact ⟨_, rfl⟩
  · exact ⟨world.box, rfl⟩

/-- The number of a choice is stored whether or not its label exists. -/
theorem takeChoice_writes (activation : Activation) (world : World) (index : Nat)
    (label : Option String) (target : Option VariableRef) :
    (activation.takeChoice world index label target).world =
      match target with
      | some target =>
          { world with store :=
              world.store.setNumber activation.context target (Decimal.ofInt index) }
      | none => world := by
  unfold takeChoice
  cases label with
  | none => rfl
  | some name =>
      dsimp only
      split <;> rfl

/-- An event reaches the variables and the message box only. -/
theorem deliver?_world {delivery : Delivery}
    (delivered : activation.deliver? world event = some delivery) :
    ∃ store box, delivery.world = { world with store, box } := by
  unfold deliver? at delivered
  obtain ⟨erased, erases⟩ := activation.eraseIfAutomatic_eq world
  split at delivered
  · cases delivered
    exact ⟨world.store, erased, erases⟩
  · split at delivered
    · cases delivered
    · cases delivered
      rw [takeChoice_writes, erases]
      split
      · exact ⟨_, erased, rfl⟩
      · exact ⟨world.store, erased, rfl⟩
  · cases delivered
    exact ⟨_, _, rfl⟩
  · cases delivered
    exact ⟨world.store, world.box, rfl⟩
  · cases delivered

end Activation

/-! ## The innermost run of a thread -/

namespace Thread

/-- A thread that hears an event is changed in its innermost run only, and so is the world. -/
theorem notify?_deliver {thread : Thread} {world : World} {event : HostEvent} {run : Run}
    (heard : thread.notify? world event = some run) :
    (∃ callers, thread.chain = callers ++ [thread.innermost] ∧
      run.thread.chain = callers ++ [run.thread.innermost]) ∧
    thread.innermost.deliver? world event =
      some ⟨run.thread.innermost, run.world, run.notices⟩ := by
  obtain ⟨root, callees⟩ := thread
  induction callees generalizing root run with
  | nil =>
      obtain ⟨delivery, delivered, rfl⟩ := Option.map_eq_some_iff.mp heard
      exact ⟨⟨[], rfl, rfl⟩, delivered⟩
  | cons callee rest inductionHypothesis =>
      obtain ⟨inner, reached, rfl⟩ := Option.map_eq_some_iff.mp heard
      obtain ⟨⟨callers, before, after⟩, delivered⟩ := inductionHypothesis callee reached
      rw [innermost_cons, innermost_cons]
      exact ⟨⟨root :: callers, congrArg (root :: ·) before, congrArg (root :: ·) after⟩,
        delivered⟩

/-- A thread hears exactly the events that its innermost run waits for. -/
theorem notify?_isSome (thread : Thread) (world : World) (event : HostEvent) :
    (thread.notify? world event).isSome = thread.innermost.awaits event := by
  rw [← thread.innermost.deliver?_isSome world event]
  cases delivered : thread.innermost.deliver? world event with
  | none =>
      rw [notify?_of_refuse delivered]
      rfl
  | some delivery =>
      obtain ⟨run, _, heard, _⟩ := notify?_of_deliver delivered
      rw [heard]
      rfl

theorem notify?_of_unawaited {thread : Thread} {event : HostEvent}
    (unawaited : thread.innermost.awaits event = false) (world : World) :
    thread.notify? world event = none := by
  rw [← Option.isNone_iff_eq_none, ← Option.isSome_eq_false_iff, thread.notify?_isSome]
  exact unawaited

end Thread

/-! ## The threads of a game -/

namespace Game

/-- Offers an event to the game: whether it was accepted, and the game afterwards. -/
def offer (game : Game) (event : HostEvent) : Bool × Game :=
  match game.notify? event with
  | some (next, _) => (true, next)
  | none => (false, game)

/-- The event goes to the innermost run of one thread. No thread before it waits for the event,
and nothing but this run, the variables and the message box is changed. -/
structure DeliversTo (game next : Game) (event : HostEvent) (before : List Thread)
    (thread told : Thread) (behind : List Thread) : Prop where
  threads : game.threads = before ++ thread :: behind
  after : next.threads = before ++ told :: behind
  earlier : ∀ other ∈ before, other.innermost.awaits event = false
  awaits : thread.innermost.awaits event = true
  callers : ∃ callers, thread.chain = callers ++ [thread.innermost] ∧
    told.chain = callers ++ [told.innermost]
  answered : thread.innermost.Answered event told.innermost
  delivered : ∃ notices, thread.innermost.deliver? game.world event =
    some ⟨told.innermost, next.world, notices⟩
  world : ∃ store box, next.world = { game.world with store, box }

theorem notify?_of_refused {game : Game} {event : HostEvent}
    (refused : ∀ thread ∈ game.threads, thread.innermost.awaits event = false) :
    game.notify? event = none := by
  have passed := notifyFirst?_append
    (fun thread member => Thread.notify?_of_unawaited (refused thread member) game.world) []
  rw [List.append_nil] at passed
  cases heard : game.notify? event with
  | none => rfl
  | some result =>
      obtain ⟨next, notices⟩ := result
      rw [notify?_iff, passed] at heard
      cases heard

theorem notify?_of_awaited {game : Game} {event : HostEvent} {before behind : List Thread}
    {thread : Thread} (threads : game.threads = before ++ thread :: behind)
    (earlier : ∀ other ∈ before, other.innermost.awaits event = false)
    (awaits : thread.innermost.awaits event = true) :
    ∃ next notices told, game.notify? event = some (next, notices) ∧
      game.DeliversTo next event before thread told behind := by
  obtain ⟨run, heard⟩ : ∃ run, thread.notify? game.world event = some run := by
    rw [← Option.isSome_iff_exists, thread.notify?_isSome, awaits]
  have passed := notifyFirst?_append
    (fun other member => Thread.notify?_of_unawaited (earlier other member) game.world)
    (thread :: behind)
  rw [← threads, notifyFirst?, heard] at passed
  obtain ⟨main, parallel, told⟩ :=
    List.exists_cons_of_ne_nil (List.append_ne_nil_of_right_ne_nil before
      (List.cons_ne_nil run.thread behind))
  obtain ⟨callers, delivered⟩ := Thread.notify?_deliver heard
  refine ⟨⟨run.world, main, parallel⟩, run.notices, run.thread, ?_, threads, told.symm, earlier,
    awaits, callers, Activation.deliver?_answered delivered, ⟨run.notices, delivered⟩,
    Activation.deliver?_world delivered⟩
  rw [notify?_iff, passed]
  exact congrArg (fun threads => some (threads, run.world, run.notices)) told

/-- An event is accepted exactly if the innermost run of some thread waits for it. It then ends
the wait of the first of these runs and touches no other run. An event that is refused changes
nothing. -/
theorem offer_exclusive (game : Game) (event : HostEvent) :
    ((game.offer event).1 = true ↔
      ∃ thread ∈ game.threads, thread.innermost.awaits event = true) ∧
    ((game.offer event).1 = true → ∃ before thread told behind,
      game.DeliversTo (game.offer event).2 event before thread told behind) ∧
    ((game.offer event).1 = false → (game.offer event).2 = game) := by
  unfold offer
  cases found : game.threads.find? (fun thread => thread.innermost.awaits event) with
  | none =>
      have refused : ∀ thread ∈ game.threads, thread.innermost.awaits event = false := by
        simpa using List.find?_eq_none.mp found
      rw [notify?_of_refused refused]
      refine ⟨iff_of_false Bool.false_ne_true ?_, nofun, fun _ => rfl⟩
      rintro ⟨thread, member, awaits⟩
      rw [refused thread member] at awaits
      cases awaits
  | some thread =>
      obtain ⟨awaits, before, behind, threads, earlier⟩ :=
        List.find?_eq_some_iff_append.mp found
      obtain ⟨next, notices, told, heard, delivers⟩ :=
        notify?_of_awaited threads (by simpa using earlier) awaits
      rw [heard]
      have member : thread ∈ game.threads := by
        rw [threads]
        exact List.mem_append_right _ List.mem_cons_self
      exact ⟨iff_of_true rfl ⟨thread, member, awaits⟩,
        fun _ => ⟨before, thread, told, behind, delivers⟩, nofun⟩

end Game

end NovelEngine
