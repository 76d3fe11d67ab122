import NovelEngine.Player.Answers
import NovelEngine.Proofs.Calling
import NovelEngine.Proofs.GameLock

/-!
Contract: the answers of the player and the runs that hear them.

Owns:
- the states of a game while it is played;
- the order of threads in which a game looks for a wait and offers an event;
- the exact condition under which an answer reaches the run that waits for it.

Does not own: how a game goes on behind an answer.

A choice without options is the one wait that the player has no answer to: the first of its
options is refused, or taken by a thread further behind that offers some.
-/

namespace NovelEngine

/-! ## The wait of one run -/

namespace Player

/-- Whether some event can end the wait. -/
def HasAnswer (reason : WaitReason) : Prop :=
  ∀ target, reason ≠ .choice [] target

/-- The event of an answer, whatever the player sees. -/
theorem answerTo?_event (box : MessageBox) (reason : WaitReason) :
    (answerTo? box reason).map Prod.snd =
      match reason with
      | .message => some .messageDismissed
      | .choice _ _ => some (.choiceSelected 0)
      | .input _ => some (.inputSubmitted .zero)
      | .transition => some .transitionFinished
      | .callee => none := by
  cases reason with
  | message =>
      simp only [answerTo?]
      split <;> rfl
  | choice labels target =>
      simp only [answerTo?]
      split <;> rfl
  | input target => rfl
  | transition => rfl
  | callee => rfl

/-- The player has an answer to whatever is not up to a called script. -/
theorem answerTo?_of_ne_callee {reason : WaitReason} (host : reason ≠ .callee)
    (box : MessageBox) : ∃ lines event, answerTo? box reason = some (lines, event) := by
  have event := answerTo?_event box reason
  cases answer : answerTo? box reason with
  | some answered => exact ⟨answered.1, answered.2, rfl⟩
  | none =>
      rw [answer] at event
      cases reason <;> cases event
      exact absurd rfl host

/-- A run accepts the answer to what it waits for exactly if there is one. -/
theorem deliver?_answer_iff {box : MessageBox} {reason : WaitReason} {lines : List String}
    {event : HostEvent} (answers : answerTo? box reason = some (lines, event))
    {hearer : Activation} (waits : hearer.waitingFor = some reason) (world : World) :
    (hearer.deliver? world event).isSome = true ↔ HasAnswer reason := by
  have chosen := answerTo?_event box reason
  rw [answers] at chosen
  cases reason with
  | message =>
      cases chosen
      refine iff_of_true ?_ nofun
      simp [Activation.deliver?, waits]
  | choice labels target =>
      cases chosen
      cases labels with
      | nil =>
          refine iff_of_false ?_ (fun answer => answer target rfl)
          simp [Activation.deliver?, waits]
      | cons label rest =>
          refine iff_of_true ?_ nofun
          simp [Activation.deliver?, waits]
  | input target =>
      cases chosen
      refine iff_of_true ?_ nofun
      simp [Activation.deliver?, waits]
  | transition =>
      cases chosen
      refine iff_of_true ?_ nofun
      simp [Activation.deliver?, waits]
  | callee => cases chosen

end Player

/-! ## The thread of the run -/

namespace Thread

/-- The innermost run of the thread has waited for `reason` and waits for nothing any more;
the runs that wait for it are as before. -/
structure Hears (reason : WaitReason) (thread told : Thread) : Prop where
  waited : thread.innermost.waitingFor = some reason
  awake : told.innermost.IsAwake
  sameRun : thread.innermost.SameRun told.innermost
  callers : ∃ callers, thread.chain = callers ++ [thread.innermost] ∧
    told.chain = callers ++ [told.innermost]

theorem Hears.ne {reason : WaitReason} {thread told : Thread}
    (hears : thread.Hears reason told) : told ≠ thread := by
  intro same
  have awake := hears.awake.reason
  rw [same, hears.waited] at awake
  cases awake

/-- The innermost run of a thread has called nothing. -/
theorem Linked.innermost {thread : Thread} (linked : thread.Linked) :
    Thread.Consistent thread.innermost { root := thread.innermost } := by
  induction linked with
  | single consistent => exact consistent
  | @calling root callee rest _ _ _ inductionHypothesis =>
      rw [innermost_cons]
      exact inductionHypothesis

theorem Linked.pendingWait_ne_callee {thread : Thread} (linked : thread.Linked) :
    thread.pendingWait ≠ some .callee :=
  fun waits => linked.innermost.calls.mpr waits rfl

/-- A thread hears what its innermost run accepts. -/
theorem notify?_of_deliver {thread : Thread} {world : World} {event : HostEvent}
    {delivery : Delivery} (delivered : thread.innermost.deliver? world event = some delivery) :
    ∃ run callers, thread.notify? world event = some run ∧
      run.thread.innermost = delivery.activation ∧
      thread.chain = callers ++ [thread.innermost] ∧
      run.thread.chain = callers ++ [delivery.activation] := by
  obtain ⟨root, callees⟩ := thread
  induction callees generalizing root with
  | nil =>
      have accepted : root.deliver? world event = some delivery := delivered
      refine ⟨⟨{ root := delivery.activation }, delivery.world, delivery.notices⟩, [], ?_,
        rfl, rfl, rfl⟩
      unfold notify? deliverInnermost?
      rw [accepted]
      rfl
  | cons callee rest inductionHypothesis =>
      rw [innermost_cons] at delivered ⊢
      obtain ⟨run, callers, accepted, innermost, before, after⟩ :=
        inductionHypothesis callee delivered
      refine ⟨{ run with thread := { root, callees := run.thread.chain } }, root :: callers,
        ?_, ?_, congrArg (root :: ·) before, congrArg (root :: ·) after⟩
      · unfold notify? deliverInnermost?
        unfold notify? at accepted
        rw [accepted]
        rfl
      · exact (innermost_cons _ _ _).trans innermost

/-- A thread refuses what its innermost run refuses. -/
theorem notify?_of_refuse {thread : Thread} {world : World} {event : HostEvent}
    (refused : thread.innermost.deliver? world event = none) :
    thread.notify? world event = none := by
  obtain ⟨root, callees⟩ := thread
  induction callees generalizing root with
  | nil =>
      have refuses : root.deliver? world event = none := refused
      unfold notify? deliverInnermost?
      rw [refuses]
      rfl
  | cons callee rest inductionHypothesis =>
      rw [innermost_cons] at refused
      have inner := inductionHypothesis callee refused
      unfold notify? deliverInnermost?
      unfold notify? at inner
      rw [inner]
      rfl

/-- A thread that waits for nothing hears nothing. -/
theorem notify?_of_unpending {thread : Thread} (silent : thread.pendingWait = none)
    (world : World) (event : HostEvent) : thread.notify? world event = none := by
  apply notify?_of_refuse
  have none : thread.innermost.waitingFor = none := silent
  unfold Activation.deliver?
  rw [none]

theorem Linked.hears {thread : Thread} (linked : thread.Linked) {reason : WaitReason}
    (waits : thread.pendingWait = some reason) {world : World} {event : HostEvent}
    {delivery : Delivery} (delivered : thread.innermost.deliver? world event = some delivery) :
    ∃ run, thread.notify? world event = some run ∧ thread.Hears reason run.thread := by
  obtain ⟨run, callers, accepted, innermost, before, after⟩ := notify?_of_deliver delivered
  have consistent := linked.innermost.deliver delivered
  have idle := (Activation.awake_of_deliver? delivered).1
  refine ⟨run, accepted, waits, ?_, ?_, callers, before, ?_⟩
  · rw [innermost]
    exact consistent.waits.isAwake idle
  · rw [innermost]
    exact consistent.sameRun
  · rw [innermost]
    exact after

end Thread

/-! ## The threads of a game -/

namespace Game

/-- The scene first, then everything beside it. -/
def threads (game : Game) : List Thread :=
  game.main :: game.parallel

theorem pendingWait_eq (game : Game) :
    game.pendingWait = game.threads.findSome? Thread.pendingWait := by
  unfold pendingWait threads
  rw [List.findSome?_cons]
  cases game.main.pendingWait <;> rfl

/-- An event is offered to the threads in their order. -/
theorem notify?_iff {game next : Game} {event : HostEvent} {notices : List Notice} :
    game.notify? event = some (next, notices) ↔
      notifyFirst? event game.world game.threads = some (next.threads, next.world, notices) := by
  obtain ⟨after, main, parallel⟩ := next
  unfold notify? threads
  rw [notifyFirst?]
  cases game.main.notify? game.world event with
  | some run => simp [and_assoc, and_comm, and_left_comm]
  | none => simp [and_assoc, and_comm, and_left_comm]

/-- Threads that refuse an event pass it on to those behind them. -/
theorem notifyFirst?_append {event : HostEvent} {world : World} {before : List Thread}
    (refuse : ∀ other ∈ before, other.notify? world event = none) (behind : List Thread) :
    notifyFirst? event world (before ++ behind) =
      (notifyFirst? event world behind).map (fun (told, world, notices) =>
        (before ++ told, world, notices)) := by
  induction before with
  | nil => simp
  | cons thread rest inductionHypothesis =>
      obtain ⟨first, others⟩ := List.forall_mem_cons.mp refuse
      rw [List.cons_append, notifyFirst?, first, inductionHypothesis others]
      simp [Function.comp_def]

/-- The first thread of the game that waits for something waits for `reason`. -/
structure FirstWait (game : Game) (reason : WaitReason) (before : List Thread)
    (thread : Thread) (behind : List Thread) : Prop where
  threads : game.threads = before ++ thread :: behind
  quiet : ∀ other ∈ before, other.pendingWait = none
  waits : thread.pendingWait = some reason

theorem firstWait_of_pendingWait {game : Game} {reason : WaitReason}
    (waits : game.pendingWait = some reason) :
    ∃ before thread behind, game.FirstWait reason before thread behind := by
  rw [pendingWait_eq, List.findSome?_eq_some_iff] at waits
  obtain ⟨before, thread, behind, threads, waits, quiet⟩ := waits
  exact ⟨before, thread, behind, threads, quiet, waits⟩

/-! ## The states of a game that is played -/

/-- The states that frames, events and the loss of queued sounds reach from the start of a
project, on any host. -/
inductive Played (host : Host) (project : Project) : Game → Prop where
  | start {game : Game} {notices : List Notice}
      (started : host.start project = .ok (game, notices)) : Played host project game
  | tick {game : Game} {fuel : Nat} {tick : Tick} (played : Played host project game)
      (ticked : game.tick fuel = some tick) : Played host project tick.game
  | notify {game next : Game} {event : HostEvent} {notices : List Notice}
      (played : Played host project game) (accepted : game.notify? event = some (next, notices)) :
      Played host project next
  | takeSounds {game : Game} (played : Played host project game) :
      Played host project
        { game with world := { game.world with mixer := game.world.mixer.takeSounds.2 } }

theorem Played.sound {host : Host} {project : Project} {game : Game}
    (played : Played host project game) : game.Sound := by
  induction played with
  | start started => exact (start_sound started).1
  | tick _ ticked sound =>
      obtain ⟨frame, ran, rfl⟩ := Option.map_eq_some_iff.mp ticked
      exact (sound.runThreads ran).1.followSceneRequest.sound
  | notify _ accepted sound => exact (sound.notify accepted).1
  | takeSounds _ sound => exact ⟨sound.main, sound.parallel, sound.fresh⟩

theorem Sound.linked {game : Game} (sound : game.Sound) :
    ∀ thread ∈ game.threads, thread.Linked := by
  intro thread member
  rcases List.mem_cons.mp member with rfl | beside
  · exact sound.main.linked
  · exact (sound.parallel thread beside).linked

/-- The answer of the player to a wait of the game reaches the innermost run of the first
thread that waits for something, ends its wait and touches no other run, exactly if the wait
has an answer. Otherwise that thread and those before it are left as they are. -/
theorem Played.answer_lands_iff {host : Host} {project : Project} {game : Game}
    (played : Played host project game) {reason : WaitReason}
    (waits : game.pendingWait = some reason) :
    ∃ before thread behind, game.FirstWait reason before thread behind ∧
      ∃ lines event, Player.answerTo? game.world.box reason = some (lines, event) ∧
        ((∃ next notices told, game.notify? event = some (next, notices) ∧
            next.threads = before ++ told :: behind ∧ thread.Hears reason told) ↔
          Player.HasAnswer reason) ∧
        (¬ Player.HasAnswer reason → ∀ next notices,
          game.notify? event = some (next, notices) →
          ∃ others, next.threads = before ++ thread :: others) := by
  obtain ⟨before, thread, behind, first⟩ := firstWait_of_pendingWait waits
  have linked : thread.Linked := by
    apply played.sound.linked
    rw [first.threads]
    exact List.mem_append_right _ List.mem_cons_self
  have host : reason ≠ .callee := by
    intro calling
    rw [calling] at first
    exact linked.pendingWait_ne_callee first.waits
  obtain ⟨lines, event, answers⟩ := Player.answerTo?_of_ne_callee host game.world.box
  have lands := Player.deliver?_answer_iff answers first.waits game.world
  have passes := notifyFirst?_append
    (fun other member => Thread.notify?_of_unpending (first.quiet other member) game.world event)
    (thread :: behind)
  rw [← first.threads, notifyFirst?] at passes
  -- a thread that refuses the answer is left as it is, like those before it
  have stays : thread.innermost.deliver? game.world event = none → ∀ next notices,
      game.notify? event = some (next, notices) →
      ∃ others, next.threads = before ++ thread :: others := by
    intro refused next notices accepted
    rw [notify?_iff, passes, Thread.notify?_of_refuse refused] at accepted
    simp only [Option.map_map, Option.map_eq_some_iff, Function.comp_apply,
      Prod.mk.injEq] at accepted
    obtain ⟨⟨others, _⟩, _, same, _⟩ := accepted
    exact ⟨others, same.symm⟩
  refine ⟨before, thread, behind, first, lines, event, answers, ⟨?_, ?_⟩, ?_⟩
  · rintro ⟨next, notices, told, accepted, after, hears⟩
    apply lands.mp
    cases delivered : thread.innermost.deliver? game.world event with
    | some delivery => rfl
    | none =>
        obtain ⟨others, same⟩ := stays delivered next notices accepted
        rw [after] at same
        exact absurd (List.cons.inj (List.append_cancel_left same)).1 hears.ne
  · intro answerable
    obtain ⟨delivery, delivered⟩ := Option.isSome_iff_exists.mp (lands.mpr answerable)
    obtain ⟨run, heard, hears⟩ := linked.hears first.waits delivered
    rw [heard] at passes
    obtain ⟨main, parallel, told⟩ :=
      List.exists_cons_of_ne_nil (List.append_ne_nil_of_right_ne_nil before
        (List.cons_ne_nil run.thread behind))
    refine ⟨⟨run.world, main, parallel⟩, run.notices, run.thread, ?_, told.symm, hears⟩
    rw [notify?_iff, passes]
    exact congrArg (fun threads => some (threads, run.world, run.notices)) told
  · intro unanswerable
    apply stays
    rw [← lands, Bool.not_eq_true, Option.isSome_eq_false_iff, Option.isNone_iff_eq_none]
      at unanswerable
    exact unanswerable

end Game

/-! ## Choices with and without options -/

private def chooseFrom (options : List Document) : Command :=
  { id := "ShowChoices", params := .record [("choices", .list options)] }

/-- The scene waits for an event that lets the player choose. -/
def choiceUnderScene : Project where
  scenes := [{
    uid := "hall"
    commands := [{
      id := "CallCommonEvent"
      params := .record [("commonEventId", .text "guide")] }] }]
  events := [{ id := "guide", commands := [chooseFrom [.record [("text", .text "go")]]] }]

/-- The scene lets the player choose from nothing. -/
def emptyChoice : Project where
  scenes := [{ uid := "hall", commands := [chooseFrom []] }]

private def firstTick? (host : Host) (project : Project) (fuel : Nat) : Option Game :=
  match host.start project with
  | .error _ => none
  | .ok (game, _) => (game.tick fuel).map Game.Tick.game

private theorem played_firstTick {host : Host} {project : Project} {fuel : Nat} {game : Game}
    (ran : firstTick? host project fuel = some game) : Game.Played host project game := by
  unfold firstTick? at ran
  split at ran
  · cases ran
  · rename_i start notices started
    obtain ⟨tick, ticked, rfl⟩ := Option.map_eq_some_iff.mp ran
    exact .tick (.start started) ticked

/-- The choice of a called event is made, and the scene is left waiting for the event. -/
theorem choiceUnderScene_answered :
    ∃ game event next notices before thread told behind,
      Game.Played .plain choiceUnderScene game ∧ game.pendingWait = some (.choice [none] none) ∧
      game.notify? event = some (next, notices) ∧
      game.threads = before ++ thread :: behind ∧ next.threads = before ++ told :: behind ∧
      thread.Hears (.choice [none] none) told := by
  have ran : (firstTick? .plain choiceUnderScene 1).any (fun game =>
      decide (game.pendingWait = some (.choice [none] none))) = true := by
    decide +kernel
  obtain ⟨game, ran, waits⟩ := (Option.any_eq_true _ _).mp ran
  rw [decide_eq_true_eq] at waits
  have played := played_firstTick ran
  obtain ⟨before, thread, behind, first, _, event, _, lands, _⟩ :=
    Game.Played.answer_lands_iff played waits
  obtain ⟨next, notices, told, accepted, after, hears⟩ := lands.mpr nofun
  exact ⟨game, event, next, notices, before, thread, told, behind, played, waits, accepted,
    first.threads, after, hears⟩

/-- Nobody hears the answer to a choice without options. -/
theorem not_always_answered :
    ¬ ∀ (host : Host) (project : Project) (game : Game) (reason : WaitReason)
      (lines : List String) (event : HostEvent), Game.Played host project game →
      game.pendingWait = some reason → reason ≠ .callee →
      Player.answerTo? game.world.box reason = some (lines, event) →
      (game.notify? event).isSome = true := by
  intro always
  have ran : (firstTick? .plain emptyChoice 1).any (fun game =>
      decide (game.pendingWait = some (.choice [] none)) &&
      decide (game.world.box.content = some (.choices [])) &&
      (game.notify? (.choiceSelected 0)).isNone) = true := by
    decide +kernel
  obtain ⟨game, ran, facts⟩ := (Option.any_eq_true _ _).mp ran
  simp only [Bool.and_eq_true, decide_eq_true_eq, Option.isNone_iff_eq_none] at facts
  obtain ⟨⟨waits, shown⟩, refused⟩ := facts
  have answers : Player.answerTo? game.world.box (.choice [] none) =
      some (["> "], .choiceSelected 0) := by
    simp only [Player.answerTo?, shown]
    rfl
  have heard := always _ _ game _ _ _ (played_firstTick ran) waits nofun answers
  rw [refused] at heard
  cases heard

end NovelEngine
