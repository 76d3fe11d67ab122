import NovelEngine.Proofs.Stillness

/-!
Contract: the end of a started run.

Owns:
- the count of ends that a run carries, through every part of an update;
- the histories of a started run, with the result of each update;
- what follows the end of a run that does not repeat.

Does not own: when a script comes to its end.

A run stops where its end is counted, and nowhere else in an update. Hence the ends that were
counted and the one that is ahead of a running run add up to the same number throughout.
-/

namespace NovelEngine

/-! ## The ends of a run -/

/-- The ends that a run has come to, and the one that is ahead of it while it runs. -/
def Activation.ends (activation : Activation) : Nat :=
  activation.completions + activation.isRunning.toNat

theorem Activation.isRunning_of_isAtEnd {activation : Activation}
    (atEnd : activation.isAtEnd = true) : activation.isRunning = true := by
  simp only [isAtEnd, Bool.not_eq_true', Bool.or_eq_false_iff, Bool.not_eq_false'] at atEnd
  exact atEnd.2

theorem Effect.ends_eq {activation next : Activation} {instruction : Instruction}
    (effect : Effect activation instruction next) : next.ends = activation.ends := by
  cases effect with
  | branch chain holds => cases holds <;> rfl
  | branchElse =>
      unfold Activation.branchElse
      split <;> rfl
  | _ => rfl

theorem Handling.ends_eq {runCallee : CalleeRunner} {thread next : Thread}
    {world after : World} (handling : Handling runCallee thread world next after) :
    next.root.ends = thread.root.ends := by
  cases handling with
  | skip => rfl
  | ignore => rfl
  | perform _ _ _ performed =>
      subst performed
      exact (Activation.perform_effect _ _ _ _).ends_eq
  | call _ _ _ performed =>
      subst performed
      exact (Activation.perform_effect _ _ _ _).ends_eq
  | callThrough _ _ _ performed =>
      subst performed
      exact (Activation.perform_effect _ _ _ _).ends_eq

theorem Step.ends_eq {runCallee : CalleeRunner} {thread next : Thread} {world after : World}
    (step : Step runCallee thread world next after) : next.root.ends = thread.root.ends := by
  cases step with
  | pause => rfl
  | @move handled _ handling =>
      obtain ⟨pointer, indent, moved⟩ := handled.root.stepPast_eq
      rw [moved]
      exact handling.ends_eq

/-- What holds of a run between calls once it was started. -/
structure Thread.Underway (run : Activation) (thread : Thread) : Prop where
  sameRun : run.SameRun thread.root
  suspended : thread.Suspended
  /-- A run that has come to its end waits for nothing. -/
  ended : thread.root.isRunning = false → thread.root.isWaiting = false
  /-- Since its start one end is ahead of the run or was counted. -/
  ends : thread.root.ends = run.completions + 1

namespace Thread.Underway

variable {run : Activation}

theorem started (run : Activation) : Underway run { root := run.start } where
  sameRun := ⟨rfl, rfl, rfl, rfl⟩
  suspended := Suspended.start run
  ended := nofun
  ends := rfl

theorem restart {activation : Activation} (underway : Underway run { root := activation })
    (atEnd : activation.isAtEnd = true) : Underway run { root := activation.start } where
  sameRun := underway.sameRun.trans ⟨rfl, rfl, rfl, rfl⟩
  suspended := Suspended.start activation
  ended := nofun
  ends := by
    have ends := underway.ends
    simp only [Activation.ends, Activation.isRunning_of_isAtEnd atEnd] at ends
    exact ends

theorem countDown {activation : Activation} (underway : Underway run { root := activation })
    (running : activation.isRunning = true) (counting : 0 < activation.waitCounter) :
    Underway run { root := activation.countDown } where
  sameRun := underway.sameRun.trans ⟨rfl, rfl, rfl, rfl⟩
  suspended := underway.suspended.countDown counting
  ended := fun stopped => absurd (running.symm.trans stopped) (by decide)
  ends := underway.ends

theorem unpark {activation : Activation} (underway : Underway run { root := activation })
    (parked : activation.isWaitingForMessage = true) :
    Underway run { root := { activation with
      isWaitingForMessage := false, isWaiting := false } } where
  sameRun := underway.sameRun.trans ⟨rfl, rfl, rfl, rfl⟩
  suspended := underway.suspended.unpark parked
  ended := fun _ => rfl
  ends := underway.ends

theorem pass {runCallee : CalleeRunner} {thread next : Thread} {world after : World}
    (underway : Underway run thread) (able : thread.root.canStep = true)
    (step : Step runCallee thread world next after) (executed : Nat) :
    Underway run (next.counted after.config executed) := by
  have suspended := (underway.suspended.pass able step).counted after.config executed
  have sameRun := step.sameRun.trans (next.root.counted_sameRun after.config executed)
  have running := step.sameRunning.trans (Activation.isRunning_of_canStep able)
  obtain ⟨_, _, _, counted⟩ := next.root.counted_eq after.config executed
  unfold Thread.counted at suspended ⊢
  rw [counted] at suspended sameRun ⊢
  exact {
    sameRun := underway.sameRun.trans sameRun
    suspended := suspended
    ended := fun stopped => absurd (running.symm.trans stopped) (by decide)
    ends := step.ends_eq.trans underway.ends }

/-- At the end of a run, the end that was ahead of it is counted. -/
theorem finish {activation : Activation} (underway : Underway run { root := activation })
    (atEnd : activation.isAtEnd = true) : Underway run { root := activation.finished } where
  sameRun := underway.sameRun.trans ⟨rfl, rfl, rfl, rfl⟩
  suspended := underway.suspended.finish
  ended := by
    intro _
    have idle : activation.isWaiting = false := Activation.isWaiting_of_isAtEnd atEnd
    exact idle
  ends := by
    have ends := underway.ends
    simp only [Activation.ends, Activation.isRunning_of_isAtEnd atEnd] at ends
    exact ends

theorem away {root callee next : Activation} {rest later : List Activation}
    (underway : Underway run { root, callees := callee :: rest }) :
    Underway run { root, callees := next :: later } :=
  { underway with suspended := underway.suspended.away }

theorem back {root callee : Activation} {rest : List Activation}
    (underway : Underway run { root, callees := callee :: rest }) :
    Underway run { root := root.clearWait } where
  sameRun := underway.sameRun.trans ⟨rfl, rfl, rfl, rfl⟩
  suspended := underway.suspended.back
  ended := fun _ => rfl
  ends := underway.ends

end Thread.Underway

theorem lasts_underway (run : Activation) :
    Lasts (fun _ thread _ => Thread.Underway run thread) where
  frame := fun _ => {
    reset := id
    start := fun underway atEnd _ => underway.restart atEnd
    count := fun underway running counting => underway.countDown running counting
    unpark := fun underway parked _ => underway.unpark parked
    pass := fun underway able step => underway.pass able step _
    finish := fun underway ends => underway.finish (Activation.isAtEnd_of_endsHere ends) }
  away := Thread.Underway.away
  back := Thread.Underway.back

theorem Activation.deliver?_ends {activation : Activation} {world : World} {event : HostEvent}
    {delivery : Delivery} (delivered : activation.deliver? world event = some delivery) :
    delivery.activation.ends = activation.ends := by
  obtain ⟨_, same | ⟨labels, index, jumped⟩⟩ := deliver?_cases delivered
  · rw [same]
    rfl
  · rw [jumped]
    rfl

theorem Thread.Underway.notify {run : Activation} {thread : Thread} {world : World}
    {event : HostEvent} {notified : Run} (underway : Thread.Underway run thread)
    (accepted : thread.notify? world event = some notified) :
    Thread.Underway run notified.thread := by
  obtain ⟨root, callees⟩ := thread
  rcases Thread.notify?_cases accepted with
    ⟨alone, delivery, delivered, same, _⟩ | ⟨callee, rest, next, later, calling, same⟩
  · cases alone
    rw [same]
    exact {
      sameRun := underway.sameRun.trans (Activation.deliver?_sameRun delivered)
      suspended := underway.suspended.deliver delivered
      ended := fun _ => (Activation.awake_of_deliver? delivered).1
      ends := (Activation.deliver?_ends delivered).trans underway.ends }
  · cases calling
    rw [same]
    exact underway.away

theorem Thread.notify?_isRunning {thread : Thread} {world : World} {event : HostEvent}
    {notified : Run} (accepted : thread.notify? world event = some notified) :
    notified.thread.root.isRunning = thread.root.isRunning := by
  rcases Thread.notify?_cases accepted with
    ⟨_, delivery, delivered, same, _⟩ | ⟨_, _, _, _, _, same⟩
  · rw [same]
    exact Activation.deliver?_isRunning delivered
  · rw [same]

/-! ## The result of an update -/

section Updates

variable {thread : Thread} {fuel : Nat} {world : World} {update : Update}

/-- An update in which a script comes to its end stops its run, which ran before and does not
repeat, and takes the message box from it. -/
theorem Thread.update_finished (updated : thread.update fuel world = some update)
    (finished : update.progress = .finished) :
    0 < thread.root.callRoom ∧ thread.root.isRunning = true ∧ thread.root.repeats = false ∧
      update.thread.root.isRunning = false ∧
      update.world.box.owner ≠ some thread.root.context := by
  obtain ⟨root, callees⟩ := thread
  cases callees with
  | cons callee rest =>
      obtain ⟨_, _, unfinished, _⟩ := Thread.update_calling updated
      rw [unfinished] at finished
      cases finished
  | nil =>
      obtain ⟨room, ran⟩ := Thread.update_single updated
      have same : root.SameRun update.thread.root :=
        updateFrame_fact ((lasts_sameRun root).frame _) none (.refl root) ran
      have running : root.isRunning = true := by
        apply Bool.of_not_eq_false
        intro stopped
        rw [updateFrame_of_stopped stopped] at ran
        cases ran
        cases finished
      obtain ⟨stopped, released⟩ := updateFrame_finished ran finished
      rw [same.context] at released
      obtain ⟨last, _, _, ends, ended⟩ := updateFrame_ended ran finished
      have once : update.thread.root.repeats = false := by
        simp only [Activation.endsHere, Bool.and_eq_true, Bool.not_eq_true'] at ends
        rw [ended]
        exact ends.2
      exact ⟨room, running, same.repeats.symm.trans once, stopped, released⟩

/-- An update in which no script comes to its end neither stops a run nor lets it go on. -/
theorem Thread.update_unfinished (updated : thread.update fuel world = some update)
    (unfinished : update.progress = .running) :
    update.thread.root.isRunning = thread.root.isRunning := by
  obtain ⟨root, callees⟩ := thread
  cases callees with
  | cons callee rest =>
      obtain ⟨_, _, _, ⟨_, same, _⟩ | ⟨_, same, _⟩⟩ := Thread.update_calling updated
      · rw [same]
      · rw [same]
        rfl
  | nil =>
      obtain ⟨_, ran⟩ := Thread.update_single updated
      cases running : root.isRunning with
      | true => exact updateFrame_isRunning ran running unfinished
      | false =>
          rw [updateFrame_of_stopped running] at ran
          cases ran
          exact running

/-- A thread that has come to its end is left alone by updates. -/
theorem Thread.Underway.update_ended {run : Activation} (underway : Thread.Underway run thread)
    (room : 0 < run.callRoom) (stopped : thread.root.isRunning = false) (fuel : Nat)
    (world : World) :
    thread.update fuel world = some {
      progress := .running
      thread
      world := world.resetTemporaries run.context } := by
  obtain ⟨root, callees⟩ := thread
  have alone : callees = [] := underway.suspended.alone (underway.ended stopped)
  have roomy : 0 < root.callRoom := by
    unfold Activation.callRoom
    rw [underway.sameRun.callers]
    exact room
  rw [alone, Thread.update_eq roomy, updateFrame_of_stopped stopped, underway.sameRun.context]

end Updates

/-! ## Histories of a started run -/

/-- What updates and events have led a started run to, and the results of the updates. Each
call may find another world and grant another number of commands. -/
inductive Served (run : Activation) : List Progress → Thread → Prop where
  | started : Served run [] { root := run.start }
  | update {results : List Progress} {thread : Thread} {fuel : Nat} {world : World}
      {update : Update} (served : Served run results thread)
      (updated : thread.update fuel world = some update) :
      Served run (results ++ [update.progress]) update.thread
  | notify {results : List Progress} {thread : Thread} {world : World} {event : HostEvent}
      {notified : Run} (served : Served run results thread)
      (accepted : thread.notify? world event = some notified) :
      Served run results notified.thread

namespace Served

variable {run : Activation} {results : List Progress} {thread : Thread}

theorem underway (served : Served run results thread) : Thread.Underway run thread := by
  induction served with
  | started => exact .started run
  | update _ updated inductionHypothesis =>
      exact Thread.update_fact (lasts_underway run) none inductionHypothesis updated
  | notify _ accepted inductionHypothesis => exact inductionHypothesis.notify accepted

/-- Either the run has come to its end or it runs. -/
theorem count_finished (served : Served run results thread) :
    results.count .finished + thread.root.isRunning.toNat = 1 := by
  induction served with
  | started => rfl
  | @update results thread fuel world update served updated inductionHypothesis =>
      rw [List.count_append]
      cases progress : update.progress with
      | running =>
          rw [Thread.update_unfinished updated progress]
          exact inductionHypothesis
      | finished =>
          obtain ⟨_, running, _, stopped, _⟩ := Thread.update_finished updated progress
          rw [running] at inductionHypothesis
          have none : results.count .finished = 0 := Nat.succ.inj inductionHypothesis
          rw [none, stopped]
          rfl
  | @notify results thread world event notified served accepted inductionHypothesis =>
      rw [Thread.notify?_isRunning accepted]
      exact inductionHypothesis

/-- A run that has come to its end does not repeat, and it could be updated. -/
theorem of_finished (served : Served run results thread) (finished : .finished ∈ results) :
    run.repeats = false ∧ 0 < run.callRoom := by
  induction served with
  | started => cases finished
  | @update results thread fuel world update served updated inductionHypothesis =>
      rcases List.mem_append.mp finished with before | now
      · exact inductionHypothesis before
      · have now : update.progress = .finished := (List.mem_singleton.mp now).symm
        obtain ⟨room, _, once, _, _⟩ := Thread.update_finished updated now
        have sameRun := served.underway.sameRun
        unfold Activation.callRoom at room ⊢
        rw [sameRun.callers] at room
        rw [sameRun.repeats] at once
        exact ⟨once, room⟩
  | notify _ _ inductionHypothesis => exact inductionHypothesis finished

end Served

/-- A started run comes to its end once at most, and never if it repeats. The end is counted
exactly when an update reports it, and the run then gives up the message box. Every later
update reports nothing and changes nothing but the temporary variables of the run. -/
theorem Served.finishes_once {run : Activation} {results : List Progress} {thread : Thread}
    (served : Served run results thread) :
    results.count .finished ≤ 1 ∧
    (run.repeats = true → .finished ∉ results) ∧
    thread.root.completions = run.completions + results.count .finished ∧
    (∀ fuel world update, thread.update fuel world = some update →
      update.progress = .finished → update.world.box.owner ≠ some run.context) ∧
    (.finished ∈ results → ∀ fuel world, thread.update fuel world = some {
      progress := .running
      thread
      world := world.resetTemporaries run.context }) := by
  have underway := served.underway
  have tally := served.count_finished
  have ends : thread.root.completions + thread.root.isRunning.toNat = run.completions + 1 :=
    underway.ends
  refine ⟨by omega, ?_, by omega, ?_, ?_⟩
  · intro repeats finished
    exact absurd ((served.of_finished finished).1.symm.trans repeats) (by decide)
  · intro fuel world update updated finished
    rw [← underway.sameRun.context]
    exact (Thread.update_finished updated finished).2.2.2.2
  · intro finished fuel world
    have positive : 0 < results.count .finished := List.count_pos_iff.mpr finished
    have stopped : thread.root.isRunning = false := by
      apply Bool.toNat_eq_zero.mp
      omega
    exact underway.update_ended (served.of_finished finished).2 stopped fuel world

/-- A script that asks for a name and ends. -/
private def askForName : Script where
  commands := #[{
    id := "InputText"
    params := .record [
      ("variable", .record [("kind", .text "string"), ("index", .integer 0)]),
      ("letters", .integer 8)] }]
  instructions := #[some (.inputText { kind := .text, index := 0 } 8)]
  jumpTargets := #[none]

private def nameAsker : Activation :=
  { context := { id := "clerk" }, script := askForName }

/-- The run waits for the name, ends in the update behind the answer, and then stays as it is. -/
theorem nameAsker_finishes_once :
    ∃ thread, Served nameAsker [.running, .finished] thread ∧ thread.root.completions = 1 ∧
      ∀ fuel world, thread.update fuel world = some {
        progress := .running
        thread
        world := world.resetTemporaries nameAsker.context } := by
  have ran : (Thread.update { root := nameAsker.start } 1 .empty).any (fun asked =>
      decide (asked.progress = .running) &&
      (asked.thread.notify? asked.world (.inputSubmitted (.text "Ada"))).any (fun told =>
        (told.thread.update 0 told.world).any (fun ended =>
          decide (ended.progress = .finished)))) = true := by
    decide +kernel
  obtain ⟨asked, first, facts⟩ := (Option.any_eq_true _ _).mp ran
  obtain ⟨unfinished, facts⟩ := Bool.and_eq_true_iff.mp facts
  obtain ⟨told, accepted, facts⟩ := (Option.any_eq_true _ _).mp facts
  obtain ⟨ended, second, finished⟩ := (Option.any_eq_true _ _).mp facts
  have served : Served nameAsker ([] ++ [asked.progress] ++ [ended.progress]) ended.thread :=
    .update (.notify (.update .started first) accepted) second
  rw [of_decide_eq_true unfinished, of_decide_eq_true finished] at served
  obtain ⟨_, _, counted, _, still⟩ := served.finishes_once
  exact ⟨ended.thread, served, counted, still (by decide)⟩

end NovelEngine
