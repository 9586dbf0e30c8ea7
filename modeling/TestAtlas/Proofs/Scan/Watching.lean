import TestAtlas.Proofs.Scan.Ledger

/-!
Steps of a search with and without observation. A step under observation does
what it does without, and the ledger grows by a trace that accounts for the
progress.
-/

namespace TestAtlas
namespace Search

variable {World Reader α β : Type} {parties : Parties World Reader}

/-- From any state, the step and the same step under observation end alike, and the trace that is
added to the ledger accounts for what is added to the progress and takes the given course. -/
def Follows (parties : Parties World Reader) (plain : Search (StateM World) α)
    (watched : Search (Watching World Reader) α)
    (course : Ledger Reader → Except Failure α → Prop) : Prop :=
  ∀ progress ledger world, ∃ trace outcome added later,
    (plain.run.run progress).run world = ((outcome, progress ++ added), later) ∧
    ((watched.run.run progress).run ledger).run world =
      (((outcome, progress ++ added), ledger ++ trace), later) ∧
    Accounts parties trace added ∧ trace.Ends (failure? outcome) ∧ course trace outcome

/-- Steps one after another: all of them are made, or one fails and those after it are not. -/
inductive Sequence (course : α → Ledger Reader → Except Failure Unit → Prop) :
    List α → Ledger Reader → Except Failure Unit → Prop
  | nil : Sequence course [] [] (.ok ())
  | stop {a : α} {trace : Ledger Reader} {failure : Failure} (rest : List α)
      (h : course a trace (.error failure)) : Sequence course (a :: rest) trace (.error failure)
  | cons {a : α} {rest : List α} {first second : Ledger Reader} {outcome : Except Failure Unit}
      (h : course a first (.ok ())) (h' : Sequence course rest second outcome) :
      Sequence course (a :: rest) (first ++ second) outcome

namespace Follows

variable {plain : Search (StateM World) α} {watched : Search (Watching World Reader) α}

theorem mono {course wider : Ledger Reader → Except Failure α → Prop}
    (h : Follows parties plain watched course)
    (le : ∀ trace outcome, course trace outcome → wider trace outcome) :
    Follows parties plain watched wider := by
  intro progress ledger world
  obtain ⟨trace, outcome, added, later, ran, ran', accounts, ends, took⟩ :=
    h progress ledger world
  exact ⟨trace, outcome, added, later, ran, ran', accounts, ends, le _ _ took⟩

protected theorem pure (a : α) :
    Follows parties (pure a) (pure a) fun trace outcome => trace = [] ∧ outcome = .ok a := by
  intro progress ledger world
  refine ⟨[], .ok a, {}, world, ?_, ?_, .said (List.forall_mem_nil _), List.forall_mem_nil _,
    rfl, rfl⟩
  · rw [Progress.append_empty]
    rfl
  · rw [Progress.append_empty, List.append_nil]
    rfl

/-- One step after another: the first one fails, or the second goes on from where it ended. -/
protected theorem bind {course : Ledger Reader → Except Failure α → Prop}
    {next : α → Search (StateM World) β} {next' : α → Search (Watching World Reader) β}
    {courses : α → Ledger Reader → Except Failure β → Prop}
    {whole : Ledger Reader → Except Failure β → Prop}
    (h : Follows parties plain watched course)
    (h' : ∀ a, Follows parties (next a) (next' a) (courses a))
    (fails : ∀ trace failure, course trace (.error failure) → whole trace (.error failure))
    (goes : ∀ first a second outcome, course first (.ok a) → courses a second outcome →
      whole (first ++ second) outcome) :
    Follows parties (plain >>= next) (watched >>= next') whole := by
  intro progress ledger world
  obtain ⟨trace, outcome, added, later, ran, ran', accounts, ends, took⟩ :=
    h progress ledger world
  cases outcome with
  | error failure =>
      refine ⟨trace, .error failure, added, later, ?_, ?_, accounts, ends, fails _ _ took⟩
      · simp only [ExceptT.run_bind, StateT.run_bind, ran]
        rfl
      · simp only [ExceptT.run_bind, StateT.run_bind, ran']
        rfl
  | ok a =>
      obtain ⟨trace', outcome, more, last, went, went', accounts', ends', took'⟩ :=
        h' a (progress ++ added) (ledger ++ trace) later
      rw [Progress.append_assoc] at went went'
      rw [List.append_assoc] at went'
      refine ⟨trace ++ trace', outcome, added ++ more, last, ?_, ?_, accounts.append accounts',
        ends.append ends', goes _ _ _ _ took took'⟩
      · simp only [ExceptT.run_bind, StateT.run_bind, ran]
        exact went
      · simp only [ExceptT.run_bind, StateT.run_bind, ran']
        exact went'

theorem emit {events : List Event} (h : Accounts parties [] { events }) :
    Follows parties (Search.emit events) (Search.emit events) fun trace outcome =>
      trace = [] ∧ outcome = .ok () := by
  intro progress ledger world
  refine ⟨[], .ok (), { events }, world, ?_, ?_, h, List.forall_mem_nil _, rfl, rfl⟩
  · rw [← Progress.record_eq_append]
    rfl
  · rw [← Progress.record_eq_append, List.append_nil]
    rfl

theorem remark {entries : List Entry} (h : ∀ e ∈ entries, ¬ e.Unattached) :
    Follows parties (Search.remark entries) (Search.remark entries) fun trace outcome =>
      trace = [] ∧ outcome = .ok () :=
  emit (.said h)

/-- An event before a step is no part of its course. -/
theorem emit_bind {events : List Event} (h : Accounts parties [] { events })
    {next : Unit → Search (StateM World) β} {next' : Unit → Search (Watching World Reader) β}
    {course : Ledger Reader → Except Failure β → Prop}
    (h' : ∀ a, Follows parties (next a) (next' a) course) :
    Follows parties (Search.emit events >>= next) (Search.emit events >>= next') course := by
  refine (emit h).bind h' nofun ?_
  rintro _ _ trace outcome ⟨rfl, -⟩ took
  exact took

/-- A step that puts one question and goes on by itself once it has the answer. -/
theorem once {question : StateM World α} {entered : α → Exchange Reader}
    {next : α → Search (StateM World) β} {next' : α → Search (Watching World Reader) β}
    {course : Ledger Reader → Except Failure β → Prop}
    (h : ∀ answer, (∃ world, (question.run world).1 = answer) → ∃ outcome added,
      (∀ progress, (next answer).run.run progress = pure (outcome, progress ++ added)) ∧
      (∀ progress, (next' answer).run.run progress = pure (outcome, progress ++ added)) ∧
      Accounts parties [entered answer] added ∧
      (entered answer).breaks? = failure? outcome ∧ course [entered answer] outcome) :
    Follows parties (monadLift (monadLift question : StateT Progress (StateM World) α) >>= next)
      (monadLift (monadLift (Collaborators.watch entered question) :
        StateT Progress (Watching World Reader) α) >>= next') course := by
  intro progress ledger world
  obtain ⟨outcome, added, ran, ran', accounts, breaks, took⟩ :=
    h (question.run world).1 ⟨world, rfl⟩
  refine ⟨[entered (question.run world).1], outcome, added, (question.run world).2, ?_, ?_,
    accounts, breaks ▸ Ledger.ends_singleton _, took⟩
  · change ((next (question.run world).1).run.run progress).run (question.run world).2 = _
    rw [ran]
    rfl
  · change (((next' (question.run world).1).run.run progress).run
      (ledger ++ [entered (question.run world).1])).run (question.run world).2 = _
    rw [ran']
    rfl

theorem ask (exchange : Except Failure α → List Entry → Exchange Reader)
    (question : StateM World (Except Failure α × List Entry))
    (h : ∀ answer remarks, Accounts parties [exchange answer remarks]
      { events := remarks.map .remarked })
    (breaks : ∀ answer remarks, (exchange answer remarks).breaks? = failure? answer) :
    Follows parties (Search.ask question)
      (Search.ask (Collaborators.watch (fun answer => exchange answer.1 answer.2) question))
      fun trace outcome => ∃ remarks, trace = [exchange outcome remarks] := by
  refine once fun answer _ => ?_
  obtain ⟨outcome, remarks⟩ := answer
  refine ⟨outcome, { events := remarks.map .remarked }, ?_, ?_, h outcome remarks,
    breaks outcome remarks, remarks, rfl⟩
  · intro progress
    rw [← Progress.record_eq_append]
    cases outcome <;> rfl
  · intro progress
    rw [← Progress.record_eq_append]
    cases outcome <;> rfl

theorem locate (binary : String) (extension? : Option String) :
    Follows parties (Search.ask (parties.locate binary extension?))
      (Search.ask (parties.watched.locate binary extension?))
      fun trace outcome => ∃ remarks, trace = [.located binary extension? outcome remarks] := by
  refine ask (.located binary extension?) _ (fun _ _ => .asked _ nofun) ?_
  intro answer remarks
  cases answer <;> rfl

theorem matching (pattern : String) :
    Follows parties (Search.ask (parties.filesMatching pattern))
      (Search.ask (parties.watched.filesMatching pattern))
      fun trace outcome => ∃ remarks, trace = [.matched pattern outcome remarks] := by
  refine ask (.matched pattern) _ (fun _ _ => .asked _ nofun) ?_
  intro answer remarks
  cases answer <;> rfl

theorem list (binary : String) :
    Follows parties (Search.ask (parties.importsOf binary))
      (Search.ask (parties.watched.importsOf binary))
      fun trace outcome => ∃ remarks, trace = [.listed binary outcome remarks] := by
  refine ask (.listed binary) _ (fun _ _ => .asked _ nofun) ?_
  intro answer remarks
  cases answer <;> rfl

theorem look (path : String) :
    Follows parties
      (monadLift (monadLift (parties.isFile path) : StateT Progress (StateM World) Bool))
      (monadLift (monadLift (parties.watched.isFile path) :
        StateT Progress (Watching World Reader) Bool))
      fun trace outcome => ∃ isFile, trace = [.looked path isFile] ∧ outcome = .ok isFile := by
  rw [← bind_pure (monadLift (monadLift (parties.isFile path) : StateT _ (StateM World) _)),
    ← bind_pure (monadLift (monadLift (parties.watched.isFile path) : StateT _ _ _))]
  refine once fun isFile _ =>
    ⟨.ok isFile, {}, ?_, ?_, .asked (.looked path isFile) nofun, rfl, isFile, rfl, rfl⟩
  · intro progress
    rw [Progress.append_empty]
    rfl
  · intro progress
    rw [Progress.append_empty]
    rfl

theorem forM {step : α → Search (StateM World) Unit}
    {step' : α → Search (Watching World Reader) Unit}
    {course : α → Ledger Reader → Except Failure Unit → Prop}
    (h : ∀ a, Follows parties (step a) (step' a) (course a)) (list : List α) :
    Follows parties (list.forM step) (list.forM step') (Sequence course list) := by
  induction list with
  | nil =>
      refine (Follows.pure ()).mono ?_
      rintro _ _ ⟨rfl, rfl⟩
      exact .nil
  | cons a rest ih =>
      refine (h a).bind (fun _ => ih) ?_ ?_
      · intro trace failure took
        exact .stop rest took
      · intro first _ second outcome took took'
        exact .cons took took'

end Follows
end Search
end TestAtlas
