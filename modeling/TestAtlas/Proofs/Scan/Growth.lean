import Mathlib.Tactic.Choose
import TestAtlas.Scan.Scanner

/-!
Steps of a search only add to its progress, and what they add does not depend
on the progress that they start from. Both hold whatever the collaborators do,
and of failing steps as well.
-/

namespace TestAtlas

namespace SymbolTable

instance : Append SymbolTable where
  append table more :=
    { tests := table.tests ++ more.tests, traits := table.traits ++ more.traits }

@[simp] theorem tests_append (table more : SymbolTable) :
    (table ++ more).tests = table.tests ++ more.tests := rfl

@[simp] theorem traits_append (table more : SymbolTable) :
    (table ++ more).traits = table.traits ++ more.traits := rfl

theorem size_append (table more : SymbolTable) :
    (table ++ more).size = table.size + more.size := by
  simp only [size, tests_append, traits_append, List.length_append]
  omega

theorem append_assoc (table more most : SymbolTable) :
    table ++ more ++ most = table ++ (more ++ most) := by
  simp only [HAppend.hAppend, Append.append, mk.injEq]
  exact ⟨List.append_assoc .., List.append_assoc ..⟩

theorem append_empty (table : SymbolTable) : table ++ ({} : SymbolTable) = table := by
  cases table
  simp only [HAppend.hAppend, Append.append, mk.injEq]
  exact ⟨List.append_nil _, List.append_nil _⟩

end SymbolTable

namespace Progress

instance : Append Progress where
  append progress more :=
    { table := progress.table ++ more.table, events := progress.events ++ more.events }

@[simp] theorem table_append (progress more : Progress) :
    (progress ++ more).table = progress.table ++ more.table := rfl

@[simp] theorem events_append (progress more : Progress) :
    (progress ++ more).events = progress.events ++ more.events := rfl

@[simp] theorem entries_append (progress more : Progress) :
    (progress ++ more).entries = progress.entries ++ more.entries :=
  List.filterMap_append

theorem append_assoc (progress more most : Progress) :
    progress ++ more ++ most = progress ++ (more ++ most) := by
  change mk _ _ = mk _ _
  rw [mk.injEq]
  exact ⟨SymbolTable.append_assoc .., List.append_assoc ..⟩

theorem append_empty (progress : Progress) : progress ++ ({} : Progress) = progress := by
  cases progress
  change mk _ _ = mk _ _
  rw [mk.injEq]
  exact ⟨SymbolTable.append_empty _, List.append_nil _⟩

theorem record_eq_append (progress : Progress) (events : List Event) :
    progress.record events = progress ++ ({ events } : Progress) := by
  change mk _ _ = mk _ _
  rw [mk.injEq]
  exact ⟨(SymbolTable.append_empty _).symm, rfl⟩

theorem addMethods_eq_append (progress : Progress) (tests traits : List Symbol) :
    { progress with table := (progress.table.addTests tests).addTraits traits } =
      progress ++ ({ table := { tests, traits } } : Progress) := by
  change _ = mk _ _
  simp only [SymbolTable.addTests, SymbolTable.addTraits, List.append_nil]
  rfl

end Progress

namespace Search

variable {m : Type → Type} [Monad m] {α β : Type}

/-- From any progress the step has the outcomes of `increment` and adds what goes with them. -/
def Adds (step : Search m α) (increment : m (Except Failure α × Progress)) : Prop :=
  ∀ progress, step.run.run progress = (fun r => (r.1, progress ++ r.2)) <$> increment

/-- What the step does and adds is the same from any progress. -/
def Uniform (step : Search m α) : Prop := ∃ increment, Adds step increment

/-- What goes with a second step that is only made if the first one did not fail. -/
def continued (increments : α → m (Except Failure β × Progress)) :
    Except Failure α × Progress → m (Except Failure β × Progress)
  | (.ok a, added) => (fun r => (r.1, added ++ r.2)) <$> increments a
  | (.error failure, added) => Pure.pure (.error failure, added)

variable [LawfulMonad m]

theorem Uniform.pure (a : α) : Uniform (pure a : Search m α) :=
  ⟨Pure.pure (.ok a, {}), fun progress => by
    rw [map_pure, Progress.append_empty]
    rfl⟩

theorem Uniform.bind {step : Search m α} {next : α → Search m β} (first : Uniform step)
    (later : ∀ a, Uniform (next a)) : Uniform (step >>= next) := by
  obtain ⟨increment, adds⟩ := first
  choose increments addsLater using later
  refine ⟨increment >>= continued increments, fun progress => ?_⟩
  simp only [ExceptT.run_bind, StateT.run_bind, adds progress, bind_map_left, map_bind]
  congr 1
  funext r
  obtain ⟨outcome, added⟩ := r
  cases outcome with
  | error e => simp only [continued, StateT.run_pure, map_pure]
  | ok a =>
      rw [continued, addsLater a (progress ++ added)]
      simp only [Functor.map_map, Progress.append_assoc]

theorem Uniform.throw (failure : Failure) : Uniform (throw failure : Search m α) :=
  ⟨Pure.pure (.error failure, {}), fun progress => by
    rw [map_pure, Progress.append_empty]
    rfl⟩

theorem Uniform.lift (action : m α) :
    Uniform (monadLift (monadLift action : StateT Progress m α) : Search m α) :=
  ⟨(fun a => (.ok a, {})) <$> action, fun progress => by
    simp only [Functor.map_map, Progress.append_empty]
    simp⟩

theorem run_modify (f : Progress → Progress) (progress : Progress) :
    (modify f : Search m Unit).run.run progress = Pure.pure (.ok (), f progress) := by
  change (ExceptT.lift
    (MonadState.modifyGet fun s => ((), f s) : StateT Progress m Unit)).run.run progress = _
  simp

theorem run_lift (action : m α) (progress : Progress) :
    (monadLift (monadLift action : StateT Progress m α) : Search m α).run.run progress =
      (fun a => (.ok a, progress)) <$> action := by
  simp

theorem run_remark (entries : List Entry) (progress : Progress) :
    (Search.remark entries : Search m Unit).run.run progress =
      Pure.pure (.ok (), progress.record (entries.map .remarked)) :=
  run_modify _ _

theorem run_ask (party : m (Except Failure α × List Entry)) (progress : Progress) :
    (Search.ask party).run.run progress =
      (fun r => (r.1, progress.record (r.2.map .remarked))) <$> party := by
  rw [Search.ask]
  simp only [ExceptT.run_bind, StateT.run_bind, run_lift, bind_map_left]
  rw [map_eq_pure_bind]
  congr 1
  funext (outcome, entries)
  simp only [run_remark, pure_bind]
  cases outcome <;> rfl

/-- Adding a fixed progress is uniform. -/
theorem Uniform.modify {f : Progress → Progress} {added : Progress}
    (h : ∀ progress, f progress = progress ++ added) :
    Uniform (modify f : Search m Unit) :=
  ⟨Pure.pure (.ok (), added), fun progress => by rw [run_modify, h, map_pure]⟩

theorem Uniform.emit (events : List Event) : Uniform (Search.emit events : Search m Unit) :=
  .modify fun progress => progress.record_eq_append events

theorem Uniform.remark (entries : List Entry) : Uniform (Search.remark entries : Search m Unit) :=
  .emit _

theorem Uniform.ask (party : m (Except Failure α × List Entry)) : Uniform (Search.ask party) := by
  refine .bind (.lift party) fun ⟨outcome, entries⟩ => .bind (.remark entries) fun _ => ?_
  cases outcome with
  | ok a => exact .pure a
  | error failure => exact .throw failure

theorem Uniform.forM {step : α → Search m Unit} (uniform : ∀ a, Uniform (step a)) (list : List α) :
    Uniform (list.forM step) := by
  induction list with
  | nil => exact .pure ()
  | cons a rest ih => exact .bind (uniform a) fun _ => ih

variable {Reader : Type}

theorem Uniform.scanWith (parties : Collaborators m Reader) (binary database : String) :
    Uniform (Scanner.scanWith parties binary database) := by
  refine .bind (.lift _) fun ⟨outcome, events⟩ => .bind (.emit events) fun _ => ?_
  cases outcome with
  | error failure => exact .bind (.remark _) fun _ => .pure 0
  | ok found =>
      have adds (progress : Progress) := progress.addMethods_eq_append found.1 found.2
      exact .bind (.modify adds) fun _ => .bind (.remark _) fun _ => .pure _

theorem Uniform.scan (parties : Collaborators m Reader) (extension? : Option String)
    (binary : String) (database? : Option String) :
    Uniform (Scanner.scan parties extension? binary database?) := by
  cases database? with
  | some database => exact .scanWith parties binary database
  | none =>
      refine .bind (.ask _) fun found? => ?_
      cases found? with
      | some database => exact .scanWith parties binary database
      | none => exact .bind (.remark _) fun _ => .pure 0

end Search
end TestAtlas
