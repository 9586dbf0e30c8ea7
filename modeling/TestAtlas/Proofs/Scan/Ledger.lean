import TestAtlas.Proofs.Scan.Growth

/-!
A search as its collaborators see it. The ledger has every question that was put
to one of them together with the answer, in order, and what a search adds to its
progress can be read off it: the methods of the readers that came to their end,
a closing for every reader that was opened, and no error but those about a binary
and those that a collaborator reported.
-/

namespace TestAtlas

def Scanner.taken : Except Failure (List Symbol × List Symbol) → SymbolTable
  | .ok (tests, traits) => { tests, traits }
  | .error _ => {}

/-- A question to a collaborator, the answer, and what the collaborator had to say. -/
inductive Exchange (Reader : Type) where
  | located (binary : String) (extension? : Option String)
      (answer : Except Failure (Option String)) (remarks : List Entry)
  | opened (binary database : String) (answer : Except Failure Reader)
  | matched (pattern : String) (answer : Except Failure (List String)) (remarks : List Entry)
  | listed (binary : String) (answer : Except Failure (List String)) (remarks : List Entry)
  | looked (path : String) (isFile : Bool)

abbrev Ledger (Reader : Type) := List (Exchange Reader)

namespace Exchange

variable {m : Type → Type} {Reader : Type}

/-- The failure by which an answer ends the work of the one who asked. A reader that cannot be
opened ends nothing. -/
def breaks? : Exchange Reader → Option Failure
  | located _ _ (.error failure) _ => some failure
  | matched _ (.error failure) _ => some failure
  | listed _ (.error failure) _ => some failure
  | _ => none

def remarks : Exchange Reader → List Entry
  | located _ _ _ remarks => remarks
  | matched _ _ remarks => remarks
  | listed _ _ remarks => remarks
  | _ => []

/-- The binary and the database that a reader was asked for. -/
def opening? : Exchange Reader → Option (String × String)
  | opened binary database _ => some (binary, database)
  | _ => none

def entered? : Exchange Reader → Option String
  | opened _ database (.ok _) => some database
  | _ => none

/-- The methods of a reader, or none if one of its enumerations fails. -/
def batch (parties : Collaborators m Reader) : Exchange Reader → SymbolTable
  | opened _ _ (.ok reader) => Scanner.taken (Scanner.enumerate parties reader).1
  | _ => {}

end Exchange

namespace Ledger

variable {m : Type → Type} {Reader : Type} {parties : Collaborators m Reader}

def methods (parties : Collaborators m Reader) (ledger : Ledger Reader) : SymbolTable where
  tests := ledger.flatMap fun e => (e.batch parties).tests
  traits := ledger.flatMap fun e => (e.batch parties).traits

theorem methods_append (first second : Ledger Reader) :
    methods parties (first ++ second) = methods parties first ++ methods parties second := by
  simp only [methods, List.flatMap_append]
  rfl

theorem methods_singleton (exchange : Exchange Reader) :
    methods parties [exchange] = exchange.batch parties := by
  simp [methods]

/-- The only answer that ends the work is the last one, if any. -/
def Ends (trace : Ledger Reader) : Option Failure → Prop
  | none => ∀ e ∈ trace, e.breaks? = none
  | some failure => ∃ before last, trace = before ++ [last] ∧
      (∀ e ∈ before, e.breaks? = none) ∧ last.breaks? = some failure

theorem Ends.append {first second : Ledger Reader} {failure? : Option Failure}
    (h : first.Ends none) (h' : second.Ends failure?) : Ends (first ++ second) failure? := by
  cases failure? with
  | none =>
      intro e he
      cases List.mem_append.mp he with
      | inl he => exact h e he
      | inr he => exact h' e he
  | some failure =>
      obtain ⟨before, last, rfl, quiet, breaks⟩ := h'
      refine ⟨first ++ before, last, (List.append_assoc ..).symm, ?_, breaks⟩
      intro e he
      cases List.mem_append.mp he with
      | inl he => exact h e he
      | inr he => exact quiet e he

theorem ends_singleton (exchange : Exchange Reader) : Ends [exchange] exchange.breaks? := by
  cases breaks : exchange.breaks? with
  | none =>
      intro e he
      rw [List.mem_singleton.mp he, breaks]
  | some failure =>
      exact ⟨[], exchange, rfl, List.forall_mem_nil _, breaks⟩

end Ledger

def Event.closing? : Event → Option String
  | closed database => some database
  | _ => none

theorem closings_remarked (entries : List Entry) :
    (entries.map Event.remarked).filterMap Event.closing? = [] := by
  simp [Event.closing?]

theorem entries_remarked (entries : List Entry) :
    ({ events := entries.map .remarked } : Progress).entries = entries := by
  simp [Progress.entries, Function.comp_def, Event.entry?]

/-- An error that does not say which binary it is about. -/
def Entry.Unattached (entry : Entry) : Prop := entry.severity = .error ∧ entry.context = []

def failure? {α : Type} : Except Failure α → Option Failure
  | .ok _ => none
  | .error failure => some failure

/-- Collaborators over some world that they act on. -/
abbrev Parties (World Reader : Type) := Collaborators (StateM World) Reader

abbrev Watching (World Reader : Type) := StateT (Ledger Reader) (StateM World)

section

variable {World Reader α β : Type}

theorem run_bind {step : StateM World α} {next : α → StateM World β} {a : α}
    {world later : World} (h : step.run world = (a, later)) :
    (step >>= next).run world = (next a).run later := by
  rw [StateT.run_bind, h]
  rfl

theorem watching_bind {step : Watching World Reader α} {next : α → Watching World Reader β} {a : α}
    {ledger grown : Ledger Reader} {world later : World}
    (h : (step.run ledger).run world = ((a, grown), later)) :
    ((step >>= next).run ledger).run world = ((next a).run grown).run later := by
  rw [StateT.run_bind, StateT.run_bind, h]
  rfl

end

namespace Collaborators

variable {World Reader α : Type}

/-- Puts a question and enters it in the ledger. -/
def watch (entered : α → Exchange Reader) (question : StateM World α) : Watching World Reader α := do
  let answer ← (monadLift question : Watching World Reader α)
  modify (· ++ [entered answer])
  return answer

theorem run_watch (entered : α → Exchange Reader) (question : StateM World α)
    (ledger : Ledger Reader) (world : World) :
    ((watch entered question).run ledger).run world =
      (((question.run world).1, ledger ++ [entered (question.run world).1]),
        (question.run world).2) := rfl

def watched (parties : Parties World Reader) : Collaborators (Watching World Reader) Reader where
  locate binary extension? :=
    watch (fun answer => .located binary extension? answer.1 answer.2)
      (parties.locate binary extension?)
  openReader binary database :=
    watch (.opened binary database) (parties.openReader binary database)
  functions := parties.functions
  filesMatching pattern :=
    watch (fun answer => .matched pattern answer.1 answer.2) (parties.filesMatching pattern)
  importsOf binary :=
    watch (fun answer => .listed binary answer.1 answer.2) (parties.importsOf binary)
  isFile path := watch (.looked path) (parties.isFile path)

end Collaborators

/-- What a trace has to do with the progress that was made along it. -/
structure Accounts {World Reader : Type} (parties : Parties World Reader) (trace : Ledger Reader)
    (added : Progress) : Prop where
  table : added.table = trace.methods parties
  closings : added.events.filterMap Event.closing? = trace.filterMap Exchange.entered?
  errors : ∀ e ∈ added.entries, e.Unattached → e ∈ trace.flatMap Exchange.remarks
  genuine : ∀ binary database answer, .opened binary database answer ∈ trace →
    ∃ world, ((parties.openReader binary database).run world).1 = answer

namespace Accounts

variable {World Reader : Type} {parties : Parties World Reader}

theorem append {first second : Ledger Reader} {added more : Progress}
    (h : Accounts parties first added) (h' : Accounts parties second more) :
    Accounts parties (first ++ second) (added ++ more) where
  table := by
    rw [Progress.table_append, h.table, h'.table, Ledger.methods_append]
  closings := by
    rw [Progress.events_append, List.filterMap_append, List.filterMap_append, h.closings,
      h'.closings]
  errors := by
    intro e he unattached
    rw [Progress.entries_append, List.mem_append] at he
    rw [List.flatMap_append, List.mem_append]
    exact he.imp (h.errors e · unattached) (h'.errors e · unattached)
  genuine := by
    intro binary database answer asked
    cases List.mem_append.mp asked with
    | inl asked => exact h.genuine binary database answer asked
    | inr asked => exact h'.genuine binary database answer asked

/-- Saying something that is not an error adds nothing that has to be accounted for. -/
theorem said {entries : List Entry} (h : ∀ e ∈ entries, ¬ e.Unattached) :
    Accounts parties [] { events := entries.map .remarked } where
  table := rfl
  closings := closings_remarked entries
  errors := by
    intro e he unattached
    rw [entries_remarked] at he
    exact (h e he unattached).elim
  genuine := nofun

/-- An event that neither says anything nor closes a reader adds nothing either. -/
theorem noted {event : Event} (mute : event.entry? = none) (quiet : event.closing? = none) :
    Accounts parties [] { events := [event] } where
  table := rfl
  closings := by simp [quiet]
  errors := by
    intro e he
    simp [Progress.entries, mute] at he
  genuine := nofun

/-- A question that opens no reader adds what there is to say about it. -/
theorem asked (exchange : Exchange Reader)
    (h : ∀ binary database answer, exchange ≠ .opened binary database answer) :
    Accounts parties [exchange] { events := exchange.remarks.map .remarked } where
  table := by
    rw [Ledger.methods_singleton]
    cases exchange with
    | opened binary database answer => exact (h binary database answer rfl).elim
    | located _ _ _ _ | matched _ _ _ | listed _ _ _ | looked _ _ => rfl
  closings := by
    rw [closings_remarked]
    cases exchange with
    | opened binary database answer => exact (h binary database answer rfl).elim
    | located _ _ _ _ | matched _ _ _ | listed _ _ _ | looked _ _ => rfl
  errors := by
    intro e he _
    rw [entries_remarked] at he
    simpa using he
  genuine := by
    intro binary database answer asked
    exact (h binary database answer (List.mem_singleton.mp asked).symm).elim

end Accounts
end TestAtlas
