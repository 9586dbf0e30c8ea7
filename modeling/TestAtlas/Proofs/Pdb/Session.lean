import TestAtlas.Pdb.Session

/-!
What the operations of a session come to, as functions of the container and of
the string table that the session answers with. An operation changes a session
only by what it remembers and by the remarks that it adds.
-/

namespace TestAtlas
namespace Pdb
namespace Session

open CodeView (Procedure LineEntry)

variable {α β : Type} {container : Container} {session : Session}

/-- The result of an operation and the session that it leaves. -/
def exec (op : Op α) (session : Session) : Except Error α × Session := op.run.run session

@[simp] theorem exec_pure (a : α) (session : Session) :
    exec (pure a) session = (.ok a, session) := rfl

theorem exec_bind (op : Op α) (next : α → Op β) (session : Session) :
    exec (op >>= next) session =
      match exec op session with
      | (.ok a, later) => exec (next a) later
      | (.error e, later) => (.error e, later) := by
  simp only [exec, ExceptT.run_bind, StateT.run_bind]
  rcases op.run.run session with ⟨_ | _, later⟩ <;> rfl

@[simp] theorem exec_get (session : Session) :
    exec get session = (.ok session, session) := rfl

@[simp] theorem exec_modify (f : Session → Session) (session : Session) :
    exec (modify f) session = (.ok (), f session) := rfl

@[simp] theorem exec_liftExcept (result : Except Error α) (session : Session) :
    exec (monadLift result : Op α) session = (result, session) := by
  cases result <;> rfl

/-- The session is open on a container and remembers no modules but those of the container. -/
structure On (container : Container) (session : Session) : Prop where
  opened : session.container = some container
  modules : ∀ found, session.modules = some found → Module.all container = .ok found

theorem exec_opened (on : session.On container) :
    exec opened session = (.ok container, session) := by
  simp only [opened, exec_bind, exec_get]
  rw [on.opened]
  rfl

theorem exec_getModules (on : session.On container) :
    exec getModules session =
      (Module.all container, { session with modules := (Module.all container).toOption }) := by
  simp only [getModules, exec_bind, exec_get]
  cases kept : session.modules with
  | some found =>
      rw [on.modules found kept]
      simp only [exec_pure, Except.toOption, ← kept]
  | none =>
      simp only [exec_bind, exec_opened on, exec_liftExcept]
      cases Module.all container with
      | ok found => rfl
      | error e => simp only [Except.toOption, ← kept]

theorem exec_getNamedStreams (on : session.On container) :
    exec getNamedStreams session = (NamedStreams.all container, session) := by
  simp only [getNamedStreams, exec_bind, exec_opened on, exec_liftExcept]

theorem exec_getStream (on : session.On container) (index : Int) :
    exec (getStream index) session = (container.stream index, session) := by
  simp only [getStream, exec_bind, exec_opened on, exec_liftExcept]

/-- The string table that a session answers with: the one it keeps, or else what the container
gives. -/
def table (container : Container) (session : Session) : Except Error StringTable :=
  match session.strings with
  | some strings => .ok strings
  | none => StringTable.load container

def settled (container : Container) (session : Session) : Session :=
  { session with strings := some ((table container session).toOption.getD []) }

theorem table_settled {strings : StringTable} (h : table container session = .ok strings) :
    table container (settled container session) = .ok strings := by
  rw [settled, h]
  rfl

theorem exec_getStrings (on : session.On container) :
    exec getStrings session = (table container session, settled container session) := by
  simp only [getStrings, exec_bind, exec_get]
  cases kept : session.strings with
  | some strings =>
      have same : settled container session = session := by
        cases session
        cases kept
        rfl
      rw [same, table, kept]
      rfl
  | none =>
      have on' : On container { session with strings := some [] } := ⟨on.opened, on.modules⟩
      simp only [exec_bind, exec_modify, exec_opened on', exec_liftExcept, table, settled, kept]
      cases StringTable.load container <;> rfl

def refersToStrings (module : Module) (procedure : Procedure) : Bool :=
  match LineEntry.forProcedure? module.info.lines procedure with
  | none => false
  | some entry => (module.info.checksums.find? entry.fileId).isSome

def lineless (path : String) (procedure : Procedure) : Entry :=
  .searchWarning s!"Could not find source location of symbol '{procedure.name}' in '{path}'"

/-- The symbol of a procedure and the remarks on it, with the string table as given. -/
def symbolWith (strings : Except Error StringTable) (path : String) (module : Module)
    (procedure : Procedure) : Except Error Symbol × List Entry :=
  match LineEntry.forProcedure? module.info.lines procedure with
  | none => (.ok { name := procedure.name }, [lineless path procedure])
  | some entry =>
      match module.info.checksums.find? entry.fileId with
      | none => (.ok { name := procedure.name, line := entry.line }, [])
      | some offset =>
          (strings.map fun table =>
            { name := procedure.name, file := Utf8.decodeAt table offset, line := entry.line }, [])

/-- The session with further remarks, and asked for its string table if that was looked at. -/
def grown (container : Container) (said : List Entry) (looked : Bool) (session : Session) :
    Session :=
  let later := if looked then settled container session else session
  { later with remarks := session.remarks ++ said }

theorem exec_symbol (on : session.On container) (module : Module) (procedure : Procedure) :
    exec (symbol module procedure) session =
      ((symbolWith (table container session) session.path module procedure).1,
        grown container (symbolWith (table container session) session.path module procedure).2
          (refersToStrings module procedure) session) := by
  cases found : LineEntry.forProcedure? module.info.lines procedure with
  | none =>
      simp only [symbol, symbolWith, refersToStrings, found, exec_bind, exec_modify, exec_pure]
      rfl
  | some entry =>
      simp only [symbol, symbolWith, refersToStrings, found, fileName, exec_bind]
      cases named : module.info.checksums.find? entry.fileId with
      | none => simp [grown]
      | some offset =>
          simp only [exec_bind, exec_getStrings on, exec_pure]
          cases table container session <;> simp [Except.map, grown, settled]

@[simp] theorem grown_container (said : List Entry) (looked : Bool) :
    (grown container said looked session).container = session.container := by
  cases looked <;> rfl

@[simp] theorem grown_modules (said : List Entry) (looked : Bool) :
    (grown container said looked session).modules = session.modules := by
  cases looked <;> rfl

@[simp] theorem grown_path (said : List Entry) (looked : Bool) :
    (grown container said looked session).path = session.path := by
  cases looked <;> rfl

theorem On.grown (on : session.On container) (said : List Entry) (looked : Bool) :
    (grown container said looked session).On container :=
  ⟨by simpa using on.opened, by simpa using on.modules⟩

theorem grown_nil (session : Session) : grown container [] false session = session := by
  simp [grown]

theorem grown_grown (said more : List Entry) (looked again : Bool) (session : Session) :
    grown container more again (grown container said looked session) =
      grown container (said ++ more) (looked || again) session := by
  cases looked <;> cases again <;> simp [grown, settled, table, Except.toOption]

/-- Looking at the string table only fixes what it is. -/
theorem table_grown {said : List Entry} {looked : Bool} {strings : StringTable}
    (h : table container session = .ok strings) :
    table container (grown container said looked session) = .ok strings := by
  cases looked
  · exact h
  · exact table_settled h

theorem symbolWith_of_not_refers {module : Module} {procedure : Procedure}
    (h : refersToStrings module procedure = false) (path : String) :
    ∃ symbol said, ∀ strings, symbolWith strings path module procedure = (.ok symbol, said) := by
  simp only [refersToStrings, symbolWith] at h ⊢
  split at h
  · exact ⟨_, _, fun _ => rfl⟩
  · rw [Option.isSome_eq_false_iff, Option.isNone_iff_eq_none] at h
    simp only [h]
    exact ⟨_, _, fun _ => rfl⟩

/-- The symbol of a procedure that refers to the string table fails as the table does. -/
theorem symbolWith_of_refers {module : Module} {procedure : Procedure}
    (h : refersToStrings module procedure = true) (path : String) :
    ∃ symbol : StringTable → Symbol,
      ∀ strings, symbolWith strings path module procedure = (strings.map symbol, []) := by
  simp only [refersToStrings, symbolWith] at h ⊢
  split at h
  · cases h
  · rename_i entry found
    obtain ⟨offset, named⟩ := Option.isSome_iff_exists.mp h
    simp only [named]
    exact ⟨_, fun _ => rfl⟩

/-- The symbols of procedures, up to the first that has none, and the remarks on them. -/
def symbolsWith (strings : Except Error StringTable) (path : String) :
    List (Module × Procedure) → Except Error (List Symbol) × List Entry
  | [] => (.ok [], [])
  | (module, procedure) :: rest =>
      match symbolWith strings path module procedure with
      | (.error e, said) => (.error e, said)
      | (.ok symbol, said) =>
          ((symbolsWith strings path rest).1.map (symbol :: ·),
            said ++ (symbolsWith strings path rest).2)

def referToStrings (pairs : List (Module × Procedure)) : Bool :=
  pairs.any fun pair => refersToStrings pair.1 pair.2

theorem exec_mapM_symbol (on : session.On container) (pairs : List (Module × Procedure)) :
    exec (pairs.mapM fun (module, procedure) => symbol module procedure) session =
      ((symbolsWith (table container session) session.path pairs).1,
        grown container (symbolsWith (table container session) session.path pairs).2
          (referToStrings pairs) session) := by
  induction pairs generalizing session with
  | nil => simp [symbolsWith, referToStrings, grown_nil]
  | cons pair rest ih =>
      obtain ⟨module, procedure⟩ := pair
      simp only [List.mapM_cons, exec_bind, exec_symbol on, symbolsWith, referToStrings,
        List.any_cons]
      cases refers : refersToStrings module procedure with
      | false =>
          obtain ⟨found, said, plain⟩ := symbolWith_of_not_refers refers session.path
          have same : table container (grown container said false session) =
              table container session := rfl
          simp only [plain, ih (on.grown said false), same, grown_path, grown_grown]
          cases (symbolsWith (table container session) session.path rest).1 <;> rfl
      | true =>
          obtain ⟨found, plain⟩ := symbolWith_of_refers refers session.path
          simp only [plain]
          cases answered : table container session with
          | error e => simp [Except.map]
          | ok strings =>
              simp only [Except.map, ih (on.grown [] true), table_grown answered, grown_path,
                grown_grown]
              cases (symbolsWith (.ok strings) session.path rest).1 <;> rfl

theorem symbolsWith_ok (strings : StringTable) (path : String)
    (pairs : List (Module × Procedure)) :
    ∃ found, (symbolsWith (.ok strings) path pairs).1 = .ok found := by
  induction pairs with
  | nil => exact ⟨[], rfl⟩
  | cons pair rest ih =>
      obtain ⟨module, procedure⟩ := pair
      obtain ⟨later, answered⟩ := ih
      cases refers : refersToStrings module procedure with
      | false =>
          obtain ⟨found, said, plain⟩ := symbolWith_of_not_refers refers path
          exact ⟨found :: later, by simp only [symbolsWith, plain, answered, Except.map]⟩
      | true =>
          obtain ⟨found, plain⟩ := symbolWith_of_refers refers path
          exact ⟨found strings :: later, by simp only [symbolsWith, plain, answered, Except.map]⟩

theorem symbolsWith_error (e : Error) (path : String) (pairs : List (Module × Procedure))
    (h : referToStrings pairs = true) : (symbolsWith (.error e) path pairs).1 = .error e := by
  induction pairs with
  | nil => cases h
  | cons pair rest ih =>
      obtain ⟨module, procedure⟩ := pair
      simp only [referToStrings, List.any_cons] at h ih
      cases refers : refersToStrings module procedure with
      | false =>
          obtain ⟨found, said, plain⟩ := symbolWith_of_not_refers refers path
          rw [refers, Bool.false_or] at h
          simp only [symbolsWith, plain, ih h, Except.map]
      | true =>
          obtain ⟨found, plain⟩ := symbolWith_of_refers refers path
          simp only [symbolsWith, plain, Except.map]

theorem symbolsWith_of_not_refer (strings other : Except Error StringTable) (path : String)
    (pairs : List (Module × Procedure)) (h : referToStrings pairs = false) :
    symbolsWith strings path pairs = symbolsWith other path pairs := by
  induction pairs with
  | nil => rfl
  | cons pair rest ih =>
      obtain ⟨module, procedure⟩ := pair
      simp only [referToStrings, List.any_cons, Bool.or_eq_false_iff] at h ih
      obtain ⟨found, said, plain⟩ := symbolWith_of_not_refers h.1 path
      simp only [symbolsWith, plain, ih h.2]

theorem exec_functions (on : session.On container) (pattern : String) :
    exec (functions pattern) session =
      match Module.all container with
      | .error e => (.error e, { session with modules := none })
      | .ok found =>
          let answer := symbolsWith (table container session) session.path (matching pattern found)
          (answer.1, grown container answer.2 (referToStrings (matching pattern found))
            { session with modules := some found }) := by
  simp only [functions, exec_bind, exec_getModules on]
  cases parsed : Module.all container with
  | error e => rfl
  | ok found =>
      have on' : On container { session with modules := some found } :=
        ⟨on.opened, fun _ h => by cases h; exact parsed⟩
      simp only [Except.toOption, exec_mapM_symbol on']
      rfl

/-- A session that was just opened on a container. -/
def fresh (path : String) (container : Container) : Session :=
  { path, container := some container }

theorem exec_openFile (path : String) {file : Array UInt8}
    (h : Container.parse file = .ok container) :
    exec (openFile file) { path } = (.ok (), fresh path container) := by
  simp only [openFile, h]
  rfl

theorem on_fresh (path : String) (container : Container) : (fresh path container).On container :=
  ⟨rfl, fun _ h => by cases h⟩

end Session
end Pdb
end TestAtlas
