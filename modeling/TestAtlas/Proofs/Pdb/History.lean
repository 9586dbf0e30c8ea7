import TestAtlas.Proofs.Pdb.Session

/-!
Which answers of an open session depend on what was asked before. A session
gives the answers of a freshly opened one with a single exception: once a string
table that cannot be read has been looked at, it counts as empty, and queries
that look at it again are answered instead of failing.
-/

namespace TestAtlas
namespace Pdb

open CodeView (Procedure)

inductive Query where
  | modules
  | functions (pattern : String)
  | namedStreams
  | strings
  | stream (index : Int)
  deriving DecidableEq, Repr

inductive Answer where
  | modules (found : List Module)
  | functions (found : List Symbol)
  | namedStreams (map : NamedStreams)
  | strings (table : StringTable)
  | stream (bytes : Bytes)
  deriving DecidableEq, Repr

/-- An answer or the reason why there is none, and what was said on the way. -/
abbrev Outcome := Except Error Answer × List Entry

namespace Query

def perform : Query → Session.Op Answer
  | modules => return .modules (← Session.getModules)
  | functions pattern => return .functions (← Session.functions pattern)
  | namedStreams => return .namedStreams (← Session.getNamedStreams)
  | strings => return .strings (← Session.getStrings)
  | stream index => return .stream (← Session.getStream index)

/-- Whether a query looks at the string table of a container. -/
def needsStrings (container : Container) : Query → Bool
  | functions pattern =>
      match Module.all container with
      | .error _ => false
      | .ok found => Session.referToStrings (Session.matching pattern found)
  | strings => true
  | modules | namedStreams | stream _ => false

/-- The outcome on a container, with the string table as given. -/
def outcome (container : Container) (strings : Except Error StringTable) (path : String) :
    Query → Outcome
  | modules => ((Module.all container).map .modules, [])
  | functions pattern =>
      match Module.all container with
      | .error e => (.error e, [])
      | .ok found =>
          let answer := Session.symbolsWith strings path (Session.matching pattern found)
          (answer.1.map .functions, answer.2)
  | namedStreams => ((NamedStreams.all container).map .namedStreams, [])
  | .strings => (strings.map .strings, [])
  | stream index => ((container.stream index).map .stream, [])

theorem outcome_of_not_needsStrings {container : Container} {query : Query}
    (h : query.needsStrings container = false) (strings other : Except Error StringTable)
    (path : String) :
    query.outcome container strings path = query.outcome container other path := by
  cases query with
  | modules | namedStreams | stream _ => rfl
  | strings => cases h
  | functions pattern =>
      simp only [needsStrings] at h
      simp only [outcome]
      split
      · rfl
      · rename_i found parsed
        rw [parsed] at h
        rw [Session.symbolsWith_of_not_refer strings other path _ h]

/-- A query that looks at the string table fails if the table does. -/
theorem outcome_error {container : Container} {query : Query}
    (h : query.needsStrings container = true) (e : Error) (path : String) :
    (query.outcome container (.error e) path).1 = .error e := by
  cases query with
  | modules | namedStreams | stream _ => cases h
  | strings => rfl
  | functions pattern =>
      simp only [needsStrings] at h
      simp only [outcome]
      split at h
      · cases h
      · rename_i found parsed
        simp only [Session.symbolsWith_error e path _ h, Except.map]

/-- A query that looks at the string table is answered if the table is there. -/
theorem outcome_ok {container : Container} {query : Query}
    (h : query.needsStrings container = true) (strings : StringTable) (path : String) :
    ∃ answer, (query.outcome container (.ok strings) path).1 = .ok answer := by
  cases query with
  | modules | namedStreams | stream _ => cases h
  | strings => exact ⟨.strings strings, rfl⟩
  | functions pattern =>
      simp only [needsStrings] at h
      simp only [outcome]
      split at h
      · cases h
      · rename_i found parsed
        obtain ⟨symbols, answered⟩ :=
          Session.symbolsWith_ok strings path (Session.matching pattern found)
        exact ⟨.functions symbols, by simp only [answered, Except.map]⟩

end Query

namespace Session

/-- A query with its outcome, and the session that it leaves. -/
def ask (query : Query) (session : Session) : Outcome × Session :=
  let (answer, later) := exec query.perform { session with remarks := [] }
  ((answer, later.remarks), later)

def askAll (history : List Query) (session : Session) : Session :=
  history.foldl (fun session query => (ask query session).2) session

variable {container : Container} {session : Session}

/-- A query does on a session what it does with the session's string table, and of what later
queries depend on it only fixes that table. -/
structure Asked (container : Container) (session : Session) (query : Query) : Prop where
  outcome : (ask query session).1 =
    query.outcome container (table container session) session.path
  on : (ask query session).2.On container
  path : (ask query session).2.path = session.path
  strings : (ask query session).2.strings =
    if query.needsStrings container then (settled container session).strings
    else session.strings

theorem Asked.of_eq {query : Query} {later : Session}
    (h : ask query session =
      (query.outcome container (table container session) session.path, later))
    (on : later.On container) (path : later.path = session.path)
    (strings : later.strings =
      if query.needsStrings container then (settled container session).strings
      else session.strings) : Asked container session query := by
  constructor <;> rw [h]
  · exact on
  · exact path
  · exact strings

theorem asked_modules (on : session.On container) : Asked container session .modules := by
  have on' : On container { session with remarks := [] } := ⟨on.opened, on.modules⟩
  have answer : ask .modules session =
      (Query.outcome container (table container session) session.path .modules,
        { session with remarks := [], modules := (Module.all container).toOption }) := by
    simp only [ask, Query.perform, exec_bind, exec_getModules on', Query.outcome]
    cases Module.all container <;> rfl
  refine .of_eq answer ⟨on.opened, fun found kept => ?_⟩ rfl rfl
  cases parsed : Module.all container with
  | error e => rw [parsed] at kept; cases kept
  | ok modules => rw [parsed] at kept; cases kept; rfl

theorem asked_functions (on : session.On container) (pattern : String) :
    Asked container session (.functions pattern) := by
  have on' : On container { session with remarks := [] } := ⟨on.opened, on.modules⟩
  have same : table container { session with remarks := [] } = table container session := rfl
  cases parsed : Module.all container with
  | error e =>
      have answer : ask (.functions pattern) session =
          (Query.outcome container (table container session) session.path (.functions pattern),
            { session with remarks := [], modules := none }) := by
        simp only [ask, Query.perform, exec_bind, exec_functions on', Query.outcome, parsed]
      have plain : Query.needsStrings container (.functions pattern) = false := by
        simp only [Query.needsStrings, parsed]
      refine .of_eq answer ⟨on.opened, fun _ kept => by cases kept⟩ rfl ?_
      rw [plain]
      rfl
  | ok found =>
      have known : On container { session with remarks := [], modules := some found } :=
        ⟨on.opened, fun _ kept => by cases kept; exact parsed⟩
      -- Whether all symbols were found or not, the session is left in the same way.
      have answer : ask (.functions pattern) session =
          (Query.outcome container (table container session) session.path (.functions pattern),
            grown container
              (symbolsWith (table container session) session.path (matching pattern found)).2
              (referToStrings (matching pattern found))
              { session with remarks := [], modules := some found }) := by
        simp only [ask, Query.perform, exec_bind, exec_functions on', Query.outcome, parsed, same]
        cases (symbolsWith (table container session) session.path
          (matching pattern found)).1 <;> rfl
      refine .of_eq answer (known.grown _ _) (grown_path _ _) ?_
      simp only [Query.needsStrings, parsed]
      cases referToStrings (matching pattern found) <;> rfl

theorem asked (on : session.On container) (query : Query) : Asked container session query := by
  have on' : On container { session with remarks := [] } := ⟨on.opened, on.modules⟩
  cases query with
  | modules => exact asked_modules on
  | functions pattern => exact asked_functions on pattern
  | namedStreams =>
      have answer : ask .namedStreams session =
          (Query.outcome container (table container session) session.path .namedStreams,
            { session with remarks := [] }) := by
        simp only [ask, Query.perform, exec_bind, exec_getNamedStreams on', Query.outcome]
        cases NamedStreams.all container <;> rfl
      exact .of_eq answer on' rfl rfl
  | strings =>
      have same : table container { session with remarks := [] } = table container session := rfl
      have answer : ask .strings session =
          (Query.outcome container (table container session) session.path .strings,
            settled container { session with remarks := [] }) := by
        simp only [ask, Query.perform, exec_bind, exec_getStrings on', Query.outcome, same]
        cases table container session <;> rfl
      exact .of_eq answer ⟨on.opened, on.modules⟩ rfl rfl
  | stream index =>
      have answer : ask (.stream index) session =
          (Query.outcome container (table container session) session.path (.stream index),
            { session with remarks := [] }) := by
        simp only [ask, Query.perform, exec_bind, exec_getStream on', Query.outcome]
        cases container.stream index <;> rfl
      exact .of_eq answer on' rfl rfl

theorem askAll_eq (on : session.On container) (history : List Query) :
    (askAll history session).On container ∧ (askAll history session).path = session.path ∧
      (askAll history session).strings =
        if history.any (·.needsStrings container) then (settled container session).strings
        else session.strings := by
  induction history generalizing session with
  | nil => exact ⟨on, rfl, rfl⟩
  | cons query rest ih =>
      obtain ⟨-, on', path, strings⟩ := asked on query
      obtain ⟨later, path', strings'⟩ := ih on'
      refine ⟨later, path'.trans path, strings'.trans ?_⟩
      have fixed : (settled container (ask query session).2).strings =
          (settled container session).strings := by
        simp only [settled, table, strings]
        cases query.needsStrings container <;> rfl
      rw [fixed, strings, List.any_cons]
      cases query.needsStrings container <;>
        cases rest.any (·.needsStrings container) <;> rfl

/-- The string table cannot be read, and one of the queries has looked at it. -/
def StringsLost (container : Container) (history : List Query) : Prop :=
  (∃ e, StringTable.load container = .error e) ∧
    history.any (·.needsStrings container) = true

/-- With its string table lost, a session answers as if the table were empty. -/
theorem ask_of_stringsLost (path : String) {history : List Query}
    (lost : StringsLost container history) (query : Query) :
    (ask query (askAll history (fresh path container))).1 =
      query.outcome container (.ok []) path := by
  obtain ⟨⟨e, unreadable⟩, looked⟩ := lost
  obtain ⟨on, samePath, strings⟩ := askAll_eq (on_fresh path container) history
  rw [(asked on query).outcome, samePath, table, strings, looked]
  simp only [settled, table, fresh, unreadable, Except.toOption, Option.getD_none, ↓reduceIte]

theorem ask_of_not_stringsLost (path : String) {history : List Query}
    (kept : ¬ StringsLost container history) (query : Query) :
    (ask query (askAll history (fresh path container))).1 =
      query.outcome container (StringTable.load container) path := by
  obtain ⟨on, samePath, strings⟩ := askAll_eq (on_fresh path container) history
  rw [(asked on query).outcome, samePath, table, strings]
  cases looked : history.any (·.needsStrings container) with
  | false => rfl
  | true =>
      cases loaded : StringTable.load container with
      | error e => exact absurd ⟨⟨e, loaded⟩, looked⟩ kept
      | ok table => simp [settled, Session.table, fresh, loaded, Except.toOption]

theorem ask_fresh (path : String) (container : Container) (query : Query) :
    (ask query (fresh path container)).1 =
      query.outcome container (StringTable.load container) path :=
  (asked (on_fresh path container) query).outcome

/-- What was asked before changes an outcome exactly when the string table was lost and the query
looks at it. -/
theorem ask_askAll_eq_iff (path : String) (container : Container) (history : List Query)
    (query : Query) :
    (ask query (askAll history (fresh path container))).1 = (ask query (fresh path container)).1 ↔
      ¬ (StringsLost container history ∧ query.needsStrings container = true) := by
  rw [ask_fresh]
  by_cases lost : StringsLost container history
  · rw [ask_of_stringsLost path lost]
    cases needs : query.needsStrings container with
    | false => simp [Query.outcome_of_not_needsStrings needs (.ok []) (StringTable.load container)]
    | true =>
        obtain ⟨⟨e, unreadable⟩, -⟩ := id lost
        obtain ⟨answer, answered⟩ := Query.outcome_ok needs [] path
        have failed := Query.outcome_error needs e path
        rw [unreadable]
        refine ⟨fun same => ?_, fun h => absurd ⟨lost, rfl⟩ h⟩
        rw [same, failed] at answered
        cases answered
  · simp [ask_of_not_stringsLost path lost, lost]

/-- An open session answers a query as a freshly opened one does, whatever was asked before, unless
the query looks at a string table that cannot be read and was looked at before; then it answers as
if the table were empty. So the history never matters exactly if the string table can be read. -/
theorem history_independent_iff (path : String) {file : Array UInt8} {container : Container}
    (parsed : Container.parse file = .ok container) :
    exec (openFile file) { path } = (.ok (), fresh path container) ∧
      (∀ history query,
        ((ask query (askAll history (fresh path container))).1 =
            (ask query (fresh path container)).1 ↔
          ¬ (StringsLost container history ∧ query.needsStrings container = true)) ∧
        (StringsLost container history →
          (ask query (askAll history (fresh path container))).1 =
            (ask query { fresh path container with strings := some [] }).1)) ∧
      ((∀ history query,
          (ask query (askAll history (fresh path container))).1 =
            (ask query (fresh path container)).1) ↔
        ∃ strings, StringTable.load container = .ok strings) := by
  refine ⟨exec_openFile path parsed, fun history query =>
    ⟨ask_askAll_eq_iff path container history query, fun lost => ?_⟩, ?_⟩
  · have on : On container { fresh path container with strings := some [] } :=
      ⟨rfl, (on_fresh path container).modules⟩
    rw [ask_of_stringsLost path lost, (asked on query).outcome]
    rfl
  · constructor
    · intro independent
      cases loaded : StringTable.load container with
      | ok strings => exact ⟨strings, rfl⟩
      | error e =>
          have lost : StringsLost container [.strings] := ⟨⟨e, loaded⟩, rfl⟩
          exact absurd ⟨lost, rfl⟩
            ((ask_askAll_eq_iff path container _ .strings).mp (independent [.strings] .strings))
    · rintro ⟨strings, loaded⟩ history query
      rw [ask_askAll_eq_iff]
      rintro ⟨⟨⟨e, unreadable⟩, -⟩, -⟩
      rw [loaded] at unreadable
      cases unreadable

/-- A container without any streams, in pages of four bytes. -/
def streamless : Array UInt8 :=
  (Container.signature ++ [4, 0, 0, 0] ++ List.replicate 8 0 ++ [4, 0, 0, 0] ++
    List.replicate 4 0 ++ [14, 0, 0, 0] ++ [15, 0, 0, 0] ++ [0, 0, 0, 0]).toArray

set_option maxRecDepth 10000 in
theorem parse_streamless :
    Container.parse streamless = .ok { file := streamless, pageSize := 4, extents := [] } := rfl

/-- Asked twice for a string table that is not there, a session fails and then answers. -/
theorem history_matters_streamless :
    Container.parse streamless = .ok { file := streamless, pageSize := 4, extents := [] } ∧
      (ask .strings (askAll [.strings] (fresh "t.pdb"
          { file := streamless, pageSize := 4, extents := [] }))).1 ≠
        (ask .strings (fresh "t.pdb" { file := streamless, pageSize := 4, extents := [] })).1 := by
  refine ⟨parse_streamless, fun same => ?_⟩
  have matters := (history_independent_iff "t.pdb" parse_streamless).2.1 [.strings] .strings
  exact matters.1.mp same ⟨⟨⟨.noStream 1, rfl⟩, rfl⟩, rfl⟩

end Session
end Pdb
end TestAtlas
