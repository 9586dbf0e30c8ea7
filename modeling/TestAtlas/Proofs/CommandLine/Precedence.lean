import TestAtlas.Files.World
import TestAtlas.Proofs.CommandLine.Preparation
import TestAtlas.Proofs.Resolver.Escalation

/-!
What decides on the settings of a search. A choice on the command line goes before
a variable, and a variable goes before the default, with one exception: when
the settings are copied for the executable, the variables decide on the truth
values once more, and then also against what was chosen.
-/

namespace TestAtlas

variable {m : Type → Type} [Monad m]

namespace Settings

/-- The settings with the placeholders filled in for an executable, whose path is as seen from the
root. -/
def filledFor (settings : Settings) (executable : String) : Settings :=
  let fill := fillIn (Path.directory executable) (Path.stem (Path.name executable))
  { settings with
      pathExtension := (settings.pathExtension.filter (· != "")).map fill
      additional := settings.additional.map fill }

theorem filter_of_ne_empty {text : String} (h : text ≠ "") :
    (some text).filter (· != "") = some text :=
  Option.filter_eq_some_iff.mpr ⟨rfl, bne_iff_ne.mpr h⟩

theorem overrideTruth_fst (name : String) (word? : Option String) (given : Bool) :
    (overrideTruth name word? given).1 = (word?.bind truth?).getD given := by
  have blank : truth? "" = none := by decide +kernel
  cases word? with
  | none => rfl
  | some word =>
      by_cases empty : word = ""
      · rw [empty, Option.bind_some, blank]
        rfl
      · rw [overrideTruth, filter_of_ne_empty empty, Option.bind_some]
        dsimp only [parseTruth]
        cases truth? word <;> rfl

theorem override_fst (settings : Settings) (overrides : Overrides) :
    (settings.override overrides).1 =
      { pathExtension := overrides.pathExtension <|> settings.pathExtension
        additional :=
          ((overrides.additional.filter (· != "")).map patterns).getD settings.additional
        parseSymbols := (overrides.parseSymbols.bind truth?).getD settings.parseSymbols
        debug := (overrides.debug.bind truth?).getD settings.debug } := by
  rw [← overrideTruth_fst parseSymbolsName, ← overrideTruth_fst debugName]
  simp only [override, mk.injEq, true_and, and_true]
  cases overrides.additional.filter (· != "") <;> rfl

/-- To let the variables decide once more changes nothing. -/
theorem override_override_fst (settings : Settings) (overrides : Overrides) :
    ((settings.override overrides).1.override overrides).1 = (settings.override overrides).1 := by
  rw [override_fst, override_fst, mk.injEq]
  refine ⟨?_, ?_, ?_, ?_⟩
  · cases overrides.pathExtension <;> rfl
  · cases overrides.additional.filter (· != "") <;> rfl
  · cases overrides.parseSymbols.bind truth? <;> rfl
  · cases overrides.debug.bind truth? <;> rfl

theorem forExecutable_fst (settings : Settings) (overrides : Overrides) (executable : String) :
    (settings.forExecutable overrides executable).1 =
      { settings.filledFor executable with
          parseSymbols := (overrides.parseSymbols.bind truth?).getD settings.parseSymbols
          debug := (overrides.debug.bind truth?).getD settings.debug } := by
  rw [← overrideTruth_fst parseSymbolsName, ← overrideTruth_fst debugName]
  rfl

end Settings

namespace CommandLine

open Settings (Overrides truth?)

/-- The settings by order of precedence: what was chosen, else what a variable says, else the
default. -/
def Choices.preferred (choices : Choices) (overrides : Overrides) : Settings where
  pathExtension := choices.pathExtension? <|> overrides.pathExtension
  additional :=
    if choices.additional.isEmpty then
      ((overrides.additional.filter (· != "")).map Settings.patterns).getD []
    else choices.additional
  parseSymbols := !choices.noSymbols && (overrides.parseSymbols.bind truth?).getD true
  debug := choices.debug || (overrides.debug.bind truth?).getD false

theorem Setup.settings_make (overrides : Overrides) (choices : Choices) :
    (Setup.make overrides choices).settings = choices.preferred overrides := by
  change choices.apply ((({} : Settings).override overrides).1.override overrides).1 = _
  rw [Settings.override_override_fst, Settings.override_fst, Choices.apply, Choices.preferred,
    Settings.mk.injEq]
  refine ⟨?_, rfl, Bool.and_comm .., Bool.or_comm ..⟩
  cases overrides.pathExtension <;> rfl

/-- The settings that a search for tests of an executable works with, and the remarks on them. -/
def workingSettings (choices : Choices) (overrides : Overrides) (executable : String) :
    Settings × List Entry :=
  (Setup.make overrides choices).settings.forExecutable overrides executable

theorem workingSettings_fst (choices : Choices) (overrides : Overrides) (executable : String) :
    (workingSettings choices overrides executable).1 =
      { (choices.preferred overrides).filledFor executable with
          parseSymbols := (overrides.parseSymbols.bind truth?).getD !choices.noSymbols
          debug := (overrides.debug.bind truth?).getD choices.debug } := by
  rw [workingSettings, Settings.forExecutable_fst, Setup.settings_make, Settings.mk.injEq]
  refine ⟨rfl, rfl, ?_, ?_⟩
  · rw [Choices.preferred]
    cases overrides.parseSymbols.bind truth? with
    | none => exact Bool.and_true _
    | some b => rfl
  · rw [Choices.preferred]
    cases overrides.debug.bind truth? with
    | none => exact Bool.or_false _
    | some b => rfl

/-- The variables have the last word on a truth value, so precedence is kept unless a variable that
has one to say contradicts a switch. -/
theorem workingSettings_eq_preferred_iff (choices : Choices) (overrides : Overrides)
    (executable : String) :
    (workingSettings choices overrides executable).1 =
        (choices.preferred overrides).filledFor executable ↔
      ¬ (choices.noSymbols = true ∧ overrides.parseSymbols.bind truth? = some true) ∧
      ¬ (choices.debug = true ∧ overrides.debug.bind truth? = some false) := by
  rw [workingSettings_fst, Settings.mk.injEq]
  simp only [Settings.filledFor, Choices.preferred, true_and]
  refine and_congr ?_ ?_
  · rcases overrides.parseSymbols.bind truth? with _ | _ | _ <;> cases choices.noSymbols <;> simp
  · rcases overrides.debug.bind truth? with _ | _ | _ <;> cases choices.debug <;> simp

variable [LawfulMonad m]

theorem prepare_of_steady {host : Host m} {environment : String → Option String}
    {directory : String} (steady : host.Steady environment directory) (choices : Choices)
    (path : String) :
    prepare host choices path =
      prepareWith host (Setup.make (.ofEnvironment environment) choices) path
        (workingSettings choices (.ofEnvironment environment) (Path.absolute directory path)) := by
  simp only [prepare, settingsFor, Host.absolute, Overrides.read_of_steady steady,
    steady.workingDirectory, pure_bind, workingSettings]

/-- Without symbols nothing is opened, and no test is found. -/
theorem conclude_of_not_parseSymbols (host : Host m) (common : Common) (signatures : List String)
    (setup : Setup) (path : String) {working : Settings × List Entry}
    (unwanted : working.1.parseSymbols = false) :
    prepareWith host setup path working >>= conclude host common signatures = do
      let report := Report.Location.ofSearch signatures none
      return setup.finish (working.2.map Event.remarked)
        (← outcomeOf host common Outcome.failed fun columns format =>
          report.present columns format) := by
  obtain ⟨settings, remarks⟩ := working
  have inert : (resolverFor path settings).start (Collaborators.standard host)
      settings.parseSymbols = pure (.ok (), (resolverFor path settings).inert) := by
    rw [unwanted]
    rfl
  have silent := Resolver.find_inert (Collaborators.standard host)
    (show (resolverFor path settings).progress.table.tests = [] from rfl) signatures
  have quiet : (resolverFor path settings).inert.progress.events = [] := rfl
  simp only [prepareWith, inert, pure_bind, conclude, silent, quiet, List.append_nil]
  rfl

/-- What is seen of a run when its task is done. -/
def Run.finished (request : Request) (stamp : String) (interrupted : Bool) (outcome : Outcome) :
    Run :=
  .ofOutcome request stamp (if interrupted then outcome.interrupt else outcome)

/-- A run that looks for a test works with what was chosen, then with what the variables say, then
with the defaults, and with the placeholders filled in. Only a variable that states a truth value
contradicts a switch. Without symbols, and if no variable asks for them, nothing is opened and
the answer is that there is no such test. -/
theorem locate_settings {host : Host m} {environment : String → Option String}
    {directory : String} (steady : host.Steady environment directory) :
    let overrides := Overrides.ofEnvironment environment
    ∀ {arguments : List String} {common : Common} {path : String} {signatures : List String}
      {choices : Choices},
    let request : Request := { common, task := .locate path signatures choices }
    let working := fun path => workingSettings choices overrides (Path.absolute directory path)
    Request.ofArguments arguments = .ok request →
    (∀ (stamp : String) (interrupted : Bool), run host stamp interrupted arguments =
      Run.finished request stamp interrupted <$> withFile host common path fun path =>
        prepareWith host (Setup.make overrides choices) path (working path) >>=
          conclude host common signatures) ∧
    (∀ path, (working path).1 =
      { (choices.preferred overrides).filledFor (Path.absolute directory path) with
          parseSymbols := (overrides.parseSymbols.bind truth?).getD !choices.noSymbols
          debug := (overrides.debug.bind truth?).getD choices.debug }) ∧
    (∀ path, (working path).1 =
        (choices.preferred overrides).filledFor (Path.absolute directory path) ↔
      ¬ (choices.noSymbols = true ∧ overrides.parseSymbols.bind truth? = some true) ∧
      ¬ (choices.debug = true ∧ overrides.debug.bind truth? = some false)) ∧
    (choices.noSymbols = true → overrides.parseSymbols.bind truth? ≠ some true →
      ∀ (stamp : String) (interrupted : Bool), run host stamp interrupted arguments =
        Run.finished request stamp interrupted <$> withFile host common path fun path => do
          let report := Report.Location.ofSearch signatures none
          return (Setup.make overrides choices).finish ((working path).2.map Event.remarked)
            (← outcomeOf host common Outcome.failed fun columns format =>
              report.present columns format)) := by
  intro overrides arguments common path signatures choices request working asked
  have runs (stamp : String) (interrupted : Bool) : run host stamp interrupted arguments =
      Run.finished request stamp interrupted <$> withFile host common path fun path =>
        prepareWith host (Setup.make overrides choices) path (working path) >>=
          conclude host common signatures := by
    rw [run, asked]
    change locate host common path signatures choices >>= _ = _
    rw [locate_eq, map_eq_pure_bind]
    simp only [prepare_of_steady steady]
    rfl
  refine ⟨runs, fun _ => workingSettings_fst .., fun _ => workingSettings_eq_preferred_iff .., ?_⟩
  intro unwanted unasked stamp interrupted
  have silent (path : String) : (working path).1.parseSymbols = false := by
    rw [workingSettings_fst, unwanted]
    rcases said : overrides.parseSymbols.bind truth? with _ | _ | _
    · rfl
    · rfl
    · exact absurd said unasked
  rw [runs]
  simp only [conclude_of_not_parseSymbols host common signatures _ _ (silent _)]

namespace Sample

def world (environment : List (String × String)) : World where
  root := .directory [("t.exe", .file #[0])]
  environment := environment

def arguments : List String := ["locate", "t.exe", "A_Test::TestBody", "--no-symbols"]

def request : Request where
  common := {}
  task := .locate "t.exe" ["A_Test::TestBody"] { noSymbols := true }

end Sample

/-- The same command line without variables and with one that contradicts it. -/
theorem locate_settings_sample :
    Request.ofArguments Sample.arguments = .ok Sample.request ∧
      (let silent := run (m := Id) (Sample.world []).host "" false Sample.arguments
       silent.exit = Outcome.failed ∧ silent.output = "not found: A_Test::TestBody\n") ∧
      let contrary := (Sample.world [("TESTLOCATOR_PARSE_SYMBOLS", "True")]).host
      let overrides := Overrides.ofEnvironment contrary.variableNamed
      (workingSettings { noSymbols := true } overrides (Path.absolute "/" "t.exe")).1 ≠
        (Choices.preferred { noSymbols := true } overrides).filledFor
          (Path.absolute "/" "t.exe") := by
  have asked : Request.ofArguments Sample.arguments = .ok Sample.request := by rfl
  obtain ⟨-, -, -, silent⟩ := locate_settings (Sample.world []).host.steady_value asked
  obtain ⟨-, -, kept, -⟩ := locate_settings
    (Sample.world [("TESTLOCATOR_PARSE_SYMBOLS", "True")]).host.steady_value asked
  refine ⟨asked, ?_, ?_⟩
  · rw [silent rfl (by decide) "" false]
    exact ⟨by decide +kernel, by decide +kernel⟩
  · intro contrary overrides same
    have stated : overrides.parseSymbols.bind truth? = some true := by decide +kernel
    exact ((kept "t.exe").mp same).1 ⟨rfl, stated⟩

end CommandLine
end TestAtlas
