import TestAtlas.CommandLine.Stream
import TestAtlas.Files.World
import TestAtlas.Proofs.CommandLine.Findings
import TestAtlas.Proofs.CommandLine.FormatOption
import TestAtlas.Proofs.Report.Printing

/-!
Exit codes and formats. A run fails if what it found cannot be printed in the
format that was asked for, on the stream that the output goes to, and apart from
that its exit code does not depend on the format. JSON can be printed on any
stream that has the characters of ASCII and plain text on one that has those of
the text; rich text may turn out not to be printable at all.
-/

namespace TestAtlas
namespace CommandLine

open Report (Format)
open Terminal (Printout)
open Terminal.Markup (tagless)

variable {host : Host Id} {stream : Stream} {common : Common} {exit : Nat}

namespace Stream

theorem takes_iff {text : String} :
    stream.takes text = true ↔ ∀ c ∈ text.toList, stream.has c = true :=
  List.all_eq_true

theorem code_of_takes {output coarse : String}
    (h : stream.takes (stream.strokes.pick output coarse) = true) :
    stream.code exit output coarse = exit :=
  if_pos h

theorem code_of_not_takes {output coarse : String}
    (h : ¬ stream.takes (stream.strokes.pick output coarse) = true) :
    stream.code exit output coarse = Outcome.failed :=
  if_neg h

theorem code_failed (stream : Stream) (output coarse : String) :
    stream.code Outcome.failed output coarse = Outcome.failed :=
  ite_self _

theorem code_empty (stream : Stream) (exit : Nat) : stream.code exit "" "" = exit := by
  refine code_of_takes ?_
  cases stream.strokes <;> rfl

end Stream

namespace Document

variable {format : Format} {columns : Nat} {document : Document}

theorem isText_present (h : format ≠ .rich) (columns : Nat) (document : Document) :
    (document.present columns format).IsText := by
  cases document with
  | location signatures found? =>
      exact Report.Location.isText_present h columns signatures found?
  | listing categories => exact Report.Listing.isText_present h columns categories
  | imports path database? modules =>
      exact Report.Imports.isText_present h columns path database? modules

theorem isAscii_json (document : Document) :
    IsAscii (document.present columns .json).text.toList := by
  cases document with
  | location signatures found? => exact Report.isAscii_jsonText _
  | listing categories => exact Report.isAscii_jsonText _
  | imports path database? modules => exact Report.isAscii_jsonText _

theorem isAscii_jsonLines (document : Document) :
    IsAscii (document.present columns .jsonLines).text.toList := by
  cases document with
  | location signatures found? => exact Report.isAscii_jsonRecords _
  | listing categories => exact Report.isAscii_jsonRecords _
  | imports path database? modules =>
      exact Report.Imports.isAscii_jsonLines columns path database? modules

/-- The texts of a document that are taken for marked text where it is printed as rich text. -/
def marked : Document → List String
  | .location signatures found? => Report.Location.marked signatures found?
  | .listing categories => categories.marked
  | .imports path database? modules => Report.Imports.marked path database? modules

theorem problem?_rich (free : ∀ text ∈ document.marked, tagless text.toList = true) :
    (document.present columns .rich).problem? = none := by
  cases document with
  | location signatures found? => exact Report.Location.problem?_rich free
  | listing categories => exact Report.Listing.problem?_rich free
  | imports path database? modules => exact Report.Imports.problem?_rich free

/-- The columns that there are for a format. Only rich text is fitted to the screen. -/
def room (host : Host Id) (format : Format) : Except Numeral.Problem Nat :=
  if format = .rich then (ScreenHints.read (m := Id) host).width else .ok ScreenHints.usualWidth

def written (stream : Stream) (printout : Printout) : String :=
  stream.strokes.pick printout.text printout.coarse

/-- A document can be printed in a format, and the stream takes all of it. -/
def Prints (host : Host Id) (stream : Stream) (document : Document) (format : Format) : Prop :=
  ∃ columns, room host format = .ok columns ∧
    (document.present columns format).problem? = none ∧
    stream.takes (written stream (document.present columns format)) = true

theorem written_of_isText {printout : Printout} (h : printout.IsText) :
    written stream printout = printout.text := by
  rw [written, h.coarse]
  cases stream.strokes <;> rfl

theorem prints_iff (h : format ≠ .rich) : document.Prints host stream format ↔
    ∀ c ∈ (document.present ScreenHints.usualWidth format).text.toList, stream.has c = true := by
  have text := isText_present h ScreenHints.usualWidth document
  rw [Prints, room, if_neg h, ← Stream.takes_iff, ← written_of_isText text]
  constructor
  · rintro ⟨columns, ⟨⟩, -, takes⟩
    exact takes
  · intro takes
    exact ⟨ScreenHints.usualWidth, rfl, text.problem, takes⟩

theorem prints_json (ascii : ∀ c : Char, c.toNat < 128 → stream.has c = true) :
    document.Prints host stream .json ∧ document.Prints host stream .jsonLines := by
  rw [prints_iff (by decide), prints_iff (by decide)]
  exact ⟨fun c member => ascii c (document.isAscii_json c member),
    fun c member => ascii c (document.isAscii_jsonLines c member)⟩

theorem prints_rich {columns : Nat} (wide : (ScreenHints.read (m := Id) host).width = .ok columns)
    (free : ∀ text ∈ document.marked, tagless text.toList = true)
    (takes : stream.takes (written stream (document.present columns .rich)) = true) :
    document.Prints host stream .rich :=
  ⟨columns, wide, problem?_rich free, takes⟩

end Document

/-- The exit code of a task with its output on a stream. -/
def Outcome.codeOn (outcome : Outcome) (stream : Stream) : Nat :=
  stream.code outcome.exit outcome.output outcome.coarse

section

variable (host) (common) (exit) (document : Document)

def outcomeWith : Outcome :=
  outcomeOf (m := Id) host common exit fun columns format => document.present columns format

theorem outcomeWith_eq : outcomeWith host common exit document =
    match Document.room host common.format with
    | .error problem => .ofFailure common.verbose (.other "ValueError" problem.message)
    | .ok columns =>
        .ofPrintout common.verbose exit (document.present columns common.format) := by
  rw [outcomeWith, outcomeOf, Document.room]
  split <;> rfl

theorem events_ofPrintout (verbose : Bool) (printout : Printout) :
    (Outcome.ofPrintout verbose exit printout).events = [] := by
  rw [Outcome.ofPrintout]
  split <;> rfl

theorem events_outcomeWith : (outcomeWith host common exit document).events = [] := by
  rw [outcomeWith_eq]
  split
  · rfl
  · exact events_ofPrintout ..

end

theorem exit_ofPrintout {verbose : Bool} {printout : Printout} (h : printout.problem? = none) :
    (Outcome.ofPrintout verbose exit printout).exit = exit := by
  rw [Outcome.ofPrintout, h]

theorem codeOn_ofPrintout {verbose : Bool} {printout : Printout} (h : printout.problem? = none) :
    (Outcome.ofPrintout verbose exit printout).codeOn stream =
      stream.code exit printout.text printout.coarse := by
  rw [Outcome.ofPrintout, h]
  rfl

theorem codeOn_ofPrintout_of_ne {verbose : Bool} {printout : Printout}
    (h : printout.problem? ≠ none) :
    (Outcome.ofPrintout verbose exit printout).codeOn stream = Outcome.failed := by
  obtain ⟨problem, there⟩ := Option.ne_none_iff_exists'.mp h
  rw [Outcome.ofPrintout, there]
  exact stream.code_failed _ _

variable {document : Document}

theorem codeOn_of_prints (h : document.Prints host stream common.format) :
    (outcomeWith host common exit document).codeOn stream = exit := by
  obtain ⟨columns, wide, fine, takes⟩ := h
  rw [outcomeWith_eq, wide]
  exact (codeOn_ofPrintout fine).trans (Stream.code_of_takes takes)

theorem codeOn_of_not_prints (h : ¬document.Prints host stream common.format) :
    (outcomeWith host common exit document).codeOn stream = Outcome.failed := by
  rw [outcomeWith_eq]
  cases wide : Document.room host common.format with
  | error problem => exact stream.code_failed _ _
  | ok columns =>
      by_cases fine : (document.present columns common.format).problem? = none
      · exact (codeOn_ofPrintout fine).trans
          (Stream.code_of_not_takes fun takes => h ⟨columns, wide, fine, takes⟩)
      · exact codeOn_ofPrintout_of_ne fine

namespace Finding

variable (finding : Finding)

theorem codeOn_finish (outcome : Outcome) :
    (finding.finish outcome).codeOn stream = outcome.codeOn stream := by
  rw [finish]
  cases finding.search? <;> rfl

theorem isOpening_finish {outcome : Outcome} (silent : outcome.events = []) :
    (finding.finish outcome).events.any Outcome.isOpening = finding.opened := by
  rw [opened, finish, finish]
  cases finding.search? with
  | none =>
      rw [silent]
  | some search =>
      change List.any (_ ++ outcome.events) _ = _
      rw [silent]
      rfl

theorem codeOn_print (stream : Stream) (interrupted : Bool) :
    let outcome := finding.print (m := Id) host common
    (if interrupted then outcome.interrupt else outcome).codeOn stream =
      if interrupted && finding.opened then Outcome.interrupted
      else (outcomeWith host common finding.exit finding.document).codeOn stream := by
  have printed : finding.print (m := Id) host common =
      finding.finish (outcomeWith host common finding.exit finding.document) := rfl
  have opens := finding.isOpening_finish (events_outcomeWith host common finding.exit
    finding.document)
  rw [printed]
  cases interrupted with
  | false => exact finding.codeOn_finish _
  | true =>
      change (Outcome.interrupt _).codeOn stream = if finding.opened = true then _ else _
      rw [Outcome.interrupt, opens]
      cases finding.opened with
      | true => exact stream.code_empty _
      | false => exact finding.codeOn_finish _

end Finding

/-- The exit code of a task, which may be interrupted when a program database is to be opened. -/
def exitOf (host : Host Id) (stream : Stream) (interrupted : Bool) (common : Common)
    (task : Task) : Nat :=
  match task.investigate (m := Id) host common.verbose with
  | .error outcome => (if interrupted then outcome.interrupt else outcome).codeOn stream
  | .ok finding =>
      if interrupted && finding.opened then Outcome.interrupted
      else (outcomeWith host common finding.exit finding.document).codeOn stream

section

variable {interrupted : Bool} {task : Task}

theorem exitOf_of_error {outcome : Outcome}
    (ended : task.investigate (m := Id) host common.verbose = .error outcome) :
    exitOf host stream interrupted common task =
      (if interrupted then outcome.interrupt else outcome).codeOn stream := by
  rw [exitOf, ended]

theorem exitOf_of_ok {finding : Finding}
    (found : task.investigate (m := Id) host common.verbose = .ok finding) :
    exitOf host stream interrupted common task =
      if interrupted && finding.opened then Outcome.interrupted
      else (outcomeWith host common finding.exit finding.document).codeOn stream := by
  rw [exitOf, found]

theorem run_exitOn {stamp : String} {arguments : List String}
    (asked : Request.ofArguments arguments = .ok { common, task }) :
    (run (m := Id) host stamp interrupted arguments).exitOn stream =
      exitOf host stream interrupted common task := by
  have performed : ({ common, task : Request }).perform (m := Id) host =
      printFound (m := Id) host common (task.investigate (m := Id) host common.verbose) :=
    perform_eq (m := Id) host { common, task }
  have exits : (run (m := Id) host stamp interrupted arguments).exitOn stream =
      (if interrupted then (({ common, task : Request }).perform (m := Id) host).interrupt
        else ({ common, task : Request }).perform (m := Id) host).codeOn stream := by
    rw [run, asked]
    rfl
  rw [exits, performed, exitOf]
  cases task.investigate (m := Id) host common.verbose with
  | error outcome => rfl
  | ok finding => exact finding.codeOn_print stream interrupted

end

/-- Exit codes by format: one code for the formats in which something can be printed, and a failure
for the others. -/
structure Attains (codes : Format → Nat) (code : Nat) (prints : Format → Prop) : Prop where
  succeeds : ∀ format, prints format → codes format = code
  fails : ∀ format, ¬prints format → codes format = Outcome.failed

namespace Attains

variable {codes : Format → Nat} {code : Nat} {prints : Format → Prop}

theorem ne_iff (attains : Attains codes code prints) (format other : Format) :
    codes format ≠ codes other ↔ code ≠ Outcome.failed ∧ ¬(prints format ↔ prints other) := by
  by_cases h : prints format <;> by_cases h' : prints other
  · rw [attains.succeeds _ h, attains.succeeds _ h']
    exact iff_of_false (· rfl) fun differ => differ.2 (iff_of_true h h')
  · rw [attains.succeeds _ h, attains.fails _ h']
    exact ⟨fun differ => ⟨differ, fun same => h' (same.mp h)⟩, And.left⟩
  · rw [attains.fails _ h, attains.succeeds _ h']
    exact ⟨fun differ => ⟨differ.symm, fun same => h (same.mpr h')⟩, fun differ => differ.1.symm⟩
  · rw [attains.fails _ h, attains.fails _ h']
    exact iff_of_false (· rfl) fun differ => differ.2 (iff_of_false h h')

theorem eq_or_failed (attains : Attains codes code prints) (format other : Format) :
    codes format = codes other ∨ codes format = Outcome.failed ∨ codes other = Outcome.failed := by
  by_cases h : prints format
  · by_cases h' : prints other
    · exact .inl ((attains.succeeds _ h).trans (attains.succeeds _ h').symm)
    · exact .inr (.inr (attains.fails _ h'))
  · exact .inr (.inl (attains.fails _ h))

end Attains

/-- The exit code of a task does not depend on the format, or else there is something to be printed,
which is what it depends on. -/
theorem exitOf_cases (host : Host Id) (stream : Stream) (interrupted : Bool) (common : Common)
    (task : Task) :
    (∃ code, (∀ format, exitOf host stream interrupted { common with format } task = code) ∧
      ∀ finding, task.investigate (m := Id) host common.verbose = .ok finding →
        (interrupted && finding.opened) = true) ∨
    ∃ finding, task.investigate (m := Id) host common.verbose = .ok finding ∧
      (interrupted && finding.opened) = false ∧
      Attains (fun format => exitOf host stream interrupted { common with format } task)
        finding.exit (finding.document.Prints host stream) := by
  cases found : task.investigate (m := Id) host common.verbose with
  | error outcome => exact .inl ⟨_, fun format => exitOf_of_error found, nofun⟩
  | ok finding =>
      have given (format : Format) :
          exitOf host stream interrupted { common with format } task =
            if (interrupted && finding.opened) = true then Outcome.interrupted
            else (outcomeWith host { common with format } finding.exit
              finding.document).codeOn stream :=
        exitOf_of_ok found
      simp only [given]
      cases stopped : interrupted && finding.opened with
      | true =>
          refine .inl ⟨_, fun format => if_pos rfl, ?_⟩
          rintro _ ⟨⟩
          exact stopped
      | false =>
          refine .inr ⟨finding, rfl, stopped, fun format prints => ?_, fun format fails => ?_⟩
          · exact codeOn_of_prints prints
          · exact codeOn_of_not_prints fails

/-- The command lines ask for the same task, and it finds something to be printed. -/
def Finds (host : Host Id) (line : Format → List String) (finding : Finding) : Prop :=
  ∃ (common : Common) (task : Task),
    (∀ format, Request.ofArguments (line format) =
      .ok { common := { common with format }, task }) ∧
    task.investigate (m := Id) host common.verbose = .ok finding

/-- Command lines that ask for one task in all formats ask for no other one. -/
theorem asked_unique {line : Format → List String} {common common' : Common} {task task' : Task}
    (asked : ∀ format, Request.ofArguments (line format) =
      .ok { common := { common with format }, task })
    (asked' : ∀ format, Request.ofArguments (line format) =
      .ok { common := { common' with format }, task := task' }) :
    common.verbose = common'.verbose ∧ task = task' := by
  have same := (asked .plain).symm.trans (asked' .plain)
  simp only [Except.ok.injEq, Request.mk.injEq, Common.mk.injEq] at same
  exact ⟨same.1.2.2.1, same.2⟩

theorem Finds.unique {line : Format → List String} {finding other : Finding}
    (h : Finds host line finding) (h' : Finds host line other) : finding = other := by
  obtain ⟨common, task, asked, found⟩ := h
  obtain ⟨common', task', asked', found'⟩ := h'
  obtain ⟨verbose, rfl⟩ := asked_unique asked asked'
  rw [verbose, found'] at found
  cases found
  rfl

/-- Runs whose command lines differ in the format alone have one exit code, or something was found
whose printing their exit codes depend on. -/
theorem run_cases (host : Host Id) (stream : Stream) (stamp : String) (interrupted : Bool)
    {command : String} {inner : Grammar} (h : (command, inner) ∈ Request.tasks)
    {before : List String} (options : Token.stopText ∉ before) (after : List String) :
    let line := Request.line command before after
    let exit format := (run (m := Id) host stamp interrupted (line format)).exitOn stream
    (∃ code, (∀ format, exit format = code) ∧
      ∀ finding, Finds host line finding → (interrupted && finding.opened) = true) ∨
    ∃ finding, Finds host line finding ∧ (interrupted && finding.opened) = false ∧
      Attains exit finding.exit (finding.document.Prints host stream) := by
  intro line exit
  rcases Request.ofArguments_line h options after with
    ⟨refusal, asked⟩ | ⟨common, task, asked | asked⟩
  case inl | inr.inl =>
    -- All command lines are read alike, and one format is not another one.
    refine .inl ⟨exit .plain, fun format => ?_, ?_⟩
    · have alike : Request.ofArguments (line format) = Request.ofArguments (line .plain) :=
        (asked format).trans (asked .plain).symm
      change (run (m := Id) host stamp interrupted _).exitOn stream =
        (run (m := Id) host stamp interrupted _).exitOn stream
      rw [run, run, alike]
    · rintro finding ⟨common', task', free, -⟩
      have plain := (asked .plain).symm.trans (free .plain)
      have rich := (asked .rich).symm.trans (free .rich)
      rw [plain] at rich
      cases rich
  case inr.inr =>
    have exits (format : Format) : exit format =
        exitOf host stream interrupted { common with format } task := run_exitOn (asked format)
    obtain ⟨code, same, ended⟩ | ⟨finding, found, goesOn, attains⟩ :=
      exitOf_cases host stream interrupted common task
    · refine .inl ⟨code, fun format => (exits format).trans (same format), ?_⟩
      rintro finding ⟨common', task', asked', found⟩
      obtain ⟨verbose, rfl⟩ := asked_unique asked asked'
      exact ended finding (verbose ▸ found)
    · exact .inr ⟨finding, ⟨common, task, asked, found⟩, goesOn,
        fun format prints => (exits format).trans (attains.succeeds format prints),
        fun format fails => (exits format).trans (attains.fails format fails)⟩

namespace Sample

/-- The headers of an image, with neither directories nor sections. -/
def image : Array UInt8 :=
  (([77, 90] : List UInt8) ++ List.replicate 58 0 ++ [64, 0, 0, 0] ++ [80, 69, 0, 0] ++
    [76, 1, 0, 0] ++ List.replicate 12 0 ++ [96, 0, 2, 0] ++ [11, 1] ++
    List.replicate 94 0).toArray

/-- The path of one image is a closing tag, and another one has a letter with an accent. -/
def tagged : World where
  root := .directory [("[", .directory [("x]", .file image)]), ("é", .file image),
    ("t", .file image)]

end Sample

end CommandLine
end TestAtlas
