import Mathlib.Data.List.Forall2
import TestAtlas.Proofs.Resolver.Ladder
import TestAtlas.Proofs.Scan.Course

/-!
What a tier asks its collaborators. Whatever becomes of the readers, every file
of a pattern and every import that is a file is scanned; only a collaborator that
finds databases, resolves patterns or lists imports can bring the tier to an end.
-/

namespace TestAtlas

namespace Exchange

variable {Reader : Type}

/-- What is to be read, as an answer tells. The files of a pattern are databases of the
executable. -/
def demands (executable : String) : Exchange Reader → List (String × String)
  | matched _ (.ok files) _ => files.map (executable, ·)
  | located binary _ (.ok (some database)) _ => [(binary, database)]
  | _ => []

end Exchange

/-- For all that is to be read a reader was asked for, once and in order. -/
def Ledger.Pursued {Reader : Type} (executable : String) (trace : Ledger Reader) : Prop :=
  trace.filterMap Exchange.opening? = trace.flatMap (Exchange.demands executable)

theorem Ledger.Pursued.append {Reader : Type} {executable : String} {first second : Ledger Reader}
    (h : first.Pursued executable) (h' : second.Pursued executable) :
    Pursued executable (first ++ second) := by
  rw [Pursued, List.filterMap_append, List.flatMap_append, h, h']

namespace Resolver

variable {World Reader : Type} {parties : Parties World Reader}

def Asked (binary database : String) (exchange : Exchange Reader) : Prop :=
  ∃ answer, exchange = .opened binary database answer

/-- What comes of a pattern: it cannot be resolved, or a reader is asked for each of its files. -/
inductive PatternCourse (executable pattern : String) :
    Ledger Reader → Except Failure Unit → Prop
  | failed (failure : Failure) (remarks : List Entry) :
      PatternCourse executable pattern [.matched pattern (.error failure) remarks] (.error failure)
  | scanned {files : List String} {trace : Ledger Reader} (remarks : List Entry)
      (h : List.Forall₂ (Asked executable) files trace) :
      PatternCourse executable pattern (.matched pattern (.ok files) remarks :: trace) (.ok ())

/-- What comes of an import: it is not there, or it is scanned. -/
inductive ImportCourse (parties : Parties World Reader) (extension? : Option String)
    (path : String) : Ledger Reader → Except Failure Unit → Prop
  | absent : ImportCourse parties extension? path [.looked path false] (.ok ())
  | scanned {trace : Ledger Reader} {answer : Except Failure Nat}
      (h : Scanner.Course parties extension? path none trace answer) :
      ImportCourse parties extension? path (.looked path true :: trace) (answer.map fun _ => ())

/-- What comes of a tier. -/
inductive Tier.Course (parties : Parties World Reader) (resolver : Resolver) :
    Tier → Ledger Reader → Except Failure Unit → Prop
  | additional {trace : Ledger Reader} {outcome : Except Failure Unit}
      (h : Search.Sequence (PatternCourse resolver.executable) resolver.additional trace outcome) :
      Course parties resolver .additional trace outcome
  | unlisted (failure : Failure) (remarks : List Entry) :
      Course parties resolver .imports [.listed resolver.executable (.error failure) remarks]
        (.error failure)
  | listed {imports : List String} {trace : Ledger Reader} {outcome : Except Failure Unit}
      (remarks : List Entry)
      (h : Search.Sequence (fun imported => ImportCourse parties resolver.extension?
        (Path.join (Path.directory resolver.executable) imported)) imports trace outcome) :
      Course parties resolver .imports
        (.listed resolver.executable (.ok imports) remarks :: trace) outcome

theorem pursued_of_scan {extension? : Option String} {executable binary : String}
    {trace : Ledger Reader} {answer : Except Failure Nat}
    (h : Scanner.Course parties extension? binary none trace answer) :
    trace.Pursued executable := by
  cases h <;> rfl

theorem pursued_of_pattern {executable pattern : String} {trace : Ledger Reader}
    {outcome : Except Failure Unit} (h : PatternCourse executable pattern trace outcome) :
    trace.Pursued executable := by
  cases h with
  | failed failure remarks => rfl
  | @scanned files trace remarks asked =>
      change trace.filterMap Exchange.opening? =
        files.map (executable, ·) ++ trace.flatMap (Exchange.demands executable)
      induction asked with
      | nil => rfl
      | cons one _ ih =>
          obtain ⟨answer, rfl⟩ := one
          exact congrArg (_ :: ·) ih

theorem pursued_of_sequence {α : Type} {executable : String} {list : List α}
    {course : α → Ledger Reader → Except Failure Unit → Prop} {trace : Ledger Reader}
    {outcome : Except Failure Unit} (h : Search.Sequence course list trace outcome)
    (each : ∀ a trace outcome, course a trace outcome → trace.Pursued executable) :
    trace.Pursued executable := by
  induction h with
  | nil => rfl
  | stop _ one => exact each _ _ _ one
  | cons one _ ih => exact (each _ _ _ one).append ih

theorem pursued_of_course {resolver : Resolver} {tier : Tier} {trace : Ledger Reader}
    {outcome : Except Failure Unit} (h : tier.Course parties resolver trace outcome) :
    trace.Pursued resolver.executable := by
  cases h with
  | additional sequence =>
      exact pursued_of_sequence sequence fun _ _ _ => pursued_of_pattern
  | unlisted failure remarks => rfl
  | @listed imports trace _ remarks sequence =>
      have pursued : trace.Pursued resolver.executable := by
        refine pursued_of_sequence sequence ?_
        intro imported trace outcome course
        cases course with
        | absent => rfl
        | @scanned trace _ scan =>
            have read : trace.Pursued resolver.executable := pursued_of_scan scan
            exact read
      exact pursued

section Steps

variable {m : Type → Type} [Monad m]

def scanFiles (parties : Collaborators m Reader) (resolver : Resolver) (pattern : String)
    (files : List String) : Search m Unit :=
  if files.isEmpty then
    Search.remark [.warning s!"Additional PDB pattern '{pattern}' does not match any files"]
  else do
    Search.remark [.searchInfo
      s!"Additional PDB pattern '{pattern}' matches {files.length} files"]
    files.forM fun file => do
      let _ ← Scanner.scan parties resolver.extension? resolver.executable (some file)

def scanPresent (parties : Collaborators m Reader) (resolver : Resolver) (path : String)
    (isFile : Bool) : Search m Unit := do
  if isFile then
    let _ ← Scanner.scan parties resolver.extension? path none

end Steps

/-- A reader is asked for each file, and none of them ends the sequence. -/
theorem forall₂_of_sequence {executable : String} {files : List String} {trace : Ledger Reader}
    {outcome : Except Failure Unit}
    (h : Search.Sequence (fun file trace outcome =>
      ∃ answer, trace = [.opened executable file answer] ∧ outcome = .ok ()) files trace outcome) :
    List.Forall₂ (Asked executable) files trace ∧ outcome = .ok () := by
  induction h with
  | nil => exact ⟨.nil, rfl⟩
  | stop rest h =>
      obtain ⟨_, _, failed⟩ := h
      cases failed
  | cons h _ ih =>
      obtain ⟨answer, rfl, -⟩ := h
      exact ⟨.cons ⟨answer, rfl⟩ ih.1, ih.2⟩

theorem follows_scanFile (resolver : Resolver) (file : String) :
    Search.Follows parties
      (do let _ ← Scanner.scan parties resolver.extension? resolver.executable (some file))
      (do let _ ← Scanner.scan parties.watched resolver.extension? resolver.executable (some file))
      fun trace outcome =>
        ∃ answer, trace = [.opened resolver.executable file answer] ∧ outcome = .ok () := by
  refine (Scanner.follows_scan _ _ _ _).bind (fun _ => .pure ()) ?_ ?_
  · rintro trace failure ⟨⟩
  · rintro first n second outcome course ⟨rfl, rfl⟩
    cases course with
    | given _ answer => exact ⟨answer, rfl, rfl⟩

theorem follows_scanFiles (resolver : Resolver) (pattern : String) (files : List String) :
    Search.Follows parties (scanFiles parties resolver pattern files)
      (scanFiles parties.watched resolver pattern files) fun trace outcome =>
        ∀ remarks, PatternCourse resolver.executable pattern
          (.matched pattern (.ok files) remarks :: trace) outcome := by
  unfold scanFiles
  split
  · rename_i empty
    refine (Search.Follows.remark ?_).mono ?_
    · simp [Entry.Unattached, Entry.warning]
    · rintro _ _ ⟨rfl, rfl⟩ remarks
      cases List.isEmpty_iff.mp empty
      exact .scanned remarks .nil
  · refine .emit_bind (.said ?_) fun _ =>
      (Search.Follows.forM (follows_scanFile resolver) files).mono ?_
    · simp [Entry.Unattached, Entry.searchInfo]
    · intro trace outcome sequence remarks
      obtain ⟨asked, rfl⟩ := forall₂_of_sequence sequence
      exact .scanned remarks asked

theorem follows_scanPattern (resolver : Resolver) (pattern : String) :
    Search.Follows parties (scanPattern parties resolver pattern)
      (scanPattern parties.watched resolver pattern)
      (PatternCourse resolver.executable pattern) := by
  refine .emit_bind (.noted rfl rfl) fun _ =>
    (Search.Follows.matching pattern).bind (follows_scanFiles resolver pattern) ?_ ?_
  · rintro _ failure ⟨remarks, rfl⟩
    exact .failed failure remarks
  · rintro _ files trace outcome ⟨remarks, rfl⟩ course
    exact course remarks

theorem follows_scanPresent (resolver : Resolver) (path : String) (isFile : Bool) :
    Search.Follows parties (scanPresent parties resolver path isFile)
      (scanPresent parties.watched resolver path isFile) fun trace outcome =>
        ImportCourse parties resolver.extension? path (.looked path isFile :: trace) outcome := by
  cases isFile with
  | false =>
      refine (Search.Follows.pure ()).mono ?_
      rintro _ _ ⟨rfl, rfl⟩
      exact .absent
  | true =>
      refine (Scanner.follows_scan parties resolver.extension? path none).bind (fun _ => .pure ()) ?_ ?_
      · intro trace failure course
        exact .scanned course
      · rintro first n _ _ course ⟨rfl, rfl⟩
        rw [List.append_nil]
        exact .scanned course

theorem follows_scanImport (resolver : Resolver) (imported : String) :
    Search.Follows parties (scanImport parties resolver imported)
      (scanImport parties.watched resolver imported)
      (ImportCourse parties resolver.extension?
        (Path.join (Path.directory resolver.executable) imported)) := by
  refine (Search.Follows.look _).bind (follows_scanPresent resolver _) nofun ?_
  rintro _ isFile trace outcome ⟨_, rfl, ⟨⟩⟩ course
  exact course

theorem follows_steps (parties : Parties World Reader) (resolver : Resolver) (tier : Tier) :
    Search.Follows parties (tier.steps parties resolver) (tier.steps parties.watched resolver)
      (tier.Course parties resolver) := by
  cases tier with
  | additional =>
      refine (Search.Follows.forM (follows_scanPattern resolver) resolver.additional).mono ?_
      intro trace outcome sequence
      exact .additional sequence
  | imports =>
      refine .emit_bind (.noted rfl rfl) fun _ => (Search.Follows.list resolver.executable).bind
        (fun imports => .forM (follows_scanImport resolver) imports) ?_ ?_
      · rintro _ failure ⟨remarks, rfl⟩
        exact .unlisted failure remarks
      · rintro _ imports trace outcome ⟨remarks, rfl⟩ sequence
        exact .listed remarks sequence

end Resolver
end TestAtlas
