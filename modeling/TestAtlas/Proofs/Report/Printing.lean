import TestAtlas.Proofs.Data.Ascii
import TestAtlas.Proofs.Terminal.Drawing
import TestAtlas.Report.Imports
import TestAtlas.Report.Listing
import TestAtlas.Report.Location

/-!
Which reports can be printed. In plain text and in both kinds of JSON all can,
and JSON needs no other characters than those of ASCII; as rich text a report can
if its texts are free of tags.
-/

namespace TestAtlas

namespace Value

theorem mapM_texts {f : Value × Nat → Except Misuse String} (h : ∀ s i, f (text s, i) = .ok s)
    (texts : List String) (start : Nat) : ((texts.map text).zipIdx start).mapM f = .ok texts := by
  induction texts generalizing start with
  | nil => rfl
  | cons first rest ih =>
      rw [List.map_cons, List.zipIdx_cons, List.mapM_cons, h, ih]
      rfl

/-- Texts can be joined. -/
theorem joined_texts (separator : String) (texts : List String) :
    (list (texts.map text)).joined separator = .ok (String.intercalate separator texts) := by
  unfold joined
  change List.mapM _ (texts.map text).zipIdx >>= _ = _
  rw [mapM_texts fun _ _ => rfl]
  rfl

end Value

namespace Terminal
namespace Printout

/-- Everything is printed, and nothing of it is drawn. -/
structure IsText (printout : Printout) : Prop where
  problem : printout.problem? = none
  coarse : printout.coarse = printout.text

variable {first second : Printout}

theorem IsText.andThen (h : first.IsText) (h' : second.IsText) : (first.andThen second).IsText := by
  rw [Printout.andThen, h.problem]
  exact ⟨h'.problem, by rw [h.coarse, h'.coarse]⟩

theorem isAscii_andThen (h : IsAscii first.text.toList) (h' : IsAscii second.text.toList) :
    IsAscii (first.andThen second).text.toList := by
  rw [Printout.andThen]
  split
  · exact h
  · rw [String.toList_append]
    exact h.append h'

theorem problem?_andThen (before : first.problem? = none) (after : second.problem? = none) :
    (first.andThen second).problem? = none := by
  rw [Printout.andThen, before]
  exact after

/-- What holds of each printout and is kept when one follows another holds of them all. -/
theorem concat_induction (good : Printout → Prop) (empty : good {})
    (follow : ∀ {first second}, good first → good second → good (first.andThen second))
    {printouts : List Printout} (each : ∀ printout ∈ printouts, good printout) :
    good (concat printouts) := by
  have from_ (start : Printout) (fine : good start) : good (printouts.foldl andThen start) := by
    induction printouts generalizing start with
    | nil => exact fine
    | cons first rest ih =>
        obtain ⟨one, others⟩ := List.forall_mem_cons.mp each
        exact ih others _ (follow fine one)
  exact from_ {} empty

end Printout
end Terminal

namespace Report

open Terminal (Printout Harmless harmless_of_tagless harmless_styled harmless_styled_blank
  passes_styled_end shown styled)
open Terminal.Markup (Passes passes_tagless tagless)
open Terminal.Printout (problem?_andThen)

theorem problem?_concat {printouts : List Printout}
    (fine : ∀ printout ∈ printouts, printout.problem? = none) :
    (Printout.concat printouts).problem? = none :=
  Printout.concat_induction (·.problem? = none) rfl problem?_andThen fine

theorem isText_jsonRecords (records : List (String × List (String × Value))) :
    (jsonRecords records).IsText := by
  refine Printout.concat_induction _ ⟨rfl, rfl⟩ .andThen fun printout member => ?_
  obtain ⟨record, -, rfl⟩ := List.mem_map.mp member
  exact ⟨rfl, rfl⟩

theorem plain_compact : Json.Style.compact.Plain := ⟨by decide, by decide⟩

theorem plain_spaced : Json.Style.spaced.Plain := ⟨by decide, by decide⟩

theorem isAscii_jsonText (value : Value) : IsAscii (jsonText value).text.toList := by
  rw [jsonText, String.toList_append]
  exact (Json.isAscii_render plain_compact value).append (by decide)

theorem isAscii_jsonLinesText (value : Value) : IsAscii (jsonLinesText value).text.toList := by
  unfold jsonLinesText
  dsimp only
  rw [String.toList_join]
  refine .flatMap fun line member => ?_
  obtain ⟨item, -, rfl⟩ := List.mem_map.mp member
  rw [String.toList_append]
  exact (Json.isAscii_render plain_spaced item).append (by decide)

theorem isAscii_jsonRecords (records : List (String × List (String × Value))) :
    IsAscii (jsonRecords records).text.toList := by
  refine Printout.concat_induction (IsAscii ·.text.toList) nofun Printout.isAscii_andThen
    fun printout member => ?_
  obtain ⟨record, -, rfl⟩ := List.mem_map.mp member
  exact isAscii_jsonLinesText _

theorem problem?_ofBlock {columns : Nat} {block : Except Terminal.PrintError Terminal.Block}
    (h : ∃ lines, block = .ok lines) : (Printout.ofBlock columns block).problem? = none := by
  obtain ⟨lines, rfl⟩ := h
  rw [Printout.ofBlock]
  split <;> rfl

theorem problem?_ofDrawing {columns : Nat}
    {draw : Terminal.Strokes → Except Terminal.PrintError Terminal.Block}
    (h : ∃ lines, draw .lines = .ok lines) :
    (Printout.ofDrawing columns draw).problem? = none :=
  problem?_ofBlock h

variable {format : Format} {columns : Nat}

namespace Location

theorem isText_present (h : format ≠ .rich) (columns : Nat) (signatures : List String)
    (found? : Option TestCase) :
    ((ofSearch signatures found?).present columns format).IsText := by
  cases format with
  | rich => exact absurd rfl h
  | json => exact ⟨rfl, rfl⟩
  | jsonLines => exact isText_jsonRecords _
  | plain =>
      cases found? with
      | some test => exact ⟨rfl, rfl⟩
      | none =>
          change (Printout.ofAccess ((((Value.list (signatures.map .text)).joined ", ").map _).map
            Report.plainLines)).IsText
          rw [Value.joined_texts]
          exact ⟨rfl, rfl⟩

/-- The texts that are shown as marked text. -/
def marked (signatures : List String) : Option TestCase → List String
  | none => [String.intercalate ", " signatures]
  | some test => test.traits.flatMap fun t => [t.name, t.value]

theorem isHarmless_traitTable {traits : List Trait}
    (free : ∀ t ∈ traits, tagless t.name.toList = true ∧ tagless t.value.toList = true) :
    (traitTable traits).IsHarmless where
  title := harmless_styled (by decide) (by decide)
  headings := by
    intro column member
    simp only [traitTable, List.mem_cons, List.not_mem_nil, or_false] at member
    obtain rfl | rfl := member <;> exact harmless_of_tagless (by decide)
  rows := by
    intro row member text inside
    obtain ⟨t, listed, rfl⟩ := List.mem_map.mp member
    simp only [List.mem_cons, List.not_mem_nil, or_false] at inside
    obtain rfl | rfl := inside
    · exact harmless_of_tagless (free t listed).1
    · exact harmless_of_tagless (free t listed).2

theorem problem?_rich {signatures : List String} {found? : Option TestCase}
    (free : ∀ text ∈ marked signatures found?, tagless text.toList = true) :
    ((ofSearch signatures found?).rich columns).problem? = none := by
  cases found? with
  | none =>
      change (Printout.ofAccess (((Value.list (signatures.map .text)).joined ", ").map
        _)).problem? = none
      rw [Value.joined_texts]
      exact problem?_ofBlock (Terminal.paragraph_of_harmless _
        (harmless_styled_blank (by decide) (by decide)
          (passes_tagless (free _ (List.mem_singleton.mpr rfl)))))
  | some test =>
      refine problem?_andThen (problem?_ofDrawing ⟨_, rfl⟩) ?_
      split
      · rfl
      · refine problem?_ofDrawing (Terminal.Table.render_of_harmless _ _
          (isHarmless_traitTable fun t member => ⟨free _ ?_, free _ ?_⟩))
        · exact List.mem_flatMap.mpr ⟨t, member, List.mem_cons_self⟩
        · exact List.mem_flatMap.mpr ⟨t, member, List.mem_cons_of_mem _ List.mem_cons_self⟩

end Location

namespace Listing

theorem isText_present (h : format ≠ .rich) (columns : Nat) (listing : Listing) :
    (listing.present columns format).IsText := by
  cases format with
  | rich => exact absurd rfl h
  | jsonLines => exact isText_jsonRecords _
  | plain | json => exact ⟨rfl, rfl⟩

/-- The texts that are shown as marked text. -/
def marked (listing : Listing) : List String :=
  listing.flatMap fun (category, symbols) =>
    Casing.title category :: symbols.flatMap fun s => [s.name, s.file]

theorem isHarmless_symbolTable {category : String} {symbols : List Symbol}
    (title : tagless (Casing.title category).toList = true)
    (free : ∀ s ∈ symbols, tagless s.name.toList = true ∧ tagless s.file.toList = true) :
    (symbolTable category symbols).IsHarmless where
  title := by
    refine harmless_styled ?_ title
    unfold style
    split
    · decide
    · split <;> decide
  headings := by
    intro column member
    simp only [symbolTable, List.mem_cons, List.not_mem_nil, or_false] at member
    obtain rfl | rfl | rfl := member <;> exact harmless_of_tagless (by decide)
  rows := by
    intro row member text inside
    obtain ⟨s, listed, rfl⟩ := List.mem_map.mp member
    simp only [List.mem_cons, List.not_mem_nil, or_false] at inside
    obtain rfl | rfl | rfl := inside
    · exact harmless_of_tagless (free s listed).1
    · exact harmless_of_tagless (free s listed).2
    · exact harmless_of_tagless (Terminal.Markup.tagless_toString s.line)

theorem problem?_rich {listing : Listing}
    (free : ∀ text ∈ listing.marked, tagless text.toList = true) :
    (listing.rich columns).problem? = none := by
  refine problem?_concat (List.forall_mem_cons.mpr ⟨problem?_ofDrawing ⟨_, rfl⟩, ?_⟩)
  intro printout member
  obtain ⟨⟨category, symbols⟩, listed, rfl⟩ := List.mem_map.mp member
  have within {text : String} (inside : text ∈ Casing.title category ::
      symbols.flatMap fun s => [s.name, s.file]) : tagless text.toList = true :=
    free text (List.mem_flatMap.mpr ⟨(category, symbols), listed, inside⟩)
  dsimp only
  rw [richCategory]
  split
  · rfl
  · refine problem?_andThen (problem?_ofDrawing (Terminal.Table.render_of_harmless _ _
      (isHarmless_symbolTable (within List.mem_cons_self) fun s member => ⟨within ?_, within ?_⟩)))
      (problem?_ofBlock ⟨_, rfl⟩)
    · exact List.mem_cons_of_mem _ (List.mem_flatMap.mpr ⟨s, member, List.mem_cons_self⟩)
    · exact List.mem_cons_of_mem _
        (List.mem_flatMap.mpr ⟨s, member, List.mem_cons_of_mem _ List.mem_cons_self⟩)

end Listing

namespace Imports

/-- The name of a program database, or a dash. -/
def databaseText (database? : Option String) : String :=
  match database?.filter (· != "") with
  | some database => database
  | none => "-"

theorem database_ofImage (path : String) (database? : Option String)
    (modules : List (String × Bool)) :
    (ofImage path database? modules).database = .ok (databaseText database?) := by
  cases database? with
  | none => rfl
  | some database =>
      change Except.ok (if (Value.text database).isTruthy then database else "-") = _
      by_cases empty : database = ""
      · subst empty
        rfl
      · have counts : (database != "") = true := bne_iff_ne.mpr empty
        rw [databaseText, Option.filter_some, if_pos counts]
        exact congrArg Except.ok (if_pos (by simpa [Value.isTruthy] using empty))

theorem combine_ofImage {α : Type} (path : String) (database? : Option String)
    (modules : List (String × Bool)) (make : String → String → List (String × Bool) → α) :
    (ofImage path database? modules).combine make =
      .ok (make path (databaseText database?) modules) := by
  have named : (modules.map fun i => item i.1 i.2).mapM nameAndFound = .ok modules := by
    induction modules with
    | nil => rfl
    | cons first rest ih =>
        rw [List.map_cons, List.mapM_cons, ih]
        rfl
  have listed : (ofImage path database? modules).items =
      .ok (modules.map fun i => item i.1 i.2) := rfl
  rw [combine, database_ofImage, listed]
  change (List.mapM nameAndFound _ >>= fun found => Except.ok (make path _ found)) = _
  rw [named]
  rfl

theorem records_ofImage (path : String) (database? : Option String)
    (modules : List (String × Bool)) :
    ∃ records, (ofImage path database? modules).records = .ok records := by
  obtain ⟨fields, listed, -⟩ : ∃ fields : List (List (String × Value)),
      (modules.map fun i => item i.1 i.2).mapM Value.fields = .ok fields ∧
        ∀ field ∈ fields, True :=
    Terminal.mapM_ok fun value member => by
      obtain ⟨i, -, rfl⟩ := List.mem_map.mp member
      exact ⟨_, rfl, trivial⟩
  refine ⟨("pdb", [("path", (database?.map Value.text).getD .null)]) ::
    fields.map fun fields => ("import", fields), ?_⟩
  change (List.mapM Value.fields _ >>= fun found => Except.ok _) = _
  rw [listed]
  rfl

theorem isText_present (h : format ≠ .rich) (columns : Nat) (path : String)
    (database? : Option String) (modules : List (String × Bool)) :
    ((ofImage path database? modules).present columns format).IsText := by
  cases format with
  | rich => exact absurd rfl h
  | json => exact ⟨rfl, rfl⟩
  | plain =>
      rw [present, combine_ofImage]
      exact ⟨rfl, rfl⟩
  | jsonLines =>
      obtain ⟨records, read⟩ := records_ofImage path database? modules
      rw [present, read]
      exact isText_jsonRecords records

/-- JSON lines are made of records. -/
theorem isAscii_jsonLines (columns : Nat) (path : String) (database? : Option String)
    (modules : List (String × Bool)) :
    IsAscii ((ofImage path database? modules).present columns .jsonLines).text.toList := by
  obtain ⟨records, read⟩ := records_ofImage path database? modules
  rw [present, read]
  exact isAscii_jsonRecords records

/-- The texts that are shown as marked text. -/
def marked (path : String) (database? : Option String) (modules : List (String × Bool)) :
    List String :=
  path :: database?.toList ++ modules.map (·.1)

theorem tagless_databaseText {database? : Option String}
    (free : ∀ database ∈ database?, tagless database.toList = true) :
    tagless (databaseText database?).toList = true := by
  rw [databaseText]
  split
  case h_1 database given => exact free database (Option.filter_eq_some_iff.mp given).1
  case h_2 => decide

theorem harmless_branch {name : String} (free : tagless name.toList = true) (found : Bool) :
    Harmless (branch name found) := by
  have word : Passes shown (if found then styled "green" "found" else styled "dim" "missing").toList
      [] := by
    cases found with
    | true => exact passes_styled_end (by decide) (by decide)
    | false => exact passes_styled_end (by decide) (by decide)
  exact harmless_styled_blank (by decide) free word

theorem problem?_rich {path : String} {database? : Option String} {modules : List (String × Bool)}
    (free : ∀ text ∈ marked path database? modules, tagless text.toList = true) :
    ((ofImage path database? modules).present columns .rich).problem? = none := by
  rw [present, combine_ofImage]
  change (Printout.ofDrawing columns fun strokes =>
    (outline path (databaseText database?) modules).render strokes columns).problem? = none
  refine problem?_ofDrawing (Terminal.Outline.render_of_harmless _ _
    (harmless_styled (by decide) (free path List.mem_cons_self)) ?_)
  refine List.forall_mem_cons.mpr ⟨?_, fun label member => ?_⟩
  · refine harmless_styled_blank (by decide) (by decide)
      (passes_tagless (tagless_databaseText fun database given => ?_))
    exact free database (List.mem_append_left _
      (List.mem_cons_of_mem _ (Option.mem_toList.mpr given)))
  · obtain ⟨⟨name, found⟩, listed, rfl⟩ := List.mem_map.mp member
    refine harmless_branch (free name ?_) found
    exact List.mem_append_right _ (List.mem_map_of_mem listed)

end Imports
end Report
end TestAtlas
