import TestAtlas.Proofs.Terminal.Tagless

/-!
Paragraphs, outlines and tables of harmless texts are drawn without a problem,
whatever room there is for them.
-/

namespace TestAtlas
namespace Terminal

open Markup (tagless IsStyle Passes)

/-- A text can be read as marked text, and no style has to be applied to it. -/
def Harmless (markup : String) : Prop :=
  ∃ marked, plain markup = .ok marked ∧ marked.spans = []

theorem Markup.Reading.finish_of_isPlain {reading : Markup.Reading} (h : reading.IsPlain) :
    reading.finish.spans = [] := by
  have none : (reading.opened.reverse.flatMap fun tag => tag.spans reading.length) = [] := by
    refine List.flatMap_eq_nil_iff.mpr fun tag member => ?_
    rw [Opened.spans, (h.opened tag (List.mem_reverse.mp member)).1]
    rfl
  rw [finish, none, h.spans]
  exact List.mergeSort_nil

theorem harmless_of_passes {markup : String} (h : Passes shown markup.toList []) :
    Harmless markup := by
  obtain ⟨run, position, later, calm, same⟩ := h [] 0 {} ⟨rfl, fun _ member => by cases member⟩
  obtain ⟨last, opened, spans, goesOn⟩ := Markup.Reading.foldlM_texts shown
    (@Markup.text_of_mem_textPiece run) later
  have read : (Markup.pieces [] 0 markup.toList).foldlM (Markup.step shown) {} = .ok last := by
    rw [same, Markup.pieces_end rfl, List.reverse_nil, List.nil_append]
    have done := goesOn []
    rw [List.append_nil] at done
    exact done
  refine ⟨last.finish, ?_, Markup.Reading.finish_of_isPlain ⟨spans.trans calm.spans, ?_⟩⟩
  · rw [plain, Markup.read, read]
    rfl
  · rw [opened]
    exact calm.opened

theorem harmless_of_tagless {text : String} (h : tagless text.toList = true) : Harmless text :=
  harmless_of_passes (Markup.passes_tagless h)

theorem toList_styled (style text : String) :
    (styled style text).toList = '[' :: (style.toList ++ ']' :: (text.toList ++
      '[' :: ('/' :: style.toList ++ [']']))) := by
  simp [styled]

/-- The styles of headings and labels. -/
def styles : List String :=
  ["cyan", "green", "magenta", "yellow", "dim", "bold blue", "bold cyan", "bold magenta",
    "bold white"]

theorem isStyle_of_mem {style : String} (h : style ∈ styles) : IsStyle style.toList := by
  simp only [styles, List.mem_cons, List.not_mem_nil, or_false] at h
  obtain rfl | rfl | rfl | rfl | rfl | rfl | rfl | rfl | rfl := h <;>
    exact ⟨⟨by decide, by decide, by decide⟩, by decide, by decide, by decide,
      by decide +kernel, by decide +kernel⟩

variable {style text : String}

theorem passes_styled (known : style ∈ styles) (free : tagless text.toList = true)
    (after : List Char) : Passes shown ((styled style text).toList ++ after) after := by
  rw [toList_styled]
  simpa using Markup.passes_styled (isStyle_of_mem known) free after

theorem passes_styled_end (known : style ∈ styles) (free : tagless text.toList = true) :
    Passes shown (styled style text).toList [] := by
  have passes := passes_styled known free []
  rw [List.append_nil] at passes
  exact passes

theorem harmless_styled (known : style ∈ styles) (free : tagless text.toList = true) :
    Harmless (styled style text) :=
  harmless_of_passes (passes_styled_end known free)

theorem harmless_styled_blank (known : style ∈ styles) (free : tagless text.toList = true)
    {more : String} (rest : Passes shown more.toList []) :
    Harmless (styled style text ++ " " ++ more) := by
  refine harmless_of_passes ?_
  rw [String.toList_append, String.toList_append, List.append_assoc]
  exact (passes_styled known free _).trans ((Markup.passes_blank _).trans rest)

theorem Markup.Marked.apply_of_spans {marked : Markup.Marked} (h : marked.spans = []) (room : Nat)
    (overflow : Overflow) : marked.apply room overflow = .ok () := by
  rw [apply, h]
  split <;> rfl

theorem paragraph_of_harmless (columns : Nat) (h : Harmless text) :
    ∃ block, paragraph columns text = .ok block := by
  obtain ⟨marked, read, calm⟩ := h
  refine ⟨Paragraph.wrap columns {} marked.text, ?_⟩
  rw [paragraph, read]
  change marked.apply columns .fold >>= _ = _
  rw [Markup.Marked.apply_of_spans calm]
  rfl

namespace Outline

theorem labelLines_of_harmless (columns : Nat) (h : Harmless text) :
    ∃ block, labelLines columns text = .ok block := by
  rw [labelLines]
  split
  · exact ⟨[], rfl⟩
  · exact paragraph_of_harmless columns h

theorem renderBranches_of_harmless (strokes : Strokes) (columns : Nat) {labels : List String}
    (h : ∀ label ∈ labels, Harmless label) :
    ∃ block, renderBranches strokes columns labels = .ok block := by
  induction labels with
  | nil => exact ⟨[], rfl⟩
  | cons label rest ih =>
      obtain ⟨lines, first⟩ := labelLines_of_harmless (columns - guideWidth)
        (h label List.mem_cons_self)
      obtain ⟨others, more⟩ := ih fun other member => h other (List.mem_cons_of_mem _ member)
      refine ⟨branchLines strokes rest.isEmpty lines ++ others, ?_⟩
      rw [renderBranches, first, more]
      rfl

theorem render_of_harmless (strokes : Strokes) (columns : Nat) {outline : Outline}
    (root : Harmless outline.root) (branches : ∀ label ∈ outline.branches, Harmless label) :
    ∃ block, outline.render strokes columns = .ok block := by
  obtain ⟨top, first⟩ := labelLines_of_harmless columns root
  obtain ⟨below, others⟩ := renderBranches_of_harmless strokes columns branches
  refine ⟨top ++ below, ?_⟩
  rw [render, first, others]
  rfl

end Outline

theorem mapM_ok {α β ε : Type} {f : α → Except ε β} {good : β → Prop} {items : List α}
    (each : ∀ item ∈ items, ∃ result, f item = .ok result ∧ good result) :
    ∃ results, items.mapM f = .ok results ∧ ∀ result ∈ results, good result := by
  induction items with
  | nil => exact ⟨[], rfl, fun _ member => by cases member⟩
  | cons item rest ih =>
      obtain ⟨result, first, fine⟩ := each item List.mem_cons_self
      obtain ⟨results, others, more⟩ := ih fun other member =>
        each other (List.mem_cons_of_mem _ member)
      refine ⟨result :: results, ?_, List.forall_mem_cons.mpr ⟨fine, more⟩⟩
      rw [List.mapM_cons, first, others]
      rfl

theorem forM_ok {α ε : Type} {f : α → Except ε Unit} {items : List α}
    (each : ∀ item ∈ items, f item = .ok ()) : items.forM f = .ok () := by
  induction items with
  | nil => rfl
  | cons item rest ih =>
      change (f item >>= fun _ => rest.forM f) = _
      rw [each item List.mem_cons_self]
      exact ih fun other member => each other (List.mem_cons_of_mem _ member)

namespace Table

/-- All marked texts of a table are harmless. -/
structure IsHarmless (table : Table) : Prop where
  title : Harmless table.title
  headings : ∀ column ∈ table.columns, Harmless column.heading
  rows : ∀ row ∈ table.rows, ∀ text ∈ row, Harmless text

variable {table : Table}

theorem shownColumns_of_harmless (h : table.IsHarmless) (room : Nat) :
    ∃ columns, shownColumns room table = .ok columns ∧
      ∀ column ∈ columns, ∀ cell ∈ column.2, cell.spans = [] := by
  refine mapM_ok fun (column, i) member => ?_
  dsimp only
  have texts : ∀ text ∈ column.heading :: table.rows.map (·.getD i ""), Harmless text := by
    refine List.forall_mem_cons.mpr ⟨h.headings column (List.fst_mem_of_mem_zipIdx member), ?_⟩
    intro text inside
    obtain ⟨row, listed, rfl⟩ := List.mem_map.mp inside
    rw [List.getD_eq_getElem?_getD]
    cases there : row[i]? with
    | none => exact harmless_of_tagless rfl
    | some text => exact h.rows row listed text (List.mem_of_getElem? there)
  by_cases narrow : room ≤ padding
  · rw [if_pos narrow]
    refine ⟨_, rfl, fun cell inside => ?_⟩
    obtain ⟨-, -, rfl⟩ := List.mem_map.mp inside
    rfl
  · rw [if_neg narrow]
    obtain ⟨cells, read, calm⟩ := mapM_ok texts
    refine ⟨(column, cells), ?_, calm⟩
    rw [read]
    rfl

theorem applyStyles_of_spans {columns : List (Column × List Markup.Marked)}
    (h : ∀ column ∈ columns, ∀ cell ∈ column.2, cell.spans = []) (widths : List Nat) (i : Nat) :
    applyStyles columns widths i = .ok () := by
  refine forM_ok fun (w, column, cells) member => ?_
  refine Markup.Marked.apply_of_spans ?_ _ _
  rw [cell, List.getD_eq_getElem?_getD]
  cases there : cells[i]? with
  | none => rfl
  | some marked =>
      exact h (column, cells) (List.of_mem_zip member).2 marked (List.mem_of_getElem? there)

theorem render_of_harmless (strokes : Strokes) (screen : Nat) (h : table.IsHarmless) :
    ∃ block, table.render strokes screen = .ok block := by
  obtain ⟨columns, shown, calm⟩ :=
    shownColumns_of_harmless h (screen - (table.columns.length + 1))
  obtain ⟨title, read, plainTitle⟩ := h.title
  have applied (widths : List Nat) : (List.range (table.rows.length + 1)).forM
      (applyStyles columns widths) = .ok () :=
    forM_ok fun i _ => applyStyles_of_spans calm widths i
  simp only [render, shown, read, bind, Except.bind, applied,
    Markup.Marked.apply_of_spans plainTitle]
  exact ⟨_, rfl⟩

end Table

end Terminal
end TestAtlas
