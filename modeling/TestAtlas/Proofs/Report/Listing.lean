import TestAtlas.Proofs.Data.Json
import TestAtlas.Proofs.Report.Printing
import TestAtlas.Proofs.Text.Split

/-!
Reading a listing back from what is printed. JSON says everything in it, and
JSON lines say all symbols with their categories. Plain text does so too if the
names have no tabs or line breaks in them.
-/

namespace TestAtlas

namespace Symbol

open Json (Apart Legible legible_quote legible_toString)

theorem legible_toValue (style : Json.Style) (comma : Apart style.item.toList) :
    Legible fun s : Symbol => (Json.render style s.toValue).toList := by
  have place : Apart (style.item ++ Json.quote "line" ++ style.name).toList := by
    obtain ⟨mark, more, spelled, digit⟩ := comma
    exact ⟨mark, _, by rw [String.toList_append, String.toList_append, spelled]; rfl, digit⟩
  have file : Apart (style.item ++ Json.quote "source_file" ++ style.name).toList := by
    obtain ⟨mark, more, spelled, digit⟩ := comma
    exact ⟨mark, _, by rw [String.toList_append, String.toList_append, spelled]; rfl, digit⟩
  have closed : Apart ['\x7d'] := ⟨_, _, rfl, by decide⟩
  have parts := (legible_quote.next (legible_quote.next (legible_toString.before closed) place)
    file).after ("\x7b" ++ Json.quote "symbol" ++ style.name).toList
  have inj : Function.Injective fun s : Symbol => (s.name, s.file, s.line) := by
    intro s t same
    obtain ⟨name, file, line⟩ := s
    cases same
    rfl
  refine (parts.comp inj).of_eq fun s => ?_
  simp only [toValue, Json.render, Json.renderFields, String.intercalate_cons_cons,
    String.intercalate_singleton, String.toList_append, List.append_assoc]
  rfl

theorem exists_toValue (style : Json.Style) (s : Symbol) :
    ∃ more, (Json.render style s.toValue).toList = '\x7b' :: more := by
  rw [toValue, Json.render, String.toList_append, String.toList_append]
  exact ⟨_, rfl⟩

end Symbol

namespace Report

open Json (Apart Legible Marked legible_list legible_quote legible_record)
open Terminal (Printout)

theorem toList_concat {printouts : List Printout}
    (fine : ∀ printout ∈ printouts, printout.problem? = none) :
    (Printout.concat printouts).text.toList = printouts.flatMap (·.text.toList) := by
  have from_ (start : Printout) (sound : start.problem? = none) :
      (printouts.foldl Printout.andThen start).text.toList =
        start.text.toList ++ printouts.flatMap (·.text.toList) := by
    induction printouts generalizing start with
    | nil => rw [List.foldl_nil, List.flatMap_nil, List.append_nil]
    | cons first rest ih =>
        have joined : start.andThen first =
            { first with text := start.text ++ first.text
                         coarse := start.coarse ++ first.coarse } := by
          rw [Printout.andThen, sound]
        have later := ih (fun other member => fine other (List.mem_cons_of_mem _ member))
          (start.andThen first) (by rw [joined, fine first List.mem_cons_self])
        rw [List.foldl_cons, later, joined, String.toList_append, List.flatMap_cons,
          List.append_assoc]
  exact from_ {} rfl

namespace Listing

variable {listing other : Listing} {columns columns' : Nat}

/-! JSON -/

theorem apart_compact : Apart Json.Style.compact.item.toList := ⟨_, _, rfl, by decide⟩

theorem apart_spaced : Apart Json.Style.spaced.item.toList := ⟨_, _, rfl, by decide⟩

theorem legible_symbols :
    Legible fun symbols : List Symbol =>
      (Json.render .compact (.list (symbols.map Symbol.toValue))).toList :=
  legible_list {
    legible := Symbol.legible_toValue .compact apart_compact
    separates := ⟨_, _, rfl, by decide, by decide⟩
    closes := by decide
    begins := fun s => by
      obtain ⟨more, spelled⟩ := s.exists_toValue .compact
      exact ⟨_, more, spelled, by decide⟩ }

theorem legible_toValue :
    Legible fun listing : Listing => (Json.render .compact listing.toValue).toList := by
  have between : Apart Json.Style.compact.name.toList := ⟨_, _, rfl, by decide⟩
  refine legible_record {
    legible := (legible_quote.next legible_symbols between).of_eq fun category => ?_
    separates := ⟨_, _, rfl, by decide, by decide⟩
    closes := by decide
    begins := fun category => ?_ }
  · rw [String.toList_append, String.toList_append, List.append_assoc]
  · rw [String.toList_append, String.toList_append, Json.quote, String.toList_ofList]
    exact ⟨_, _, rfl, by decide⟩

/-- The JSON text says everything that is listed. -/
theorem json_inj (same : (listing.present columns .json).text =
    (other.present columns' .json).text) : listing = other := by
  have texts : (Json.render .compact listing.toValue).toList =
      (Json.render .compact other.toValue).toList := by
    have whole := congrArg String.toList same
    simp only [present, jsonText, String.toList_append] at whole
    exact List.append_cancel_right whole
  exact legible_toValue.eq texts

/-- All symbols with their categories. -/
def entries (listing : Listing) : List (String × Symbol) :=
  listing.flatMap fun c => c.2.map (c.1, ·)

/-- An entry on a line of its own. -/
def entryLine (entry : String × Symbol) : String :=
  Json.render .spaced (.record [("type", .text entry.1), ("symbol", entry.2.toValue)]) ++ "\n"

theorem toList_jsonLines (listing : Listing) (columns : Nat) :
    (listing.present columns .jsonLines).text.toList =
      listing.entries.flatMap fun entry => (entryLine entry).toList := by
  have records : listing.records =
      listing.entries.map fun entry => (entry.1, [("symbol", entry.2.toValue)]) := by
    rw [Listing.records, entries, List.map_flatMap]
    simp only [List.map_map]
    rfl
  have line (entry : String × Symbol) : (jsonLinesText (.record [("type", .text entry.1),
      ("symbol", entry.2.toValue)])).text.toList = (entryLine entry).toList := by
    change (String.join [entryLine entry]).toList = _
    rw [String.toList_join, List.flatMap_singleton]
  rw [present, jsonRecords, records, List.map_map, toList_concat, List.flatMap_map]
  · simp only [← line]
    rfl
  · intro printout member
    obtain ⟨entry, -, rfl⟩ := List.mem_map.mp member
    rfl

theorem legible_entryLine : Legible fun entry => (entryLine entry).toList := by
  have between : Apart (", " ++ Json.quote "symbol" ++ ": ").toList := ⟨_, _, rfl, by decide⟩
  have behind : Apart "\x7d\n".toList := ⟨_, _, rfl, by decide⟩
  have parts := (legible_quote.next
    ((Symbol.legible_toValue .spaced apart_spaced).before behind) between).after
      ("\x7b" ++ Json.quote "type" ++ ": ").toList
  refine parts.of_eq fun entry => ?_
  simp only [entryLine, Json.render, Json.renderFields, String.intercalate_cons_cons,
    String.intercalate_singleton, String.toList_append, List.append_assoc]
  rfl

/-- The lines say which symbols there are, and in which categories. -/
theorem jsonLines_inj (same : (listing.present columns .jsonLines).text =
    (other.present columns' .jsonLines).text) : listing.entries = other.entries := by
  have texts := congrArg String.toList same
  rw [toList_jsonLines, toList_jsonLines] at texts
  refine legible_entryLine.flatMap_inj (fun entry => ?_) texts
  rw [entryLine, Json.render, String.toList_append, String.toList_append, String.toList_append]
  exact ⟨_, _, rfl, by decide⟩

/-! Plain text -/

/-- Whether the lines of a category can be told from others, and the parts of each line. -/
structure IsPlain (category : String × List Symbol) : Prop where
  head : category.1.toList.head? ≠ some ' '
  title : ':' ∉ category.1.toList ∧ '\n' ∉ category.1.toList
  names : ∀ s ∈ category.2, '\t' ∉ s.name.toList ∧ '\n' ∉ s.name.toList
  files : ∀ s ∈ category.2, '\n' ∉ s.file.toList

def headLine (category : String) (count : Nat) : String := s!"{category}: {count}"

def symbolLine (s : Symbol) : String := s!"  {s.name}\t{s.file}:{s.line}"

theorem toList_symbolLine (s : Symbol) : (symbolLine s).toList = ' ' :: ' ' ::
    (s.name.toList ++ '\t' :: (s.file.toList ++ ':' :: (toString s.line).toList)) := by
  have whole : symbolLine s = "  " ++ s.name ++ "\t" ++ s.file ++ ":" ++ toString s.line := rfl
  rw [whole]
  simp only [String.toList_append, List.append_assoc]
  rfl

theorem toList_headLine (category : String) (count : Nat) :
    (headLine category count).toList =
      category.toList ++ ':' :: ' ' :: (toString count).toList := by
  have whole : headLine category count = category ++ ": " ++ toString count := rfl
  rw [whole, String.toList_append, String.toList_append, List.append_assoc]
  rfl

theorem symbolLine_inj {s t : Symbol} (plain : '\t' ∉ s.name.toList)
    (plain' : '\t' ∉ t.name.toList) (same : symbolLine s = symbolLine t) : s = t := by
  have texts := congrArg String.toList same
  rw [toList_symbolLine, toList_symbolLine, List.cons.injEq, List.cons.injEq] at texts
  obtain ⟨name, behind⟩ := Text.append_cons_inj plain plain' texts.2.2
  have colon (n : Int) : ':' ∉ (toString n).toList.reverse := fun member =>
    Json.not_mem_toString (by decide) (by decide) n (List.mem_reverse.mp member)
  have turned := congrArg List.reverse behind
  simp only [List.reverse_append, List.reverse_cons, List.append_assoc,
    List.singleton_append] at turned
  obtain ⟨line, file⟩ := Text.append_cons_inj (colon s.line) (colon t.line) turned
  obtain ⟨name', file', line'⟩ := s
  obtain ⟨name'', file'', line''⟩ := t
  rw [Symbol.mk.injEq]
  refine ⟨String.toList_inj.mp name, String.toList_inj.mp (List.reverse_inj.mp file), ?_⟩
  exact Json.legible_toString.eq (List.reverse_inj.mp line)

theorem plainLines_cons (c : String × List Symbol) (listing : Listing) :
    plainLines (c :: listing) =
      headLine c.1 c.2.length :: (c.2.map symbolLine ++ listing.plainLines) := rfl

theorem headLine_inj {category category' : String} {count count' : Nat}
    (plain : ':' ∉ category.toList) (plain' : ':' ∉ category'.toList)
    (same : headLine category count = headLine category' count') : category = category' := by
  have texts := congrArg String.toList same
  rw [toList_headLine, toList_headLine] at texts
  exact String.toList_inj.mp (Text.append_cons_inj plain plain' texts).1

/-- The next category does not begin like a symbol. -/
theorem plainLines_ne_symbolLine (plain : ∀ c ∈ listing, IsPlain c) (s : Symbol)
    (rest : List String) : listing.plainLines ≠ symbolLine s :: rest := by
  cases listing with
  | nil => exact nofun
  | cons c listing =>
      intro same
      rw [plainLines_cons, List.cons.injEq] at same
      have texts := congrArg (·.toList.head?) same.1
      rw [toList_headLine, toList_symbolLine, List.head?_cons] at texts
      have begins := (plain c List.mem_cons_self).head
      cases spelled : c.1.toList with
      | nil =>
          rw [spelled, List.nil_append, List.head?_cons, Option.some.injEq] at texts
          exact absurd texts (by decide)
      | cons first more =>
          rw [spelled] at texts begins
          exact begins texts

theorem symbols_append_inj {symbols symbols' : List Symbol} (plain : ∀ c ∈ listing, IsPlain c)
    (plain' : ∀ c ∈ other, IsPlain c) (names : ∀ s ∈ symbols, '\t' ∉ s.name.toList)
    (names' : ∀ s ∈ symbols', '\t' ∉ s.name.toList)
    (same : symbols.map symbolLine ++ listing.plainLines =
      symbols'.map symbolLine ++ other.plainLines) :
    symbols = symbols' ∧ listing.plainLines = other.plainLines := by
  induction symbols generalizing symbols' with
  | nil =>
      cases symbols' with
      | nil => exact ⟨rfl, same⟩
      | cons t symbols' => exact absurd same (plainLines_ne_symbolLine plain t _)
  | cons s symbols ih =>
      cases symbols' with
      | nil => exact absurd same.symm (plainLines_ne_symbolLine plain' s _)
      | cons t symbols' =>
          obtain ⟨name, names⟩ := List.forall_mem_cons.mp names
          obtain ⟨name', names'⟩ := List.forall_mem_cons.mp names'
          obtain ⟨first, others⟩ := List.cons.inj same
          obtain ⟨others, lines⟩ := ih names names' others
          exact ⟨by rw [symbolLine_inj name name' first, others], lines⟩

theorem plainLines_inj (plain : ∀ c ∈ listing, IsPlain c) (plain' : ∀ c ∈ other, IsPlain c)
    (same : listing.plainLines = other.plainLines) : listing = other := by
  induction listing generalizing other with
  | nil =>
      cases other with
      | nil => rfl
      | cons d other => cases same
  | cons c listing ih =>
      cases other with
      | nil => cases same
      | cons d other =>
          obtain ⟨first, plain⟩ := List.forall_mem_cons.mp plain
          obtain ⟨first', plain'⟩ := List.forall_mem_cons.mp plain'
          rw [plainLines_cons, plainLines_cons, List.cons.injEq] at same
          have category := headLine_inj first.title.1 first'.title.1 same.1
          obtain ⟨symbols, lines⟩ := symbols_append_inj plain plain'
            (fun s member => (first.names s member).1) (fun s member => (first'.names s member).1)
            same.2
          rw [Prod.ext category symbols, ih plain plain' lines]

/-- Neither empty nor broken. -/
def IsLine (line : String) : Prop := line ≠ "" ∧ '\n' ∉ line.toList

theorem isLine_headLine {category : String} (plain : '\n' ∉ category.toList) (count : Nat) :
    IsLine (headLine category count) := by
  have number : '\n' ∉ (toString count).toList := fun member =>
    absurd (Json.isDigit_of_mem_repr member) (by decide)
  rw [IsLine, ← String.toList_inj.ne, toList_headLine, List.mem_append, List.mem_cons,
    List.mem_cons, not_or, not_or, not_or]
  exact ⟨by simp, plain, by decide, by decide, number⟩

theorem isLine_symbolLine {s : Symbol} (name : '\n' ∉ s.name.toList)
    (file : '\n' ∉ s.file.toList) : IsLine (symbolLine s) := by
  have number : '\n' ∉ (toString s.line).toList :=
    Json.not_mem_toString (by decide) (by decide) s.line
  rw [IsLine, ← String.toList_inj.ne, toList_symbolLine]
  simp only [List.mem_cons, List.mem_append, not_or]
  exact ⟨List.cons_ne_nil _ _, by decide, by decide, name, by decide, file, by decide, number⟩

theorem isLine_of_mem_plainLines (plain : ∀ c ∈ listing, IsPlain c) {line : String}
    (member : line ∈ listing.plainLines) : IsLine line := by
  obtain ⟨c, listed, inside⟩ := List.mem_flatMap.mp member
  have whole : line ∈ headLine c.1 c.2.length :: c.2.map symbolLine := inside
  obtain rfl | inside := List.mem_cons.mp whole
  · exact isLine_headLine (plain c listed).title.2 _
  · obtain ⟨s, listed', rfl⟩ := List.mem_map.mp inside
    exact isLine_symbolLine ((plain c listed).names s listed').2 ((plain c listed).files s listed')

/-- Between its line breaks a text has its lines, and perhaps nothing behind the last one. -/
theorem pieces_plainLines {lines : List String} (some : lines ≠ [])
    (each : ∀ line ∈ lines, IsLine line) :
    Text.pieces '\n' (Report.plainLines lines).text = lines ∨
      Text.pieces '\n' (Report.plainLines lines).text = lines ++ [""] := by
  have broken : Text.pieces '\n' (String.intercalate "\n" lines) = lines :=
    Text.pieces_intercalate some fun line member => (each line member).2
  rw [Report.plainLines, plainText]
  dsimp only
  split
  · exact .inl broken
  · have nothing : Text.pieces '\n' "" = [""] := Text.pieces_of_absent List.not_mem_nil
    have closed := Text.pieces_append '\n' (String.intercalate "\n" lines) ""
    rw [String.append_empty, broken, nothing] at closed
    exact .inr closed

theorem lines_inj {lines lines' : List String} (some : lines ≠ []) (some' : lines' ≠ [])
    (each : ∀ line ∈ lines, IsLine line) (every : ∀ line ∈ lines', IsLine line)
    (same : (Report.plainLines lines).text = (Report.plainLines lines').text) :
    lines = lines' := by
  have pieces := pieces_plainLines some each
  rw [same] at pieces
  -- An empty piece at the end of only one of them would be a line of the other one.
  obtain first | first := pieces_plainLines some' every
  · obtain second | second := pieces
    · exact second.symm.trans first
    · have empty : "" ∈ lines' := by
        rw [← first, second]
        exact List.mem_append_right _ List.mem_cons_self
      exact absurd rfl (every "" empty).1
  · obtain second | second := pieces
    · have empty : "" ∈ lines := by
        rw [← second, first]
        exact List.mem_append_right _ List.mem_cons_self
      exact absurd rfl (each "" empty).1
    · exact List.append_cancel_right (second.symm.trans first)

/-- Plain text says everything that is listed, if there are no tabs and line breaks in the names. -/
theorem plain_inj (some : listing ≠ []) (some' : other ≠ []) (plain : ∀ c ∈ listing, IsPlain c)
    (plain' : ∀ c ∈ other, IsPlain c) (same : (listing.present columns .plain).text =
      (other.present columns' .plain).text) : listing = other := by
  have lines {listing : Listing} (some : listing ≠ []) : listing.plainLines ≠ [] := by
    cases listing with
    | nil => exact absurd rfl some
    | cons c listing => exact List.cons_ne_nil _ _
  exact plainLines_inj plain plain' (lines_inj (lines some) (lines some')
    (fun _ => isLine_of_mem_plainLines plain) (fun _ => isLine_of_mem_plainLines plain') same)

/-- What is listed can be told from what is printed. -/
structure Recoverable (listing : Listing) : Prop where
  json : ∀ (other : Listing) (columns : Nat),
    (other.present columns .json).text = (listing.present columns .json).text → other = listing
  jsonLines : ∀ (other : Listing) (columns : Nat),
    (other.present columns .jsonLines).text = (listing.present columns .jsonLines).text →
      other.entries = listing.entries
  plain : (∀ c ∈ listing, IsPlain c) → ∀ (other : Listing) (columns : Nat), other ≠ [] →
    (∀ c ∈ other, IsPlain c) →
      (other.present columns .plain).text = (listing.present columns .plain).text →
        other = listing

theorem recoverable (some : listing ≠ []) : listing.Recoverable where
  json _ _ same := json_inj same
  jsonLines _ _ same := jsonLines_inj same
  plain plain _ _ some' plain' same := plain_inj some' some plain' plain same

end Listing
end Report
end TestAtlas
