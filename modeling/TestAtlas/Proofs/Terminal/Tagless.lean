import Mathlib.Data.List.TakeWhile
import TestAtlas.Terminal.Outline
import TestAtlas.Terminal.Table

/-!
Marked text that can always be printed: texts in which no bracket starts a tag,
alone or between tags of a style. A backslash at the end of such a text may take
the closing tag for itself, but that only leaves the style open.
-/

namespace TestAtlas
namespace Terminal
namespace Markup

/-- What can stand in a tag. -/
structure IsBody (body : List Char) : Prop where
  starts : body.head?.any startsTag = true
  noOpening : '[' ∉ body
  noClosing : ']' ∉ body

theorem mem_takeWhile_bracket {c : Char} {text : List Char}
    (h : c ∈ text.takeWhile fun c => c != '[' && c != ']') : c ≠ '[' ∧ c ≠ ']' := by
  have allowed := List.mem_takeWhile_imp h
  rw [Bool.and_eq_true, bne_iff_ne, bne_iff_ne] at allowed
  exact allowed

theorem startsTag_bracket {c : Char} (h : startsTag c = true) : c ≠ '[' ∧ c ≠ ']' := by
  constructor <;> rintro rfl <;> exact absurd h (by decide)

theorem isBody_of_tagBody? {text body after : List Char} (h : tagBody? text = some (body, after)) :
    text = body ++ ']' :: after ∧ IsBody body := by
  cases text with
  | nil => cases h
  | cons c rest =>
      rw [tagBody?] at h
      split at h
      case isFalse => cases h
      case isTrue starts =>
        dsimp only at h
        split at h
        case h_2 => cases h
        case h_1 stop =>
          cases h
          have whole := List.takeWhile_append_dropWhile (p := fun c => c != '[' && c != ']')
            (l := rest)
          rw [stop] at whole
          refine ⟨by rw [List.cons_append, whole], starts, fun member => ?_, fun member => ?_⟩
          · rcases List.mem_cons.mp member with same | inside
            · exact (startsTag_bracket starts).1 same.symm
            · exact (mem_takeWhile_bracket inside).1 rfl
          · rcases List.mem_cons.mp member with same | inside
            · exact (startsTag_bracket starts).2 same.symm
            · exact (mem_takeWhile_bracket inside).2 rfl

theorem tagBody?_of_isBody {body : List Char} (h : IsBody body) (after : List Char) :
    tagBody? (body ++ ']' :: after) = some (body, after) := by
  obtain ⟨starts, noOpening, noClosing⟩ := h
  cases body with
  | nil => exact absurd starts Bool.false_ne_true
  | cons c inner =>
      have allowed : ∀ d ∈ inner, (d != '[' && d != ']') = true := by
        intro d member
        rw [Bool.and_eq_true, bne_iff_ne, bne_iff_ne]
        exact ⟨fun same => noOpening (same ▸ List.mem_cons_of_mem c member),
          fun same => noClosing (same ▸ List.mem_cons_of_mem c member)⟩
      rw [List.cons_append, tagBody?, if_pos (show startsTag c = true from starts)]
      dsimp only
      rw [List.takeWhile_append_of_pos allowed, List.dropWhile_append_of_pos allowed,
        List.takeWhile_cons_of_neg (by decide), List.append_nil,
        List.dropWhile_cons_of_neg (by decide)]
      rfl

/-- A bracket that starts no tag starts none before another bracket either. -/
theorem tagBody?_before {inner : List Char} (h : tagBody? inner = none) (rest : List Char) :
    tagBody? (inner ++ '[' :: rest) = none := by
  cases found : tagBody? (inner ++ '[' :: rest) with
  | none => rfl
  | some tag =>
      obtain ⟨body, after⟩ := tag
      obtain ⟨split, isBody⟩ := isBody_of_tagBody? found
      rcases List.append_eq_append_iff.mp split with ⟨more, rfl, behind⟩ | ⟨more, rfl, behind⟩
      · cases more with
        | nil => cases behind
        | cons d more =>
            obtain ⟨rfl, -⟩ := List.cons.inj behind
            exact absurd (List.mem_append_right _ List.mem_cons_self) isBody.noOpening
      · cases more with
        | nil => cases behind
        | cons d more =>
            obtain ⟨rfl, -⟩ := List.cons.inj behind
            rw [tagBody?_of_isBody isBody] at h
            cases h

/-- Whether no bracket in a text starts a tag. -/
def tagless : List Char → Bool
  | [] => true
  | c :: rest => (c != '[' || (tagBody? rest).isNone) && tagless rest

theorem tagBody?_of_tagless {text inner : List Char} (h : tagless text = true)
    (bracket : '[' :: inner <:+ text) : tagBody? inner = none := by
  induction text with
  | nil => exact absurd (List.suffix_nil.mp bracket) (List.cons_ne_nil _ _)
  | cons c rest ih =>
      rw [tagless, Bool.and_eq_true] at h
      rcases List.suffix_cons_iff.mp bracket with same | later
      · obtain ⟨rfl, rfl⟩ := List.cons.inj same
        simpa using h.1
      · exact ih h.2 later

theorem tagless_of_not_mem {text : List Char} (h : '[' ∉ text) : tagless text = true := by
  induction text with
  | nil => rfl
  | cons c rest ih =>
      rw [List.mem_cons, not_or] at h
      rw [tagless, ih h.2, bne_iff_ne.mpr (Ne.symm h.1)]
      rfl

theorem tagless_toString (n : Int) : tagless (toString n).toList = true := by
  have digits (n : Nat) : '[' ∉ (toString n).toList := fun member => by
    change '[' ∈ (String.ofList (Nat.toDigits 10 n)).toList at member
    rw [String.toList_ofList] at member
    exact absurd (Nat.isDigit_of_mem_toDigits (by decide) (by decide) member) (by decide)
  refine tagless_of_not_mem ?_
  cases n with
  | ofNat n => exact digits n
  | negSucc n =>
      change '[' ∉ ("-" ++ toString (n + 1)).toList
      rw [String.toList_append, List.mem_append, not_or]
      exact ⟨by decide, digits (n + 1)⟩

/-- How many backslashes a text starts with. -/
def backslashes (text : List Char) : Nat := (text.takeWhile (· == '\\')).length

theorem pieces_push {run : List Char} {position : Nat} {c : Char} {rest : List Char}
    (plain : ∀ inner, (c :: rest).drop (backslashes (c :: rest)) = '[' :: inner →
      tagBody? inner = none) :
    pieces run position (c :: rest) = pieces (c :: run) (position + 1) rest := by
  rw [pieces]
  split
  · rename_i inner found
    split
    · rename_i body after tag
      rw [plain inner found] at tag
      cases tag
    · rfl
  · rfl

theorem backslashes_replicate (count : Nat) (inner : List Char) :
    backslashes (List.replicate count '\\' ++ '[' :: inner) = count := by
  rw [backslashes, List.takeWhile_append_of_pos fun c member => by
      rw [List.eq_of_mem_replicate member]
      rfl,
    List.takeWhile_cons_of_neg (by decide), List.append_nil, List.length_replicate]

theorem pieces_tag {run inner body after : List Char} (count : Nat) {position : Nat}
    (tag : tagBody? inner = some (body, after)) :
    pieces run position (List.replicate count '\\' ++ '[' :: inner) =
      textPiece run ++ piecesOfTag count body position ++
        pieces [] (position + count + body.length + 2) after := by
  have counted := backslashes_replicate count inner
  have behind : (List.replicate count '\\' ++ '[' :: inner).drop count = '[' :: inner :=
    List.drop_left' List.length_replicate
  generalize List.replicate count '\\' ++ '[' :: inner = text at counted behind
  cases text with
  | nil =>
      rw [List.drop_nil] at behind
      cases behind
  | cons c rest =>
      rw [pieces]
      split
      case h_1 inner' found =>
        rw [← backslashes, counted, behind] at found
        obtain ⟨-, rfl⟩ := List.cons.inj found
        split
        case h_1 body' after' tag' =>
          rw [tag] at tag'
          cases tag'
          rw [← backslashes, counted]
        case h_2 none =>
          rw [tag] at none
          cases none
      case h_2 others =>
        rw [← backslashes, counted] at others
        exact absurd behind (others _)

theorem pieces_end {text : List Char} (h : tagless text = true) (run : List Char)
    (position : Nat) : pieces run position text = textPiece (text.reverse ++ run) := by
  induction text generalizing run position with
  | nil => rw [pieces, List.reverse_nil, List.nil_append]
  | cons c rest ih =>
      rw [pieces_push fun inner found => tagBody?_of_tagless h (found ▸ List.drop_suffix _ _)]
      rw [tagless, Bool.and_eq_true] at h
      rw [ih h.2, List.reverse_cons, List.append_assoc]
      rfl

/-- What follows a text that does not consist of backslashes has no part in those in front. -/
theorem drop_backslashes {text : List Char} (h : ¬∀ c ∈ text, c = '\\') (more : List Char) :
    ∃ c rest, c :: rest <:+ text ∧
      (text ++ more).drop (backslashes (text ++ more)) = c :: (rest ++ more) := by
  have partly : (text.takeWhile (· == '\\')).length ≠ text.length := fun all => h fun c member => by
    have whole := (List.takeWhile_prefix (· == '\\')).eq_of_length all
    rw [← whole] at member
    exact eq_of_beq (List.mem_takeWhile_imp (p := (· == '\\')) member)
  have counted : backslashes (text ++ more) = backslashes text := by
    rw [backslashes, List.takeWhile_append, if_neg partly]
    rfl
  have within : backslashes text ≤ text.length := (List.takeWhile_prefix (· == '\\')).length_le
  rw [counted, List.drop_append_of_le_length within]
  cases behind : text.drop (backslashes text) with
  | nil => exact absurd (Nat.le_antisymm within (List.drop_eq_nil_iff.mp behind)) partly
  | cons c rest => exact ⟨c, rest, behind ▸ List.drop_suffix _ _, rfl⟩

/-- A text goes on up to a tag, except for backslashes just before it. -/
theorem pieces_before {text inner body after : List Char} (h : tagless text = true)
    (tag : tagBody? inner = some (body, after)) (run : List Char) (position : Nat) :
    ∃ before count start next, pieces run position (text ++ '[' :: inner) =
      textPiece before ++ piecesOfTag count body start ++ pieces [] next after := by
  induction text generalizing run position with
  | nil => exact ⟨_, _, _, _, pieces_tag 0 tag⟩
  | cons c rest ih =>
      -- Backslashes count for the tag only where nothing else is between.
      by_cases all : ∀ d ∈ c :: rest, d = '\\'
      · rw [List.eq_replicate_of_mem all]
        exact ⟨_, _, _, _, pieces_tag _ tag⟩
      · obtain ⟨d, others, behind, dropped⟩ := drop_backslashes all ('[' :: inner)
        rw [List.cons_append] at dropped
        rw [List.cons_append, pieces_push fun inner' found => by
          rw [dropped] at found
          obtain ⟨rfl, rfl⟩ := List.cons.inj found
          exact tagBody?_before (tagBody?_of_tagless h behind) inner]
        rw [tagless, Bool.and_eq_true] at h
        exact ih h.2 _ _

/-- A tag that has nothing to be applied in the end, and is no action. -/
def Opened.IsPlain (tag : Opened) : Prop := tag.arguments? = none ∧ tag.name.head? ≠ some '@'

/-- Nothing of what was read has to be applied in the end. -/
structure Reading.IsPlain (reading : Reading) : Prop where
  spans : reading.spans = []
  opened : ∀ tag ∈ reading.opened, tag.IsPlain

/-- A style without arguments, in its normal form. -/
structure IsStyle (style : List Char) : Prop where
  body : IsBody style
  opens : style.head? ≠ some '/'
  notAction : style.head? ≠ some '@'
  bare : '=' ∉ style
  notBlank : (Blank.trim Blank.isBlank style).isEmpty = false
  normal : Style.normalize style = .ok style

theorem nameAndArguments_of_not_mem {body : List Char} (h : '=' ∉ body) :
    nameAndArguments body = (body, none) := by
  have all : ∀ c ∈ body, (c != '=') = true := fun c member =>
    bne_iff_ne.mpr fun same => h (same ▸ member)
  rw [nameAndArguments, List.dropWhile_eq_nil_iff.mpr all]

theorem Opened.finish_of_isPlain {tag : Opened} (h : tag.IsPlain) (stop : Nat) :
    tag.finish stop = .ok [] := by
  rw [Opened.finish, if_neg h.2, Opened.spans, h.1]
  rfl

namespace Reading

variable {reading : Reading} {style : List Char}

theorem follow_open (h : IsStyle style) (position : Nat) :
    reading.follow style position =
      .ok { reading with opened := ⟨reading.length, style, none⟩ :: reading.opened } := by
  rw [follow, nameAndArguments_of_not_mem h.bare]
  dsimp only
  split
  case h_1 => exact absurd rfl h.opens
  case h_2 =>
    rw [h.normal]
    rfl

theorem follow_close (h : IsStyle style) {tag : Opened} {outer : List Opened}
    (innermost : reading.opened = tag :: outer) (named : tag.name = style) (plain : tag.IsPlain)
    (position : Nat) :
    reading.follow ('/' :: style) position = .ok { reading with opened := outer } := by
  have bare : '=' ∉ '/' :: style := by
    rw [List.mem_cons, not_or]
    exact ⟨by decide, h.bare⟩
  have closed : close? style reading.opened = some (tag, outer) := by
    rw [innermost, close?, if_pos named]
  rw [follow, nameAndArguments_of_not_mem bare]
  dsimp only
  change (if (Blank.trim Blank.isBlank style).isEmpty = true then _ else _) = _
  have normal : (Style.normalize style).mapError PrintError.number = .ok style := by
    rw [h.normal]
    rfl
  rw [if_neg (by rw [h.notBlank]; exact Bool.false_ne_true), normal]
  simp only [bind, Except.bind, closed, close, Opened.finish_of_isPlain plain]
  rfl

/-- Plain texts leave the tags alone. -/
theorem foldlM_texts (shown : List Char → List Char) {texts : List Piece}
    (h : ∀ piece ∈ texts, ∃ chars, piece = .text chars) (reading : Reading) :
    ∃ later : Reading, later.opened = reading.opened ∧ later.spans = reading.spans ∧
      ∀ more, (texts ++ more).foldlM (step shown) reading = more.foldlM (step shown) later := by
  induction texts generalizing reading with
  | nil => exact ⟨reading, rfl, rfl, fun _ => rfl⟩
  | cons first rest ih =>
      obtain ⟨chars, rfl⟩ := h first List.mem_cons_self
      obtain ⟨later, opened, spans, goesOn⟩ := ih
        (fun piece member => h piece (List.mem_cons_of_mem _ member))
        (reading.add (shown (Text.replace ['\\', '['] ['['] chars)))
      exact ⟨later, opened, spans, goesOn⟩

end Reading

theorem text_of_mem_textPiece {run : List Char} :
    ∀ piece ∈ textPiece run, ∃ chars, piece = .text chars := by
  intro piece member
  rw [textPiece] at member
  split at member
  · cases member
  · exact ⟨_, List.mem_singleton.mp member⟩

/-- Backslashes before a tag leave it as it is or make it plain text. -/
theorem piecesOfTag_cases (count : Nat) (body : List Char) (position : Nat) :
    ∃ texts : List Piece, (∀ piece ∈ texts, ∃ chars, piece = .text chars) ∧
      (piecesOfTag count body position = texts ∨
        piecesOfTag count body position = texts ++ [.tag body (position + count)]) := by
  have slashes : ∀ piece ∈ if count < 2 then [] else
      [Piece.text (List.replicate (count / 2) '\\')], ∃ chars, piece = .text chars := by
    intro piece member
    split at member
    · cases member
    · exact ⟨_, List.mem_singleton.mp member⟩
  rw [piecesOfTag]
  by_cases odd : count % 2 = 1
  · rw [if_pos odd]
    refine ⟨_, fun piece member => ?_, .inl rfl⟩
    rcases List.mem_append.mp member with front | last
    · exact slashes piece front
    · exact ⟨_, List.mem_singleton.mp last⟩
  · rw [if_neg odd]
    exact ⟨_, slashes, .inr rfl⟩

variable {shown : List Char → List Char} {text after : List Char}

/-- Reading goes on from a text to a part of it behind, and nothing has to be applied in the end. -/
def Passes (shown : List Char → List Char) (text after : List Char) : Prop :=
  ∀ (run : List Char) (position : Nat) (reading : Reading), reading.IsPlain →
    ∃ run' position', ∃ later : Reading, later.IsPlain ∧
      (pieces run position text).foldlM (step shown) reading =
        (pieces run' position' after).foldlM (step shown) later

theorem Passes.trans {further : List Char} (first : Passes shown text after)
    (second : Passes shown after further) : Passes shown text further := by
  intro run position reading plain
  obtain ⟨run', position', later, plain', same⟩ := first run position reading plain
  obtain ⟨run'', position'', last, plain'', same'⟩ := second run' position' later plain'
  exact ⟨run'', position'', last, plain'', same.trans same'⟩

theorem passes_blank (after : List Char) : Passes shown (' ' :: after) after := by
  intro run position reading plain
  refine ⟨' ' :: run, position + 1, reading, plain, ?_⟩
  rw [pieces_push fun inner found => by cases found]

theorem passes_tagless (h : tagless text = true) : Passes shown text [] := by
  intro run position reading plain
  refine ⟨text.reverse ++ run, position, reading, plain, ?_⟩
  rw [pieces_end h, pieces_end rfl]
  rfl

theorem IsStyle.opening {style : List Char} (h : IsStyle style) (after : List Char) :
    tagBody? (style ++ ']' :: after) = some (style, after) :=
  tagBody?_of_isBody h.body after

theorem IsStyle.closing {style : List Char} (h : IsStyle style) (after : List Char) :
    tagBody? ('/' :: style ++ ']' :: after) = some ('/' :: style, after) := by
  refine tagBody?_of_isBody ⟨rfl, ?_, ?_⟩ after
  · rw [List.mem_cons, not_or]
    exact ⟨by decide, h.body.noOpening⟩
  · rw [List.mem_cons, not_or]
    exact ⟨by decide, h.body.noClosing⟩

/-- The tags of a style fit together around a text without tags. -/
theorem passes_styled {style : List Char} (h : IsStyle style)
    (free : tagless text = true) (after : List Char) :
    Passes shown ('[' :: (style ++ ']' :: (text ++ '[' :: ('/' :: style ++ ']' :: after)))) after := by
  intro run position reading plain
  have opening := @pieces_tag run _ _ _ 0 position
    (h.opening (text ++ '[' :: ('/' :: style ++ ']' :: after)))
  obtain ⟨before, count, start, next, closing⟩ := pieces_before free (h.closing after) []
    (position + 0 + style.length + 2)
  obtain ⟨front, opened₁, spans₁, goesOn₁⟩ :=
    Reading.foldlM_texts shown (@text_of_mem_textPiece run) reading
  let inside : Reading := { front with opened := ⟨front.length, style, none⟩ :: front.opened }
  obtain ⟨behind, opened₂, spans₂, goesOn₂⟩ :=
    Reading.foldlM_texts shown (@text_of_mem_textPiece before) inside
  obtain ⟨texts, areTexts, ends⟩ := piecesOfTag_cases count ('/' :: style) start
  obtain ⟨last, opened₃, spans₃, goesOn₃⟩ := Reading.foldlM_texts shown areTexts behind
  have tagPlain : Opened.IsPlain ⟨front.length, style, none⟩ := ⟨rfl, h.notAction⟩
  have spans : last.spans = [] := by
    rw [spans₃, spans₂]
    exact spans₁.trans plain.spans
  have opened : last.opened = ⟨front.length, style, none⟩ :: reading.opened := by
    rw [opened₃, opened₂, ← opened₁]
  have reached : (pieces run position
      ('[' :: (style ++ ']' :: (text ++ '[' :: ('/' :: style ++ ']' :: after))))).foldlM
        (step shown) reading =
      (piecesOfTag count ('/' :: style) start ++ pieces [] next after).foldlM (step shown)
        behind := by
    have opensFirst : piecesOfTag 0 style position = [.tag style (position + 0)] := rfl
    change (pieces run position (List.replicate 0 '\\' ++ '[' :: _)).foldlM (step shown) reading = _
    rw [opening, closing, opensFirst, List.append_assoc, goesOn₁, List.singleton_append,
      List.foldlM_cons]
    change front.follow style _ >>= _ = _
    rw [Reading.follow_open h]
    change List.foldlM (step shown) inside _ = _
    rw [List.append_assoc, goesOn₂]
  rcases ends with kept | taken
  -- Where the closing tag is plain text, the style stays open to the end.
  · refine ⟨[], next, last, ⟨spans, ?_⟩, ?_⟩
    · rw [opened]
      exact List.forall_mem_cons.mpr ⟨tagPlain, plain.opened⟩
    · rw [reached, kept, goesOn₃]
  · refine ⟨[], next, { last with opened := reading.opened }, ⟨spans, plain.opened⟩, ?_⟩
    rw [reached, taken, List.append_assoc, goesOn₃, List.singleton_append, List.foldlM_cons]
    change last.follow ('/' :: style) _ >>= _ = _
    rw [Reading.follow_close h opened rfl tagPlain]
    rfl

end Markup
end Terminal
end TestAtlas
