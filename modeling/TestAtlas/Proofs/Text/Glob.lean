import TestAtlas.Text.Glob

/-!
What shell patterns accept, part by part. The row of answers for all tails of a
text is read off one answer at a time, and a pattern that starts with an asterisk
and is plain otherwise accepts the texts that end in the rest of it.
-/

namespace TestAtlas
namespace Glob

variable {c : Char} {text : List Char} {parts : List Part} {set : CharSet}

theorem matchTails_ne_nil (text : List Char) (parts : List Part) :
    matchTails text parts ≠ [] := by
  cases parts with
  | nil => exact List.append_ne_nil_of_right_ne_nil _ (List.cons_ne_nil _ _)
  | cons part rest =>
      cases part with
      | one set => exact List.append_ne_nil_of_right_ne_nil _ (List.cons_ne_nil _ _)
      | any =>
          intro empty
          have some := matchTails_ne_nil text rest
          cases tails : matchTails text rest with
          | nil => exact some tails
          | cons ok later =>
              rw [matchTails, tails] at empty
              cases empty

/-- The answers for the tails of a text, without the first one, are those for the text without its
first character. -/
theorem tail_matchTails (c : Char) (text : List Char) (parts : List Part) :
    (matchTails (c :: text) parts).tail = matchTails text parts := by
  induction parts with
  | nil => rfl
  | cons part rest ih =>
      cases part with
      | one set =>
          rw [matchTails, ih, matchTails]
          cases tails : matchTails text rest with
          | nil => exact absurd tails (matchTails_ne_nil text rest)
          | cons ok later => rfl
      | any =>
          rw [matchTails, matchTails, ← ih]
          cases tails : matchTails (c :: text) rest with
          | nil => exact absurd tails (matchTails_ne_nil _ rest)
          | cons ok later => rfl

theorem tail_matchTails_nil (parts : List Part) : (matchTails [] parts).tail = [] := by
  induction parts with
  | nil => rfl
  | cons part rest ih =>
      cases part with
      | one set => rfl
      | any =>
          rw [matchTails]
          cases tails : matchTails [] rest with
          | nil => rfl
          | cons ok later =>
              rw [tails] at ih
              subst ih
              rfl

@[simp] theorem matchParts_nil : matchParts [] text = text.isEmpty := by
  cases text <;> rfl

@[simp] theorem matchParts_one_nil (rest : List Part) :
    matchParts (.one set :: rest) [] = false := rfl

@[simp] theorem matchParts_one_cons (c : Char) (text : List Char) (rest : List Part) :
    matchParts (.one set :: rest) (c :: text) = (set.contains c && matchParts rest text) := by
  rw [matchParts, matchTails, tail_matchTails, matchParts]
  cases tails : matchTails text rest with
  | nil => exact absurd tails (matchTails_ne_nil text rest)
  | cons ok later => rfl

theorem matchParts_any_nil (rest : List Part) :
    matchParts (.any :: rest) [] = matchParts rest [] := by
  have single := tail_matchTails_nil rest
  rw [matchParts, matchTails, matchParts]
  cases tails : matchTails [] rest with
  | nil => rfl
  | cons ok later =>
      rw [tails] at single
      subst single
      exact Bool.or_false ok

theorem matchParts_any_cons (c : Char) (text : List Char) (rest : List Part) :
    matchParts (.any :: rest) (c :: text) =
      (matchParts rest (c :: text) || matchParts (.any :: rest) text) := by
  rw [matchParts, matchTails, matchParts, matchParts, matchTails, ← tail_matchTails c text rest]
  cases tails : matchTails (c :: text) rest with
  | nil => exact absurd tails (matchTails_ne_nil _ rest)
  | cons ok later => rfl

/-- An asterisk stands for any text. -/
theorem matchParts_any_iff (rest : List Part) :
    matchParts (.any :: rest) text = true ↔
      ∃ tail, tail <:+ text ∧ matchParts rest tail = true := by
  induction text with
  | nil =>
      rw [matchParts_any_nil]
      simp only [List.suffix_nil, exists_eq_left]
  | cons c text ih =>
      rw [matchParts_any_cons, Bool.or_eq_true, ih]
      simp only [List.suffix_cons_iff, or_and_right, exists_or, exists_eq_left]

/-- What the parts of a pattern stand for: an asterisk may stand for one more character as long as
there is one. -/
inductive Matches : (parts : List Part) → (text : List Char) → Prop
  | nil : Matches [] []
  | one {set : CharSet} {rest : List Part} {c : Char} {text : List Char}
      (member : set.contains c = true) (matched : Matches rest text) :
      Matches (.one set :: rest) (c :: text)
  | skip {rest : List Part} {text : List Char} (matched : Matches rest text) :
      Matches (.any :: rest) text
  | more {rest : List Part} {c : Char} {text : List Char} (matched : Matches (.any :: rest) text) :
      Matches (.any :: rest) (c :: text)

theorem Matches.matchParts_eq (matched : Matches parts text) : matchParts parts text = true := by
  induction matched with
  | nil => rfl
  | one member _ ih => rw [matchParts_one_cons, member, ih, Bool.true_and]
  | skip _ ih => exact (matchParts_any_iff _).mpr ⟨_, List.suffix_refl _, ih⟩
  | more _ ih => rw [matchParts_any_cons, ih, Bool.or_true]

theorem Matches.of_suffix {rest : List Part} {tail : List Char} (matched : Matches rest tail)
    (suffix : tail <:+ text) : Matches (.any :: rest) text := by
  obtain ⟨front, rfl⟩ := suffix
  induction front with
  | nil => exact .skip matched
  | cons c front ih => exact .more ih

theorem matches_iff : matchParts parts text = true ↔ Matches parts text := by
  refine ⟨fun accepted => ?_, Matches.matchParts_eq⟩
  induction parts generalizing text with
  | nil =>
      rw [matchParts_nil, List.isEmpty_iff] at accepted
      subst accepted
      exact .nil
  | cons part rest ih =>
      cases part with
      | one set =>
          cases text with
          | nil => cases accepted
          | cons c text =>
              rw [matchParts_one_cons, Bool.and_eq_true] at accepted
              exact .one accepted.1 (ih accepted.2)
      | any =>
          obtain ⟨tail, suffix, accepted⟩ := (matchParts_any_iff rest).mp accepted
          exact (ih accepted).of_suffix suffix

theorem contains_char (c d : Char) : (CharSet.mk false [(d, d)]).contains c = (c == d) := by
  rw [Bool.eq_iff_iff, beq_iff_eq]
  simp only [CharSet.contains, List.any_cons, List.any_nil, Bool.or_false, Bool.bne_false,
    Bool.and_eq_true, decide_eq_true_eq]
  constructor
  · rintro ⟨low, high⟩
    exact Char.le_antisymm high low
  · rintro rfl
    exact ⟨Char.le_refl c, Char.le_refl c⟩

/-- Characters stand for themselves. -/
theorem matchParts_chars_iff (literal text : List Char) :
    matchParts (literal.map Part.char) text = true ↔ text = literal := by
  induction literal generalizing text with
  | nil => simp
  | cons d literal ih =>
      cases text with
      | nil => simp [Part.char]
      | cons c text =>
          rw [List.map_cons, Part.char, matchParts_one_cons, contains_char, Bool.and_eq_true, ih,
            beq_iff_eq, List.cons.injEq]

def Plain (c : Char) : Prop := c ≠ '*' ∧ c ≠ '?' ∧ c ≠ '['

instance : DecidablePred Plain := fun c =>
  inferInstanceAs (Decidable (c ≠ '*' ∧ c ≠ '?' ∧ c ≠ '['))

theorem plain_of_all {literal : List Char}
    (h : literal.all (fun c => decide (Plain c)) = true) : ∀ c ∈ literal, Plain c :=
  fun c member => of_decide_eq_true (List.all_eq_true.mp h c member)

theorem parse_of_plain {literal : List Char} (plain : ∀ c ∈ literal, Plain c) :
    parse literal = literal.map Part.char := by
  induction literal with
  | nil => rw [parse]; rfl
  | cons c rest ih =>
      obtain ⟨star, mark, bracket⟩ := plain c List.mem_cons_self
      rw [parse, if_neg star, if_neg mark, if_neg bracket,
        ih fun d member => plain d (List.mem_cons_of_mem _ member)]
      rfl

/-- An asterisk before plain characters: the texts that end in them. -/
theorem accepts_star_iff {literal : List Char} (plain : ∀ c ∈ literal, Plain c) (text : String) :
    accepts (String.ofList ('*' :: literal)) text = true ↔ literal <:+ text.toList := by
  rw [accepts, String.toList_ofList, parse, if_pos rfl, parse_of_plain plain, matchParts_any_iff]
  simp only [matchParts_chars_iff, exists_eq_right]

end Glob
end TestAtlas
