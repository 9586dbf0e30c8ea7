import TestAtlas.Proofs.Text.Split

/-!
Replacing, read from the left. An occurrence at the start is replaced and not
looked at again, any other character is copied; so a text in which some
occurrences are left differs from the one in which none is.
-/

namespace TestAtlas
namespace Text

variable {old new text before : List Char}

theorem prefix_append_iff {pattern front rest : List Char} :
    pattern <+: front ++ rest ↔
      pattern <+: front ∨ ∃ v, pattern = front ++ v ∧ v <+: rest := by
  constructor
  · rintro ⟨after, whole⟩
    obtain ⟨others, whole, -⟩ | ⟨v, whole, rest⟩ := List.append_eq_append_iff.mp whole
    · exact .inl ⟨others, whole.symm⟩
    · exact .inr ⟨v, whole, after, rest.symm⟩
  · rintro (inside | ⟨v, rfl, starts⟩)
    · exact inside.trans (List.prefix_append _ _)
    · exact (List.prefix_append_right_inj front).mpr starts

theorem split_ne_nil (named : old ≠ []) (text : List Char) : split old text ≠ [] := by
  rw [← List.length_pos_iff, length_split named]
  exact Nat.succ_pos _

theorem split_cons_of_not_starts {c : Char} {rest : List Char} (other : ¬ old <+: c :: rest) :
    ∃ field fields, split old rest = field :: fields ∧
      split old (c :: rest) = (c :: field) :: fields := by
  have named : old ≠ [] := by
    rintro rfl
    exact other List.nil_prefix
  have whole := splitFirst?_cons_of_not_starts other
  cases found : splitFirst? old rest with
  | none =>
      rw [found, Option.map_none, splitFirst?_eq_none_iff named] at whole
      rw [splitFirst?_eq_none_iff named] at found
      exact ⟨rest, [], split_of_absent found, split_of_absent whole⟩
  | some parts =>
      obtain ⟨field, after⟩ := parts
      rw [found, Option.map_some, splitFirst?_eq_some_iff named] at whole
      obtain ⟨rfl, first⟩ := (splitFirst?_eq_some_iff named).mp found
      refine ⟨field, split old after, split_of_first named first after, ?_⟩
      rw [whole.1]
      exact split_of_first named whole.2 after

theorem replace_nil (named : old ≠ []) (new : List Char) : replace old new [] = [] :=
  replace_of_absent new (mt List.infix_nil.mp named)

theorem replace_append (named : old ≠ []) (new rest : List Char) :
    replace old new (old ++ rest) = new ++ replace old new rest := by
  have first : ¬ old <:+: [] ++ old.dropLast := fun inside => by
    have shorter := inside.length_le
    have some := List.length_pos_iff.mpr named
    rw [List.nil_append, List.length_dropLast] at shorter
    omega
  have whole := split_of_first named first rest
  rw [List.nil_append] at whole
  rw [replace, whole, List.intercalate_cons_of_ne_nil (split_ne_nil named rest),
    List.nil_append, replace]

theorem replace_cons {c : Char} {rest : List Char} (new : List Char)
    (other : ¬ old <+: c :: rest) : replace old new (c :: rest) = c :: replace old new rest := by
  obtain ⟨field, fields, whole, longer⟩ := split_cons_of_not_starts other
  rw [replace, replace, whole, longer]
  exact List.intercalate_cons_cons_left

/-- What the old text cannot begin in is copied. -/
theorem replace_append_of_not_mem {c : Char} {others : List Char} (new rest : List Char)
    (absent : c ∉ before) :
    replace (c :: others) new (before ++ rest) = before ++ replace (c :: others) new rest := by
  induction before with
  | nil => rfl
  | cons d before ih =>
      obtain ⟨other, absent⟩ := not_or.mp (mt List.mem_cons.mpr absent)
      have starts : ¬ c :: others <+: d :: (before ++ rest) := fun starts =>
        other (List.cons_prefix_cons.mp starts).1
      rw [List.cons_append, replace_cons new starts, ih absent, List.cons_append]

/-- The second text has some occurrences of the old text left, as many as the number says, where the
first has the new one. -/
inductive LeftOver (old new : List Char) : Nat → List Char → List Char → Prop where
  | none : LeftOver old new 0 [] []
  | copied {count : Nat} {full part : List Char} (c : Char)
      (others : LeftOver old new count full part) :
      LeftOver old new count (c :: full) (c :: part)
  | left {count : Nat} {full part : List Char} (others : LeftOver old new count full part) :
      LeftOver old new (count + 1) (new ++ full) (old ++ part)

variable {count : Nat} {full part : List Char}

theorem LeftOver.append (before : List Char) (others : LeftOver old new count full part) :
    LeftOver old new count (before ++ full) (before ++ part) := by
  induction before with
  | nil => exact others
  | cons c before ih => exact ih.copied c

theorem LeftOver.length (left : LeftOver old new count full part) :
    full.length + count * old.length = part.length + count * new.length := by
  induction left with
  | none => rw [Nat.zero_mul, Nat.zero_mul]
  | copied c _ ih => rw [List.length_cons, List.length_cons, Nat.succ_add, ih, Nat.succ_add]
  | left _ ih =>
      rw [List.length_append, List.length_append, Nat.succ_mul, Nat.succ_mul]
      omega

/-- An occurrence that is left makes a difference, unless the old and the new text are the same. -/
theorem LeftOver.eq_iff (left : LeftOver old new count full part) :
    full = part ↔ count = 0 ∨ old = new := by
  constructor
  · intro same
    obtain none | some := Nat.eq_zero_or_pos count
    · exact .inl none
    have lengths := left.length
    rw [same] at lengths
    have even : old.length = new.length :=
      Nat.eq_of_mul_eq_mul_left some (Nat.add_left_cancel lengths)
    clear some lengths
    -- Places that are left do not shift the others, so the first one makes the difference.
    induction left with
    | none => exact .inl rfl
    | copied c _ ih => exact ih (List.cons.inj same).2
    | left _ _ => exact .inr (List.append_inj_left same even.symm).symm
  · intro nothing
    induction left with
    | none => rfl
    | copied c _ ih => rw [ih nothing]
    | left _ ih =>
        have same := nothing.resolve_left (Nat.succ_ne_zero _)
        rw [ih (.inr same), same]

end Text
end TestAtlas
