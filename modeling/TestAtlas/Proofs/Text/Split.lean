import Mathlib.Data.List.Infix
import TestAtlas.Text.Split

/-!
Occurrences of one text in another. The last one is where no later one begins,
and the first one is where no earlier one ends; splitting takes the first one
again and again, so its fields are those between separators that do not overlap.
-/

namespace TestAtlas
namespace Text

variable {pattern separator text before after field first second : List Char}
  {fields : List (List Char)} {i : Nat}

theorem isPrefixOf_append (pattern after : List Char) :
    pattern.isPrefixOf (pattern ++ after) = true :=
  List.isPrefixOf_iff_prefix.mpr (List.prefix_append ..)

/-! The last occurrence -/

theorem lastIndex?_cons (c : Char) (rest : List Char) :
    lastIndex? pattern (c :: rest) =
      match lastIndex? pattern rest with
      | some i => some (i + 1)
      | none => if pattern.isPrefixOf (c :: rest) then some 0 else none := rfl

theorem lastIndex?_eq_none_iff : lastIndex? pattern text = none ↔ ¬ pattern <:+: text := by
  induction text with
  | nil =>
      rw [lastIndex?, List.infix_nil]
      cases pattern <;> simp
  | cons c rest ih =>
      rw [lastIndex?_cons, List.infix_cons_iff, not_or, ← ih, ← List.isPrefixOf_iff_prefix]
      cases lastIndex? pattern rest with
      | none => simp
      | some i => simp

theorem lastIndex?_append (before : List Char) (h : lastIndex? pattern text = some i) :
    lastIndex? pattern (before ++ text) = some (before.length + i) := by
  induction before with
  | nil => rw [List.nil_append, h, List.length_nil, Nat.zero_add]
  | cons c others ih =>
      rw [List.cons_append, lastIndex?_cons, ih, List.length_cons]
      exact congrArg some (Nat.add_right_comm ..)

/-- An occurrence is the last one if no other begins behind its first character. -/
theorem lastIndex?_of_last (named : pattern ≠ []) (before : List Char)
    (last : ¬ pattern <:+: (pattern ++ after).tail) :
    lastIndex? pattern (before ++ (pattern ++ after)) = some before.length := by
  cases pattern with
  | nil => exact absurd rfl named
  | cons c others =>
      have starts : (c :: others).isPrefixOf (c :: (others ++ after)) = true :=
        isPrefixOf_append (c :: others) after
      have missing : lastIndex? (c :: others) (others ++ after) = none :=
        lastIndex?_eq_none_iff.mpr last
      have here : lastIndex? (c :: others) (c :: (others ++ after)) = some 0 := by
        rw [lastIndex?_cons, missing]
        exact if_pos starts
      exact lastIndex?_append before here

theorem eq_append_of_lastIndex? (h : lastIndex? pattern text = some i) :
    ∃ before after, text = before ++ (pattern ++ after) ∧ before.length = i := by
  induction text generalizing i with
  | nil =>
      rw [lastIndex?] at h
      cases pattern with
      | nil =>
          cases h
          exact ⟨[], [], rfl, rfl⟩
      | cons c others => cases h
  | cons c rest ih =>
      rw [lastIndex?_cons] at h
      cases later : lastIndex? pattern rest with
      | some j =>
          rw [later] at h
          cases h
          obtain ⟨before, after, whole, length⟩ := ih later
          exact ⟨c :: before, after, by rw [whole, List.cons_append], congrArg (· + 1) length⟩
      | none =>
          simp only [later] at h
          split at h
          · rename_i here
            cases h
            obtain ⟨after, whole⟩ := List.isPrefixOf_iff_prefix.mp here
            exact ⟨[], after, whole.symm, rfl⟩
          · cases h

/-! The first occurrence -/

theorem splitFirst?_eq_none (absent : ¬ separator <:+: text) :
    splitFirst? separator text = none := by
  cases found : splitFirst? separator text with
  | none => rfl
  | some parts =>
      obtain ⟨before, after⟩ := parts
      exact absurd ⟨before, after, (eq_append_of_splitFirst? found).symm⟩ absent

theorem splitFirst?_cons_of_not_starts {c : Char} {rest : List Char}
    (other : ¬ separator <+: c :: rest) :
    splitFirst? separator (c :: rest) =
      (splitFirst? separator rest).map fun parts => (c :: parts.1, parts.2) := by
  rw [splitFirst?, if_neg (mt List.isPrefixOf_iff_prefix.mp other)]

theorem splitFirst?_of_prefix (named : separator ≠ []) (after : List Char) :
    splitFirst? separator (separator ++ after) = some ([], after) := by
  cases separator with
  | nil => exact absurd rfl named
  | cons c others =>
      have here : (c :: others).isPrefixOf (c :: (others ++ after)) = true :=
        isPrefixOf_append (c :: others) after
      have behind : ((c :: others) ++ after).drop (c :: others).length = after := List.drop_left
      rw [List.cons_append, splitFirst?, if_pos here]
      exact congrArg (fun rest => some ([], rest)) behind

/-- In front of the first occurrence there is none. -/
theorem not_prefix_of_first {c : Char} {others : List Char}
    (first : ¬ separator <:+: c :: others ++ separator.dropLast) (after : List Char) :
    ¬ separator <+: c :: (others ++ (separator ++ after)) := by
  intro here
  have inside : c :: (others ++ separator.dropLast) <+: c :: (others ++ (separator ++ after)) := by
    rw [List.prefix_cons_inj, List.prefix_append_right_inj]
    exact (List.dropLast_prefix separator).trans (List.prefix_append _ _)
  refine first (List.prefix_of_prefix_length_le here inside ?_).isInfix
  rw [List.length_cons, List.length_append, List.length_dropLast]
  omega

/-- An occurrence is the first one if none ends in front of its last character. -/
theorem splitFirst?_of_first (named : separator ≠ [])
    (first : ¬ separator <:+: before ++ separator.dropLast) (after : List Char) :
    splitFirst? separator (before ++ (separator ++ after)) = some (before, after) := by
  induction before with
  | nil => exact splitFirst?_of_prefix named after
  | cons c others ih =>
      have later := mt (List.infix_cons (a := c)) first
      rw [List.cons_append, splitFirst?_cons_of_not_starts (not_prefix_of_first first after),
        ih later]
      rfl

theorem first_of_splitFirst? (named : separator ≠ [])
    (found : splitFirst? separator text = some (before, after)) :
    ¬ separator <:+: before ++ separator.dropLast := by
  induction text generalizing before with
  | nil =>
      rw [splitFirst?, if_neg (mt List.isEmpty_iff.mp named)] at found
      cases found
  | cons c rest ih =>
      by_cases here : separator <+: c :: rest
      · obtain ⟨behind, whole⟩ := here
        rw [← whole, splitFirst?_of_prefix named] at found
        cases found
        intro inside
        have shorter := inside.length_le
        have some := List.length_pos_iff.mpr named
        rw [List.nil_append, List.length_dropLast] at shorter
        omega
      · rw [splitFirst?_cons_of_not_starts here, Option.map_eq_some_iff] at found
        obtain ⟨⟨others, behind⟩, found, same⟩ := found
        cases same
        have whole := eq_append_of_splitFirst? found
        rw [List.cons_append, List.infix_cons_iff, not_or]
        refine ⟨fun inside => here (inside.trans ?_), ih found⟩
        rw [whole, List.append_assoc, List.prefix_cons_inj, List.prefix_append_right_inj]
        exact (List.dropLast_prefix separator).trans (List.prefix_append _ _)

theorem splitFirst?_eq_some_iff (named : separator ≠ []) :
    splitFirst? separator text = some (before, after) ↔
      text = before ++ (separator ++ after) ∧ ¬ separator <:+: before ++ separator.dropLast := by
  constructor
  · intro found
    have whole := eq_append_of_splitFirst? found
    rw [List.append_assoc] at whole
    exact ⟨whole, first_of_splitFirst? named found⟩
  · rintro ⟨rfl, first⟩
    exact splitFirst?_of_first named first after

theorem splitFirst?_eq_none_iff (named : separator ≠ []) :
    splitFirst? separator text = none ↔ ¬ separator <:+: text := by
  refine ⟨fun missing => ?_, splitFirst?_eq_none⟩
  induction text with
  | nil => rwa [List.infix_nil]
  | cons c rest ih =>
      rw [List.infix_cons_iff, not_or]
      have other : ¬ separator <+: c :: rest := by
        rintro ⟨after, whole⟩
        rw [← whole, splitFirst?_of_prefix named] at missing
        cases missing
      rw [splitFirst?_cons_of_not_starts other, Option.map_eq_none_iff] at missing
      exact ⟨other, ih missing⟩

/-! Splitting -/

/-- The text consists of these fields with a separator between any two of them. Each separator is
the first one in what follows the one before. -/
inductive Splits (separator : List Char) : List Char → List (List Char) → Prop where
  | last {field : List Char} (absent : ¬ separator <:+: field) : Splits separator field [field]
  | more {field rest : List Char} {fields : List (List Char)}
      (first : ¬ separator <:+: field ++ separator.dropLast)
      (others : Splits separator rest fields) :
      Splits separator (field ++ (separator ++ rest)) (field :: fields)

theorem ne_nil_of_absent (absent : ¬ separator <:+: text) : separator ≠ [] := by
  rintro rfl
  exact absent List.nil_infix

theorem split_of_absent (absent : ¬ separator <:+: text) : split separator text = [text] := by
  rw [split, dif_neg (ne_nil_of_absent absent)]
  split
  · rfl
  · rename_i found
    rw [splitFirst?_eq_none absent] at found
    cases found

theorem split_of_first (named : separator ≠ [])
    (first : ¬ separator <:+: field ++ separator.dropLast) (rest : List Char) :
    split separator (field ++ (separator ++ rest)) = field :: split separator rest := by
  have here := splitFirst?_of_first named first rest
  rw [split, dif_neg named]
  split
  · rename_i missing
    rw [here] at missing
    cases missing
  · rename_i found
    rw [here] at found
    cases found
    rfl

/-- Every text is split in one way. -/
theorem splits_split (named : separator ≠ []) (text : List Char) :
    Splits separator text (split separator text) := by
  induction length : text.length using Nat.strongRecOn generalizing text with
  | ind _ ih =>
      subst length
      cases found : splitFirst? separator text with
      | none =>
          have absent := (splitFirst?_eq_none_iff named).mp found
          rw [split_of_absent absent]
          exact .last absent
      | some parts =>
          obtain ⟨whole, first⟩ := (splitFirst?_eq_some_iff named).mp found
          rw [whole, split_of_first named first]
          refine .more first (ih _ ?_ _ rfl)
          have some := List.length_pos_iff.mpr named
          rw [whole, List.length_append, List.length_append]
          omega

theorem split_eq_iff (named : separator ≠ []) :
    split separator text = fields ↔ Splits separator text fields := by
  constructor
  · rintro rfl
    exact splits_split named text
  · intro splits
    induction splits with
    | last absent => exact split_of_absent absent
    | more first _ ih => rw [split_of_first named first, ih]

theorem splits_pair_iff :
    Splits separator text [first, second] ↔
      text = first ++ (separator ++ second) ∧
        ¬ separator <:+: first ++ separator.dropLast ∧ ¬ separator <:+: second := by
  constructor
  · rintro (_ | ⟨starts, others⟩)
    cases others with
    | last absent => exact ⟨rfl, starts, absent⟩
    | more _ none => cases none
  · rintro ⟨rfl, starts, absent⟩
    exact .more starts (.last absent)

theorem replace_of_absent (new : List Char) (absent : ¬ separator <:+: text) :
    replace separator new text = text := by
  rw [replace, split_of_absent absent]
  exact List.append_nil text

/-- How often a pattern occurs in a text, counted from the left and without overlaps. -/
def occurrences (pattern : List Char) : (text : List Char) → Nat
  | [] => 0
  | c :: rest =>
      if pattern.isPrefixOf (c :: rest) then
        occurrences pattern (rest.drop (pattern.length - 1)) + 1
      else
        occurrences pattern rest
termination_by text => text.length
decreasing_by
  · rw [List.length_drop, List.length_cons]
    omega
  · exact Nat.lt_succ_self _

theorem occurrences_append (named : pattern ≠ []) (after : List Char) :
    occurrences pattern (pattern ++ after) = occurrences pattern after + 1 := by
  cases pattern with
  | nil => exact absurd rfl named
  | cons c others =>
      have here : (c :: others).isPrefixOf (c :: (others ++ after)) = true :=
        isPrefixOf_append (c :: others) after
      rw [List.cons_append, occurrences, if_pos here, List.length_cons, Nat.add_sub_cancel,
        List.drop_left]

theorem occurrences_cons_of_not_starts {c : Char} {rest : List Char}
    (other : ¬ pattern <+: c :: rest) :
    occurrences pattern (c :: rest) = occurrences pattern rest := by
  rw [occurrences, if_neg (mt List.isPrefixOf_iff_prefix.mp other)]

theorem occurrences_of_absent (absent : ¬ pattern <:+: text) : occurrences pattern text = 0 := by
  induction text with
  | nil => rw [occurrences]
  | cons c rest ih =>
      rw [List.infix_cons_iff, not_or] at absent
      rw [occurrences_cons_of_not_starts absent.1, ih absent.2]

theorem occurrences_of_first (named : separator ≠ [])
    (first : ¬ separator <:+: before ++ separator.dropLast) (after : List Char) :
    occurrences separator (before ++ (separator ++ after)) = occurrences separator after + 1 := by
  induction before with
  | nil => exact occurrences_append named after
  | cons c others ih =>
      rw [List.cons_append, occurrences_cons_of_not_starts (not_prefix_of_first first after)]
      exact ih (mt (List.infix_cons (a := c)) first)

/-- There is one field more than there are separators. -/
theorem length_of_splits (named : separator ≠ []) (splits : Splits separator text fields) :
    fields.length = occurrences separator text + 1 := by
  induction splits with
  | last absent => rw [occurrences_of_absent absent, List.length_singleton]
  | more first _ ih => rw [occurrences_of_first named first, List.length_cons, ih]

theorem length_split (named : separator ≠ []) (text : List Char) :
    (split separator text).length = occurrences separator text + 1 :=
  length_of_splits named (splits_split named text)

/-- No field has the separator in it. -/
theorem Splits.absent (splits : Splits separator text fields) (member : field ∈ fields) :
    ¬ separator <:+: field := by
  induction splits with
  | last absent =>
      rw [List.mem_singleton.mp member]
      exact absent
  | more first _ ih =>
      obtain rfl | member := List.mem_cons.mp member
      · exact fun inside => first (inside.trans (List.prefix_append _ _).isInfix)
      · exact ih member

/-! Separators of one character -/

theorem exists_last {c : Char} (member : c ∈ text) :
    ∃ before after, text = before ++ c :: after ∧ c ∉ after := by
  obtain ⟨after, before, reversed, absent⟩ :=
    List.eq_append_cons_of_mem (List.mem_reverse.mpr member)
  refine ⟨before.reverse, after.reverse, ?_, mt List.mem_reverse.mp absent⟩
  rw [← List.reverse_inj, reversed, List.reverse_append, List.reverse_cons, List.reverse_reverse,
    List.reverse_reverse, List.append_assoc, List.singleton_append]

/-- Where a character comes first, it parts a text in one way. -/
theorem append_cons_inj {c : Char} {front front' rest rest' : List Char} (absent : c ∉ front)
    (absent' : c ∉ front') (same : front ++ c :: rest = front' ++ c :: rest') :
    front = front' ∧ rest = rest' := by
  induction front generalizing front' with
  | nil =>
      cases front' with
      | nil => exact ⟨rfl, (List.cons.inj same).2⟩
      | cons d front' =>
          exact absurd ((List.cons.inj same).1 ▸ List.mem_cons_self) absent'
  | cons d front ih =>
      cases front' with
      | nil => exact absurd ((List.cons.inj same).1 ▸ List.mem_cons_self) absent
      | cons e front' =>
          obtain ⟨first, others⟩ := List.cons.inj same
          obtain ⟨fronts, rests⟩ := ih (mt (List.mem_cons_of_mem d) absent)
            (mt (List.mem_cons_of_mem e) absent') others
          exact ⟨by rw [first, fronts], rests⟩

/-- Separators of one character do not overlap, so splitting may stop at any of them. -/
theorem Splits.append {c : Char} {others : List (List Char)} (h : Splits [c] first fields)
    (h' : Splits [c] second others) : Splits [c] (first ++ ([c] ++ second)) (fields ++ others) := by
  induction h with
  | last absent => exact .more (by simpa using absent) h'
  | more first _ ih =>
      rw [List.append_assoc, List.append_assoc, List.cons_append]
      exact .more first ih

theorem pieces_append (c : Char) (front rest : String) :
    pieces c (front ++ String.singleton c ++ rest) = pieces c front ++ pieces c rest := by
  have named : [c] ≠ [] := List.cons_ne_nil c []
  have splits := (splits_split named front.toList).append (splits_split named rest.toList)
  have whole : (front ++ String.singleton c ++ rest).toList =
      front.toList ++ ([c] ++ rest.toList) := by
    rw [String.toList_append, String.toList_append, String.toList_singleton, List.append_assoc]
  rw [pieces, whole, (split_eq_iff named).mpr splits, List.map_append]
  rfl

theorem pieces_of_absent {c : Char} {text : String} (absent : c ∉ text.toList) :
    pieces c text = [text] := by
  rw [pieces, split_of_absent (mt (List.singleton_infix_iff c _).mp absent), List.map_singleton,
    String.ofList_toList]

theorem not_mem_of_mem_pieces {c : Char} {text piece : String} (member : piece ∈ pieces c text) :
    c ∉ piece.toList := by
  rw [pieces, List.mem_map] at member
  obtain ⟨field, member, rfl⟩ := member
  rw [String.toList_ofList, ← List.singleton_infix_iff]
  exact (splits_split (List.cons_ne_nil c []) text.toList).absent member

/-- Texts without the separator are the pieces of what they are joined to. -/
theorem pieces_intercalate {c : Char} {texts : List String} (some : texts ≠ [])
    (plain : ∀ text ∈ texts, c ∉ text.toList) :
    pieces c ((String.singleton c).intercalate texts) = texts := by
  induction texts with
  | nil => exact absurd rfl some
  | cons text rest ih =>
      obtain ⟨absent, plain⟩ := List.forall_mem_cons.mp plain
      cases rest with
      | nil => rw [String.intercalate_singleton, pieces_of_absent absent]
      | cons next others =>
          have more := List.cons_ne_nil next others
          rw [String.intercalate_cons_of_ne_nil more, pieces_append, pieces_of_absent absent,
            ih more plain, List.singleton_append]

end Text
end TestAtlas
