import Mathlib
import TestAtlas.Data.Json

/-!
Reading JSON back. A text, a number, a list and a record say themselves where
they end, a number if no digit follows; so what was spelled can be told from the
spelling and from whatever stands behind it.
-/

namespace TestAtlas

namespace Hex

theorem digit_inj : ∀ a < 16, ∀ b < 16, digit a = digit b → a = b := by decide

/-- Digits spell the number as far as they reach. -/
theorem digits_append_inj {count n k : Nat} {rest other : List Char}
    (same : digits count n ++ rest = digits count k ++ other) :
    n % 16 ^ count = k % 16 ^ count ∧ rest = other := by
  induction count with
  | zero => exact ⟨by rw [Nat.pow_zero, Nat.mod_one, Nat.mod_one], same⟩
  | succ count ih =>
      rw [digits, digits, List.cons_append, List.cons_append, List.cons.injEq] at same
      obtain ⟨lower, rests⟩ := ih same.2
      have top := digit_inj _ (Nat.mod_lt _ (by decide)) _ (Nat.mod_lt _ (by decide)) same.1
      have power : 2 ^ (4 * count) = 16 ^ count := Nat.pow_mul 2 4 count
      rw [Nat.shiftRight_eq_div_pow, Nat.shiftRight_eq_div_pow, power] at top
      rw [Nat.mod_pow_succ, Nat.mod_pow_succ, lower, top]
      exact ⟨rfl, rests⟩

end Hex

namespace Json

variable {rest other : List Char}

/-! Texts -/

theorem escapeUnit_append_inj {n k : Nat} (fits : n < 0x10000) (fits' : k < 0x10000)
    (same : escapeUnit n ++ rest = escapeUnit k ++ other) : n = k ∧ rest = other := by
  rw [escapeUnit, escapeUnit, List.cons_append, List.cons_append, List.cons_append,
    List.cons_append, List.cons.injEq, List.cons.injEq] at same
  obtain ⟨units, rests⟩ := Hex.digits_append_inj same.2.2
  have power : 16 ^ 4 = 0x10000 := rfl
  rw [power, Nat.mod_eq_of_lt fits, Nat.mod_eq_of_lt fits'] at units
  exact ⟨units, rests⟩

/-- Characters that are escaped with a letter. -/
def letters : List (Char × Char) := [('"', '"'), ('\\', '\\'), ('\n', 'n'), ('\r', 'r'),
  ('\t', 't'), ('\x08', 'b'), ('\x0c', 'f')]

/-- The ways to spell a character. -/
inductive Spells : Char → List Char → Prop where
  | itself {c : Char} (plain : c ≠ '"') (plain' : c ≠ '\\') : Spells c [c]
  | letter {c k : Char} (listed : (c, k) ∈ letters) : Spells c ['\\', k]
  | unit {c : Char} (fits : c.toNat < 0x10000) : Spells c (escapeUnit c.toNat)
  | pair {c : Char} (large : 0x10000 ≤ c.toNat) :
      Spells c (escapeUnit (0xD800 + (c.toNat - 0x10000) / 1024) ++
        escapeUnit (0xDC00 + (c.toNat - 0x10000) % 1024))

theorem spells_escapeChar (c : Char) : Spells c (escapeChar c) := by
  rw [escapeChar]
  iterate 7
    split
    · rename_i same
      subst same
      exact .letter (by decide)
  split
  · exact .itself ‹_› ‹_›
  split
  · rename_i fits
    exact .unit fits
  · rename_i large
    exact .pair (Nat.le_of_not_lt large)

theorem letters_inj : ∀ p ∈ letters, ∀ q ∈ letters, p.2 = q.2 → p.1 = q.1 := by decide

theorem letter_ne_unit : ∀ p ∈ letters, p.2 ≠ 'u' := by decide

/-- No character has the number of half a pair. -/
theorem not_half (c : Char) : ¬ (0xD800 ≤ c.toNat ∧ c.toNat < 0xE000) := by
  rintro ⟨low, high⟩
  obtain below | ⟨above, -⟩ : c.toNat < 55296 ∨ 57343 < c.toNat ∧ c.toNat < 1114112 := c.valid
  · omega
  · omega

theorem toNat_lt (c : Char) : c.toNat < 0x110000 := by
  obtain below | ⟨-, below⟩ : c.toNat < 55296 ∨ 57343 < c.toNat ∧ c.toNat < 1114112 := c.valid
  · omega
  · exact below

variable {c d : Char} {text text' : List Char}

/-- A character that is spelled with a letter is not spelled in units. -/
theorem Spells.ne_of_letter {k : Char} (listed : (c, k) ∈ letters) (n : Nat) :
    ['\\', k] ++ rest ≠ escapeUnit n ++ other := fun same =>
  letter_ne_unit _ listed (List.cons.inj (List.cons.inj same).2).1

/-- A character of one unit is not spelled like the first half of a pair. -/
theorem Spells.ne_of_pair (fits : c.toNat < 0x10000) (d : Char) :
    escapeUnit c.toNat ++ rest ≠ escapeUnit (0xD800 + (d.toNat - 0x10000) / 1024) ++ other := by
  intro same
  have bound := toNat_lt d
  obtain ⟨half, -⟩ := escapeUnit_append_inj fits (by omega) same
  exact not_half c (by omega)

theorem Spells.append_inj (h : Spells c text) (h' : Spells d text')
    (same : text ++ rest = text' ++ other) : c = d ∧ rest = other := by
  cases h with
  | itself plain plain' =>
      cases h' with
      | itself _ _ => exact List.cons.inj same
      | letter _ | unit _ | pair _ => exact absurd (List.cons.inj same).1 plain'
  | letter listed =>
      cases h' with
      | itself _ plain' => exact absurd (List.cons.inj same).1.symm plain'
      | letter listed' =>
          obtain ⟨letter, rests⟩ := List.cons.inj (List.cons.inj same).2
          exact ⟨letters_inj _ listed _ listed' letter, rests⟩
      | unit _ => exact absurd same (ne_of_letter listed _)
      | pair _ =>
          rw [List.append_assoc] at same
          exact absurd same (ne_of_letter listed _)
  | unit fits =>
      cases h' with
      | itself _ plain' => exact absurd (List.cons.inj same).1.symm plain'
      | letter listed => exact absurd same.symm (ne_of_letter listed _)
      | unit fits' =>
          obtain ⟨units, rests⟩ := escapeUnit_append_inj fits fits' same
          exact ⟨Char.toNat_inj.mp units, rests⟩
      | pair _ =>
          rw [List.append_assoc] at same
          exact absurd same (ne_of_pair fits _)
  | pair large =>
      cases h' with
      | itself _ plain' => exact absurd (List.cons.inj same).1.symm plain'
      | letter listed =>
          rw [List.append_assoc] at same
          exact absurd same.symm (ne_of_letter listed _)
      | unit fits =>
          rw [List.append_assoc] at same
          exact absurd same.symm (ne_of_pair fits _)
      | pair large' =>
          have bound := toNat_lt c
          have bound' := toNat_lt d
          rw [List.append_assoc, List.append_assoc] at same
          obtain ⟨first, same⟩ := escapeUnit_append_inj (by omega) (by omega) same
          obtain ⟨second, rests⟩ := escapeUnit_append_inj (by omega) (by omega) same
          exact ⟨Char.toNat_inj.mp (by omega), rests⟩

theorem Spells.exists_cons (h : Spells c text) :
    ∃ first more, text = first :: more ∧ first ≠ '"' := by
  cases h with
  | itself plain _ => exact ⟨_, _, rfl, plain⟩
  | letter _ | unit _ | pair _ => exact ⟨_, _, rfl, by decide⟩

theorem escaped_append_inj {s t : List Char}
    (same : s.flatMap escapeChar ++ '"' :: rest = t.flatMap escapeChar ++ '"' :: other) :
    s = t ∧ rest = other := by
  induction s generalizing t with
  | nil =>
      cases t with
      | nil => exact ⟨rfl, (List.cons.inj same).2⟩
      | cons d t =>
          obtain ⟨first, more, spelled, other⟩ := (spells_escapeChar d).exists_cons
          rw [List.flatMap_cons, spelled] at same
          exact absurd (List.cons.inj same).1.symm other
  | cons c s ih =>
      cases t with
      | nil =>
          obtain ⟨first, more, spelled, other⟩ := (spells_escapeChar c).exists_cons
          rw [List.flatMap_cons, spelled] at same
          exact absurd (List.cons.inj same).1 other
      | cons d t =>
          rw [List.flatMap_cons, List.flatMap_cons, List.append_assoc, List.append_assoc] at same
          obtain ⟨first, tails⟩ := (spells_escapeChar c).append_inj (spells_escapeChar d) same
          obtain ⟨texts, rests⟩ := ih tails
          exact ⟨by rw [first, texts], rests⟩

/-! Spellings that end by themselves -/

/-- A text that can stand behind a number. -/
def Stops (rest : List Char) : Prop := ∀ c ∈ rest.head?, c.isDigit = false

/-- What was spelled can be told, and where its spelling ends. -/
def Legible {α : Type} (spell : α → List Char) : Prop :=
  ∀ ⦃a b rest other⦄, Stops rest → Stops other → spell a ++ rest = spell b ++ other →
    a = b ∧ rest = other

variable {α β : Type} {spell : α → List Char}

theorem stops_nil : Stops [] := fun _ member => by cases member

theorem stops_cons {c : Char} (h : c.isDigit = false) (rest : List Char) : Stops (c :: rest) :=
  fun _ member => Option.mem_some.mp member ▸ h

theorem Legible.eq (legible : Legible spell) {a b : α} (same : spell a = spell b) : a = b := by
  have whole : spell a ++ [] = spell b ++ [] := by rw [same]
  exact (legible stops_nil stops_nil whole).1

theorem Legible.of_eq (legible : Legible spell) {spell' : α → List Char}
    (same : ∀ a, spell' a = spell a) : Legible spell' := by
  rw [funext same]
  exact legible

/-- What stands in front of all spellings tells nothing, and hides nothing. -/
theorem Legible.after (legible : Legible spell) (front : List Char) :
    Legible fun a => front ++ spell a := by
  intro a b rest other stops stops' same
  dsimp only at same
  rw [List.append_assoc, List.append_assoc, List.append_cancel_left_eq] at same
  exact legible stops stops' same

theorem Legible.comp (legible : Legible spell) {make : β → α} (inj : Function.Injective make) :
    Legible fun b => spell (make b) := by
  intro a b rest other stops stops' same
  obtain ⟨made, rests⟩ := legible stops stops' same
  exact ⟨inj made, rests⟩

/-- A text that does not begin with a digit. -/
def Apart (between : List Char) : Prop :=
  ∃ mark more, between = mark :: more ∧ mark.isDigit = false

theorem Apart.stops {between : List Char} (apart : Apart between) (rest : List Char) :
    Stops (between ++ rest) := by
  obtain ⟨mark, more, rfl, digit⟩ := apart
  exact stops_cons digit _

theorem Legible.before (legible : Legible spell) {behind : List Char} (apart : Apart behind) :
    Legible fun a => spell a ++ behind := by
  intro a b rest other _ _ same
  dsimp only at same
  rw [List.append_assoc, List.append_assoc] at same
  obtain ⟨first, rests⟩ := legible (apart.stops rest) (apart.stops other) same
  exact ⟨first, List.append_cancel_left rests⟩

/-- Two spellings with something between them. -/
theorem Legible.next (legible : Legible spell) {spell' : β → List Char} (legible' : Legible spell')
    {between : List Char} (apart : Apart between) :
    Legible fun p : α × β => spell p.1 ++ (between ++ spell' p.2) := by
  intro a b rest other stops stops' same
  dsimp only at same
  rw [List.append_assoc, List.append_assoc, List.append_assoc, List.append_assoc] at same
  obtain ⟨first, rests⟩ := legible (apart.stops _) (apart.stops _) same
  obtain ⟨second, rests⟩ := legible' stops stops' (List.append_cancel_left rests)
  exact ⟨Prod.ext first second, rests⟩

/-- One spelling after the other. -/
theorem Legible.flatMap_inj (legible : Legible spell) (apart : ∀ a, Apart (spell a))
    {items items' : List α} (same : items.flatMap spell = items'.flatMap spell) :
    items = items' := by
  have stops (items : List α) : Stops (items.flatMap spell) := by
    cases items with
    | nil => exact stops_nil
    | cons a items => exact (apart a).stops _
  induction items generalizing items' with
  | nil =>
      cases items' with
      | nil => rfl
      | cons b items' =>
          obtain ⟨mark, more, spelled, -⟩ := apart b
          rw [List.flatMap_cons, spelled] at same
          cases same
  | cons a items ih =>
      cases items' with
      | nil =>
          obtain ⟨mark, more, spelled, -⟩ := apart a
          rw [List.flatMap_cons, spelled] at same
          cases same
      | cons b items' =>
          obtain ⟨first, others⟩ := legible (stops items) (stops items') same
          rw [first, ih others]

theorem legible_quote : Legible fun text : String => (quote text).toList := by
  intro a b rest other _ _ same
  simp only [quote, String.toList_ofList, List.cons_append, List.append_assoc, List.nil_append,
    List.cons.injEq, true_and] at same
  obtain ⟨texts, rests⟩ := escaped_append_inj same
  exact ⟨String.toList_inj.mp texts, rests⟩

theorem isDigit_of_mem_repr {n : Nat} {c : Char} (member : c ∈ n.repr.toList) :
    c.isDigit = true := by
  rw [Nat.repr_eq_ofList_toDigits, String.toList_ofList] at member
  exact Nat.isDigit_of_mem_toDigits (by decide) (by decide) member

/-- Behind the first character of a number there are only digits. -/
theorem exists_toString (n : Int) : ∃ first more, (toString n).toList = first :: more ∧
    (first.isDigit = true ∨ first = '-') ∧ ∀ c ∈ more, c.isDigit = true := by
  rw [Int.toString_eq_repr, Int.repr_eq_if]
  split
  · obtain ⟨first, more, spelled⟩ : ∃ first more, n.toNat.repr.toList = first :: more := by
      refine List.exists_cons_of_ne_nil ?_
      rw [Nat.repr_eq_ofList_toDigits, String.toList_ofList]
      exact Nat.toDigits_ne_nil
    have all (c : Char) (member : c ∈ first :: more) : c.isDigit = true :=
      isDigit_of_mem_repr (spelled ▸ member)
    exact ⟨first, more, spelled, .inl (all first List.mem_cons_self),
      fun c member => all c (List.mem_cons_of_mem _ member)⟩
  · refine ⟨'-', (-n).toNat.repr.toList, ?_, .inr rfl, fun c => isDigit_of_mem_repr⟩
    rw [String.toList_append]
    rfl

theorem not_mem_toString {c : Char} (other : c.isDigit = false) (sign : c ≠ '-') (n : Int) :
    c ∉ (toString n).toList := by
  obtain ⟨first, more, spelled, start, digits⟩ := exists_toString n
  rw [spelled, List.mem_cons, not_or]
  refine ⟨?_, fun member => ?_⟩
  · rintro rfl
    obtain digit | minus := start
    · rw [other] at digit
      cases digit
    · exact sign minus
  · rw [digits c member] at other
    cases other

/-- A longer spelling of a number would go on with a digit. -/
theorem toString_append {n k : Int} {more : List Char} (stops : Stops (more ++ other))
    (longer : (toString n).toList = (toString k).toList ++ more) : more = [] := by
  cases more with
  | nil => rfl
  | cons c more =>
      obtain ⟨first, digits, spelled, -, all⟩ := exists_toString n
      obtain ⟨first', digits', spelled', -⟩ := exists_toString k
      rw [spelled, spelled', List.cons_append, List.cons.injEq] at longer
      have digit := all c (by
        rw [longer.2]
        exact List.mem_append_right _ List.mem_cons_self)
      rw [stops c rfl] at digit
      cases digit

theorem legible_toString : Legible fun n : Int => (toString n).toList := by
  intro n k rest other stops stops' same
  dsimp only at same
  -- One of the two spellings is as long as the other one or longer.
  obtain ⟨more, spelled, rests⟩ | ⟨more, spelled, rests⟩ := List.append_eq_append_iff.mp same
  · have none := toString_append (rests ▸ stops) spelled
    rw [none, List.append_nil, String.toList_inj, Int.toString_eq_repr, Int.toString_eq_repr,
      Int.repr_inj] at spelled
    exact ⟨spelled.symm, by rw [rests, none, List.nil_append]⟩
  · have none := toString_append (rests ▸ stops') spelled
    rw [none, List.append_nil, String.toList_inj, Int.toString_eq_repr, Int.toString_eq_repr,
      Int.repr_inj] at spelled
    exact ⟨spelled, by rw [rests, none, List.nil_append]⟩

/-! Series -/

/-- Marks between items and at their end that cannot be taken for parts of the items. -/
structure Marked (spell : α → List Char) (separator : List Char) (close : Char) : Prop where
  legible : Legible spell
  separates : ∃ mark more, separator = mark :: more ∧ mark ≠ close ∧ mark.isDigit = false
  closes : close.isDigit = false
  begins : ∀ a, ∃ first more, spell a = first :: more ∧ first ≠ close

variable {separator : List Char} {close : Char}

theorem intercalate_cons_eq (separator first : List Char) (others : List (List Char)) :
    separator.intercalate (first :: others) = first ++ others.flatMap (separator ++ ·) := by
  induction others generalizing first with
  | nil => rw [List.intercalate_singleton, List.flatMap_nil, List.append_nil]
  | cons second others ih =>
      rw [List.intercalate_cons_cons, ih, List.flatMap_cons, List.append_assoc, List.append_assoc]

namespace Marked

theorem stops (marked : Marked spell separator close) (items : List α) (rest : List Char) :
    Stops (items.flatMap (fun a => separator ++ spell a) ++ close :: rest) := by
  obtain ⟨mark, more, rfl, -, digit⟩ := marked.separates
  cases items with
  | nil => exact stops_cons marked.closes rest
  | cons a items => exact stops_cons digit _

theorem others_append_inj (marked : Marked spell separator close) {items items' : List α}
    (same : items.flatMap (fun a => separator ++ spell a) ++ close :: rest =
      items'.flatMap (fun a => separator ++ spell a) ++ close :: other) :
    items = items' ∧ rest = other := by
  obtain ⟨mark, more, whole, apart, -⟩ := marked.separates
  induction items generalizing items' with
  | nil =>
      cases items' with
      | nil => exact ⟨rfl, (List.cons.inj same).2⟩
      | cons b items' =>
          rw [List.flatMap_cons, whole] at same
          exact absurd (List.cons.inj same).1.symm apart
  | cons a items ih =>
      cases items' with
      | nil =>
          rw [List.flatMap_cons, whole] at same
          exact absurd (List.cons.inj same).1 apart
      | cons b items' =>
          rw [List.flatMap_cons, List.flatMap_cons, List.append_assoc, List.append_assoc,
            List.append_assoc, List.append_assoc, List.append_cancel_left_eq] at same
          obtain ⟨first, others⟩ :=
            marked.legible (marked.stops items rest) (marked.stops items' other) same
          obtain ⟨others, rests⟩ := ih others
          exact ⟨by rw [first, others], rests⟩

theorem legible_series (marked : Marked spell separator close) :
    Legible fun items : List α => separator.intercalate (items.map spell) ++ [close] := by
  intro items items' rest other _ _ same
  dsimp only at same
  rw [List.append_assoc, List.append_assoc, List.singleton_append, List.singleton_append] at same
  cases items with
  | nil =>
      cases items' with
      | nil => exact ⟨rfl, (List.cons.inj same).2⟩
      | cons b items' =>
          obtain ⟨first, more, spelled, apart⟩ := marked.begins b
          rw [List.map_cons, intercalate_cons_eq, spelled] at same
          exact absurd (List.cons.inj same).1.symm apart
  | cons a items =>
      cases items' with
      | nil =>
          obtain ⟨first, more, spelled, apart⟩ := marked.begins a
          rw [List.map_cons, intercalate_cons_eq, spelled] at same
          exact absurd (List.cons.inj same).1 apart
      | cons b items' =>
          rw [List.map_cons, List.map_cons, intercalate_cons_eq, intercalate_cons_eq,
            List.append_assoc, List.append_assoc, List.flatMap_map, List.flatMap_map] at same
          obtain ⟨first, others⟩ :=
            marked.legible (marked.stops items rest) (marked.stops items' other) same
          obtain ⟨others, rests⟩ := marked.others_append_inj others
          exact ⟨by rw [first, others], rests⟩

end Marked

/-! Lists and records -/

variable {style : Style}

theorem renderItems_map (style : Style) (f : α → Value) (items : List α) :
    renderItems style (items.map f) = items.map fun a => render style (f a) := by
  induction items with
  | nil => rfl
  | cons a items ih => rw [List.map_cons, renderItems, ih, List.map_cons]

theorem renderFields_map (style : Style) (f : α → String × Value) (items : List α) :
    renderFields style (items.map f) =
      items.map fun a => quote (f a).1 ++ style.name ++ render style (f a).2 := by
  induction items with
  | nil => rfl
  | cons a items ih => rw [List.map_cons, renderFields, ih, List.map_cons]

theorem toList_render_list (style : Style) (f : α → Value) (items : List α) :
    (render style (.list (items.map f))).toList =
      "[".toList ++ (style.item.toList.intercalate
        (items.map fun a => (render style (f a)).toList) ++ [']']) := by
  rw [render, renderItems_map, String.toList_append, String.toList_append,
    String.toList_intercalate, List.map_map, List.append_assoc]
  rfl

theorem toList_render_record (style : Style) (f : α → String × Value) (items : List α) :
    (render style (.record (items.map f))).toList =
      "\x7b".toList ++ (style.item.toList.intercalate
        (items.map fun a => (quote (f a).1 ++ style.name ++ render style (f a).2).toList) ++
          ['\x7d']) := by
  rw [render, renderFields_map, String.toList_append, String.toList_append,
    String.toList_intercalate, List.map_map, List.append_assoc]
  rfl

theorem legible_list {f : α → Value}
    (marked : Marked (fun a => (render style (f a)).toList) style.item.toList ']') :
    Legible fun items : List α => (render style (.list (items.map f))).toList := by
  simp only [toList_render_list]
  exact marked.legible_series.after _

theorem legible_record {f : α → String × Value}
    (marked : Marked (fun a => (quote (f a).1 ++ style.name ++ render style (f a).2).toList)
      style.item.toList '\x7d') :
    Legible fun items : List α => (render style (.record (items.map f))).toList := by
  simp only [toList_render_record]
  exact marked.legible_series.after _

end Json
end TestAtlas
