/-!
Shell patterns. An asterisk stands for any text, a question mark for any
character, and a bracket expression for one character of a set, or with an
exclamation mark in front for one that is not in it. All else stands for
itself, also an opening bracket without a closing one. A pattern is about the
whole text and letters differ by case.
-/

namespace TestAtlas
namespace Glob

/-- A set of characters, given by ranges, or all that lie in none of them. -/
structure CharSet where
  excluded : Bool
  ranges : List (Char × Char)
  deriving DecidableEq, Repr

def CharSet.contains (set : CharSet) (c : Char) : Bool :=
  (set.ranges.any fun r => r.1 ≤ c && c ≤ r.2) != set.excluded

/-- A part of a pattern. -/
inductive Part where
  /-- Any text, also the empty one. -/
  | any
  /-- One character of a set. -/
  | one (set : CharSet)
  deriving DecidableEq, Repr

def Part.char (c : Char) : Part := .one ⟨false, [(c, c)]⟩

/-- Any one character. -/
def Part.anyChar : Part := .one ⟨true, []⟩

/-- A sign inside brackets: a character, or the hyphen of a range. -/
inductive Sign where
  | char (c : Char)
  | to
  deriving DecidableEq, Repr

/-- The pieces of a bracket expression between the hyphens that can make a range. A hyphen
counts if at least `distance` characters lie between it and the last one that counted, and a
final empty piece gives its hyphen back. `piece` is in reverse. -/
def pieces (distance : Nat) (piece : List Char) : List Char → List (List Char)
  | [] => [piece.reverse]
  | c :: rest =>
      match distance with
      | 0 =>
          if c = '-' then
            if rest.isEmpty then [(c :: piece).reverse] else piece.reverse :: pieces 2 [] rest
          else pieces 0 (c :: piece) rest
      | distance + 1 => pieces distance (c :: piece) rest

/-- Removes ranges that are empty: a piece that ends above the start of the next one is joined
to it without the two characters in question. -/
def joinEmptyRanges : List (List Char) → List (List Char)
  | [] => []
  | piece :: rest =>
      match piece.getLast?, joinEmptyRanges rest with
      | some last, (first :: others) :: more =>
          if first < last then (piece.dropLast ++ others) :: more
          else piece :: (first :: others) :: more
      | _, rest => piece :: rest

/-- The signs of a bracket expression. -/
def signs (body : List Char) : List Sign :=
  let distance := if body.head? = some '!' then 2 else 1
  let parts := joinEmptyRanges (pieces distance [] body)
  List.flatten ((parts.map (·.map Sign.char)).intersperse [Sign.to])

/-- The ranges that signs spell. A hyphen that does not stand between two characters stands for
itself. -/
def ranges : List Sign → List (Char × Char)
  | [] => []
  | .char low :: .to :: .char high :: rest => (low, high) :: ranges rest
  | .char c :: rest => (c, c) :: ranges rest
  | .to :: rest => ('-', '-') :: ranges rest

/-- The set of a bracket expression. -/
def charSet (body : List Char) : CharSet :=
  match signs body with
  | .char '!' :: rest => ⟨true, ranges rest⟩
  | all => ⟨false, ranges all⟩

/-- Splits off what a bracket expression may start with although it would otherwise have a
meaning of its own: an exclamation mark, a closing bracket, or both in this order. -/
def opening : List Char → List Char × List Char
  | '!' :: ']' :: rest => (['!', ']'], rest)
  | '!' :: rest => (['!'], rest)
  | ']' :: rest => ([']'], rest)
  | rest => ([], rest)

/-- Splits what follows an opening bracket at the closing one. -/
def bracket? (rest : List Char) : Option (List Char × List Char) :=
  let (lead, inner) := opening rest
  match inner.dropWhile (· != ']') with
  | [] => none
  | _ :: after => some (lead ++ inner.takeWhile (· != ']'), after)

theorem length_opening_le (l : List Char) : (opening l).2.length ≤ l.length := by
  fun_cases opening l with
  | case1 => simp only [List.length_cons]; omega
  | case2 | case3 | case4 => simp

theorem length_of_bracket? {rest body after : List Char} (h : bracket? rest = some (body, after)) :
    after.length < rest.length := by
  have tail := length_opening_le rest
  have dropped := (List.dropWhile_sublist (l := (opening rest).2) (· != ']')).length_le
  simp only [bracket?] at h
  split at h
  · cases h
  · rename_i eq
    simp only [Option.some.injEq, Prod.mk.injEq] at h
    rw [eq, List.length_cons, h.2] at dropped
    omega

/-- The parts of a pattern. -/
def parse (pattern : List Char) : List Part :=
  match pattern with
  | [] => []
  | c :: rest =>
      if c = '*' then .any :: parse rest
      else if c = '?' then .anyChar :: parse rest
      else if c = '[' then
        match _found : bracket? rest with
        | some split => .one (charSet split.1) :: parse split.2
        | none => .char c :: parse rest
      else .char c :: parse rest
termination_by pattern.length
decreasing_by
  · simp
  · simp
  · have := length_of_bracket? _found
    simp only [List.length_cons]
    omega
  · simp
  · simp

/-- Whether the parts match each tail of a text, the longest tail first. -/
def matchTails (text : List Char) : List Part → List Bool
  | [] => text.map (fun _ => false) ++ [true]
  | .one set :: rest =>
      List.zipWith (fun c ok => set.contains c && ok) text (matchTails text rest).tail ++ [false]
  | .any :: rest => (matchTails text rest).foldr (fun ok later => (ok || later.headD false) :: later) []

/-- Whether the parts match a text as a whole. -/
def matchParts (parts : List Part) (text : List Char) : Bool :=
  (matchTails text parts).headD false

/-- Whether a pattern matches a text as a whole. -/
def accepts (pattern text : String) : Bool := matchParts (parse pattern.toList) text.toList

end Glob
end TestAtlas
