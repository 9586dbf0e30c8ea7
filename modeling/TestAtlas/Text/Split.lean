/-!
Finding one text in another. Texts are lists of characters; positions count
characters from the start.
-/

namespace TestAtlas
namespace Text

/-- The last position at which `text` continues with `pattern`. -/
def lastIndex? (pattern : List Char) : (text : List Char) → Option Nat
  | [] => if pattern.isEmpty then some 0 else none
  | c :: rest =>
      match lastIndex? pattern rest with
      | some i => some (i + 1)
      | none => if pattern.isPrefixOf (c :: rest) then some 0 else none

/-- What stands before and after the first occurrence of a separator. -/
def splitFirst? (separator : List Char) : (text : List Char) → Option (List Char × List Char)
  | [] => if separator.isEmpty then some ([], []) else none
  | c :: rest =>
      if separator.isPrefixOf (c :: rest) then some ([], (c :: rest).drop separator.length)
      else (splitFirst? separator rest).map fun parts => (c :: parts.1, parts.2)

/-- Splitting loses nothing but the separator. -/
theorem eq_append_of_splitFirst? {separator text before after : List Char}
    (h : splitFirst? separator text = some (before, after)) :
    text = before ++ separator ++ after := by
  induction text generalizing before with
  | nil =>
      cases separator with
      | nil => simp [splitFirst?] at h; simp [h]
      | cons c cs => simp [splitFirst?] at h
  | cons c rest ih =>
      simp only [splitFirst?] at h
      split at h
      · rename_i starts
        obtain ⟨tail, eq⟩ := List.isPrefixOf_iff_prefix.1 starts
        simp only [Option.some.injEq, Prod.mk.injEq] at h
        rw [← h.1, ← h.2, ← eq]
        simp
      · obtain ⟨⟨b, a⟩, found, eq⟩ := Option.map_eq_some_iff.1 h
        simp only [Prod.mk.injEq] at eq
        obtain ⟨rfl, rfl⟩ := eq
        rw [ih found]
        simp

/-- The pieces between the occurrences of a separator, which are taken from the left and do not
overlap. Without a separator there is one piece. -/
def split (separator text : List Char) : List (List Char) :=
  if _empty : separator = [] then [text]
  else
    match _found : splitFirst? separator text with
    | none => [text]
    | some parts => parts.1 :: split separator parts.2
termination_by text.length
decreasing_by
  have eq := eq_append_of_splitFirst? _found
  have := List.length_pos_iff.2 _empty
  rw [eq]
  simp
  omega

/-- The text with every occurrence of `old` that splitting finds replaced. -/
def replace (old new text : List Char) : List Char := new.intercalate (split old text)

/-- The pieces of a string between the occurrences of a character. -/
def pieces (separator : Char) (text : String) : List String :=
  (split [separator] text.toList).map String.ofList

end Text
end TestAtlas
