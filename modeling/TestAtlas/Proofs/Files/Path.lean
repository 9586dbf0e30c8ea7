import TestAtlas.Files.Path
import TestAtlas.Proofs.Text.Split

/-!
Where paths lead by their spelling. A path is gone along component by component,
and what matters for this are its last component and the directory in front of
it: separators at the end of the directory add nothing.
-/

namespace TestAtlas
namespace Path

variable {path front last component : String} {before : List String}

/-- The components that are passed from others on, all in reverse. -/
def pass (before components : List String) : List String :=
  components.foldl (pushComponent true) before

/-- Goes along a path. -/
def walk (before : List String) (path : String) : List String :=
  pass before (Text.pieces separator path)

/-- A component that leads to an entry of a directory. -/
def IsEntry (component : String) : Prop :=
  component ≠ "" ∧ component ≠ "." ∧ component ≠ ".."

theorem pushComponent_of_isEntry {absolute : Bool} (entry : IsEntry component) :
    pushComponent absolute before component = component :: before := by
  obtain ⟨filled, dot, dots⟩ := entry
  simp [pushComponent, filled, dot, dots]

def AreEntries (names : List String) : Prop :=
  ∀ name ∈ names, IsEntry name ∧ separator ∉ name.toList

theorem areEntries_pushComponent (passed : AreEntries before)
    (plain : separator ∉ component.toList) :
    AreEntries (pushComponent true before component) := by
  unfold pushComponent
  split
  · exact passed
  · rename_i busy
    split
    · split
      · exact List.forall_mem_nil _
      · obtain ⟨last, passed⟩ := List.forall_mem_cons.mp passed
        rw [if_neg last.1.2.2]
        exact passed
    · rename_i single
      have entry : IsEntry component := by
        simpa [IsEntry, and_assoc] using And.intro busy single
      exact List.forall_mem_cons.mpr ⟨⟨entry, plain⟩, passed⟩

theorem areEntries_pass {components : List String} (passed : AreEntries before)
    (plain : ∀ component ∈ components, separator ∉ component.toList) :
    AreEntries (pass before components) := by
  induction components generalizing before with
  | nil => exact passed
  | cons component others ih =>
      obtain ⟨first, plain⟩ := List.forall_mem_cons.mp plain
      exact ih (areEntries_pushComponent passed first) plain

/-- What is passed from the root are entries. -/
theorem areEntries_walk (path : String) : AreEntries (walk [] path) :=
  areEntries_pass (List.forall_mem_nil _) fun _ => Text.not_mem_of_mem_pieces

theorem pass_append (before first second : List String) :
    pass before (first ++ second) = pass (pass before first) second :=
  List.foldl_append

theorem walk_separator (before : List String) (front rest : String) :
    walk before (front ++ String.singleton separator ++ rest) = walk (walk before front) rest := by
  rw [walk, Text.pieces_append, pass_append]
  rfl

theorem walk_of_plain (plain : separator ∉ component.toList) :
    walk before component = pushComponent true before component := by
  rw [walk, Text.pieces_of_absent plain]
  rfl

@[simp] theorem walk_empty : walk before "" = before :=
  walk_of_plain (List.not_mem_nil)

theorem walk_closed (before : List String) (front : String) :
    walk before (front ++ String.singleton separator) = walk before front := by
  rw [← String.append_empty (s := front ++ String.singleton separator), walk_separator, walk_empty]

theorem walk_separators (before : List String) (front : String) (count : Nat) :
    walk before (front ++ String.ofList (List.replicate count separator)) = walk before front := by
  induction count with
  | zero => rw [List.replicate_zero, String.ofList_nil, String.append_empty]
  | succ count ih =>
      have whole : front ++ String.ofList (List.replicate (count + 1) separator) =
          front ++ String.ofList (List.replicate count separator) ++
            String.singleton separator := by
        rw [← String.toList_inj]
        simp [List.replicate_succ']
      rw [whole, walk_closed, ih]

/-! The last component -/

theorem nameStart_of_plain {path : List Char} (plain : separator ∉ path) : nameStart path = 0 := by
  rw [nameStart, Text.lastIndex?_eq_none_iff.mpr (mt (List.singleton_infix_iff _ _).mp plain)]

theorem nameStart_append (front : List Char) {last : List Char} (plain : separator ∉ last) :
    nameStart (front ++ ([separator] ++ last)) = (front ++ [separator]).length := by
  have found : Text.lastIndex? [separator] (front ++ ([separator] ++ last)) = some front.length :=
    Text.lastIndex?_of_last (List.cons_ne_nil _ _) front
      (mt (List.singleton_infix_iff _ _).mp plain)
  rw [nameStart, found, List.length_append, List.length_singleton]

theorem toList_join_last (front last : String) :
    (front ++ String.singleton separator ++ last).toList =
      front.toList ++ ([separator] ++ last.toList) := by
  rw [String.toList_append, String.toList_append, String.toList_singleton, List.append_assoc]

/-- A path is its last component, or has that behind a separator. -/
theorem plain_or_split (path : String) :
    separator ∉ path.toList ∨ ∃ front last, separator ∉ last.toList ∧
      path = front ++ String.singleton separator ++ last := by
  by_cases member : separator ∈ path.toList
  · obtain ⟨front, last, whole, plain⟩ := Text.exists_last member
    refine .inr ⟨String.ofList front, String.ofList last, ?_, ?_⟩
    · rwa [String.toList_ofList]
    · rw [← String.toList_inj, toList_join_last, String.toList_ofList, String.toList_ofList, whole]
      rfl
  · exact .inl member

theorem name_of_plain (plain : separator ∉ path.toList) : name path = path := by
  rw [name, nameStart_of_plain plain, List.drop_zero, String.ofList_toList]

theorem name_split (front : String) (plain : separator ∉ last.toList) :
    name (front ++ String.singleton separator ++ last) = last := by
  rw [name, toList_join_last, nameStart_append _ plain, ← List.append_assoc,
    List.drop_left, String.ofList_toList]

theorem pieces_eq_append (path : String) :
    ∃ initial, Text.pieces separator path = initial ++ [name path] := by
  obtain plain | ⟨front, last, plain, rfl⟩ := plain_or_split path
  · exact ⟨[], by rw [Text.pieces_of_absent plain, name_of_plain plain, List.nil_append]⟩
  · exact ⟨Text.pieces separator front,
      by rw [Text.pieces_append, Text.pieces_of_absent plain, name_split front plain]⟩

/-! The directory in front of it -/

/-- Only separators are dropped, and not all there is. -/
theorem exists_dropTrailing (path : List Char) :
    ∃ count, path = dropTrailing path ++ List.replicate count separator ∧
      (dropTrailing path = [] → path = []) := by
  rw [dropTrailing]
  split
  · exact ⟨0, (List.append_nil path).symm, id⟩
  · rename_i more
    have dropped : ∀ c ∈ (path.reverse.takeWhile (· == separator)).reverse, c = separator := by
      intro c member
      exact eq_of_beq (List.all_eq_true.mp List.all_takeWhile c (List.mem_reverse.mp member))
    refine ⟨(path.reverse.takeWhile (· == separator)).reverse.length, ?_,
      fun none => (more (List.reverse_eq_nil_iff.mp none)).elim⟩
    rw [← List.eq_replicate_of_mem dropped, ← List.reverse_append, List.takeWhile_append_dropWhile,
      List.reverse_reverse]

theorem walk_dropTrailing (before : List String) (path : List Char) :
    walk before (String.ofList (dropTrailing path)) = walk before (String.ofList path) := by
  obtain ⟨count, whole, -⟩ := exists_dropTrailing path
  conv => rhs; rw [whole, String.ofList_append, walk_separators]

theorem head?_dropTrailing (path : List Char) : (dropTrailing path).head? = path.head? := by
  obtain ⟨count, whole, filled⟩ := exists_dropTrailing path
  cases kept : dropTrailing path with
  | nil => rw [filled kept]
  | cons c rest => rw [whole, kept, List.cons_append, List.head?_cons, List.head?_cons]

theorem directory_of_plain (plain : separator ∉ path.toList) : directory path = "" := by
  rw [directory, nameStart_of_plain plain]
  rfl

theorem directory_split (front : String) (plain : separator ∉ last.toList) :
    directory (front ++ String.singleton separator ++ last) =
      String.ofList (dropTrailing (front ++ String.singleton separator).toList) := by
  have whole : (front ++ String.singleton separator).toList = front.toList ++ [separator] := by
    rw [String.toList_append, String.toList_singleton]
  rw [directory, toList_join_last, nameStart_append _ plain, ← List.append_assoc,
    List.take_left, whole]

/-- To go along a path is to go to its directory and on to its last component. -/
theorem walk_eq_pushComponent (before : List String) (path : String) :
    walk before path = pushComponent true (walk before (directory path)) (name path) := by
  obtain plain | ⟨front, last, plain, rfl⟩ := plain_or_split path
  · rw [directory_of_plain plain, name_of_plain plain, walk_empty, walk_of_plain plain]
  · rw [directory_split front plain, name_split front plain, walk_dropTrailing,
      String.ofList_toList, walk_closed, walk_separator, walk_of_plain plain]

theorem isAbsolute_append (front rest : String) :
    isAbsolute (front ++ rest) = if front = "" then isAbsolute rest else isAbsolute front := by
  split
  · rename_i none
    rw [none, String.empty_append]
  · rename_i some
    obtain ⟨c, others, begins⟩ := List.exists_cons_of_ne_nil (mt String.toList_eq_nil_iff.mp some)
    rw [isAbsolute, isAbsolute, String.toList_append, begins, List.cons_append, List.head?_cons,
      List.head?_cons]

theorem isAbsolute_of_plain (plain : separator ∉ path.toList) : isAbsolute path = false := by
  rw [isAbsolute, beq_eq_false_iff_ne]
  exact fun begins => plain (List.mem_of_head? begins)

theorem isAbsolute_directory (path : String) : isAbsolute (directory path) = isAbsolute path := by
  obtain plain | ⟨front, last, plain, rfl⟩ := plain_or_split path
  · rw [directory_of_plain plain, isAbsolute_of_plain plain]
    rfl
  · have closed : front ++ String.singleton separator ≠ "" := by
      rw [← String.toList_inj.ne]
      simp
    rw [directory_split front plain, isAbsolute, String.toList_ofList, head?_dropTrailing,
      isAbsolute_append, if_neg closed, isAbsolute]

/-! Joining -/

theorem join_of_isAbsolute (rooted : isAbsolute path = true) (directory : String) :
    join directory path = path := if_pos rooted

theorem exists_closed (closed : path.toList.getLast? = some separator) :
    ∃ front, path = front ++ String.singleton separator := by
  obtain ⟨front, whole⟩ := List.getLast?_eq_some_iff.mp closed
  exact ⟨String.ofList front, by rw [← String.toList_inj, whole]; simp⟩

/-- A path that is not absolute stands behind the separator that closes the directory, if there is
any directory. -/
theorem join_cases (relative : isAbsolute path = false) (directory : String) :
    (directory = "" ∧ join directory path = path) ∨
    directory ≠ "" ∧ ∃ front, join directory path = front ++ String.singleton separator ++ path ∧
      (directory = front ∨ directory = front ++ String.singleton separator) := by
  by_cases empty : directory = ""
  · subst empty
    exact .inl ⟨rfl, by simp [join, relative]⟩
  · refine .inr ⟨empty, ?_⟩
    rw [join, if_neg (Bool.not_eq_true _ ▸ relative)]
    split
    · rename_i ended
      obtain ⟨front, closed⟩ := exists_closed (by simpa [empty] using ended)
      exact ⟨front, by rw [closed], .inr closed⟩
    · exact ⟨directory, rfl, .inl rfl⟩

theorem walk_join (relative : isAbsolute path = false) (before : List String)
    (directory : String) :
    walk before (join directory path) = walk (walk before directory) path := by
  obtain ⟨rfl, joined⟩ | ⟨-, front, joined, rfl | rfl⟩ := join_cases relative directory
  · rw [joined, walk_empty]
  · rw [joined, walk_separator]
  · rw [joined, walk_separator, walk_closed]

theorem name_append (front path : String) :
    name (front ++ String.singleton separator ++ path) = name path := by
  obtain plain | ⟨inner, last, plain, rfl⟩ := plain_or_split path
  · rw [name_split front plain, name_of_plain plain]
  · rw [← String.append_assoc, ← String.append_assoc, name_split _ plain, name_split _ plain]

theorem name_join (directory path : String) : name (join directory path) = name path := by
  cases rooted : isAbsolute path with
  | true => rw [join_of_isAbsolute rooted]
  | false =>
      obtain ⟨-, joined⟩ | ⟨-, front, joined, -⟩ := join_cases rooted directory
      · rw [joined]
      · rw [joined, name_append]

theorem isAbsolute_join (directory path : String) :
    isAbsolute (join directory path) = (isAbsolute directory || isAbsolute path) := by
  cases rooted : isAbsolute path with
  | true => rw [join_of_isAbsolute rooted, rooted, Bool.or_true]
  | false =>
      rw [Bool.or_false]
      obtain ⟨rfl, joined⟩ | ⟨some, front, joined, rfl | rfl⟩ := join_cases rooted directory
      · rw [joined, rooted]
        rfl
      · rw [joined, String.append_assoc, isAbsolute_append, if_neg some]
      · rw [joined, isAbsolute_append, if_neg some]

/-! Extensions -/

/-- Nothing, or something that ends with a separator. -/
def Closed (front : String) : Prop :=
  front = "" ∨ ∃ before, front = before ++ String.singleton separator

theorem nameStart_of_closed (closed : Closed front) (plain : separator ∉ last.toList) :
    nameStart (front ++ last).toList = front.toList.length := by
  obtain rfl | ⟨before, rfl⟩ := closed
  · rw [String.empty_append, nameStart_of_plain plain]
    rfl
  · rw [toList_join_last, nameStart_append _ plain, String.toList_append, String.toList_singleton]

theorem name_of_closed (closed : Closed front) (plain : separator ∉ last.toList) :
    name (front ++ last) = last := by
  rw [name, nameStart_of_closed closed plain, String.toList_append, List.drop_left,
    String.ofList_toList]

/-- A path in three parts: what stands in front of its last component, this component without its
extension, and the extension. An extension begins with the last dot of the component, unless there
are only dots in front of it. -/
structure Anatomy (path front base extension : String) : Prop where
  whole : path = front ++ base ++ extension
  closed : Closed front
  plain : separator ∉ (base ++ extension).toList
  ending : (extension = "" ∧
      ∀ before after, base.toList = before ++ '.' :: after → ∀ c ∈ before, c = '.') ∨
    (∃ rest, extension = String.singleton '.' ++ rest ∧ '.' ∉ rest.toList) ∧
      ∃ c ∈ base.toList, c ≠ '.'

/-- A dot that has no other dot behind it comes after all others. -/
theorem prefix_of_last {c : Char} {before after other behind : List Char}
    (same : other ++ c :: behind = before ++ c :: after) (absent : c ∉ after) :
    other <+: before := by
  obtain ⟨rest, whole, -⟩ | ⟨rest, whole, same⟩ := List.append_eq_append_iff.mp same
  · exact ⟨rest, whole.symm⟩
  · cases rest with
    | nil => exact ⟨[], by rw [whole]; simp⟩
    | cons first rest =>
        rw [List.cons_append, List.cons.injEq] at same
        exact absurd (same.2 ▸ List.mem_append_right rest List.mem_cons_self) absent

/-- Every path has an anatomy. -/
theorem exists_anatomy (path : String) :
    ∃ front base extension, Anatomy path front base extension := by
  obtain ⟨front, last, closed, plain, rfl⟩ : ∃ front last, Closed front ∧
      separator ∉ last.toList ∧ path = front ++ last := by
    obtain plain | ⟨before, last, plain, rfl⟩ := plain_or_split path
    · exact ⟨"", path, .inl rfl, plain, String.empty_append.symm⟩
    · exact ⟨_, last, .inr ⟨before, rfl⟩, plain, rfl⟩
  -- With only dots in front of its last dot, the component has no extension.
  have unextended : (∀ before after, last.toList = before ++ '.' :: after →
      ∀ c ∈ before, c = '.') → ∃ front' base extension,
        Anatomy (front ++ last) front' base extension := fun dots =>
    ⟨front, last, "", by rw [String.append_empty], closed, by rwa [String.append_empty],
      .inl ⟨rfl, dots⟩⟩
  by_cases member : '.' ∈ last.toList
  · obtain ⟨base, rest, whole, absent⟩ := Text.exists_last member
    by_cases dots : ∀ c ∈ base, c = '.'
    · refine unextended fun before after same c inside => dots c ?_
      exact (prefix_of_last (same.symm.trans whole) absent).subset inside
    · have rejoined :
          last = String.ofList base ++ (String.singleton '.' ++ String.ofList rest) := by
        rw [← String.toList_inj, whole]
        simp
      refine ⟨front, String.ofList base, String.singleton '.' ++ String.ofList rest, ?_, closed, ?_,
        .inr ⟨⟨String.ofList rest, rfl, ?_⟩, ?_⟩⟩
      · rw [rejoined, String.append_assoc]
      · rwa [← rejoined]
      · rwa [String.toList_ofList]
      · rw [String.toList_ofList]
        simpa using dots
  · refine unextended fun before after same => absurd ?_ member
    rw [same]
    exact List.mem_append_right before List.mem_cons_self

/-- Without its extension, a path ends with the rest of its last component. -/
theorem Anatomy.stem_eq {base extension : String} (anatomy : Anatomy path front base extension) :
    stem path = front ++ base := by
  have start : nameStart path.toList = front.toList.length := by
    rw [anatomy.whole, String.append_assoc, nameStart_of_closed anatomy.closed anatomy.plain]
  obtain ⟨rfl, dots⟩ | ⟨⟨rest, rfl, absent⟩, c, member, other⟩ := anatomy.ending
  · have whole : path = front ++ base := by rw [anatomy.whole, String.append_empty]
    rw [stem, start]
    split
    · exact whole
    · rename_i dot found
      rw [← whole]
      refine if_neg fun busy => ?_
      obtain ⟨reach, c, inside, other⟩ := by simpa using busy
      obtain ⟨before, after, split, rfl⟩ := Text.eq_append_of_lastIndex? found
      have spelled : path.toList = front.toList ++ base.toList := by
        rw [whole, String.toList_append]
      -- The dot is one of the component, so there are only dots between the two.
      obtain ⟨between, rfl⟩ : front.toList <+: before :=
        List.prefix_of_prefix_length_le ⟨_, spelled.symm⟩ ⟨_, split.symm⟩ reach
      rw [split, List.take_left, List.drop_left] at inside
      rw [spelled, List.append_assoc, List.append_cancel_left_eq] at split
      exact other (dots between after split c inside)
  · have spelled : path.toList = (front.toList ++ base.toList) ++ (['.'] ++ rest.toList) := by
      rw [anatomy.whole]
      simp
    have found : Text.lastIndex? ['.'] path.toList =
        some (front.toList ++ base.toList).length := by
      rw [spelled]
      exact Text.lastIndex?_of_last (List.cons_ne_nil _ _) _
        (mt (List.singleton_infix_iff _ _).mp absent)
    have extended : (decide (front.toList.length ≤ (front.toList ++ base.toList).length) &&
        base.toList.any (· != '.')) = true := by
      simpa using ⟨c, member, other⟩
    rw [stem, start, found]
    dsimp only
    rw [spelled, List.take_left, List.drop_left, if_pos extended, ← String.toList_append,
      String.ofList_toList]

/-! Normal paths -/

/-- The non-empty components of a path. -/
def named (path : String) : List String := (Text.pieces separator path).filter (· != "")

theorem named_separator (path : String) :
    named (String.singleton separator ++ path) = named path := by
  have whole : String.singleton separator ++ path = "" ++ String.singleton separator ++ path := by
    rw [String.empty_append]
  rw [named, whole, Text.pieces_append, Text.pieces_of_absent List.not_mem_nil]
  rfl

theorem named_intercalate {names : List String} (entries : AreEntries names) :
    named (String.intercalate "/" names) = names := by
  cases names with
  | nil => rw [named, String.intercalate_nil, Text.pieces_of_absent List.not_mem_nil]; rfl
  | cons name others =>
      have plain := Text.pieces_intercalate (List.cons_ne_nil name others)
        fun name member => (entries name member).2
      rw [named, show "/" = String.singleton separator from rfl, plain, List.filter_eq_self]
      exact fun name member => bne_iff_ne.mpr (entries name member).1.1

theorem root_cases (rooted : isAbsolute path = true) : root path = "/" ∨ root path = "//" := by
  obtain ⟨rest, whole⟩ := List.head?_eq_some_iff.mp (eq_of_beq rooted)
  rw [root, whole, List.takeWhile_cons_of_pos (by rfl)]
  split
  · contradiction
  · exact .inr rfl
  · exact .inl rfl

theorem normalize_of_isAbsolute (rooted : isAbsolute path = true) :
    normalize path = root path ++ String.intercalate "/" (walk [] path).reverse := by
  rw [normalize, rooted]
  refine if_neg ?_
  obtain start | start := root_cases rooted
  all_goals
    rw [start, String.isEmpty_iff, ← String.toList_inj]
    simp

theorem isAbsolute_normalize (rooted : isAbsolute path = true) :
    isAbsolute (normalize path) = true := by
  rw [normalize_of_isAbsolute rooted]
  obtain start | start := root_cases rooted
  · rw [start, isAbsolute_append]
    rfl
  · rw [start, isAbsolute_append]
    rfl

theorem isAbsolute_absolute {workingDirectory : String}
    (rooted : isAbsolute workingDirectory = true) (path : String) :
    isAbsolute (absolute workingDirectory path) = true := by
  refine isAbsolute_normalize ?_
  split
  · assumption
  · rw [isAbsolute_join, rooted, Bool.true_or]

/-- A normal path has the components that the path leads along. -/
theorem named_normalize (rooted : isAbsolute path = true) :
    named (normalize path) = (walk [] path).reverse := by
  have entries : AreEntries (walk [] path).reverse :=
    fun name member => areEntries_walk path name (List.mem_reverse.mp member)
  rw [normalize_of_isAbsolute rooted]
  obtain start | start := root_cases rooted
  · rw [start]
    exact (named_separator _).trans (named_intercalate entries)
  · have double : "//" = String.singleton separator ++ String.singleton separator := rfl
    rw [start, double, String.append_assoc, named_separator, named_separator,
      named_intercalate entries]

/-- An entry of the working directory, as seen from the root. -/
theorem named_absolute {workingDirectory : String} (rooted : isAbsolute workingDirectory = true)
    (entry : IsEntry component) (plain : separator ∉ component.toList) :
    isAbsolute (absolute workingDirectory component) = true ∧
      named (absolute workingDirectory component) =
        named (normalize workingDirectory) ++ [component] := by
  have relative := isAbsolute_of_plain plain
  have joined : isAbsolute (join workingDirectory component) = true := by
    rw [isAbsolute_join, rooted, Bool.true_or]
  have full : absolute workingDirectory component =
      normalize (join workingDirectory component) := by
    rw [absolute, relative]
    rfl
  rw [full, named_normalize joined, named_normalize rooted, walk_join relative,
    walk_of_plain plain, pushComponent_of_isEntry entry, List.reverse_cons]
  exact ⟨isAbsolute_normalize joined, rfl⟩

end Path
end TestAtlas
