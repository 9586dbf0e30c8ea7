import Mathlib.Data.List.TakeWhile
import TestAtlas.Proofs.CommandLine.Precedence
import TestAtlas.Proofs.Files.Path
import TestAtlas.Proofs.Text.Replace

/-!
What stands for the placeholders of settings. The directory is filled in before
the name, so the name is also filled in where the directory has its
placeholder, or makes one up together with the text behind it. Nowhere else does
this differ from filling in both at once.
-/

namespace TestAtlas
namespace Settings

/-- The text with both placeholders filled in, read from the left. What is filled in is not looked
at again. -/
def atOnce (directory name : List Char) : (text : List Char) → List Char
  | [] => []
  | c :: rest =>
      if directoryPlaceholder.isPrefixOf (c :: rest) then
        directory ++ atOnce directory name ((c :: rest).drop directoryPlaceholder.length)
      else if namePlaceholder.isPrefixOf (c :: rest) then
        name ++ atOnce directory name ((c :: rest).drop namePlaceholder.length)
      else
        c :: atOnce directory name rest
termination_by text => text.length
decreasing_by
  · have some : 0 < directoryPlaceholder.length := by decide
    rw [List.length_drop, List.length_cons]
    omega
  · have some : 0 < namePlaceholder.length := by decide
    rw [List.length_drop, List.length_cons]
    omega
  · exact Nat.lt_succ_self _

def fillInAtOnce (directory name text : String) : String :=
  String.ofList (atOnce directory.toList name.toList text.toList)

/-- The text up to where a placeholder may begin. -/
def plain (text : List Char) : List Char := text.takeWhile (· != '$')

/-- Where the directory is filled in, it does not make up a placeholder of the name, neither alone
nor with the plain text behind it. -/
def Undisturbed (directory text : List Char) : Prop :=
  ∀ rest, directoryPlaceholder ++ rest <:+ text → ¬ namePlaceholder <:+: directory ++ plain rest

variable {directory name text front rest v : List Char} {c : Char}

/-! Placeholders -/

theorem directoryPlaceholder_eq : directoryPlaceholder = '$' :: directoryPlaceholder.tail := by
  decide

theorem namePlaceholder_eq : namePlaceholder = '$' :: namePlaceholder.tail := by decide

theorem not_starts_both (starts : directoryPlaceholder <+: text) : ¬ namePlaceholder <+: text := by
  intro other
  have inside := List.prefix_of_prefix_length_le other starts (by decide)
  revert inside
  decide

/-- A text without dollar signs and slashes, such as the end of a placeholder. -/
def IsEnd (v : List Char) : Prop := '$' ∉ v ∧ '/' ∉ v

theorem IsEnd.tail (ending : IsEnd (c :: v)) : IsEnd v :=
  ⟨mt (List.mem_cons_of_mem c) ending.1, mt (List.mem_cons_of_mem c) ending.2⟩

theorem isEnd_of_split (whole : namePlaceholder = c :: front ++ v) : IsEnd v := by
  have behind : namePlaceholder.tail = front ++ v := by rw [whole]; rfl
  have dollar : '$' ∉ namePlaceholder.tail := by decide
  have slash : '/' ∉ namePlaceholder.tail := by decide
  rw [behind] at dollar slash
  exact ⟨mt (List.mem_append_right front) dollar, mt (List.mem_append_right front) slash⟩

theorem not_mem_plain (text : List Char) : '$' ∉ plain text := by
  intro dollar
  rw [plain] at dollar
  exact absurd (List.mem_takeWhile_imp dollar) (by decide)

theorem prefix_plain_iff (absent : '$' ∉ v) : v <+: plain text ↔ v <+: text := by
  refine ⟨fun starts => starts.trans (List.takeWhile_prefix _), ?_⟩
  rintro ⟨rest, rfl⟩
  have copied : plain (v ++ rest) = v ++ plain rest :=
    List.takeWhile_append_of_pos fun c member => bne_iff_ne.mpr fun same => absent (same ▸ member)
  rw [copied]
  exact List.prefix_append _ _

/-- Filling in a directory leaves what a text begins with, up to the next placeholder. -/
theorem prefix_replace_iff (rooted : directory.head? = some '/') (ending : IsEnd v) :
    v <+: Text.replace directoryPlaceholder directory text ↔ v <+: text := by
  induction v generalizing text with
  | nil => exact iff_of_true List.nil_prefix List.nil_prefix
  | cons c v ih =>
      cases text with
      | nil => rw [Text.replace_nil (by decide)]
      | cons d rest =>
          by_cases starts : directoryPlaceholder <+: d :: rest
          · obtain ⟨after, whole⟩ := starts
            obtain ⟨others, begins⟩ := List.head?_eq_some_iff.mp rooted
            rw [← whole, Text.replace_append (by decide), begins, directoryPlaceholder_eq,
              List.cons_append, List.cons_append, List.cons_prefix_cons, List.cons_prefix_cons]
            refine iff_of_false (fun same => ending.2 ?_) (fun same => ending.1 ?_)
            · rw [same.1]
              exact List.mem_cons_self
            · rw [same.1]
              exact List.mem_cons_self
          · rw [Text.replace_cons directory starts, List.cons_prefix_cons, List.cons_prefix_cons,
              ih ending.tail]

theorem starts_iff_plain (rooted : directory.head? = some '/') :
    namePlaceholder <+: c :: front ++ Text.replace directoryPlaceholder directory text ↔
      namePlaceholder <+: c :: front ++ plain text := by
  rw [Text.prefix_append_iff, Text.prefix_append_iff]
  refine or_congr_right (exists_congr fun v => and_congr_right fun whole => ?_)
  have ending := isEnd_of_split whole
  rw [prefix_replace_iff rooted ending, prefix_plain_iff ending.1]

theorem replace_directory_append (absent : '$' ∉ v) :
    Text.replace directoryPlaceholder directory (v ++ rest) =
      v ++ Text.replace directoryPlaceholder directory rest := by
  rw [directoryPlaceholder_eq]
  exact Text.replace_append_of_not_mem directory rest absent

theorem replace_directory_name :
    Text.replace directoryPlaceholder directory (namePlaceholder ++ rest) =
      namePlaceholder ++ Text.replace directoryPlaceholder directory rest := by
  have other : ¬ directoryPlaceholder <+: namePlaceholder ++ rest := fun other =>
    not_starts_both other (List.prefix_append _ _)
  rw [namePlaceholder_eq, List.cons_append] at other ⊢
  rw [Text.replace_cons directory other, replace_directory_append (by decide), List.cons_append]

/-! Both at once -/

theorem atOnce_directory (directory name rest : List Char) :
    atOnce directory name (directoryPlaceholder ++ rest) =
      directory ++ atOnce directory name rest := by
  have starts := Text.isPrefixOf_append directoryPlaceholder rest
  have behind : (directoryPlaceholder ++ rest).drop directoryPlaceholder.length = rest :=
    List.drop_left
  cases whole : directoryPlaceholder ++ rest with
  | nil => exact absurd (List.append_eq_nil_iff.mp whole).1 (by decide)
  | cons c others =>
      rw [whole] at starts behind
      rw [atOnce, if_pos starts, behind]

theorem atOnce_name (directory name rest : List Char) :
    atOnce directory name (namePlaceholder ++ rest) = name ++ atOnce directory name rest := by
  have starts := Text.isPrefixOf_append namePlaceholder rest
  have other : ¬ directoryPlaceholder.isPrefixOf (namePlaceholder ++ rest) := fun other =>
    not_starts_both (List.isPrefixOf_iff_prefix.mp other) (List.prefix_append _ _)
  have behind : (namePlaceholder ++ rest).drop namePlaceholder.length = rest := List.drop_left
  cases whole : namePlaceholder ++ rest with
  | nil => exact absurd (List.append_eq_nil_iff.mp whole).1 (by decide)
  | cons c others =>
      rw [whole] at starts other behind
      rw [atOnce, if_neg other, if_pos starts, behind]

theorem atOnce_cons (directory name : List Char) (first : ¬ directoryPlaceholder <+: c :: rest)
    (second : ¬ namePlaceholder <+: c :: rest) :
    atOnce directory name (c :: rest) = c :: atOnce directory name rest := by
  rw [atOnce, if_neg (mt List.isPrefixOf_iff_prefix.mp first),
    if_neg (mt List.isPrefixOf_iff_prefix.mp second)]

theorem not_starts_of_ne {others : List Char} (other : c ≠ '$') :
    ¬ '$' :: others <+: c :: rest := fun starts => other (List.cons_prefix_cons.mp starts).1.symm

theorem atOnce_append (directory name rest : List Char) (absent : '$' ∉ v) :
    atOnce directory name (v ++ rest) = v ++ atOnce directory name rest := by
  induction v with
  | nil => rfl
  | cons c v ih =>
      obtain ⟨other, absent⟩ := not_or.mp (mt List.mem_cons.mpr absent)
      rw [List.cons_append, atOnce_cons, ih absent, List.cons_append]
      · rw [directoryPlaceholder_eq]
        exact not_starts_of_ne (Ne.symm other)
      · rw [namePlaceholder_eq]
        exact not_starts_of_ne (Ne.symm other)

/-! Disturbances -/

theorem undisturbed_nil (directory : List Char) : Undisturbed directory [] := by
  intro rest inside
  rw [List.suffix_nil, List.append_eq_nil_iff] at inside
  exact absurd inside.1 (by decide)

theorem undisturbed_cons_iff (other : ¬ directoryPlaceholder <+: c :: rest) :
    Undisturbed directory (c :: rest) ↔ Undisturbed directory rest := by
  refine forall_congr' fun behind => ?_
  rw [List.suffix_cons_iff, or_iff_right]
  exact fun here => other ⟨behind, here⟩

theorem undisturbed_append_iff (absent : '$' ∉ v) :
    Undisturbed directory (v ++ rest) ↔ Undisturbed directory rest := by
  induction v with
  | nil => rfl
  | cons c v ih =>
      obtain ⟨other, absent⟩ := not_or.mp (mt List.mem_cons.mpr absent)
      rw [List.cons_append, undisturbed_cons_iff, ih absent]
      rw [directoryPlaceholder_eq]
      exact not_starts_of_ne (Ne.symm other)

theorem undisturbed_name_iff :
    Undisturbed directory (namePlaceholder ++ rest) ↔ Undisturbed directory rest := by
  have other : ¬ directoryPlaceholder <+: namePlaceholder ++ rest := fun other =>
    not_starts_both other (List.prefix_append _ _)
  rw [namePlaceholder_eq, List.cons_append] at other ⊢
  rw [undisturbed_cons_iff other, undisturbed_append_iff (by decide)]

theorem undisturbed_directory_iff :
    Undisturbed directory (directoryPlaceholder ++ rest) ↔
      ¬ namePlaceholder <:+: directory ++ plain rest ∧ Undisturbed directory rest := by
  have later : Undisturbed directory (directoryPlaceholder.tail ++ rest) ↔
      Undisturbed directory rest := undisturbed_append_iff (by decide)
  rw [← later]
  constructor
  · intro still
    refine ⟨still rest List.suffix_rfl, fun behind inside => still behind (inside.trans ?_)⟩
    rw [directoryPlaceholder_eq]
    exact List.suffix_cons _ _
  · rintro ⟨here, later⟩ behind inside
    rw [directoryPlaceholder_eq, List.cons_append, List.cons_append, List.suffix_cons_iff,
      List.cons.injEq, List.append_cancel_left_eq] at inside
    obtain ⟨-, rfl⟩ | inside := inside
    · exact here
    · exact later behind inside

/-! One after the other -/

/-- Filling in the directory and then the name, with some text in front of the directory's part that
is already filled in, misses no placeholder, and it finds too many just where there is a
disturbance. -/
def Accounted (directory name front text : List Char) : Prop :=
  ∃ count, Text.LeftOver namePlaceholder name count
      (Text.replace namePlaceholder name
        (front ++ Text.replace directoryPlaceholder directory text))
      (front ++ atOnce directory name text) ∧
    (count = 0 ↔ ¬ namePlaceholder <:+: front ++ plain text ∧ Undisturbed directory text)

theorem not_infix_plain (text : List Char) : ¬ namePlaceholder <:+: plain text := fun inside =>
  not_mem_plain text (inside.subset (by decide))

/-- With nothing in front there is only the text to disturb. -/
theorem accounted_nil_iff :
    Accounted directory name [] text ↔ ∃ count,
      Text.LeftOver namePlaceholder name count
        (Text.replace namePlaceholder name (Text.replace directoryPlaceholder directory text))
        (atOnce directory name text) ∧ (count = 0 ↔ Undisturbed directory text) := by
  simp only [Accounted, List.nil_append, not_infix_plain, not_false_eq_true, true_and]

theorem accounted_of_starts (rooted : directory.head? = some '/')
    (shorter : ∀ before, before.length < (c :: front).length →
      Accounted directory name before text)
    (behind : ∀ rest, rest.length ≤ text.length → Accounted directory name [] rest)
    (starts : namePlaceholder <+: c :: front ++ Text.replace directoryPlaceholder directory text) :
    Accounted directory name (c :: front) text := by
  -- The placeholder is in front of the text, or it begins there and ends in the text.
  obtain ⟨after, whole⟩ | ⟨v, whole, ends⟩ := Text.prefix_append_iff.mp starts
  · have some : 0 < namePlaceholder.length := by decide
    obtain ⟨count, left, -⟩ := shorter after (by
      rw [← whole, List.length_append]
      omega)
    refine ⟨count + 1, ?_, iff_of_false (Nat.succ_ne_zero _) fun none => none.1 ?_⟩
    · rw [← whole, List.append_assoc, List.append_assoc, Text.replace_append (by decide)]
      exact left.left
    · rw [← whole, List.append_assoc]
      exact (List.prefix_append _ _).isInfix
  · have ending := isEnd_of_split whole
    obtain ⟨rest, rfl⟩ := (prefix_replace_iff rooted ending).mp ends
    obtain ⟨count, left, -⟩ := accounted_nil_iff.mp (behind rest (by
      rw [List.length_append]
      omega))
    have starts : v <+: plain (v ++ rest) :=
      (prefix_plain_iff ending.1).mpr (List.prefix_append _ _)
    refine ⟨count + 1, ?_, iff_of_false (Nat.succ_ne_zero _) fun none => none.1 ?_⟩
    · rw [replace_directory_append ending.1, atOnce_append directory name rest ending.1,
        ← List.append_assoc, ← List.append_assoc, ← whole, Text.replace_append (by decide)]
      exact left.left
    · rw [whole]
      exact ((List.prefix_append_right_inj _).mpr starts).isInfix

theorem accounted_front (rooted : directory.head? = some '/')
    (behind : ∀ rest, rest.length ≤ text.length → Accounted directory name [] rest)
    (front : List Char) : Accounted directory name front text := by
  induction length : front.length using Nat.strongRecOn generalizing front with
  | ind _ ih =>
      subst length
      cases front with
      | nil => exact behind text le_rfl
      | cons c front =>
          by_cases starts : namePlaceholder <+:
              c :: front ++ Text.replace directoryPlaceholder directory text
          · exact accounted_of_starts rooted (fun before fewer => ih _ fewer before rfl) behind
              starts
          · obtain ⟨count, left, zero⟩ := ih _ (Nat.lt_succ_self _) front rfl
            refine ⟨count, ?_, ?_⟩
            · rw [List.cons_append] at starts ⊢
              rw [Text.replace_cons name starts]
              exact left.copied c
            · rw [starts_iff_plain rooted] at starts
              rw [zero, List.cons_append, List.infix_cons_iff, ← List.cons_append,
                or_iff_right starts]

/-- The text decides on the disturbances: a directory that is filled in is in front of what follows
its placeholder. -/
theorem accounted (rooted : directory.head? = some '/') (name text : List Char) :
    Accounted directory name [] text := by
  induction length : text.length using Nat.strongRecOn generalizing text with
  | ind _ ih =>
      subst length
      rw [accounted_nil_iff]
      by_cases first : directoryPlaceholder <+: text
      · obtain ⟨rest, rfl⟩ := first
        have some : 0 < directoryPlaceholder.length := by decide
        rw [List.length_append] at ih
        have behind (later : List Char) (fewer : later.length ≤ rest.length) :
            Accounted directory name [] later := ih _ (by omega) later rfl
        obtain ⟨count, left, zero⟩ := accounted_front rooted behind directory
        rw [Text.replace_append (by decide), atOnce_directory, undisturbed_directory_iff]
        exact ⟨count, left, zero⟩
      by_cases second : namePlaceholder <+: text
      · obtain ⟨rest, rfl⟩ := second
        have some : 0 < namePlaceholder.length := by decide
        obtain ⟨count, left, zero⟩ := accounted_nil_iff.mp (ih rest.length (by
          rw [List.length_append]
          omega) rest rfl)
        rw [replace_directory_name, Text.replace_append (by decide), atOnce_name,
          undisturbed_name_iff]
        exact ⟨count, left.append name, zero⟩
      cases text with
      | nil =>
          rw [Text.replace_nil (by decide), Text.replace_nil (by decide), atOnce]
          exact ⟨0, .none, iff_of_true rfl (undisturbed_nil directory)⟩
      | cons c rest =>
          obtain ⟨count, left, zero⟩ := accounted_nil_iff.mp (ih _ (Nat.lt_succ_self _) rest rfl)
          have other : ¬ namePlaceholder <+:
              [c] ++ Text.replace directoryPlaceholder directory rest := fun starts =>
            second (((starts_iff_plain rooted).mp starts).trans
              ((List.prefix_cons_inj c).mpr (List.takeWhile_prefix _)))
          rw [List.singleton_append] at other
          rw [Text.replace_cons directory first, Text.replace_cons name other,
            atOnce_cons directory name first second, undisturbed_cons_iff first]
          exact ⟨count, left.copied c, zero⟩

/-! Settings for an executable -/

theorem isAbsolute_head? {path : String} (rooted : Path.isAbsolute path = true) :
    path.toList.head? = some '/' := eq_of_beq rooted

/-- Only the text's own placeholders are filled in, or the name is spelled like the one that it is
filled in for. -/
def Faithful (directory name text : String) : Prop :=
  name.toList = namePlaceholder ∨ Undisturbed directory.toList text.toList

theorem fillIn_eq_fillInAtOnce_iff {directory : String} (rooted : Path.isAbsolute directory = true)
    (name text : String) :
    fillIn directory name text = fillInAtOnce directory name text ↔
      Faithful directory name text := by
  obtain ⟨count, left, zero⟩ :=
    accounted_nil_iff.mp (accounted (isAbsolute_head? rooted) name.toList text.toList)
  rw [fillIn, fillInAtOnce, String.ofList_inj, left.eq_iff, zero, Faithful, or_comm, eq_comm]

/-- A directory without dollar signs disturbs no text. -/
theorem undisturbed_of_plain {directory : String} (absent : '$' ∉ directory.toList)
    (text : List Char) : Undisturbed directory.toList text := by
  intro rest _ inside
  have dollar : '$' ∈ directory.toList ++ plain rest := inside.subset (by decide)
  obtain dollar | dollar := List.mem_append.mp dollar
  · exact absent dollar
  · exact not_mem_plain rest dollar

theorem extensions_eq_iff {directory : String} (rooted : Path.isAbsolute directory = true)
    (name : String) (text? : Option String) :
    (text?.filter (· != "")).map (fillIn directory name) =
        (text?.filter (· != "")).map (fillInAtOnce directory name) ↔
      ∀ text ∈ text?, Faithful directory name text := by
  cases text? with
  | none => simp
  | some text =>
      by_cases empty : text = ""
      · subst empty
        exact iff_of_true rfl fun text member => by
          cases member
          exact .inr (undisturbed_nil _)
      · rw [filter_of_ne_empty empty, Option.map_some, Option.map_some, Option.some.injEq,
          fillIn_eq_fillInAtOnce_iff rooted]
        exact ⟨fun faithful text member => Option.mem_some.mp member ▸ faithful,
          fun faithful => faithful text rfl⟩

/-- The copy for an executable has all placeholders filled in at once just where the directory does
not disturb them. -/
theorem placeholders_filled_at_once_iff (settings : Settings) (overrides : Overrides)
    {workingDirectory : String} (rooted : Path.isAbsolute workingDirectory = true)
    (path : String) :
    let executable := Path.absolute workingDirectory path
    let directory := Path.directory executable
    let name := Path.stem (Path.name executable)
    let copy := (settings.forExecutable overrides executable).1
    (copy.pathExtension =
        (settings.pathExtension.filter (· != "")).map (fillInAtOnce directory name) ↔
      ∀ text ∈ settings.pathExtension, Faithful directory name text) ∧
    (copy.additional = settings.additional.map (fillInAtOnce directory name) ↔
      ∀ text ∈ settings.additional, Faithful directory name text) ∧
    ('$' ∉ directory.toList → ∀ text, Faithful directory name text) := by
  intro executable directory name copy
  have above : Path.isAbsolute directory = true := by
    rw [Path.isAbsolute_directory]
    exact Path.isAbsolute_absolute rooted path
  have whole : copy = _ := forExecutable_fst settings overrides executable
  have extension : copy.pathExtension =
      (settings.pathExtension.filter (· != "")).map (fillIn directory name) := by
    rw [whole]
    rfl
  have more : copy.additional = settings.additional.map (fillIn directory name) := by
    rw [whole]
    rfl
  refine ⟨?_, ?_, fun absent text => .inr (undisturbed_of_plain absent text.toList)⟩
  · rw [extension, extensions_eq_iff above]
  · rw [more, List.map_inj_left]
    exact forall₂_congr fun text _ => fillIn_eq_fillInAtOnce_iff above name text

/-- A directory that is named like the placeholder of the name becomes the name. -/
theorem placeholders_filled_at_once_named_alike :
    let executable := Path.absolute "/" "/x/$(Executable)/t.exe"
    let settings : Settings := { pathExtension := some "$(ExecutableDir)/symbols" }
    (settings.forExecutable {} executable).1.pathExtension = some "/x/t/symbols" ∧
      ¬ Faithful (Path.directory executable) (Path.stem (Path.name executable))
        "$(ExecutableDir)/symbols" := by
  intro executable settings
  have filled : (settings.forExecutable {} executable).1.pathExtension = some "/x/t/symbols" := by
    decide +kernel
  have wanted : (settings.pathExtension.filter (· != "")).map
      (fillInAtOnce (Path.directory executable) (Path.stem (Path.name executable))) =
        some "/x/$(Executable)/symbols" := by
    decide +kernel
  have rooted : Path.isAbsolute "/" = true := by decide
  obtain ⟨exactly, -, -⟩ :=
    placeholders_filled_at_once_iff settings {} rooted "/x/$(Executable)/t.exe"
  refine ⟨filled, fun faithful => ?_⟩
  have same := exactly.mpr fun text member => Option.mem_some.mp member ▸ faithful
  rw [wanted] at same
  exact absurd (filled.symm.trans same) (by decide)

end Settings
end TestAtlas
