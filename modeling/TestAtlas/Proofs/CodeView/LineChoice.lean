import Mathlib
import TestAtlas.CodeView.Line

/-!
The entry at which a procedure starts. It has the lowest address in the
procedure's code and is the first of the list that has it, so the order of a list
decides only between entries with the same address.
-/

namespace TestAtlas
namespace CodeView
namespace LineEntry

variable {lines others : List LineEntry} {procedure : Procedure} {entry other : LineEntry}

/-- The entry lies in the code of a procedure, of which an empty one has one byte. -/
def InCode (procedure : Procedure) (entry : LineEntry) : Prop :=
  entry.segment = procedure.segment ∧ procedure.offset ≤ entry.address ∧
    entry.address < procedure.offset + max procedure.length 1

instance (procedure : Procedure) (entry : LineEntry) : Decidable (InCode procedure entry) :=
  inferInstanceAs (Decidable (_ ∧ _))

theorem liesIn_iff : liesIn procedure entry = true ↔ InCode procedure entry := by
  simp only [liesIn, InCode, Bool.and_eq_true, beq_iff_eq, decide_eq_true_eq, and_assoc]

theorem lowest?_eq_argmin (lines : List LineEntry) : lowest? lines = lines.argmin address := by
  cases lines with
  | nil => rfl
  | cons first rest =>
      change _ = rest.foldl (List.argAux fun e best => e.address < best.address) (some first)
      rw [lowest?]
      induction rest generalizing first with
      | nil => rfl
      | cons entry rest ih =>
          rw [List.foldl_cons, List.foldl_cons, ih]
          exact congrArg (rest.foldl _) (apply_ite some ..)

/-- In a list that an entry splits like this no other is chosen. -/
theorem argmin_of_split {before after : List LineEntry}
    (above : ∀ other ∈ before, entry.address < other.address)
    (least : ∀ other ∈ after, entry.address ≤ other.address) :
    (before ++ entry :: after).argmin address = some entry := by
  induction before with
  | nil =>
      rw [List.nil_append, List.argmin_cons]
      cases chosen : after.argmin address with
      | none => rfl
      | some other => exact if_neg (least other (List.argmin_mem chosen)).not_gt
  | cons first rest ih =>
      obtain ⟨lower, above⟩ := List.forall_mem_cons.mp above
      rw [List.cons_append, List.argmin_cons, ih above]
      exact if_pos lower

theorem exists_split_of_argmin (chosen : lines.argmin address = some entry) :
    ∃ before after, lines = before ++ entry :: after ∧
      (∀ other ∈ before, entry.address < other.address) ∧
      ∀ other ∈ after, entry.address ≤ other.address := by
  induction lines with
  | nil => cases chosen
  | cons first rest ih =>
      have least : ∀ other ∈ rest, entry.address ≤ other.address := fun other member =>
        List.le_of_mem_argmin (List.mem_cons_of_mem _ member) chosen
      rw [List.argmin_cons] at chosen
      cases others : rest.argmin address with
      | none =>
          rw [others] at chosen
          cases chosen
          exact ⟨[], rest, rfl, List.forall_mem_nil _, least⟩
      | some other =>
          rw [others] at chosen
          by_cases lower : other.address < first.address
          · cases (if_pos lower).symm.trans chosen
            obtain ⟨before, after, rfl, above, least⟩ := ih others
            exact ⟨first :: before, after, rfl, List.forall_mem_cons.mpr ⟨lower, above⟩, least⟩
          · cases (if_neg lower).symm.trans chosen
            exact ⟨[], rest, rfl, List.forall_mem_nil _, least⟩

/-- In a list of lines the entry is the first with the lowest address in the code of a procedure. -/
def Opens (procedure : Procedure) (lines : List LineEntry) (entry : LineEntry) : Prop :=
  ∃ before after, lines = before ++ entry :: after ∧ InCode procedure entry ∧
    (∀ other ∈ before, InCode procedure other → entry.address < other.address) ∧
    ∀ other ∈ after, InCode procedure other → entry.address ≤ other.address

theorem forProcedure?_eq_none_iff :
    forProcedure? lines procedure = none ↔ ∀ entry ∈ lines, ¬ InCode procedure entry := by
  rw [forProcedure?, lowest?_eq_argmin, List.argmin_eq_none, List.filter_eq_nil_iff]
  simp only [liesIn_iff]

theorem forProcedure?_eq_some_iff :
    forProcedure? lines procedure = some entry ↔ Opens procedure lines entry := by
  rw [forProcedure?, lowest?_eq_argmin]
  constructor
  · intro chosen
    obtain ⟨before', after', split, above, least⟩ := exists_split_of_argmin chosen
    obtain ⟨before, rest, rfl, rfl, behind⟩ := List.filter_eq_append_iff.mp split
    obtain ⟨skipped, after, rfl, outside, inside, rfl⟩ := List.filter_eq_cons_iff.mp behind
    simp only [List.mem_filter, liesIn_iff, and_imp] at outside inside above least
    refine ⟨before ++ skipped, after, (List.append_assoc ..).symm, inside, ?_, least⟩
    intro other member inCode
    obtain member | member := List.mem_append.mp member
    · exact above other member inCode
    · exact absurd inCode (outside other member)
  · rintro ⟨before, after, rfl, inside, above, least⟩
    rw [List.filter_append, List.filter_cons_of_pos (liesIn_iff.mpr inside)]
    refine argmin_of_split ?_ ?_ <;> intro other member <;>
      rw [List.mem_filter, liesIn_iff] at member
    · exact above other member.1 member.2
    · exact least other member.1 member.2

theorem Opens.mem (opens : Opens procedure lines entry) : entry ∈ lines := by
  obtain ⟨before, after, rfl, -⟩ := opens
  exact List.mem_append_right _ List.mem_cons_self

theorem Opens.inCode (opens : Opens procedure lines entry) : InCode procedure entry := by
  obtain ⟨before, after, -, inside, -⟩ := opens
  exact inside

theorem Opens.le (opens : Opens procedure lines entry) (member : other ∈ lines)
    (inside : InCode procedure other) : entry.address ≤ other.address := by
  obtain ⟨before, after, rfl, -, above, least⟩ := opens
  simp only [List.mem_append, List.mem_cons] at member
  obtain member | rfl | member := member
  · exact (above other member inside).le
  · exact le_rfl
  · exact least other member inside

/-- No two entries in the code of the procedure have the same address. -/
def Distinct (procedure : Procedure) (lines : List LineEntry) : Prop :=
  ((lines.filter fun entry => InCode procedure entry).map address).Nodup

instance (procedure : Procedure) (lines : List LineEntry) :
    Decidable (Distinct procedure lines) :=
  inferInstanceAs (Decidable (List.Nodup _))

theorem Distinct.eq (distinct : Distinct procedure lines) (mem : entry ∈ lines)
    (inside : InCode procedure entry) (mem' : other ∈ lines) (inside' : InCode procedure other)
    (same : entry.address = other.address) : entry = other :=
  List.inj_on_of_nodup_map distinct (List.mem_filter.mpr ⟨mem, decide_eq_true inside⟩)
    (List.mem_filter.mpr ⟨mem', decide_eq_true inside'⟩) same

theorem forProcedure?_eq_none_of_perm (perm : lines.Perm others)
    (missing : forProcedure? lines procedure = none) : forProcedure? others procedure = none :=
  forProcedure?_eq_none_iff.mpr fun entry member =>
    forProcedure?_eq_none_iff.mp missing entry (perm.mem_iff.mpr member)

/-- Another order has an entry with the same address. -/
theorem exists_of_perm (perm : lines.Perm others)
    (found : forProcedure? lines procedure = some entry) :
    ∃ other, forProcedure? others procedure = some other ∧ Opens procedure lines entry ∧
      Opens procedure others other ∧ entry.address = other.address := by
  have opens := forProcedure?_eq_some_iff.mp found
  cases found' : forProcedure? others procedure with
  | none =>
      rw [forProcedure?_eq_none_of_perm perm.symm found'] at found
      cases found
  | some other =>
      have opens' := forProcedure?_eq_some_iff.mp found'
      exact ⟨other, rfl, opens, opens', le_antisymm
        (opens.le (perm.mem_iff.mpr opens'.mem) opens'.inCode)
        (opens'.le (perm.mem_iff.mp opens.mem) opens.inCode)⟩

theorem address_forProcedure?_of_perm (perm : lines.Perm others) :
    (forProcedure? others procedure).map address = (forProcedure? lines procedure).map address := by
  cases found : forProcedure? lines procedure with
  | none => rw [forProcedure?_eq_none_of_perm perm found]
  | some entry =>
      obtain ⟨other, found', -, -, same⟩ := exists_of_perm perm found
      rw [found', Option.map_some, Option.map_some, same]

theorem forProcedure?_of_perm (perm : lines.Perm others) (distinct : Distinct procedure lines) :
    forProcedure? others procedure = forProcedure? lines procedure := by
  cases found : forProcedure? lines procedure with
  | none => exact forProcedure?_eq_none_of_perm perm found
  | some entry =>
      obtain ⟨other, found', opens, opens', same⟩ := exists_of_perm perm found
      rw [found', distinct.eq opens.mem opens.inCode (perm.mem_iff.mpr opens'.mem) opens'.inCode
        same]

end LineEntry
end CodeView
end TestAtlas
