import TestAtlas.Log.Line

/-!
What is being worked on, as circumstances that every line has while it lasts.
Pieces of work are entered and left in turn. Leaving one takes away its names,
also where they had replaced those of a piece of work around it.
-/

namespace TestAtlas
namespace Log

structure Context where
  fields : Fields := []
  /-- The names of the pieces of work, the innermost first. -/
  entered : List (List String) := []

namespace Context

def enter (context : Context) (fields : Fields) : Context where
  fields := Fields.update context.fields fields
  entered := fields.map (·.1) :: context.entered

/-- Enters a piece of work whose names are not checked before. -/
def enterGiven (context : Context) (fields : Fields) : Except Problem Context :=
  if fields.any (·.1 == "self") then .error (.taken "LogContext.__init__" "self")
  else .ok (context.enter fields)

/-- Leaves the innermost piece of work. -/
def leave (context : Context) : Context :=
  match context.entered with
  | [] => context
  | names :: outer =>
      { fields := context.fields.filter fun f => !names.contains f.1, entered := outer }

/-- Leaving what has just been entered keeps exactly the fields of other names. -/
theorem leave_enter (context : Context) (fields : Fields) :
    ((context.enter fields).leave).fields =
      context.fields.filter fun f => !(fields.map (·.1)).contains f.1 := by
  have agree (f : String × Value) :
      (fields.any fun g => g.1 == f.1) = (fields.map (·.1)).contains f.1 := by
    rw [Bool.eq_iff_iff, List.any_eq_true, List.contains_iff_mem, List.mem_map]
    exact ⟨fun ⟨g, mem, eq⟩ => ⟨g, mem, beq_iff_eq.1 eq⟩,
      fun ⟨g, mem, eq⟩ => ⟨g, mem, beq_iff_eq.2 eq⟩⟩
  have gone : fields.filter (fun f => !(fields.map (·.1)).contains f.1) = [] := by
    refine List.filter_eq_nil_iff.2 fun f mem => ?_
    simpa using ⟨f.2, mem⟩
  simp only [enter, leave, Fields.update, List.filter_append, List.filter_filter, gone,
    List.append_nil, agree, Bool.and_self]

end Context
end Log
end TestAtlas
