import TestAtlas.Pe.Image

/-!
The modules that an image imports. The import table is a row of descriptors
that ends with one without a name.
-/

namespace TestAtlas
namespace Pe
namespace Image

/-- The number of bytes of an import descriptor. -/
def descriptorSize : Nat := 20

/-- The address of the name in the descriptor at a position. -/
def readDescriptor (file : Array UInt8) (position : Nat) : Except Error Nat :=
  readRecord file position descriptorSize do
    Reader.skip 12
    let name ← Reader.u32
    Reader.skip 4
    return name

theorem lt_of_readDescriptor {file : Array UInt8} {position name : Nat}
    (h : readDescriptor file position = .ok name) : position < file.size := by
  rcases Nat.lt_or_ge position file.size with within | past
  · exact within
  · have none : slice file position descriptorSize = [] := by
      simp [slice_eq_take_drop, List.drop_eq_nil_of_le, past]
    simp [readDescriptor, readRecord, none, Reader.skip, Reader.fixed, Reader.chunk,
      StateT.run, bind, StateT.bind, Except.bind] at h

/-- Follows the descriptors from a position. `found` is in reverse. -/
def walkImports (image : Image) (found : List String) (position : Nat) :
    Except Error (List String) :=
  match _read : readDescriptor image.file position with
  | .error e => .error e
  | .ok name =>
      if name = 0 then .ok found.reverse
      else
        match image.textAt name with
        | .error e => .error e
        | .ok text => walkImports image (text :: found) (position + descriptorSize)
termination_by image.file.size - position
decreasing_by
  have := lt_of_readDescriptor _read
  simp only [descriptorSize]
  omega

/-- The number of the data directory for the import table. -/
def importDirectory : Int := 1

/-- The names of the imported modules, in the order of the import table. -/
def imports (image : Image) : Except Error (List String) := do
  match ← image.directory? importDirectory with
  | none => return []
  | some directory => walkImports image [] (← image.readPosition directory.address)

end Image
end Pe
end TestAtlas
