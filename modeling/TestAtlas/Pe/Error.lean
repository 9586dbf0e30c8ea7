import TestAtlas.Bytes.Reader
import TestAtlas.Text.Hex

/-!
What can be wrong with an executable image.
-/

namespace TestAtlas
namespace Pe

inductive Error where
  /-- The input ends too early. -/
  | truncated (cause : ReadError)
  | noDosSignature
  | noSignature
  | unknownMagic (magic : Nat)
  /-- No section and no header holds the address. -/
  | unmapped (address : Int)
  /-- A position before the start of the file. -/
  | negativePosition (position : Int)
  /-- A data directory counted from the end that is not there. -/
  | noDirectory
  deriving DecidableEq, Repr

namespace Error

/-- A number in hexadecimal digits, after its sign if it is negative. -/
def hex (n : Int) : String :=
  (if n < 0 then "-" else "") ++ Hex.render n.natAbs

def message : Error → String
  | truncated cause => cause.message
  | noDosSignature => "Missing MZ signature"
  | noSignature => "Missing PE signature"
  | unknownMagic magic => s!"Unknown optional header magic 0x{Hex.render magic}"
  | unmapped address => s!"RVA 0x{hex address} is outside of all sections"
  | negativePosition position => s!"negative seek value {position}"
  | noDirectory => "list index out of range"

/-- Whether the input ran out. -/
def isTruncation : Error → Bool
  | truncated _ => true
  | _ => false

end Error
end Pe
end TestAtlas
