import TestAtlas.CodeView.Line
import TestAtlas.CodeView.Checksum

/-!
The line information of a module: a sequence of subsections of which line
tables and checksum tables are taken over and all others stepped over. What the
subsections before a malformed one contributed is kept.
-/

namespace TestAtlas
namespace CodeView

/-- Line entries in the order in which they were found, and the files they refer to. -/
structure LineInfo where
  lines : List LineEntry := []
  checksums : Checksums := []
  deriving DecidableEq, Repr

namespace LineInfo

/-- The number of bytes that open a subsection: its kind and its length. -/
def headerSize : Nat := 8

def checksumKind : Nat := 0xF4

def lineKind : Nat := 0xF2

/-- Takes over one subsection. Any other kind, also one that carries the mark "to be ignored"
in its highest bit, contributes nothing. -/
def addSubsection (info : LineInfo) (kind : Nat) (body : Bytes) : Except ReadError LineInfo :=
  if kind = checksumKind then
    .ok { info with checksums := info.checksums.overlay (Checksums.parse body) }
  else if kind = lineKind then do
    let entries ← LineEntry.parse body
    return { info with lines := info.lines ++ entries }
  else
    .ok info

/-- Takes over subsections for as long as there are bytes for what opens one. The last one may
be cut off. Stops at the first that is malformed, with what the earlier ones contributed. -/
def add (info : LineInfo) (bytes : Bytes) : LineInfo × Option ReadError :=
  match _opened : bytes.drop (headerSize - 1) with
  | [] => (info, none)
  | _ :: rest =>
      let kind := LittleEndian.decode (bytes.take 4)
      let length := LittleEndian.decode ((bytes.drop 4).take 4)
      match info.addSubsection kind (rest.take length) with
      | .error e => (info, some e)
      | .ok info => add info (rest.drop (paddedSize length))
termination_by bytes.length
decreasing_by
  have nonempty := congrArg List.length _opened
  simp only [List.length_drop, List.length_cons, headerSize] at nonempty ⊢
  omega

end LineInfo
end CodeView
end TestAtlas
