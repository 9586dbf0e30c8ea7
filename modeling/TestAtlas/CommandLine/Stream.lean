import TestAtlas.CommandLine.Run

/-!
Where the output of a run goes. It is written in an encoding, which may lack some
of the characters; a run with such a character in its output fails.
-/

namespace TestAtlas
namespace CommandLine

/-- An output as far as its encoding goes. -/
structure Stream where
  /-- Whether a character can be written. A byte of an argument or of a file name that is part of no
  character counts as a character of its own, which nothing else uses. -/
  has : Char → Bool
  /-- What boxes and guides are drawn with. -/
  strokes : Terminal.Strokes

namespace Stream

/-- An encoding of all characters. -/
def unicode : Stream := ⟨fun _ => true, .lines⟩

def ascii : Stream := ⟨fun c => c.toNat < 128, .ascii⟩

def takes (stream : Stream) (text : String) : Bool := text.toList.all stream.has

/-- The exit code that is left of one if there is an output to be written. -/
def code (stream : Stream) (exit : Nat) (output coarse : String) : Nat :=
  if stream.takes (stream.strokes.pick output coarse) then exit else Outcome.failed

end Stream

/-- The exit code of a run with its output on a stream. -/
def Run.exitOn (run : Run) (stream : Stream) : Nat := stream.code run.exit run.output run.coarse

end CommandLine
end TestAtlas
