/-!
# Output

A program writes to two streams, piece by piece. Some pieces are printed by a console, which is made
for the stream first; the others are written as they are.
-/

namespace RecordFilter.CommandLine

inductive Stream
  | stdout
  | stderr
  deriving DecidableEq, Repr

/-- A piece of text on its way to a stream. -/
structure Write where
  stream : Stream
  text : String
  /-- Is it printed by a console? -/
  printed : Bool
  deriving DecidableEq, Repr

/-- What a program has written to its two streams. -/
structure Output where
  stdout : String
  stderr : String
  deriving DecidableEq, Repr

namespace Output

def empty : Output := ⟨"", ""⟩

def add (out : Output) (stream : Stream) (text : String) : Output :=
  match stream with
  | .stdout => { out with stdout := out.stdout ++ text }
  | .stderr => { out with stderr := out.stderr ++ text }

/-- The output with more pieces behind it. -/
def after (out : Output) (pieces : List Write) : Output :=
  pieces.foldl (fun out piece => out.add piece.stream piece.text) out

end Output

end RecordFilter.CommandLine
