import JuryCaptions.Fault
import JuryCaptions.Text.Utf8
/-!
Waiting for the operator: after a prompt an empty line starts the experiment
and any other is prompted again. Input ending first fails, as does a line of
64 KiB or more.
-/

namespace JuryCaptions
namespace Operator

def prompt : String := "Press ENTER to begin the experiment."

def retryPrompt : String := "Invalid character received. Press ENTER to begin the experiment."

def lineLimit : Nat := 65536

/-- The lines of the input: the text before each line end, and the text after
the last one if there is any. -/
def lines (input : String) : List String :=
  match (input.splitOn "\n").reverse with
  | last :: before => before.reverse ++ (if last.isEmpty then [] else [last])
  | [] => []

def isBlank (line : String) : Bool := line.all (· == '\r')

def waitFailure (f : Fault) : Fault := f.context "waiting for operator"

def endOfInput : Fault := ⟨.endOfStream, "EOF"⟩

/-- The failure of reading a line of `lineLimit` bytes or more. -/
def tooLong : Fault := .plain "bufio.Scanner: token too long"

/-- Reads lines until an empty one: what was printed, and the failure when the
input gave no start. -/
def awaitStart (input : String) : String × Option Fault :=
  let rec go : List String → String × Option Fault
    | [] => ("", some (waitFailure endOfInput))
    | line :: rest =>
      if line.utf8ByteSize ≥ lineLimit then ("", some (waitFailure tooLong))
      else if isBlank line then ("", none)
      else
        let (printed, result) := go rest
        (retryPrompt ++ printed, result)
  let (printed, result) := go (lines input)
  (prompt ++ printed, result)

end Operator
end JuryCaptions
