/-
# Quantities in arguments

Some arguments are texts or numbers that the commands read themselves: spans of time such as `500ms`,
`5s` or a bare count of seconds, and sizes in mebibytes.  What is wrong with them is said when the
command runs.
-/
import Readout.Cli.Exit
import Readout.Text.Blank
import Readout.Text.Decimal
import Readout.Word

namespace Readout.Cli

/-- The octets of a mebibyte. -/
def mebibyte : Nat := 1024 * 1024

/-- The text without an ending, if it has that ending. -/
def dropEnding? (ending cs : List Char) : Option (List Char) :=
  if ending.reverse.isPrefixOf cs.reverse then some (cs.take (cs.length - ending.length)) else none

/-- The digits of a span of time, and the span that one counts. -/
def durationParts (cs : List Char) : List Char × (Nat → Duration) :=
  match dropEnding? ['m', 's'] cs with
  | some digits => (digits, .ofMillis)
  | none =>
    match dropEnding? ['s'] cs with
    | some digits => (digits, .ofSeconds)
    | none => (cs, .ofSeconds)

/-- The span of time that a text spells, which has to be more than none. -/
def readDuration (input : String) : Except Failure Duration :=
  let cs := Text.trimChars input.toList
  if cs = [] then .error ⟨.usage, "duration must not be empty"⟩
  else
    let (digits, unit) := durationParts cs
    match Text.Decimal.read? Word.top digits with
    | none => .error ⟨.usage, "invalid duration: " ++ String.ofList cs⟩
    | some 0 => .error ⟨.usage, "duration must be greater than zero"⟩
    | some n => .ok (unit n)

/-- The limit on messages, from its size in mebibytes. -/
def messageLimit (mebibytes : Nat) : Except Failure Nat :=
  if mebibytes = 0 then .error ⟨.usage, "message limit must be at least 1 MiB"⟩
  else
    match Word.mul? mebibytes mebibyte with
    | none => .error ⟨.usage, "message limit is too large"⟩
    | some octets => .ok octets

end Readout.Cli
