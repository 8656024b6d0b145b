import DesignHistory.CommandLine.Report
import DesignHistory.Json.Parser
import DesignHistory.Json.Reply

/-!
# The program

Reads what is around it, makes the report and prints it.  The database listens on
this machine; its reply comes in as a JSON value on standard input, and no value
stands for a reply without rows.
-/

namespace DesignHistory.Program

/-- The content of a file, if it is there. -/
def contentOf? (path : String) : IO (Option String) := do
  try
    return some (← IO.FS.readFile path)
  catch _ =>
    return none

/-- The variables that are set, as the system lists them for this process. -/
def environment : IO Environment := do
  let block := (← contentOf? "/proc/self/environ").getD ""
  return (block.toList.splitOn '\x00').filterMap Environment.ofEntry?

/-- The reply on standard input. -/
def readReply : IO Database.Reply := do
  let text ← (← IO.getStdin).getLine
  match Json.ofText? text with
  | none => return .rows [] []
  | some j =>
    match Database.Reply.ofJson j with
    | .ok reply => return reply
    | .error _ => throw (IO.userError "not a reply")

end DesignHistory.Program

open DesignHistory Program in
/-- Prints the lines of a report, or its error. -/
def main (arguments : List String) : IO UInt32 := do
  let invocation : Invocation := {
    arguments
    environment := ← environment
    variableFile := ← contentOf? ".env"
    -- A document that is no JSON is no object either, which the settings have to be.
    document := (← contentOf? "config.json").map fun content => (Json.ofText? content).getD .null }
  let report := Report.ofRun invocation { reply := ← readReply }
  for line in report.lines do
    IO.println line
  for message in report.log do
    IO.eprintln message
  if let some message := report.error then
    IO.eprintln ("Error: " ++ message)
  return UInt32.ofNat report.exitCode
