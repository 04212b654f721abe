import DynamicSql.Command
import DynamicSql.Invocation

/-!
# The program

Reads the files that an invocation names, runs its command and prints the answer. An error goes
to the error output and makes the exit code 1; a command line that asks for nothing makes it 2.
-/

namespace DynamicSql.Program

/-- The contents of a file, if it can be read. -/
def readContents (name : String) : IO Command.File := do
  try return some (← IO.FS.readFile name).toList
  catch _ => return none

/-- The contents of an optional file. -/
def readOptional : Option String → IO (Option Command.File)
  | none => return none
  | some name => return some (← readContents name)

/-- The parameters of a call: those given, or else the input unless it is a terminal. -/
def readParameters : Option String → IO (Option Text)
  | some json => return some json.toList
  | none => do
    let input ← IO.getStdin
    if ← input.isTty then return none
    return some (← input.readToEnd).toList

/-- Prints an answer, or the text of the error in its place. -/
def report {α : Type} (shown : α → Text) : Except CommandError α → IO UInt32
  | .ok answer => do
    IO.println (String.ofList (shown answer))
    return 0
  | .error e => do
    IO.eprintln e.message
    return 1

/-- The answer to a check. -/
def checkText (answer : Bool × List Text) : Text :=
  let kind := if answer.1 then "dynamic" else "static"
  s!"Template is valid ({kind}, {answer.2.length} expressions)".toList

/-- Runs a command. -/
def runCommand : Invocation → IO UInt32
  | .render template parameters config pretty => do
    let parameters ← readParameters parameters
    let bound := Command.render (← readContents template) parameters (← readOptional config)
    report (fun b => if pretty then b.toJson.pretty else b.toJson.compact) bound
  | .check template config => do
    report checkText (Command.check (← readContents template) (← readOptional config))
  | .substitute text config => do
    report id (Command.substitute text.toList (← readOptional config))

end DynamicSql.Program

/-- The command line. -/
def main (arguments : List String) : IO UInt32 :=
  match DynamicSql.Invocation.ofArguments? arguments with
  | some command => DynamicSql.Program.runCommand command
  | none => do
    IO.eprintln DynamicSql.Invocation.usage
    return 2
