import SchemaDiagram.Command.Run

/-!
# The program

The command line in the real world: it reads the files that the arguments name, performs the
effects of the command and exits with its code. No database can be reached from here.
-/

namespace SchemaDiagram

/-- The system error that an exception stands for. -/
def systemError : IO.Error → SystemError
  | .noFileOrDirectory .. => .notFound
  | .inappropriateType .. => .isDirectory
  | e => .other (toString e)

/-- The content of a file. -/
def readFileText (path : String) : IO (Except SystemError String) := do
  try return .ok (← IO.FS.readFile path) catch e => return .error (systemError e)

/-- The files that the options of a command name. -/
def namedFiles : Command → List String
  | .render options => options.source.config.toList ++ options.catalog.toList
  | .snapshot source _ => source.config.toList
  | _ => []

/-- Performs an effect; the result is the error in the way of it, if there is one. -/
def performEffect : Effect → IO (Option CommandError)
  | .tell text => do IO.eprintln text; return none
  | .print text => do IO.print text; return none
  | .write path content => do
    try
      IO.FS.writeFile path content
      return none
    catch e => return some (.output path (systemError e))

/-- Performs effects up to the first error. -/
def performEffects : List Effect → IO (Option CommandError)
  | [] => return none
  | effect :: effects => do
    match ← performEffect effect with
    | some e => return some e
    | none => performEffects effects

/-- A warning in one line. -/
def warningLine (warning : Warning) : String :=
  " ".intercalate
    (("WARN " ++ warning.message) :: warning.details.map fun (name, value) => name ++ "=" ++ value)

/-- Runs a command. -/
def runCommand (command : Command) : IO UInt32 := do
  let contents ← (namedFiles command).mapM fun path => return (path, ← readFileText path)
  let env : Environment :=
    { textOf := fun path => (contents.lookup path).getD (.error .notFound)
      connect := fun _ => .error .connectionRefused }
  let report := command.report env
  for warning in report.warnings do IO.eprintln (warningLine warning)
  match (← performEffects report.effects).or report.error with
  | none => return 0
  | some e =>
    IO.eprintln e.message
    return 1

end SchemaDiagram

open SchemaDiagram in
/-- The program: it runs the command that its arguments name. -/
def main (args : List String) : IO UInt32 := do
  match parseArguments args with
  | .ok command => runCommand command
  | .error usage =>
    IO.eprintln usage.message
    return UInt32.ofNat usage.exitCode
