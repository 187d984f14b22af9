import ScriptLint.Command.Check
import ScriptLint.Command.Show
import ScriptLint.Command.Update
import ScriptLint.CommandLine.Invocation

/-!
# Running the checker

The whole program: a command line is read, and its command is carried out.  The exit code is two if
the command line cannot be read.
-/

namespace ScriptLint.Program

def helpText : String :=
  Outcome.linesText
    [Invocation.summary, "",
      "Usage: " ++ Invocation.programName ++ " [OPTIONS] <COMMAND>", "",
      "Commands:",
      "  update  Refresh the API documentation cache",
      "  check   Check Game Script sources against the cached documentation",
      "  show    List the cached methods of one API class",
      "  help    Print this message or the help of the given subcommand(s)"]

def versionText : String :=
  Outcome.linesText [Invocation.programName ++ " " ++ Invocation.version]

/-- What is said where to find help, after a command line that cannot be read. -/
def helpHint : String :=
  Outcome.linesText ["", "For more information, try '--help'."]

def faultText : CommandLine.CommandLineFault → String
  | .nothing => helpText
  | fault =>
    Outcome.linesText [fault.message Invocation.programName Invocation.summary] ++ helpHint

def perform (environment : Environment) (onTerminal : Bool) (invocation : Invocation) : Outcome :=
  let loadProject (surroundings : Surroundings) : Except SettingsError Project :=
    Project.load surroundings invocation.settingsFile invocation.cacheDirectory
  match invocation.command with
  | .update options => Update.run environment loadProject options
  | .check options =>
    Check.run environment (invocation.colour.isColoured onTerminal) loadProject options
  | .show className => Show.run environment invocation.verbose loadProject className

def run (environment : Environment) (onTerminal : Bool) (arguments : List String) : Outcome :=
  let files := environment.surroundings.files
  match Invocation.ofArguments arguments with
  | .ok invocation => perform environment onTerminal invocation
  | .error .help => ⟨0, helpText, "", files, []⟩
  | .error .version => ⟨0, versionText, "", files, []⟩
  | .error (.fault fault) => ⟨2, "", faultText fault, files, []⟩

end ScriptLint.Program
