import ScriptLint.Command.Check
import ScriptLint.Command.Update
import ScriptLint.CommandLine.Reading

/-!
# Invocations

The command line of the checker: options that every command has, before or after the command, and
one of three commands.  An option that is given both before and after the command counts as it is
given after it.
-/

namespace ScriptLint

open CommandLine

/-- Whether colours are used. -/
inductive ColourChoice where
  | auto
  | always
  | never
deriving DecidableEq, Repr

namespace ColourChoice

def ofWord : String → ColourChoice
  | "always" => always
  | "never" => never
  | _ => auto

def isColoured (choice : ColourChoice) (onTerminal : Bool) : Bool :=
  match choice with
  | auto => onTerminal
  | always => true
  | never => false

end ColourChoice

/-- What the checker is to do. -/
inductive Command where
  | update (options : Update.Options)
  | check (options : Check.Options)
  | show (className : String)
deriving DecidableEq, Repr

/-- A command with the options that every command has. -/
structure Invocation where
  verbose : Bool
  colour : ColourChoice
  settingsFile : Option String
  cacheDirectory : Option String
  command : Command
deriving DecidableEq, Repr

namespace Invocation

def programName : String :=
  "gsapi"

def summary : String :=
  "OpenTTD Game Script API checker"

def version : String :=
  "0.1.0"

def helpOption : OptionForm :=
  ⟨.help, "help", some 'h', none, false⟩

def commonOptions : List OptionForm :=
  [⟨.verbose, "verbose", some 'v', none, false⟩,
    ⟨.colour, "color", none, some ("COLOR", .choice ["auto", "always", "never"]), false⟩,
    ⟨.settingsFile, "config", none, some ("CONFIG", .text), false⟩,
    ⟨.cacheDirectory, "cache-dir", none, some ("CACHE_DIR", .path), false⟩,
    helpOption]

def helpCommand : String :=
  "help"

def commandWords : List String :=
  ["update", "check", "show", helpCommand]

def mainForm : CommandForm :=
  ⟨commonOptions ++ [⟨.version, "version", some 'V', none, false⟩], .none, commandWords⟩

def updateForm : CommandForm :=
  ⟨[⟨.force, "force", some 'f', none, false⟩, ⟨.keepGoing, "keep-going", none, none, false⟩] ++
    commonOptions, .none, []⟩

def checkForm : CommandForm :=
  ⟨[⟨.format, "format", some 'f', some ("FORMAT", .choice ["text", "json"]), false⟩,
      ⟨.update, "update", none, none, false⟩,
      ⟨.allow, "allow", none, some ("ALLOW", .text), true⟩,
      ⟨.deny, "deny", none, some ("DENY", .text), true⟩] ++ commonOptions,
    .many "[PATHS]..." .path, []⟩

def showForm : CommandForm :=
  ⟨commonOptions, .one "<CLASS>" .text, []⟩

def readCommand (word : String) (arguments : List String) :
    Except Interruption (Command × Reading) := do
  match word with
  | "update" =>
    let reading ← Reading.readAll updateForm arguments
    return (.update ⟨reading.has .force, reading.has .keepGoing⟩, reading)
  | "check" =>
    let reading ← Reading.readAll checkForm arguments
    let format :=
      if reading.value? .format = some "json" then Check.ReportFormat.json else .text
    return (.check ⟨reading.operands, format, reading.has .update, reading.values .allow,
      reading.values .deny⟩, reading)
  | _ =>
    let reading ← Reading.readAll showForm arguments
    return (.show (reading.operands.headD ""), reading)

/-- Why there is help instead of a command: it is asked for, or it is asked for a word that is no
command. -/
def helpOn (words : List String) : Interruption :=
  match words with
  | [] => .help
  | word :: rest =>
    if commandWords.contains word then
      match rest with
      | [] => .help
      | other :: _ => .fault (.unknownCommand other)
    else .fault (.unknownCommand word)

def ofArguments (arguments : List String) : Except Interruption Invocation := do
  let (reading, found) ← Reading.readArguments mainForm arguments .start
  match found with
  | none =>
    let settled ← reading.settle .none
    .error (.fault (if settled.options.isEmpty then .nothing else .missingCommand))
  | some (word, rest) =>
    if word = helpCommand then .error (helpOn rest)
    else
      let (command, after) ← readCommand word rest
      let before ← reading.settle .none
      let last (name : OptionName) : Option String :=
        (after.value? name).or (before.value? name)
      return ⟨before.has .verbose || after.has .verbose,
        .ofWord ((last .colour).getD "auto"), last .settingsFile, last .cacheDirectory, command⟩

end Invocation

end ScriptLint
