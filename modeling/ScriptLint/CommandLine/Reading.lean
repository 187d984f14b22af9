import ScriptLint.CommandLine.Form

/-!
# Reading command lines

A command line is read argument by argument.  The value of an option may stand in the argument after
it, and operands may be many, so that what is read last is kept back until the next argument shows
that it is complete.  Only then are values checked.
-/

namespace ScriptLint.CommandLine

/-- Why the reading of a command line ends early. -/
inductive Interruption where
  | fault (fault : CommandLineFault)
  | help
  | version
deriving DecidableEq, Repr

/-- What is kept back. -/
inductive Pending where
  | none
  /-- An option without its value. -/
  | awaiting (form : OptionForm)
  | option (form : OptionForm) (value : String)
  | operands (values : List String)

/-- What has been read of a command line. -/
structure Reading where
  /-- The options with their values, which are empty for options without one. -/
  options : List (OptionName × String)
  operands : List String
  pending : Pending
  /-- Whether only operands follow. -/
  onlyOperands : Bool

namespace Reading

def start : Reading :=
  ⟨[], [], .none, false⟩

/-- What is wrong with a value, if anything is. -/
def valueFault? (kind : ValueKind) (display value : String) : Option CommandLineFault :=
  match kind with
  | .text => .none
  | .path => if value.isEmpty then some (.missingValue display) else .none
  | .choice words =>
    if words.contains value then .none
    else if value.isEmpty then some (.missingValue display)
    else some (.invalidValue value display)

def takeOption (reading : Reading) (form : OptionForm) (value : String) :
    Except Interruption Reading :=
  let taken := { reading with options := reading.options ++ [(form.name, value)] }
  if form.name = .help then .error .help
  else if form.name = .version then .error .version
  else if !form.mayRepeat && (reading.options.lookup form.name).isSome then
    .error (.fault (.repeated form.display))
  else
    match form.value with
    | .none => .ok taken
    | some (_, kind) =>
      match valueFault? kind form.display value with
      | some fault => .error (.fault fault)
      | .none => .ok taken

def settle (operandForm : OperandForm) (reading : Reading) : Except Interruption Reading :=
  let settled := { reading with pending := .none }
  match reading.pending with
  | .none => .ok settled
  | .awaiting form => .error (.fault (.missingValue form.display))
  | .option form value => settled.takeOption form value
  | .operands values =>
    match values.findSome? (valueFault? operandForm.kind operandForm.display) with
    | some fault => .error (.fault fault)
    | .none => .ok { settled with operands := reading.operands ++ values }

/-- Reads an option that takes a value, which may be attached to it. -/
def readValued (form : CommandForm) (option : OptionForm) (attached : Option String)
    (reading : Reading) : Except Interruption Reading := do
  let settled ← reading.settle form.operands
  match attached with
  | some value => settled.takeOption option value
  | .none => return { settled with pending := .awaiting option }

/-- Reads an argument with two dashes, without these. -/
def readLong (form : CommandForm) (body : List Char) (reading : Reading) :
    Except Interruption Reading :=
  let word := String.ofList (body.takeWhile (· != '='))
  let attached :=
    match body.dropWhile (· != '=') with
    | [] => .none
    | _ :: value => some (String.ofList value)
  match form.long? word with
  | .none => .error (.fault (.unexpected ("--" ++ word)))
  | some option =>
    match option.value, attached with
    | some _, _ => readValued form option attached reading
    | .none, some value => .error (.fault (.superfluousValue value option.display))
    | .none, .none => do (← reading.settle form.operands).takeOption option ""

/-- Reads the letters after one dash.  What follows the letter of an option that takes a value is
that value. -/
def readShort (form : CommandForm) : List Char → Reading → Except Interruption Reading
  | [], reading => .ok reading
  | letter :: rest, reading =>
    match form.short? letter with
    | .none => .error (.fault (.unexpected (String.ofList ['-', letter])))
    | some option =>
      match option.value with
      | .none => do readShort form rest (← (← reading.settle form.operands).takeOption option "")
      | some _ =>
        match rest with
        | [] => readValued form option .none reading
        | '=' :: value => readValued form option (some (String.ofList value)) reading
        | value => readValued form option (some (String.ofList value)) reading

def readOperand (form : CommandForm) (argument : String) (reading : Reading) :
    Except Interruption Reading :=
  match form.operands, reading.pending with
  | .none, _ =>
    if form.commands.isEmpty || (reading.onlyOperands && form.commands.contains argument) then
      .error (.fault (.unexpected argument))
    else .error (.fault (.unknownCommand argument))
  | .many _ _, .operands values =>
    .ok { reading with pending := .operands (values ++ [argument]) }
  | .many _ _, _ => do
    return { ← reading.settle form.operands with pending := .operands [argument] }
  | .one _ _, .operands _ => .error (.fault (.unexpected argument))
  | .one _ _, _ =>
    if reading.operands.isEmpty then do
      return { ← reading.settle form.operands with pending := .operands [argument] }
    else .error (.fault (.unexpected argument))

def readArgument (form : CommandForm) (argument : String) (reading : Reading) :
    Except Interruption Reading :=
  if reading.onlyOperands then readOperand form argument reading
  else
    match argument.toList with
    | ['-', '-'] => .ok { reading with onlyOperands := true }
    | '-' :: '-' :: body => readLong form body reading
    | '-' :: letter :: rest => readShort form (letter :: rest) reading
    | _ =>
      match reading.pending with
      | .awaiting option => .ok { reading with pending := .option option argument }
      | _ => readOperand form argument reading

/-- Whether an argument is a command, and not the value of the option before it. -/
def isCommand (form : CommandForm) (argument : String) (reading : Reading) : Bool :=
  let isValue :=
    match reading.pending with
    | .awaiting _ => true
    | _ => false
  !reading.onlyOperands && !isValue && form.commands.contains argument

/-- Reads arguments up to a command, and gives that with the arguments after it. -/
def readArguments (form : CommandForm) :
    List String → Reading → Except Interruption (Reading × Option (String × List String))
  | [], reading => .ok (reading, .none)
  | argument :: rest, reading =>
    if isCommand form argument reading then .ok (reading, some (argument, rest))
    else do readArguments form rest (← readArgument form argument reading)

/-- Reads a command line without commands. -/
def readAll (form : CommandForm) (arguments : List String) : Except Interruption Reading := do
  let (reading, _) ← readArguments form arguments start
  let settled ← reading.settle form.operands
  match form.operands with
  | .one _ _ =>
    if settled.operands.isEmpty then .error (.fault .missingOperand) else return settled
  | _ => return settled

def has (reading : Reading) (name : OptionName) : Bool :=
  (reading.options.lookup name).isSome

/-- The values of an option, in order. -/
def values (reading : Reading) (name : OptionName) : List String :=
  (reading.options.filter fun option => option.1 == name).map Prod.snd

def value? (reading : Reading) (name : OptionName) : Option String :=
  (reading.values name).getLast?

end Reading

end ScriptLint.CommandLine
