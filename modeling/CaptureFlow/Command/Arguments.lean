import CaptureFlow.Geometry.Reading
/-! # Matching arguments

A `CommandSpec` says which options, positional arguments and subcommands a command has, and
`CommandSpec.levels` matches a list of arguments against it.  The rules:

* An option that takes a value has it attached (`--name=value`, `-nvalue`, `-n=value`) or in the
  next argument, which must not look like an option.  Short options may be joined (`-vq`).
* After `--` every argument is positional.
* A word that names a subcommand, and is not the value of an option, hands all further arguments
  to the subcommand.
* The value of an option is looked at when the next option or positional argument of the same
  command is met, or at the end; the end of a subcommand comes before that of the command above.
* An option may be given once for each command on the path.

What was matched is a list of levels, one for each command on the path. -/

namespace CaptureFlow.Command

/-! ### What can go wrong -/

/-- Why arguments are not carried out: they ask for help or for the version, or they are wrong. -/
inductive UsageFault where
  | help
  | helpInstead
  | version
  | badSubcommand
  | missingSubcommand
  | unknownArgument
  | missingArgument
  | repeated
  | noValue
  | unwantedValue
  | badValue
deriving DecidableEq, Repr

/-! ### Commands -/

/-- What the value of an option has to look like. -/
inductive Form where
  | text
  | path
  | size
  | degrees
deriving DecidableEq, Repr

def readDegrees? (s : String) : Option UInt16 :=
  match Text.readInt (UInt64.size / 2) (UInt64.size / 2 - 1) s.toList with
  | .ok (.ofNat n) => if n < UInt16.size then some n.toUInt16 else none
  | _ => none

/-- What is wrong with a value, if anything. -/
def Form.fault? : Form → String → Option UsageFault
  | .text, _ => none
  | .path, s => if s.isEmpty then some .noValue else none
  | .size, s =>
    match Size.read s with
    | .ok _ => none
    | .error _ => some .badValue
  | .degrees, s => if (readDegrees? s).isSome then none else some .badValue

/-- What an option does. -/
inductive Role where
  | flag
  | value (form : Form)
  | help
  | version
deriving DecidableEq, Repr

/-- An option with its long name and perhaps a letter. -/
structure OptionSpec where
  name : String
  letter : Option Char := none
  role : Role
deriving DecidableEq, Repr

/-- A command: its options, the names of its positional arguments, the names of all arguments
that must be given, and its subcommands. -/
inductive CommandSpec where
  | mk (options : List OptionSpec) (positionals required : List String)
    (subcommands : List (String × CommandSpec))

namespace CommandSpec

def options : CommandSpec → List OptionSpec
  | mk options .. => options

def positionals : CommandSpec → List String
  | mk _ positionals .. => positionals

def required : CommandSpec → List String
  | mk _ _ required _ => required

def subcommands : CommandSpec → List (String × CommandSpec)
  | mk _ _ _ subcommands => subcommands

def subcommand? (spec : CommandSpec) (name : String) : Option CommandSpec :=
  (spec.subcommands.find? fun entry => entry.1 = name).map (·.2)

def long? (spec : CommandSpec) (name : String) : Option OptionSpec :=
  spec.options.find? fun option => option.name = name

def short? (spec : CommandSpec) (letter : Char) : Option OptionSpec :=
  spec.options.find? fun option => option.letter = some letter

/-- Whether a word is a subcommand; a command with subcommands has `help` among them. -/
def isSubcommand (spec : CommandSpec) (word : String) : Bool :=
  (spec.subcommand? word).isSome || (word == "help" && !spec.subcommands.isEmpty)

end CommandSpec

/-! ### One command -/

/-- What was given to a command: the names of options and positional arguments with their
values.  The value of a flag is empty. -/
abbrev Given := List (String × String)

/-- An argument whose value has not been looked at, or has not come yet. -/
structure Pending where
  name : String
  form : Form
  value : Option String
deriving DecidableEq, Repr

/-- How far the arguments of a command have been matched. -/
structure Progress where
  given : Given := []
  pending : Option Pending := none
  positionals : List String
  trailing : Bool := false

namespace Progress

/-- Takes a value for an argument. -/
def give (p : Progress) (name : String) (form : Form) (value : String) :
    Except UsageFault Progress :=
  if p.given.any fun entry => entry.1 = name then .error .repeated
  else
    match form.fault? value with
    | some fault => .error fault
    | none => .ok { p with given := p.given ++ [(name, value)] }

/-- Looks at the pending value. -/
def settle (p : Progress) : Except UsageFault Progress :=
  match p.pending with
  | none => .ok p
  | some ⟨_, _, none⟩ => .error .noValue
  | some ⟨name, form, some value⟩ => { p with pending := none }.give name form value

def awaitsValue (p : Progress) : Bool :=
  match p.pending with
  | some ⟨_, _, none⟩ => !p.trailing
  | _ => false

/-- Meets an option with the value attached to it, if any. -/
def meet (p : Progress) (option : OptionSpec) (attached : Option String) :
    Except UsageFault Progress :=
  match option.role, attached with
  | .value form, some value => do (← p.settle).give option.name form value
  | .value form, none => do
    return { ← p.settle with pending := some ⟨option.name, form, none⟩ }
  | _, some _ => .error .unwantedValue
  | .flag, none => do (← p.settle).give option.name .text ""
  | .help, none => do
    let _ ← p.settle
    .error .help
  | .version, none => do
    let _ ← p.settle
    .error .version

/-- Meets `--name` or `--name=value`, given without the dashes. -/
def meetLong (p : Progress) (spec : CommandSpec) (text : List Char) :
    Except UsageFault Progress :=
  let (name, rest) := text.span (· != '=')
  match spec.long? (String.ofList name), rest with
  | none, _ => .error .unknownArgument
  | some option, [] => p.meet option none
  | some option, _ :: value => p.meet option (some (String.ofList value))

/-- Meets joined short options, given without the dash. -/
def meetShort (spec : CommandSpec) : Progress → List Char → Except UsageFault Progress
  | p, [] => .ok p
  | p, letter :: rest =>
    match spec.short? letter with
    | none => .error .unknownArgument
    | some option =>
      match option.role, rest with
      | .value _, '=' :: value => p.meet option (some (String.ofList value))
      | .value _, [] => p.meet option none
      | .value _, value => p.meet option (some (String.ofList value))
      | _, _ => do meetShort spec (← p.meet option none) rest

/-- Meets an argument without a dash. -/
def meetWord (p : Progress) (spec : CommandSpec) (word : String) : Except UsageFault Progress :=
  match p.positionals with
  | name :: others => do
    return { ← p.settle with positionals := others, pending := some ⟨name, .text, some word⟩ }
  | [] =>
    if spec.subcommands.isEmpty || (p.trailing && spec.isSubcommand word) then
      .error .unknownArgument
    else .error .badSubcommand

/-- Meets an argument that is no subcommand. -/
def meetArgument (p : Progress) (spec : CommandSpec) (argument : String) :
    Except UsageFault Progress :=
  if p.trailing then p.meetWord spec argument
  else
    match argument.toList with
    | ['-', '-'] => .ok { p with trailing := true }
    | '-' :: '-' :: text => p.meetLong spec text
    | '-' :: letter :: more => meetShort spec p (letter :: more)
    | _ =>
      match p.pending with
      | some ⟨name, form, none⟩ => .ok { p with pending := some ⟨name, form, some argument⟩ }
      | _ => p.meetWord spec argument

/-- What was given in the end; everything required must be there. -/
def finish (p : Progress) (spec : CommandSpec) : Except UsageFault Given := do
  let p ← p.settle
  if !spec.subcommands.isEmpty then
    .error (if p.given.isEmpty then .helpInstead else .missingSubcommand)
  else if spec.required.all fun name => p.given.any fun entry => entry.1 = name then
    .ok p.given
  else .error .missingArgument

end Progress

/-! ### A command with its subcommands -/

/-- A command on the path, and what was given to it. -/
structure Level where
  command : String
  given : Given
deriving DecidableEq, Repr

/-- What asking for help on a path of subcommands comes to.  Help itself has a page, but no
subcommands. -/
def helpOn : CommandSpec → List String → UsageFault
  | _, [] => .help
  | spec, word :: rest =>
    match spec.subcommand? word with
    | some child => helpOn child rest
    | none => if spec.isSubcommand word && rest.isEmpty then .help else .badSubcommand

/-- Matches the arguments that are left for a command and its subcommands. -/
def CommandSpec.matchFrom (command : String) (spec : CommandSpec) (p : Progress) :
    List String → Except UsageFault (List Level)
  | [] => do return [⟨command, ← p.finish spec⟩]
  | argument :: rest =>
    if !p.trailing && !p.awaitsValue && spec.isSubcommand argument then
      match spec.subcommand? argument with
      | none => .error (helpOn spec rest)
      | some child => do
        let levels ← child.matchFrom argument { positionals := child.positionals } rest
        return ⟨command, (← p.settle).given⟩ :: levels
    else do spec.matchFrom command (← p.meetArgument spec argument) rest

/-- The levels of a list of arguments, from the command itself to the last subcommand. -/
def CommandSpec.levels (spec : CommandSpec) (command : String) (arguments : List String) :
    Except UsageFault (List Level) :=
  spec.matchFrom command { positionals := spec.positionals } arguments

end CaptureFlow.Command
