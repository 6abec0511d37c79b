import CaptureFlow.Command.Arguments
/-! # The command line

The commands of the program, what they take, and the `Invocation` that a list of arguments comes
to.  Four options may be given to any command on the path: for verbose output, for output without
the banner, for the preference database and for output in JSON.  Of a database given more than once
the one nearest to the end of the path counts. -/

namespace CaptureFlow.Command

/-! ### Commands -/

inductive PrefsAction where
  | get (key : String)
  | set (key value kind : String)
  | remove (key : String)
  | list
deriving DecidableEq, Repr

/-- A command with its arguments. -/
inductive Request where
  | transform (preview view : Size) (orientation : String)
  | crop (image surface : Size)
  | rotation (sensor : UInt16) (facing : String) (screen : UInt16)
  | prefs (action : PrefsAction)
  | simulate (script : String) (ephemeral : Bool)
deriving DecidableEq, Repr

/-- The database that is used unless another one is given. -/
def defaultDatabase : String := "stagegate-prefs.redb"

/-- Everything that the arguments ask for. -/
structure Invocation where
  verbose : Bool := false
  quiet : Bool := false
  json : Bool := false
  database : String := defaultDatabase
  request : Request
deriving DecidableEq, Repr

/-! ### What each command takes -/

/-- The options of every command. -/
def sharedOptions : List OptionSpec :=
  [⟨"verbose", some 'v', .flag⟩, ⟨"quiet", some 'q', .flag⟩, ⟨"prefs", some 'P', .value .path⟩,
    ⟨"json", none, .flag⟩, ⟨"help", some 'h', .help⟩]

/-- A command without subcommands. -/
def leaf (options : List OptionSpec) (positionals : List String) (required : List String) :
    CommandSpec :=
  .mk (options ++ sharedOptions) positionals (required ++ positionals) []

def prefsSpec : CommandSpec :=
  .mk sharedOptions [] []
    [("get", leaf [] ["key"] []),
      ("set", leaf [⟨"kind", some 'k', .value .text⟩] ["key", "value"] []),
      ("remove", leaf [] ["key"] []),
      ("list", leaf [] [] [])]

def programSpec : CommandSpec :=
  .mk (sharedOptions ++ [⟨"version", some 'V', .version⟩]) [] []
    [("transform", leaf
        [⟨"preview", none, .value .size⟩, ⟨"view", none, .value .size⟩,
          ⟨"orientation", some 'o', .value .text⟩] [] ["preview", "view"]),
      ("crop", leaf
        [⟨"image", none, .value .size⟩, ⟨"surface", none, .value .size⟩] [] ["image", "surface"]),
      ("rotation", leaf
        [⟨"sensor", none, .value .degrees⟩, ⟨"facing", some 'f', .value .text⟩,
          ⟨"screen", some 's', .value .degrees⟩] [] ["sensor"]),
      ("prefs", prefsSpec),
      ("simulate", leaf
        [⟨"script", some 's', .value .path⟩, ⟨"ephemeral", none, .flag⟩] [] ["script"])]

/-! ### From levels to an invocation -/

/-- The value of an argument that may be left out. -/
def optionalText (given : Given) (name default : String) : String :=
  (given.lookup name).getD default

def requiredText (given : Given) (name : String) : Except UsageFault String :=
  match given.lookup name with
  | some value => .ok value
  | none => .error .missingArgument

def requiredSize (given : Given) (name : String) : Except UsageFault Size := do
  match Size.read (← requiredText given name) with
  | .ok size => .ok size
  | .error _ => .error .badValue

def degreesOf (text : String) : Except UsageFault UInt16 :=
  match readDegrees? text with
  | some degrees => .ok degrees
  | none => .error .badValue

/-- The request of a command on the given path. -/
def Request.ofPath (path : List String) (given : Given) : Except UsageFault Request :=
  match path with
  | ["transform"] => do
    return .transform (← requiredSize given "preview") (← requiredSize given "view")
      (optionalText given "orientation" "portrait")
  | ["crop"] => do
    return .crop (← requiredSize given "image") (← requiredSize given "surface")
  | ["rotation"] => do
    return .rotation (← degreesOf (← requiredText given "sensor"))
      (optionalText given "facing" "back") (← degreesOf (optionalText given "screen" "0"))
  | ["prefs", "get"] => do return .prefs (.get (← requiredText given "key"))
  | ["prefs", "set"] => do
    return .prefs (.set (← requiredText given "key") (← requiredText given "value")
      (optionalText given "kind" "text"))
  | ["prefs", "remove"] => do return .prefs (.remove (← requiredText given "key"))
  | ["prefs", "list"] => .ok (.prefs .list)
  | ["simulate"] => do
    return .simulate (← requiredText given "script") (given.lookup "ephemeral").isSome
  | _ => .error .missingSubcommand

/-- Whether a flag was given at any level. -/
def anyGiven (levels : List Level) (name : String) : Bool :=
  levels.any fun level => (level.given.lookup name).isSome

/-- The value that was given at the last level that has one. -/
def lastGiven? (levels : List Level) (name : String) : Option String :=
  (levels.filterMap fun level => level.given.lookup name).getLast?

/-- The invocation of the levels that were matched. -/
def Invocation.ofLevels (levels : List Level) : Except UsageFault Invocation := do
  let given := (levels.getLast?.map (·.given)).getD []
  let request ← Request.ofPath (levels.tail.map (·.command)) given
  return { verbose := anyGiven levels "verbose", quiet := anyGiven levels "quiet",
           json := anyGiven levels "json",
           database := (lastGiven? levels "prefs").getD defaultDatabase, request }

/-- The invocation that a list of arguments asks for. -/
def Invocation.ofArguments (arguments : List String) : Except UsageFault Invocation := do
  Invocation.ofLevels (← programSpec.levels "stagegate" arguments)

end CaptureFlow.Command
