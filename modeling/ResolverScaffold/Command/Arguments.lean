import ResolverScaffold.Text.Lines

/-!
# Arguments

What the words of a command line ask for.  An option takes effect when the next
known option or the end comes, so a word that is not known is reported before a
missing or repeated value.
-/

namespace ResolverScaffold

/-- What a command line asks for. -/
inductive Command where
  /-- Generate all files. -/
  | generate (settings : String)
  /-- Write starter settings, over a file that is there only if told so. -/
  | init (settings : String) (force : Bool)
  deriving DecidableEq, Repr

/-- What is said instead of carrying out a command. -/
inductive UsageReply where
  /-- No command is given. -/
  | missingCommand
  /-- Help was asked for. -/
  | help
  /-- The version was asked for. -/
  | version
  | unknownCommand
  | unknownArgument
  /-- An option has no value or an empty one. -/
  | emptyValue
  /-- An option is given twice. -/
  | repeatedOption
  /-- A value is given to an option that takes none. -/
  | unwantedValue
  deriving DecidableEq, Repr

/-- The code with which the program ends. -/
def UsageReply.exitCode : UsageReply → Nat
  | .help => 0
  | .version => 0
  | _ => 2

namespace Command

/-- The settings file that is used if none is given. -/
def usualSettings : String := "lambda.yaml"

/-- The environment variable that names a settings file. -/
def settingsVariable : String := "LAMBDAGEN_CONFIG"

inductive Argument where
  /-- The mark after which no options follow. -/
  | endOfOptions
  /-- An option by its name, perhaps with a value. -/
  | long (name : String) (value : Option String)
  /-- Options by their letters. -/
  | short (letters : List Char)
  | word (text : String)
  deriving DecidableEq, Repr

/-- The form of an argument.  A single dash is a word. -/
def Argument.ofText (text : String) : Argument :=
  match text.toList with
  | ['-', '-'] => .endOfOptions
  | '-' :: '-' :: rest =>
    match Text.cut? ['='] rest with
    | none => .long (String.ofList rest) none
    | some (name, value) => .long (String.ofList name) (some (String.ofList value))
  | '-' :: c :: rest => .short (c :: rest)
  | _ => .word text

structure Options where
  settings : Option String := none
  force : Bool := false
  /-- The option for the settings has been given and has not taken effect; it may have no value
  yet. -/
  pending : Option (Option String) := none
  deriving DecidableEq, Repr

namespace Options

/-- Take a settings file. -/
def store (o : Options) (path : String) : Except UsageReply Options :=
  if o.settings.isSome then .error .repeatedOption
  else if path.isEmpty then .error .emptyValue
  else .ok { o with settings := some path }

/-- Let the pending option take effect. -/
def settle (o : Options) : Except UsageReply Options :=
  match o.pending with
  | none => .ok o
  | some none => .error .emptyValue
  | some (some path) => { o with pending := none }.store path

/-- The option for the settings, perhaps with its value. -/
def giveSettings (o : Options) (value : Option String) : Except UsageReply Options := do
  let o ← o.settle
  match value with
  | none => .ok { o with pending := some none }
  | some path => o.store path

def giveForce (o : Options) : Except UsageReply Options := do
  let o ← o.settle
  if o.force then .error .repeatedOption else .ok { o with force := true }

def giveHelp (o : Options) : Except UsageReply Options := do
  let _ ← o.settle
  .error .help

/-- A value after the letter of an option; an equals sign may stand before it. -/
def letterValue (rest : List Char) : Option String :=
  match rest with
  | [] => none
  | '=' :: value => some (String.ofList value)
  | value => some (String.ofList value)

/-- Options by their letters; `canForce` says whether there is one to overwrite. -/
def giveLetters (canForce : Bool) (o : Options) : List Char → Except UsageReply Options
  | [] => .ok o
  | 'c' :: rest => o.giveSettings (letterValue rest)
  | 'h' :: _ => o.giveHelp
  | 'f' :: rest =>
    if canForce then
      match o.giveForce with
      | .error e => .error e
      | .ok next => giveLetters canForce next rest
    else .error .unknownArgument
  | _ :: _ => .error .unknownArgument

def giveName (canForce : Bool) (o : Options) (name : String) (value : Option String) :
    Except UsageReply Options :=
  if name = "config" then o.giveSettings value
  else if name = "help" || (name = "force" && canForce) then
    if value.isSome then .error .unwantedValue
    else if name = "help" then o.giveHelp
    else o.giveForce
  else .error .unknownArgument

/-- A word: the value of an option that waits for one. -/
def giveWord (o : Options) (text : String) : Except UsageReply Options :=
  match o.pending with
  | some none => .ok { o with pending := some (some text) }
  | _ => .error .unknownArgument

def readAll (canForce : Bool) : Options → List String → Except UsageReply Options
  | o, [] => o.settle
  | o, text :: rest =>
    match Argument.ofText text with
    | .endOfOptions => if rest.isEmpty then o.settle else .error .unknownArgument
    | .long name value => do readAll canForce (← o.giveName canForce name value) rest
    | .short letters => do readAll canForce (← o.giveLetters canForce letters) rest
    | .word text => do readAll canForce (← o.giveWord text) rest

end Options

/-- The settings file of options, with what the environment says. -/
def settingsOf (o : Options) (environment : Option String) : Except UsageReply String :=
  match o.settings, environment with
  | some path, _ => .ok path
  | none, some path => if path.isEmpty then .error .emptyValue else .ok path
  | none, none => .ok usualSettings

def names : List String := ["generate", "init", "help"]

def helpOn : List String → UsageReply
  | [] => .help
  | [name] => if names.contains name then .help else .unknownCommand
  | _ => .unknownCommand

def replyTo (isHelp isVersion hasValue : Bool) : UsageReply :=
  if !isHelp && !isVersion then .unknownArgument
  else if hasValue then .unwantedValue
  else if isHelp then .help
  else .version

/-- The command of a command line.  The environment may name the settings file to generate
from. -/
def ofArguments (environment : Option String) : List String → Except UsageReply Command
  | [] => .error .missingCommand
  | "generate" :: rest => do
    let o ← Options.readAll false {} rest
    return .generate (← settingsOf o environment)
  | "init" :: rest => do
    let o ← Options.readAll true {} rest
    return .init (← settingsOf o none) o.force
  | "help" :: rest => .error (helpOn rest)
  | text :: rest =>
    match Argument.ofText text with
    | .endOfOptions =>
      match rest with
      | [] => .error .missingCommand
      | name :: _ => .error (if names.contains name then .unknownArgument else .unknownCommand)
    | .long name value => .error (replyTo (name == "help") (name == "version") value.isSome)
    | .short letters =>
      .error (replyTo (letters.head? == some 'h') (letters.head? == some 'V') false)
    | .word _ => .error .unknownCommand

end Command

end ResolverScaffold
