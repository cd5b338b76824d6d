import ResolverScaffold.Command.Run

/-!
# The program

Takes the working directory and the directory of the settings into a `Disk`,
carries out the command on it and writes what has changed.
-/

namespace ResolverScaffold.Program

/-- The pieces of an absolute path. -/
def locationOf (path : String) : Location :=
  ((Path.pieces path.toList).map String.ofList).filter fun piece => !piece.isEmpty

def pathOf (location : Location) : String := "/" ++ "/".intercalate location

/-- The file at a path.  One that cannot be read is no text. -/
def readNode (path : String) : IO DiskNode := do
  try
    match String.fromUTF8? (← IO.FS.readBinFile path) with
    | some text => return .text text
    | none => return .bytes
  catch _ => return .bytes

partial def takeDirectory (disk : Disk) (path : String) : IO Disk := do
  let mut disk := (disk.makeDirectories path).1
  for entry in ← (System.mkFilePath [path]).readDir do
    let inner := Path.join path entry.fileName
    if ← entry.path.isDir then disk ← takeDirectory disk inner
    else
      match disk.writeNode inner (← readNode inner) with
      | .ok after => disk := after
      | .error _ => pure ()
  return disk

/-- Write what one disk has and another does not. -/
def writeChanges (before after : Disk) : IO Unit := do
  for (location, node) in after.nodes.entries do
    if before.node? location != some node then
      match node with
      | .directory => IO.FS.createDirAll (pathOf location)
      | .text content => IO.FS.writeFile (pathOf location) content
      | .bytes => pure ()

def usage : String :=
  "Usage: lambdagen <COMMAND>\n\n"
    ++ "Commands:\n"
    ++ "  generate  Generate models, resolver stubs and the dispatch layer\n"
    ++ "  init      Write a default configuration file\n"
    ++ "  help      Print this message\n\n"
    ++ "Options:\n"
    ++ "  -c, --config <CONFIG>  Path to the configuration file [default: lambda.yaml]\n"
    ++ "  -f, --force            Overwrite an existing configuration file (init)\n"
    ++ "  -h, --help             Print help\n"
    ++ "  -V, --version          Print version\n"

/-- What is said instead of carrying out a command. -/
def replyText : UsageReply → String
  | .help => usage
  | .missingCommand => usage
  | .version => "lambdagen 0.1.0-alpha.1\n"
  | .unknownCommand => "error: unrecognized subcommand\n\n" ++ usage
  | .unknownArgument => "error: unexpected argument found\n\n" ++ usage
  | .emptyValue => "error: a value is required for '--config <CONFIG>' but none was supplied\n"
  | .repeatedOption => "error: an argument cannot be used multiple times\n"
  | .unwantedValue => "error: unexpected value for an argument\n"

def settingsOf : Command → String
  | .generate settings => settings
  | .init settings _ => settings

/-- The directory of the settings of a command, if it is there and not in the working
directory. -/
def settingsDirectory? (dir : String) (command : Command) : IO (Option String) := do
  let home := Path.join dir ((Path.parent? (settingsOf command)).getD "")
  try
    let found := (← IO.FS.realPath home).toString
    return if (locationOf dir).isPrefixOf (locationOf found) then none else some found
  catch _ => return none

def carryOut (command : Command) : IO UInt32 := do
  let dir := (← IO.currentDir).toString
  let mut taken ← takeDirectory Disk.empty dir
  if let some home ← settingsDirectory? dir command then taken ← takeDirectory taken home
  let before := { taken with workDir := locationOf dir }
  let (after, result) := command.run before
  writeChanges before after
  match result with
  | .ok text =>
    IO.print text
    return 0
  | .error e =>
    IO.eprintln ("error: " ++ e.message)
    return 1

end ResolverScaffold.Program

open ResolverScaffold in
/-- Carry out what the arguments ask for. -/
def main (args : List String) : IO UInt32 := do
  match Command.ofArguments (← IO.getEnv Command.settingsVariable) args with
  | .error reply =>
    if reply.exitCode = 0 then IO.print (Program.replyText reply)
    else IO.eprint (Program.replyText reply)
    return reply.exitCode.toUInt32
  | .ok command => Program.carryOut command
