import ResolverScaffold.Command.Arguments
import ResolverScaffold.Generation
import ResolverScaffold.Settings.Starter

/-!
# Running commands

What a command does to a disk, what it prints, and what it says if it fails.
-/

namespace ResolverScaffold

inductive CommandError where
  /-- The settings could not be used. -/
  | settings (reason : SettingsError)
  /-- The run for a settings file failed. -/
  | generation (path : String) (reason : GenerationError)
  /-- The starter settings could not be written. -/
  | starter (reason : StarterError)

def CommandError.message : CommandError → String
  | .settings reason => (GenerationError.settings reason).fullMessage
  | .generation path reason => "generation failed for " ++ path ++ ": " ++ reason.fullMessage
  | .starter reason => reason.message

/-- The line that is printed after a run. -/
def Report.summary (r : Report) : String :=
  "generated " ++ toString r.written.length ++ " file(s), " ++ toString r.unchanged.length
    ++ " unchanged, " ++ toString r.preserved ++ " resolver bodies kept, "
    ++ toString r.deprecated ++ " deprecated"

/-- Carry out a command: the disk afterwards, and what is printed. -/
def Command.run (disk : Disk) : Command → Disk × Except CommandError String
  | .generate path =>
    match Settings.load disk path with
    | .error e => (disk, .error (.settings e))
    | .ok settings =>
      match Generation.run disk settings with
      | (after, .error e) => (after, .error (.generation path e))
      | (after, .ok report) => (after, .ok (report.summary ++ "\n"))
  | .init path force =>
    match Settings.writeStarter disk path force with
    | (after, some e) => (after, .error (.starter e))
    | (after, none) => (after, .ok "")

end ResolverScaffold
