import RegionToggle.CommandLine.Arguments
import RegionToggle.Log.Run
import RegionToggle.Report

/-!
# The command

What a command line does to a disk, what it prints, and the code it exits with. Settings are
loaded first, then the platform is settled on, then the run starts.
-/

namespace RegionToggle

/-- What a command is told by its surroundings. -/
structure Surroundings where
  /-- The name by which the host system calls itself. -/
  host : Text
  /-- The usual place of the settings file. -/
  settings : Path
  deriving DecidableEq, Repr

structure Execution where
  code : Nat
  /-- What is printed. -/
  output : Text := []
  /-- What is told on the side, a message an item: the log, and what is wrong. -/
  messages : List String := []
  disk : Disk

namespace Command

def name : Text := "platform-switch".toList

def versionLine : Text := name ++ " 1.0.0\n".toList

def usage : String := "Usage: platform-switch [OPTIONS] [ROOT]"

def help : Text := name ++ " - toggle platform-specific blocks in editor config files.

".toList ++ usage.toList ++ "

Arguments:
  [ROOT]  Directory to scan [default: .]

Options:
  -p, --platform <PLATFORM>  Target platform instead of the detected one (windows, macos, linux)
  -n, --dry-run              Show what would change without writing any file
  -c, --config <CONFIG>      Configuration file to use instead of the platform default
      --exclude-root-config  Do not touch the .vscode directory directly under ROOT
      --json                 Print the run summary as JSON instead of progress lines
  -d, --debug                Enable debug logging
  -h, --help                 Print help
  -V, --version              Print version
".toList

/-- The root where the command line names none. -/
def standardRoot : Text := ".".toList

def line (s : String) : Text := s.toList ++ ['\n']

/-- The usual place of the settings file, from the folders that the surroundings name for settings
and as home. The first counts only if it is an absolute path. -/
def usualSettings (configHome? home? : Option Text) : Path :=
  let file : Text := "platform-switch/config.toml".toList
  match configHome?.filter fun folder => (Path.ofText folder).isAbsolute, home? with
  | some folder, _ => .ofText (folder ++ '/' :: file)
  | none, some home => .ofText (home ++ "/.config/".toList ++ file)
  | none, none => .ofText "./config.toml".toList

/-- The settings file of a run: the one asked for, else the one in its usual place. -/
def settingsPath (surroundings : Surroundings) (arguments : Arguments) : Path :=
  (arguments.settings?.map Path.ofText).getD surroundings.settings

def rootPath (arguments : Arguments) : Path := .ofText (arguments.root?.getD standardRoot)

/-- Loads the settings file that was asked for, else the one in its usual place. -/
def loadSettings (surroundings : Surroundings) (arguments : Arguments) (disk : Disk) :
    Except Failure LoadedSettings :=
  let path := settingsPath surroundings arguments
  if arguments.settings?.isSome then Settings.loadFile disk path else .ok (Settings.load disk path)

def searchOptions (settings : Settings) (arguments : Arguments) : SearchOptions :=
  { settings.search with
    skipsTopSubfolder := settings.search.skipsTopSubfolder || arguments.skipsTopSubfolder }

def runOptions (settings : Settings) (arguments : Arguments) (platform : Platform) : RunOptions :=
  { search := searchOptions settings arguments
    rewrite := ⟨platform, settings.dialect, settings.outside⟩
    dryRun := arguments.dryRun }

/-- The level of the log: the one that the settings ask for, unless the command line asks for more
to find faults with. -/
def logLevel (settings : Settings) (arguments : Arguments) : LogLevel :=
  if arguments.debug then .debug else settings.logLevel?.getD .warn

def failureLine (failure : Failure) : String := "Error: " ++ failure.message

/-- What a run prints when it ends well: its summary as JSON if asked for and if there is one, else
a line if it has found nothing. -/
def closing (arguments : Arguments) (summary : RunSummary) : Text :=
  if arguments.json then
    match summary.json? with
    | some value => value.render 0 ++ ['\n']
    | none => []
  else if summary.outcomes.isEmpty then
    let shown := summary.root.display
    line s!"No configuration files found under {shown}"
  else []

/-- What is told of a run with settings loaded: the records that the log keeps, and the failure if
there is one. -/
def messages (arguments : Arguments) (loaded : LoadedSettings) (records : List LogRecord)
    (failure? : Option Failure) : List String :=
  let records := loaded.notices.map .ofNotice ++ records ++ (failure?.map .ofFailure).toList
  let level := logLevel loaded.settings arguments
  (records.filter fun record => level.keeps record.level).map (·.text) ++
    (failure?.map failureLine).toList

def executeWith (surroundings : Surroundings) (arguments : Arguments) (loaded : LoadedSettings)
    (disk : Disk) : Execution :=
  match Platform.choose surroundings.host arguments.platform? with
  | .error problem =>
    { code := 1, messages := messages arguments loaded [] (some (.platform problem)), disk }
  | .ok platform =>
    let options := runOptions loaded.settings arguments platform
    let root := rootPath arguments
    let run := options.run disk root
    let progress :=
      if arguments.json then [] else run.outcomes.flatMap fun outcome => line outcome.progress
    let records := LogRecord.ofRun options disk root run.outcomes
    match run.result with
    | .error failure =>
      { code := 1
        output := progress
        messages := messages arguments loaded records (some failure)
        disk := run.disk }
    | .ok summary =>
      { code := 0
        output := progress ++ closing arguments summary
        messages := messages arguments loaded records none
        disk := run.disk }

def execute (surroundings : Surroundings) (arguments : Arguments) (disk : Disk) : Execution :=
  match loadSettings surroundings arguments disk with
  | .error failure => { code := 1, messages := [failureLine failure], disk }
  | .ok loaded => executeWith surroundings arguments loaded disk

def run (surroundings : Surroundings) (commandLine : List Text) (disk : Disk) : Execution :=
  match Arguments.parse commandLine with
  | .misuse cause => { code := 2, messages := [cause.message, usage], disk }
  | .help => { code := 0, output := help, disk }
  | .version => { code := 0, output := versionLine, disk }
  | .run arguments => execute surroundings arguments disk

end Command

end RegionToggle
