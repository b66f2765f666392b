import SessionProbe.Journal.Entry
import SessionProbe.Settings.Options

set_option autoImplicit false

/-!
The settings file: where it lies, and what is done with what is found there. A file that cannot be
read or holds no options counts for nothing; the problem is told later, when there is a log.
-/

namespace SessionProbe.Settings

/-- Join two parts of a path with one slash. -/
def joinPath (directory name : String) : String :=
  if directory.toList.getLast? = some '/' then directory ++ name else directory ++ "/" ++ name

/-- The file within the directory for configurations. -/
def pathWithin (directory : String) : String :=
  joinPath (joinPath directory "ganesha-dbus-probe") "settings.json"

/-- The directory for configurations: the one that the environment names by an absolute path, else
one in the home directory, else the working directory. -/
def configurationDirectory (named home : Option String) : String :=
  match named.filter (fun directory => directory.toList.head? == some '/'), home with
  | some directory, _ => directory
  | none, some home => joinPath home ".config"
  | none, none => "."

def defaultPath (named home : Option String) : String :=
  pathWithin (configurationDirectory named home)

inductive File
  | missing
  /-- There is something, but it cannot be read. -/
  | unreadable (problem : String)
  | octets (content : List UInt8)
deriving Repr, DecidableEq, Inhabited

/-- A directory, which cannot be read as a file. -/
def File.directory : File :=
  .unreadable "Is a directory (os error 21)"

/-- What a file is good for: its options or a problem. -/
def File.options (file : File) (path : String) : Except String Options :=
  match file with
  | .missing => .ok {}
  | .unreadable problem => .error s!"Failed to read settings {path}: {problem}"
  | .octets content =>
    match Text.Utf8.decode content with
    | .error _ => .error s!"Failed to read settings {path}: stream did not contain valid UTF-8"
    | .ok text =>
      match Options.parse text with
      | .ok options => .ok options
      | .error fault => .error (s!"Failed to parse settings {path}: " ++ fault.message text)

structure Loaded where
  options : Options
  path : String
  problem : Option String
deriving Repr, DecidableEq

/-- Load the settings from a path; what was wrong does not keep the program from running. -/
def load (path : String) (file : File) : Loaded :=
  match file.options path with
  | .ok options => { options, path, problem := none }
  | .error problem => { options := {}, path, problem := some problem }

def Loaded.report (loaded : Loaded) : List Journal.Entry :=
  match loaded.problem with
  | some message => [{ level := .warn, topic := .settings, message }]
  | none => []

end SessionProbe.Settings
