import DeviceTrust.Fault
import DeviceTrust.Logging.Traced

/-!
# Log files

Folders and files below one folder. A path is the names on the way from there; two dots step back.
A new folder is made with all folders above it, a new file is empty, and a file that is opened again
keeps its records. What stands in the way is a fault: a name in the middle of a path must be a
folder, and the last name of a log file must not be one.
-/

set_option autoImplicit false

namespace DeviceTrust

/-- The names on the way to a folder or a file. -/
abbrev LogPath := List String

/-- What stands at a path. -/
inductive LogEntry where
  | folder
  | file (records : List LogRecord)
  deriving DecidableEq, Repr

/-- The folders and files below one folder, in the order in which they were made. -/
structure LogFiles where
  entries : List (LogPath × LogEntry) := []
  deriving DecidableEq, Repr

namespace LogFiles

/-! ## Paths -/

/-- The path that a text stands for. Empty names and single dots say nothing. -/
def pathOf (text : String) : LogPath :=
  (text.splitOn "/").filter fun name => name ≠ "" && name ≠ "."

def filePath (directory name : String) : LogPath := pathOf directory ++ pathOf (name ++ ".log")

def greatestName : Nat := 255

def stepBack : String := ".."

/-- What stands at a path without steps back. -/
def entry? (fs : LogFiles) (path : LogPath) : Option LogEntry :=
  if path = [] then some .folder else fs.entries.lookup path

/-- What stands under a name in a folder, if the name can be one. -/
def named? (fs : LogFiles) (folder : LogPath) (name : String) : Except Fault (Option LogEntry) :=
  if greatestName < name.utf8ByteSize then .error (.plain .longName)
  else .ok (fs.entry? (folder ++ [name]))

def step (fs : LogFiles) (folder : LogPath) (name : String) : Except Fault LogPath :=
  if name = stepBack then .ok folder.dropLast
  else do
    match ← fs.named? folder name with
    | some .folder => return folder ++ [name]
    | some (.file _) => throw (.plain .notFolder)
    | none => throw (.plain .noFile)

/-- The folder that a path leads to, without steps back. -/
def walk (fs : LogFiles) (path : LogPath) : Except Fault LogPath := path.foldlM fs.step []

/-- Fails if a path holds a character that no name can hold. -/
def requireNames (path : LogPath) : Except Fault Unit :=
  if path.any fun name => name.toList.contains '\x00' then .error (.plain .value) else .ok ()

/-! ## Folders -/

/-- The files with a folder made in a folder that is there; a folder that is there stays. -/
def makeFolder (fs : LogFiles) (path : LogPath) : Except Fault LogFiles :=
  match path.getLast? with
  | none => .ok fs
  | some name => do
    let above ← fs.walk path.dropLast
    if name = stepBack then return fs
    match ← fs.named? above name with
    | some .folder => return fs
    | some (.file _) => throw (.plain .occupied)
    | none => return { entries := fs.entries ++ [(above ++ [name], .folder)] }

/-- The files with a folder made, after those above it if need be. The path has its last name
first. -/
def makeFoldersBack (fs : LogFiles) : LogPath → Except Fault LogFiles
  | [] => .ok fs
  | name :: above =>
    match fs.makeFolder (name :: above).reverse with
    | .error (.plain .noFile) => do
      (← fs.makeFoldersBack above).makeFolder (name :: above).reverse
    | result => result

def makeFolders (fs : LogFiles) (path : LogPath) : Except Fault LogFiles := do
  requireNames path
  fs.makeFoldersBack path.reverse

/-! ## Files -/

/-- The folder and the name that a path ends in. -/
def locate (fs : LogFiles) (path : LogPath) : Except Fault (LogPath × Option LogEntry) := do
  requireNames path
  let name := path.getLast?.getD ""
  let folder ← fs.walk path.dropLast
  return (folder ++ [name], ← fs.named? folder name)

/-- Opens a log file, and gives the path by which it is written. -/
def openFile (fs : LogFiles) (path : LogPath) : Except Fault (LogFiles × LogPath) := do
  match ← fs.locate path with
  | (_, some .folder) => throw (.plain .folder)
  | (place, some (.file _)) => return (fs, place)
  | (place, none) => return ({ entries := fs.entries ++ [(place, .file [])] }, place)

def records (fs : LogFiles) (path : LogPath) : Except Fault (List LogRecord) := do
  match ← fs.locate path with
  | (_, some .folder) => throw (.plain .folder)
  | (_, some (.file records)) => return records
  | (_, none) => throw (.plain .noFile)

def append (fs : LogFiles) (place : LogPath) (r : LogRecord) : LogFiles where
  entries := fs.entries.map fun e =>
    match e with
    | (path, .file records) => if path = place then (path, .file (records ++ [r])) else e
    | e => e

end LogFiles

end DeviceTrust
