import DeviceTrust.Logging.Files
import DeviceTrust.Logging.Settings

/-!
# Loggers

A logger is configured once under its name and then kept. One that has a console or a file of its
own keeps its records to itself; one that has neither passes them to the nearest logger above it by
name, and in the end to the top logger. The top logger belongs to the host application until it is
configured by its own name. A record is written if its level is at least that of the logger it was
made on, or, if that logger has none, of the nearest one above that has.
-/

set_option autoImplicit false

namespace DeviceTrust

/-- Where a handler writes. -/
inductive Sink where
  | console
  | file (place : LogPath)
  deriving DecidableEq, Repr

/-- Writes the records of at least a level. -/
structure Handler where
  sink : Sink
  level : Level
  deriving DecidableEq, Repr

structure Logger where
  name : String
  level : Level
  /-- Whether records are passed on to the logger above. -/
  propagate : Bool
  handlers : List Handler
  deriving DecidableEq, Repr

/-- How a caller names a level. -/
inductive LevelChoice where
  | number (n : Int)
  | name (s : String)
  /-- Something that is neither a number nor a name. -/
  | unusable
  deriving DecidableEq, Repr

/-- The level that a caller names; a name is in capital letters. -/
def LevelChoice.resolve : LevelChoice → Except Fault Level
  | number n => .ok n
  | name s =>
    match Level.ofName? s with
    | some level => .ok level
    | none => .error (.unknownLevel s)
  | unusable => .error (.plain .type)

/-- Where a record goes: to a sink of the library, or to the host application. -/
inductive Destination where
  | sink (s : Sink)
  | host
  deriving DecidableEq, Repr

/-- All loggers that were ever configured, the names that are kept, and the log files. -/
structure Loggers where
  settings : LogSettings := {}
  configured : List Logger := []
  kept : List String := []
  files : LogFiles := {}

namespace Loggers

/-! ## Configuration -/

/-- The name of the top logger, which the empty name stands for too. -/
def topName : String := "root"

def properName (name : String) : String := if name = "" then topName else name

def find? (s : Loggers) (name : String) : Option Logger :=
  s.configured.find? fun l => l.name == properName name

/-- A new logger with the given sinks; all its handlers have its level. -/
def newLogger (name : String) (level : Level) (sinks : List Sink) : Logger :=
  ⟨properName name, level, sinks.isEmpty, sinks.map fun sink => ⟨sink, level⟩⟩

/-- The loggers with one more, which replaces another one of its name. -/
def store (s : Loggers) (l : Logger) : Loggers :=
  if (s.find? l.name).isSome then
    { s with configured := s.configured.map fun m => if m.name == l.name then l else m }
  else { s with configured := s.configured ++ [l] }

def configure (s : Loggers) (name : String) (level : Level) (sinks : List Sink) : Loggers :=
  let stored := s.store (newLogger name level sinks)
  { stored with kept := stored.kept ++ [name] }

/-- The loggers after the file of one could not be opened: it has its level and its other sinks,
still passes on what it passed on before, and is not kept. -/
def abandon (s : Loggers) (name : String) (level : Level) (sinks : List Sink) : Loggers :=
  let propagate := ((s.find? name).map Logger.propagate).getD true
  s.store { newLogger name level sinks with propagate := propagate }

/-- The loggers after a logger with a file in a directory is configured, or could not be. -/
def getWithFile (s : Loggers) (name directory : String) (level : Level) (sinks : List Sink) :
    Loggers × Except Fault Unit :=
  match s.files.makeFolders (LogFiles.pathOf directory) with
  | .error f => (s.abandon name level sinks, .error f)
  | .ok files =>
    let s := { s with files := files }
    match s.files.openFile (LogFiles.filePath directory name) with
    | .error f => (s.abandon name level sinks, .error f)
    | .ok (files, place) =>
      ({ s with files := files }.configure name level (sinks ++ [Sink.file place]), .ok ())

/-- **Gets the logger of a name**, and configures it unless its name is kept. What the caller leaves
out comes from the settings; an empty directory is none. A name that is no level changes
nothing. -/
def get (s : Loggers) (name : String) (level? : Option LevelChoice := none)
    (directory? : Option String := none) (console? : Option Bool := none) :
    Loggers × Except Fault Unit :=
  if s.kept.contains name then (s, .ok ())
  else
    match (level?.map LevelChoice.resolve).getD (.ok s.settings.level) with
    | .error f => (s, .error f)
    | .ok level =>
      let directory := directory?.getD (s.settings.directory?.getD "")
      let sinks := if console?.getD s.settings.console then [Sink.console] else []
      if directory = "" then (s.configure name level sinks, .ok ())
      else s.getWithFile name directory level sinks

def setLevel (s : Loggers) (name : String) (level : LevelChoice) : Except Fault Loggers :=
  match s.find? name with
  | some l =>
    if s.kept.contains name then do
      let level ← level.resolve
      return s.store { l with
        level := level
        handlers := l.handlers.map fun h => { h with level := level } }
    else .ok s
  | none => .ok s

/-- Forgets which loggers are kept; the loggers themselves stay as they are. -/
def clear (s : Loggers) : Loggers := { s with kept := [] }

/-! ## Records -/

/-- The names above a name, the nearest first: what stands before each of its dots. A dot at the
front, or right before the dot that was used last, does not count. -/
def namesAbove (name : String) : List String :=
  let cs := name.toList
  let step (found : List Nat) (i : Nat) : List Nat :=
    if cs[i]? = some '.' && i > 0 && (found.getLast?.all fun j => i + 1 < j) then found ++ [i]
    else found
  ((List.range cs.length).reverse.foldl step []).map fun i => String.ofList (cs.take i)

/-- The configured loggers above a name, the nearest first. The top logger is above all others, and
no part of a name stands for it. -/
def above (s : Loggers) (name : String) : List Logger :=
  if name = topName then []
  else ((namesAbove name).filter (· ≠ topName)).filterMap s.find? ++ (s.find? topName).toList

/-- Whether the top logger still belongs to the host application. -/
def hostListens (s : Loggers) : Bool := (s.find? topName).isNone

/-- The level that decides for a logger: its own, the nearest one above it, or the host's. -/
def effectiveLevel (s : Loggers) (l : Logger) : Level :=
  match (l :: s.above l.name).find? fun m => m.level ≠ Level.unset with
  | some m => m.level
  | none => if s.hostListens then Level.warning else Level.unset

/-- Where a record goes from the given loggers on upwards, and past the last of them. -/
def destinations (level : Level) (beyond : List Destination) : List Logger → List Destination
  | [] => beyond
  | l :: rest =>
    (l.handlers.filter fun h => decide (h.level ≤ level)).map (fun h => .sink h.sink)
      ++ (if l.propagate then destinations level beyond rest else [])

/-- Where a record of a level goes that is made on a logger. Levels up to zero are never
written. -/
def destinationsOf (s : Loggers) (l : Logger) (level : Level) : List Destination :=
  if 0 < level && s.effectiveLevel l ≤ level then
    destinations level (if s.hostListens then [.host] else []) (l :: s.above l.name)
  else []

def write (r : LogRecord) (s : Loggers) (d : Destination) : Loggers :=
  match d with
  | .sink (.file place) => { s with files := s.files.append place r }
  | _ => s

def log (s : Loggers) (l : Logger) (level : Level) (message : String) :
    Loggers × LogRecord × List Destination :=
  let r : LogRecord := ⟨level, l.name, message⟩
  let ds := s.destinationsOf l level
  (ds.foldl (write r) s, r, ds)

def line (time : String) (r : LogRecord) : String :=
  s!"[{time}] [{r.logger}] [{Level.name r.level}] {r.message}\n"

/-- A text in which every line break is one line feed. -/
def withLineFeeds (text : String) : String :=
  (text.replace "\r\n" "\n").replace "\r" "\n"

def fileText (s : Loggers) (directory name time : String) : Except Fault String := do
  let records ← s.files.records (LogFiles.filePath directory name)
  return withLineFeeds (String.join (records.map (line time)))

end Loggers

end DeviceTrust
