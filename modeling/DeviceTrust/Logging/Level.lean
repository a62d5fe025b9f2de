/-!
# Log levels

A level is a number, and some numbers have names. A record is kept when its level is at least the
level asked for.
-/

set_option autoImplicit false

namespace DeviceTrust

/-- A log level; a higher one is more severe. -/
abbrev Level := Int

namespace Level

/-- The level that stands for none: a logger without a level of its own. -/
def unset : Level := 0

def debug : Level := 10
def info : Level := 20
def warning : Level := 30
def error : Level := 40
def critical : Level := 50

/-- The names of levels. A level with two names shows the first of them. -/
def names : List (String × Level) :=
  [("CRITICAL", critical), ("FATAL", critical), ("ERROR", error), ("WARNING", warning),
    ("WARN", warning), ("INFO", info), ("DEBUG", debug), ("NOTSET", unset)]

def ofName? (name : String) : Option Level := names.lookup name

/-- The name of a level, or its number if it has no name. -/
def name (level : Level) : String :=
  match names.find? fun p => p.2 == level with
  | some (name, _) => name
  | none => s!"Level {level}"

end Level

end DeviceTrust
