import DeviceTrust.Fault
import DeviceTrust.Logging.Level
import DeviceTrust.Text.Integer
import DeviceTrust.Text.LetterCase

/-!
# Log settings

Settings come from named texts, such as environment variables: a level, as a number or a name in
any letter case, a directory for log files, and whether to write to the console. A text that is no
level is a fault if the caller is strict; otherwise it is warned about and the default stays.
-/

set_option autoImplicit false

namespace DeviceTrust

structure LogSettings where
  /-- The least level of a record that is written. -/
  level : Level := Level.warning
  /-- The directory of log files, if they are written. -/
  directory? : Option String := none
  /-- Whether records are written to the console. -/
  console : Bool := false
  /-- The form of a record. -/
  form : String := "[%(asctime)s] [%(name)s] [%(levelname)s] %(message)s"
  /-- The form of a point in time. -/
  dateForm : String := "%Y-%m-%d %H:%M:%S"
  deriving DecidableEq, Repr

namespace LogSettings

/-- The variable that holds the level. -/
def levelVariable : String := "PROVISIONING_LOG_LEVEL"

def directoryVariable : String := "PROVISIONING_LOG_DIR"

def consoleVariable : String := "PROVISIONING_LOG_CONSOLE"

/-- The texts that turn console output on, in small letters. -/
def affirmative : List String := ["1", "true", "yes"]

/-- Whether a text consists of digits, and so is read as a number. -/
def isNumber (text : String) : Bool := text ≠ "" && text.all Text.isDigit

def levelWarning (text : String) : String :=
  s!"Unknown log level {Text.quoted text} in {levelVariable}, using {Level.name Level.warning}"

def readLevel (text : String) (strict : Bool) : Except Fault (Level × List String) :=
  if text = "" then .ok (Level.warning, [])
  else if isNumber text then
    match Text.integer text.toList with
    | .ok n => .ok (n, [])
    | .error .malformed => .error (.notNumeral (Text.quoted text))
    | .error .tooLong => .error (.plain .value)
  else match Level.ofName? (Text.upper text) with
    | some level => .ok (level, [])
    | none =>
      if strict then .error (.unknownLevelSetting text)
      else .ok (Level.warning, [levelWarning text])

/-- **The settings in named texts**, with the warnings about them. A text that is not there, or is
empty, keeps the default. -/
def load (texts : List (String × String)) (strict : Bool) :
    Except Fault (LogSettings × List String) := do
  let value (name : String) : String := (texts.lookup name).getD ""
  let (level, warnings) ← readLevel (value levelVariable) strict
  let directory := value directoryVariable
  return ({ level := level
            directory? := if directory = "" then none else some directory
            console := affirmative.contains (Text.lower (value consoleVariable)) }, warnings)

end LogSettings

end DeviceTrust
