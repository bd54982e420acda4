import ModbusRpc.Log.Record

/-! # Setting up the log

The log is set up once, with the name of the least severity that is written. A name that is unknown
stands for the default. Later attempts to set it up change nothing.
-/

namespace ModbusRpc

/-- A character in upper case, if it is ASCII there. All other characters have something there that
is not ASCII, so they may stay as they are when only ASCII names are looked up. -/
def upperCase (c : Char) : List Char :=
  match c with
  | 'ß' => ['S', 'S']
  | 'ı' => ['I']
  | 'ſ' => ['S']
  | 'ﬀ' => ['F', 'F']
  | 'ﬁ' => ['F', 'I']
  | 'ﬂ' => ['F', 'L']
  | 'ﬃ' => ['F', 'F', 'I']
  | 'ﬄ' => ['F', 'F', 'L']
  | 'ﬅ' => ['S', 'T']
  | 'ﬆ' => ['S', 'T']
  | c => [c.toUpper]

def upperText (s : String) : String := String.ofList (s.toList.flatMap upperCase)

/-- A name that is taken, but not by a level. -/
inductive LevelFault where
  | layout
  | styles
  deriving DecidableEq, Repr

def LevelFault.message : LevelFault → String
  | layout => "Unknown level: '%(levelname)s:%(name)s:%(message)s'"
  | styles =>
    "Level not an integer or a valid string: \x7b'%': (<class 'logging.PercentStyle'>, " ++
      "'%(levelname)s:%(name)s:%(message)s'), '\x7b': (<class 'logging.StrFormatStyle'>, " ++
      "'\x7blevelname\x7d:\x7bname\x7d:\x7bmessage\x7d'), '$': (<class " ++
      "'logging.StringTemplateStyle'>, '$\x7blevelname\x7d:$\x7bname\x7d:$\x7bmessage\x7d')\x7d"

def defaultThreshold : Nat := Severity.info.number

/-- The names of levels, with two that have a second name and one below all severities. -/
def levelNames : List (String × Nat) := [
  ("DEBUG", 10), ("INFO", 20), ("WARNING", 30), ("WARN", 30), ("ERROR", 40), ("CRITICAL", 50),
  ("FATAL", 50), ("NOTSET", 0)]

def levelThreshold (level : Text) : Except LevelFault Nat :=
  let name := (level.toString?.map upperText).getD ""
  if name = "BASIC_FORMAT" then .error .layout
  else if name = "_STYLES" then .error .styles
  else .ok ((levelNames.lookup name).getD defaultThreshold)

structure Log where
  ready : Bool := false
  threshold : Nat := defaultThreshold
  deriving DecidableEq, Repr

namespace Log

/-- Sets up a log at a named level. The log is ready even if the name is refused. -/
def setup (l : Log) (level : Text) : Log × Except LevelFault Unit :=
  if l.ready then (l, .ok ())
  else
    match levelThreshold level with
    | .ok n => (⟨true, n⟩, .ok ())
    | .error fault => (⟨true, l.threshold⟩, .error fault)

def admits (l : Log) (severity : Severity) : Bool := l.threshold ≤ severity.number

/-- The text that a record adds to the log. Before the log is set up, warnings and worse are written
without their circumstances. -/
def line (l : Log) (time : String) (r : LogRecord) : Text :=
  if !l.admits r.severity then ""
  else if l.ready then
    time ++ " [" ++ r.severity.name ++ "] " ++ r.component.name ++ ": " ++ r.message ++ "\n"
  else if Severity.warning.number ≤ r.severity.number then r.message ++ "\n"
  else ""

end Log

end ModbusRpc
