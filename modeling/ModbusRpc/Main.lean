import ModbusRpc.Gateway.App
import Std.Time

/-! # Command line

The settings come from the environment. Each line of the standard input is the body of a call, and
each answer is a line of the standard output; the log goes to the standard error. The device on the
link is the pattern device.
-/

namespace ModbusRpc.Main

def timeFormat : String := "uuuu-MM-dd HH:mm:ss"

def writeLog (log : Log) (records : List LogRecord) : IO Unit := do
  let now ← Std.Time.PlainDateTime.now
  let time := now.format timeFormat
  let stderr ← IO.getStderr
  for r in records do
    stderr.putStr (log.line time r).shown

def environment : IO (List (Text × Text)) :=
  Settings.names.filterMapM fun name => do
    let key := Settings.environmentMark ++ name.toUpper
    return (← IO.getEnv key).map fun value => (key, value)

def writeContent (output : IO.FS.Stream) : Http.Content → IO Unit
  | .json v => output.putStrLn v.write
  | .plain s => output.putStrLn s
  | .none => output.putStrLn ""

def run {α : Type} (log : Log) (activity : Activity Request α) (l : Link) : IO (α × Link) := do
  let r := activity l
  writeLog log r.logs
  return (r.value, r.link)

partial def serve (log : Log) (a : App) (l : Link) : IO Unit := do
  let line ← (← IO.getStdin).getLine
  if line.isEmpty then
    let _ ← run log a.stop l
  else
    let request : Http.Request := { method := "POST", path := "/rpc", body := line.toUTF8.toList }
    let (response, l) ← run log (a.respond Device.pattern request) l
    let output ← IO.getStdout
    writeContent output response.content
    output.flush
    serve log a l

def issueLine (i : Issue) : String :=
  String.intercalate "." (i.location.map Text.shown) ++ ": " ++ i.flaw.message

def refuse (lines : List String) : IO UInt32 := do
  let stderr ← IO.getStderr
  for line in lines do
    stderr.putStrLn line
  return 1

def start : IO UInt32 := do
  match Settings.load { environment := ← environment } with
  | .error issues => refuse (issues.map issueLine)
  | .ok s =>
    match App.start {} s with
    | (_, .error fault) => refuse [fault.message]
    | (log, .ok (a, logs)) =>
      writeLog log logs
      serve log a {}
      return 0

end ModbusRpc.Main

def main : IO UInt32 := ModbusRpc.Main.start
