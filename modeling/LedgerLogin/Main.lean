import LedgerLogin.CommandLine.Program
import Std.Time.DateTime.Timestamp

/-!
# The `xidauth` program

Takes the words of the command line to the library and does what the outcome says: answers the
library's questions for files, the log, settings and the time, moves frames between the standard
streams and the bridge, and prints. Requests cannot be sent from here: every node counts as
unreachable, and no address can be listened on.
-/

namespace LedgerLogin.CommandLine

/-- Why no request is sent and no connection taken. -/
def noNetwork : String := "no network"

def attempt {α : Type} (action : IO α) : IO (Except String α) := do
  try return .ok (← action) catch e => return .error (toString e)

def currentTime : IO Int64 := do
  return Int64.ofInt (← Std.Time.Timestamp.now).toSecondsSinceUnixEpoch.toInt

def answer : (q : Need) → IO q.Answer
  | .file path => attempt (IO.FS.readFile path)
  | .log path => attempt do
    let _ ← IO.FS.Handle.mk path .append
  | .setting name => do
    return ((← IO.getEnv name).map .ok).getD (.error "environment variable not found")
  | .clock => currentTime
  | .post _ => return .unreachable noNetwork

def report (r : Result) : IO UInt32 := do
  let output ← IO.getStdout
  output.write ⟨r.output.toArray⟩
  output.flush
  if let some failure := r.failure then
    IO.eprintln s!"xidauth: {failure.message}"
  return r.code

/-- Reads a number of bytes, or all that are left. -/
partial def readBytes (input : IO.FS.Stream) (n : Nat) : IO Bytes := do
  if n = 0 then return []
  let chunk ← input.read n.toUSize
  if chunk.isEmpty then return []
  return chunk.toList ++ (← readBytes input (n - chunk.size))

/-- Reads the next frame, as far as it is there. -/
def readFrame (input : IO.FS.Stream) : IO Bytes := do
  match ← readBytes input 2 with
  | [hi, lo] => return [hi, lo] ++ (← readBytes input (Bridge.signed16 hi lo).toNat)
  | rest => return rest

/-- Answers frames until the input ends or the bridge does. Each answer is written at once. -/
partial def runBridge (service : NodeService) : IO Result := do
  let frame ← readFrame (← IO.getStdin)
  if frame.length < 2 then return { code := 0 }
  let run := (Bridge.run service (← currentTime) frame).via Backend.overHttp
  let result := Result.ofBridge (← run.interpret fun _ => return .unreachable noNetwork)
  if result.code = 0 then
    let _ ← report result
    runBridge service
  else return result

partial def forever : IO Result := do
  IO.sleep 1000
  forever

def runWords (words : List String) : IO UInt32 := do
  match read words with
  | .error stop => do
    if stop = .usage then IO.eprintln helpLine
    report (.ofStop stop)
  | .ok invocation => do
    let finish ← (run invocation).run.interpret answer
    report (← conclude forever runBridge
      (fun _ listen _ => return .failed (bindFailure listen noNetwork)) finish)

end LedgerLogin.CommandLine

def main (words : List String) : IO UInt32 := LedgerLogin.CommandLine.runWords words
