import Moderation.CommandLine.Run

namespace Moderation.CommandLine

/-- A duration with three places in the largest unit of which it has a whole one. -/
def durationText (nanoseconds : Nat) : String :=
  let scaled (unit : Nat) (name : String) : String :=
    String.ofList (Decimal.withPoint (Nat.toDigits 10 (nanoseconds * 1000 / unit)) 3) ++ name
  if nanoseconds < 1000 then toString nanoseconds ++ "ns"
  else if nanoseconds < 1000000 then scaled 1000 "µs"
  else if nanoseconds < 1000000000 then scaled 1000000 "ms"
  else scaled 1000000000 "s"

def decodeText (bytes : ByteArray) : FileText :=
  match String.fromUTF8? bytes with
  | some text => .ok text
  | none => .error .notText

def readTextFile (path : String) : IO FileText := do
  match ← (IO.FS.readBinFile path).toBaseIO with
  | .ok bytes => return decodeText bytes
  | .error _ => return .error .missing

partial def readAll (stream : IO.FS.Stream) (bytes : ByteArray) : IO ByteArray := do
  let more ← stream.read 65536
  if more.isEmpty then return bytes else readAll stream (bytes ++ more)

def readStandardInput : IO (Except String String) := do
  match decodeText (← readAll (← IO.getStdin) .empty) with
  | .ok text => return .ok text
  | .error failure => return .error failure.message

def timedHere {α : Type} (compute : Unit → α) : IO (α × String) := do
  let start ← IO.monoNanosNow
  let value ← IO.lazyPure compute
  let stop ← IO.monoNanosNow
  return (value, durationText (stop - start))

def machine (terminal : Bool) : Machine IO :=
  ⟨terminal, readTextFile, readStandardInput, timedHere⟩

end Moderation.CommandLine

def main (arguments : List String) : IO UInt32 := do
  let terminal ← (← IO.getStdout).isTty
  let result ← Moderation.CommandLine.run (Moderation.CommandLine.machine terminal) arguments
  IO.print result.output
  IO.eprint result.errors
  return result.exitCode.toUInt32
