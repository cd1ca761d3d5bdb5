import Multimethod.CommandLine

/-!
The program: reads files and standard input for the command line, and prints what it says.
-/
namespace Multimethod.CommandLine

/-- Why the system refused, with the number that it gives. The number may come negated, and the words
without a capital. -/
def reason (error : IO.Error) : String :=
  let coded (words : String) (code : UInt32) : String :=
    Files.withCode words.capitalize (if code < 0x80000000 then code else 0 - code).toNat
  match error with
  | .noFileOrDirectory _ _ _ => Files.Refusal.notFound.message
  | .invalidArgument _ code words =>
    if words = "name too long" then Files.Refusal.nameTooLong.message else coded words code
  | .inappropriateType _ code words => coded words code
  | .permissionDenied _ code words => coded words code
  | .resourceExhausted _ code words => coded words code
  | other => toString other

/-- The text of bytes that an action reads, or the reason why there is none. -/
def attempt (action : IO ByteArray) : IO (Except String String) := do
  try
    match String.fromUTF8? (← action) with
    | some text => return .ok text
    | none => return .error "stream did not contain valid UTF-8"
  catch error => return .error (reason error)

/-- All bytes of a stream, read in blocks. -/
partial def drain (stream : IO.FS.Stream) (soFar : ByteArray) : IO ByteArray := do
  let block ← stream.read 65536
  if block.isEmpty then return soFar else drain stream (soFar ++ block)

/-- The console of the process. -/
def console : Console IO where
  file path := attempt (IO.FS.readBinFile path)
  input := attempt do drain (← IO.getStdin) .empty

/-- Prints a result and gives its status. -/
def Result.print (result : Result) : IO UInt32 := do
  result.log.forM IO.eprintln
  result.lines.forM IO.println
  if let some failure := result.failure then
    IO.eprintln ("Error: " ++ failure.context ++ "\n\nCaused by:\n    " ++ failure.cause)
  return result.status.toUInt32

end Multimethod.CommandLine

/-- Runs the program. Arguments that make no sense end it with status two. -/
def main (args : List String) : IO UInt32 := do
  match ← Multimethod.CommandLine.run Multimethod.CommandLine.console args with
  | some result => result.print
  | none =>
    IO.eprintln "usage: (resolve TABLE [ARGS_JSON] [-e] | tags | config) [-v]"
    return 2
