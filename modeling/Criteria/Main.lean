import Criteria.Service.CommandLine

/-!
# The program

The command line over the files and the standard streams of the operating
system.
-/

namespace Criteria

/-- What stands for an error met while a file is opened. -/
def Stored.ofError : IO.Error → Stored
  | .noFileOrDirectory _ _ _ => .missing
  | .inappropriateType _ _ _ => .directory
  | _ => .inaccessible

/-- All bytes that a stream still gives. -/
partial def readStream (stream : IO.FS.Stream) (read : ByteArray) :
    IO ByteArray := do
  let chunk ← stream.read 65536
  if chunk.isEmpty then return read else readStream stream (read ++ chunk)

/-- The files and the standard input of the operating system. -/
def systemEnvironment : Environment IO where
  find path := do
    try return .file (← IO.FS.readBinFile path).data.toList
    catch error => return .ofError error
  standardInput := do return (← readStream (← IO.getStdin) .empty).data.toList
  create path := do
    try
      IO.FS.writeBinFile path .empty
      return true
    catch _ => return false
  append path bytes := do
    let file ← IO.FS.Handle.mk path .append
    file.write ⟨bytes.toArray⟩

end Criteria

/-- Runs the command line. -/
def main (arguments : List String) : IO UInt32 := do
  let report ← Criteria.systemEnvironment.run arguments
  IO.print report.output
  if let some message := report.message then
    IO.eprintln ("Error: " ++ message)
  return report.exitCode.toUInt32
