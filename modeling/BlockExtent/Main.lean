import BlockExtent.Command.Run
import BlockExtent.Kernel.Listing

/-!
# The command line

The arguments are those of the command; the kernel that it asks is described by a listing on the
standard input.
-/

namespace BlockExtent

/-- Everything that is left to read from a stream. -/
partial def readAll (stream : IO.FS.Stream) : IO String := do
  let line ← stream.getLine
  if line.isEmpty then return "" else return line ++ (← readAll stream)

end BlockExtent

open BlockExtent in
/-- Run the command on the kernel described on the standard input. -/
def main (arguments : List String) : IO UInt32 := do
  match Listing.kernel? (← readAll (← IO.getStdin)) with
  | none =>
      (← IO.getStderr).putStrLn "error: the listing of objects cannot be read"
      return 2
  | some kernel =>
      let report := Command.run .standard kernel (arguments.map Utf8.encode)
      (← IO.getStdout).putStr (Report.written report.output)
      (← IO.getStderr).putStr (Report.written report.complaints)
      return UInt32.ofNat report.status
