import BlockExtent.Extent
import BlockExtent.SystemError

/-!
# Lines that the command prints about a path

A path is shown as text, with a replacement character for each part that is none. Nothing in it is
escaped, so only the end of a line is certain to be the command's own.
-/

namespace BlockExtent.Line

/-- The line on the extent of the object at a path. -/
def plain (path : Bytes) (kind : DeviceKind) (length : UInt64) : String :=
  Utf8.lossy path ++ ": " ++ kind.text ++ ", " ++ Numeral.decimal length.toNat ++ " bytes"

/-- The line on the two integers that stand for kind and length. -/
def raw (path : Bytes) (kind length : Int) : String :=
  Utf8.lossy path ++ "\t" ++ Numeral.integer kind ++ "\t" ++ Numeral.integer length

/-- The line on a failure to inspect a path. -/
def failure (path : Bytes) (error : SystemError) : String :=
  Utf8.lossy path ++ ": " ++ error.text

/-- The length once more, in decimal and hexadecimal. -/
def length (n : UInt64) : String :=
  "Length: " ++ Numeral.decimal n.toNat ++ " (0x" ++ Numeral.hexadecimal n.toNat ++ ")"

/-- The remark that a length is a status size. -/
def fallback : String :=
  "(Size request failed, length taken from fstat)"

/-- The line on the device on which a file lies. -/
def backing : Except SystemError String → String
  | .ok device => "Backing block device: " ++ device
  | .error e => "Backing block device: (unable to resolve: " ++ e.text ++ ")"

end BlockExtent.Line
