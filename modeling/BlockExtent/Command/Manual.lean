/-!
# What the command says about itself
-/

namespace BlockExtent.Manual

/-- Name and version, as the command prints them. -/
def version : String :=
  "blkinspect 0.1.0"

/-- The summary of the command and its arguments. -/
def help : String :=
  String.intercalate "\n" [
    "Classify a file descriptor as block device or regular file and report its byte length",
    "",
    "Usage: blkinspect [OPTIONS] <PATHS>...",
    "",
    "Arguments:",
    "  <PATHS>...  Paths to inspect",
    "",
    "Options:",
    "  -v, --verbose...            Verbose mode (-v, -vv, -vvv)",
    "      --allow-fallback        Use the fstat size when a block device rejects the size request",
    "      --require-block-device  Fail for paths that are not block devices",
    "      --raw                   " ++
      "Print the raw C ABI codes: is_block_device and get_block_device_length",
    "      --escalate              Re-run through sudo when not root",
    "  -h, --help                  Print help",
    "  -V, --version               Print version"]

end BlockExtent.Manual
