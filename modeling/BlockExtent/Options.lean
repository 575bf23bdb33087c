/-!
# Options of an inspection
-/

namespace BlockExtent

/-- What an inspection may do and what it demands. Both settings are off unless asked for. -/
structure Options where
  /-- Take the status size when a block device refuses the size request. -/
  allowFallback : Bool := false
  /-- Fail unless the object is a block device. -/
  requireBlockDevice : Bool := false
  deriving DecidableEq, Repr

namespace Options

/-- The options with both settings off. -/
def standard : Options := {}

/-- The options with the fallback allowed or not. -/
def withAllowFallback (options : Options) (allow : Bool) : Options :=
  { options with allowFallback := allow }

/-- The options with a block device required or not. -/
def withRequireBlockDevice (options : Options) (require : Bool) : Options :=
  { options with requireBlockDevice := require }

/-- The options written out for diagnosis. -/
def diagnosis (options : Options) : String :=
  "Options \x7b allow_fallback: " ++ toString options.allowFallback ++
    ", require_block_device: " ++ toString options.requireBlockDevice ++ " \x7d"

end Options

end BlockExtent
