import BlockExtent.Kernel.FileObject

/-!
# The state of the kernel

The kernel holds objects, the paths linked to them, and a table of open descriptors. A descriptor
refers to the object and not to its path, so an object outlives the removal of its path.

## Implementation notes

An object is known by its place in the list of objects, which only grows. Opening puts the new
descriptor in front of the table and closing drops its entry, so opening a path and closing the
descriptor again gives back the very same table.
-/

namespace BlockExtent

/-- Objects, paths and descriptors, and who asks. -/
structure Kernel where
  objects : List FileObject := []
  /-- The paths, each with the place of its object. -/
  paths : List (Bytes × Nat) := []
  /-- The open descriptors, each with the place of its object. -/
  descriptors : List (Int × Nat) := []
  /-- The lowest number that a descriptor may get. -/
  firstDescriptor : Nat := 3
  /-- The number below which every descriptor lies. -/
  descriptorLimit : Nat := 4096
  user : Nat := 0
  effectiveUser : Nat := 0
  deriving DecidableEq

namespace Kernel

/-- The place of the object linked at a path. -/
def place? (kernel : Kernel) (path : Bytes) : Option Nat :=
  kernel.paths.lookup path

/-- The object linked at a path. -/
def named? (kernel : Kernel) (path : Bytes) : Option FileObject :=
  (kernel.place? path).bind (kernel.objects[·]?)

/-- The object behind an open descriptor. -/
def behind? (kernel : Kernel) (descriptor : Int) : Option FileObject :=
  (kernel.descriptors.lookup descriptor).bind (kernel.objects[·]?)

/-- Whether a number is taken by an open descriptor. -/
def isOpen (kernel : Kernel) (descriptor : Int) : Bool :=
  (kernel.descriptors.lookup descriptor).isSome

/-- The first number from `candidate` on that is not taken, among the next `count` ones. -/
def firstFree (taken : Int → Bool) : (count candidate : Nat) → Option Int
  | 0, _ => none
  | count + 1, candidate =>
      if taken candidate then firstFree taken count (candidate + 1) else some candidate

/-- The number that the next descriptor gets. -/
def freeDescriptor? (kernel : Kernel) : Option Int :=
  firstFree kernel.isOpen (kernel.descriptorLimit - kernel.firstDescriptor)
    kernel.firstDescriptor

/-- Put another object in a place. -/
def replaceObject (kernel : Kernel) (place : Nat) (object : FileObject) : Kernel :=
  { kernel with objects := kernel.objects.set place object }

/-- Give an object the lowest free descriptor. -/
def allocate (kernel : Kernel) (place : Nat) : Except Errno Int × Kernel :=
  match kernel.freeDescriptor? with
  | none => (.error .tooManyOpenFiles, kernel)
  | some n => (.ok n, { kernel with descriptors := (n, place) :: kernel.descriptors })

/-- One attempt to open a path. An unknown path is refused first, then come the interruptions,
then the failure of the object itself, then a full table. -/
def attemptOpen (kernel : Kernel) (path : Bytes) : Except Errno Int × Kernel :=
  match kernel.place? path with
  | none => (.error .noSuchFile, kernel)
  | some place =>
      match kernel.objects[place]? with
      | none => (.error .noSuchFile, kernel)
      | some object =>
          if object.interruptions = 0 then
            match object.openFailure with
            | some e => (.error e, kernel)
            | none => kernel.allocate place
          else (.error .interrupted, kernel.replaceObject place object.countDown)

/-- How often opening a path is going to be interrupted. -/
def interruptionsAt (kernel : Kernel) (path : Bytes) : Nat :=
  ((kernel.named? path).map FileObject.interruptions).getD 0

/-- The answer to a status request. -/
def status (kernel : Kernel) (descriptor : Int) : Except Errno FileStatus :=
  match kernel.behind? descriptor with
  | none => .error .badDescriptor
  | some object => object.status

/-- The answer to a size request. -/
def sizeReply (kernel : Kernel) (descriptor : Int) : SizeReply :=
  match kernel.behind? descriptor with
  | none => .refused .badDescriptor
  | some object => object.sizeReply

/-- Give an object a further descriptor. -/
def duplicate (kernel : Kernel) (descriptor : Int) : Except Errno Int × Kernel :=
  match kernel.descriptors.lookup descriptor with
  | none => (.error .badDescriptor, kernel)
  | some place => kernel.allocate place

/-- Take a descriptor out of the table. -/
def release (kernel : Kernel) (descriptor : Int) : Kernel :=
  { kernel with descriptors := kernel.descriptors.filter fun entry => entry.1 ≠ descriptor }

/-- Close a descriptor that is open. -/
def close (kernel : Kernel) (descriptor : Int) : Except Errno Unit × Kernel :=
  if kernel.isOpen descriptor then (.ok (), kernel.release descriptor)
  else (.error .badDescriptor, kernel)

/-- Give the object at a path new properties, or link a new object there. -/
def link (kernel : Kernel) (path : Bytes) (object : FileObject) : Kernel :=
  match kernel.place? path with
  | some place => kernel.replaceObject place object
  | none =>
      { kernel with
        objects := kernel.objects ++ [object]
        paths := (path, kernel.objects.length) :: kernel.paths }

/-- Remove a path; descriptors keep its object. -/
def unlink (kernel : Kernel) (path : Bytes) : Except Errno Unit × Kernel :=
  match kernel.place? path with
  | none => (.error .noSuchFile, kernel)
  | some _ => (.ok (), { kernel with paths := kernel.paths.filter fun entry => entry.1 ≠ path })

/-- The object found by a status request on a path. -/
def statusAt (kernel : Kernel) (path : Bytes) : Except Errno FileObject :=
  match kernel.named? path with
  | none => .error .noSuchFile
  | some object =>
      match object.pathStatusFailure with
      | some e => .error e
      | none => .ok object

/-- Whether a status request on a path succeeds. A path with a null byte names no file. -/
def hasStatus (kernel : Kernel) (path : Bytes) : Bool :=
  !path.contains 0 && (kernel.statusAt path).isOk

/-- A kernel without descriptors that holds the given objects; of two with one path the later
one counts. -/
def ofFiles (files : List (Bytes × FileObject)) : Kernel :=
  files.foldl (fun kernel file => kernel.link file.1 file.2) {}

end Kernel

end BlockExtent
