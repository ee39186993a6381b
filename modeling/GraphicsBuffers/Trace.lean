import GraphicsBuffers.Descriptor
import GraphicsBuffers.Errno
import GraphicsBuffers.Region
import GraphicsBuffers.Wire.Request
/-!
# The trace of calls

Everything the allocator asks of the outside is recorded as an entry: a call to the kernel with
what came of it, or a call of the scripted backend. An entry is data; `TraceEntry.text` is the one
place where it becomes a line.
-/

namespace GraphicsBuffers

open Wire

/-- The file that lists the framebuffers. -/
def procFbPath : String := "/proc/fb"

/-- A call to the kernel. -/
inductive Call
  /-- Opens a card node for reading and writing. -/
  | openCard (path : String)
  /-- Opens the list of framebuffers. -/
  | openProcFb
  | close (fd : Int32)
  /-- Asks for the flags of a file descriptor. -/
  | descriptorFlags (fd : Int32)
  /-- Seeks to the end of a file. -/
  | seekEnd (fd : Int32)
  | map (fd : Int32) (offset length : UInt64) (writable : Bool)
  | unmap (mapping : Nat) (length : UInt64)
  | control (fd : Int32) (request : Request) (argument : Bytes)
  deriving DecidableEq

/-- What a successful call answers. -/
inductive Answer
  | number (n : Int)
  | mapping (id : Nat)
  | reply (bytes : Bytes)
  deriving DecidableEq

/-- A call of the scripted backend. -/
inductive BackendCall
  | allocate (d : Descriptor)
  | map (handle : UInt32) (region : Region) (write : Bool)
  | unmap (handle : UInt32)
  | free (handle : UInt32) (maps : UInt32)
  deriving DecidableEq

/-- One recorded call. -/
inductive TraceEntry
  | kernel (call : Call) (outcome : Except Errno Answer)
  | backend (call : BackendCall)

/-! ## Text -/

/-- The memory of a descriptor as compact JSON. -/
def MemoryRef.jsonText : Option MemoryRef → String
  | none => "null"
  | some (.name n) => "\x7b\"name\":" ++ toString n.toNat ++ "\x7d"
  | some (.prime fd) => "\x7b\"prime\":" ++ toString fd.toInt ++ "\x7d"

/-- A descriptor as compact JSON, its fields in alphabetical order. -/
def Descriptor.jsonText (d : Descriptor) : String :=
  "\x7b\"format\":" ++ toString d.format.raw.toInt ++ ",\"h\":" ++ toString d.height.toNat
    ++ ",\"mem\":" ++ MemoryRef.jsonText d.memory ++ ",\"planar\":" ++ toString d.planarHeight.toNat
    ++ ",\"stride\":" ++ toString d.stride.toNat ++ ",\"usage\":" ++ toString d.usage.bits.toNat
    ++ ",\"w\":" ++ toString d.width.toNat ++ "\x7d"

namespace Call

/-- The call and its arguments. -/
def text : Call → String
  | openCard path => "open " ++ path ++ " 0x80002"
  | openProcFb => "open " ++ procFbPath
  | close fd => "close " ++ toString fd.toInt
  | descriptorFlags fd => "fcntl " ++ toString fd.toInt ++ " 1"
  | seekEnd fd => "lseek " ++ toString fd.toInt ++ " 0 2"
  | map fd offset length writable =>
    "mmap " ++ toString fd.toInt ++ " " ++ toString offset.toNat ++ " " ++ toString length.toNat
      ++ (if writable then " 3 1" else " 1 1")
  | unmap mapping length => "munmap m" ++ toString mapping ++ " " ++ toString length.toNat
  | control fd request argument =>
    "ioctl " ++ toString fd.toInt ++ " " ++ request.name ++ " " ++ request.codeText ++ " "
      ++ Text.hexBytes argument

end Call

/-- The answer, structures in hexadecimal. -/
def Answer.text : Answer → String
  | number n => toString n
  | mapping id => "m" ++ toString id
  | reply bytes => Text.hexBytes bytes

/-- The call and its arguments. These calls show no outcome. -/
def BackendCall.text : BackendCall → String
  | allocate d => "mock.allocate " ++ d.jsonText
  | map handle region write =>
    "mock.map " ++ toString handle.toNat ++ " " ++ region.text ++ " " ++ toString write
  | unmap handle => "mock.unmap " ++ toString handle.toNat
  | free handle maps => "mock.free " ++ toString handle.toNat ++ " maps " ++ toString maps.toNat

/-- The line of an entry. Opening the list of framebuffers shows no outcome. -/
def TraceEntry.text : TraceEntry → String
  | kernel .openProcFb _ => Call.openProcFb.text
  | kernel call (.ok answer) => call.text ++ " = " ++ answer.text
  | kernel call (.error e) => call.text ++ " = E" ++ toString e.code.toInt
  | backend call => call.text

end GraphicsBuffers
