import GraphicsBuffers.Wire.Request
import GraphicsBuffers.Planes
import GraphicsBuffers.Fourcc
/-!
# Exchanges

A control request takes one structure, which carries the arguments to the kernel and its answers
back. An `Exchange` is one such call seen from the caller: the request, the bytes passed with the
arguments in their fields and zeros elsewhere, and how the reply is read. Only the fields the
kernel fills are read, so an answer does not depend on any other byte of the reply.
-/

namespace GraphicsBuffers.Wire

/-- What the kernel answers: the structure as the kernel leaves it, and the bytes copied behind the
structure's pointer, if it has one. -/
structure Reply where
  bytes : Bytes
  copied : Bytes := []
  deriving DecidableEq

/-- One control call: what is sent, and what the reply means. -/
structure Exchange (α : Type) where
  request : Request
  /-- The structure passed. -/
  argument : Bytes
  /-- The answer, read from the reply. -/
  answer : Reply → α

/-! ## Answers with more than one field -/

/-- What the kernel tells of a new dumb buffer. -/
structure DumbBuffer where
  handle : UInt32
  /-- Bytes from one line to the next. -/
  pitch : UInt32
  /-- Bytes of the whole allocation. -/
  size : UInt64
  deriving DecidableEq

/-- An object opened by its global name. -/
structure GemObject where
  handle : UInt32
  size : UInt64
  deriving DecidableEq

/-- The numbers of a driver's version, and the length of its name. -/
structure DriverVersion where
  major : Int32
  minor : Int32
  patch : Int32
  nameLength : UInt64
  deriving DecidableEq

/-- Counts and limits of the display. -/
structure CardResources where
  framebuffers : UInt32 := 0
  crtcs : UInt32 := 1
  connectors : UInt32 := 1
  encoders : UInt32 := 1
  minWidth : UInt32 := 0
  maxWidth : UInt32 := 4096
  minHeight : UInt32 := 0
  maxHeight : UInt32 := 4096
  deriving DecidableEq

/-- The counts and limits in the order of the structure. -/
def CardResources.toList (r : CardResources) : List UInt32 :=
  [r.framebuffers, r.crtcs, r.connectors, r.encoders, r.minWidth, r.maxWidth, r.minHeight,
   r.maxHeight]

/-! ## The exchanges -/

namespace Exchange

/-- Reads the version fields of a reply. -/
def readVersion (reply : Bytes) : DriverVersion :=
  ⟨readInt32 reply 0, readInt32 reply 4, readInt32 reply 8, read64 reply 16⟩

/-- Asks for the version and the length of the driver's name. -/
def version : Exchange DriverVersion where
  request := .version
  argument := zeros 64
  answer reply := readVersion reply.bytes

/-- Asks for the version and the name itself, which is copied into zeroed memory with room for
`length` bytes and one more. The pointer to that memory is written as 1. -/
def versionName (length : UInt64) : Exchange (DriverVersion × Bytes) where
  request := .version
  argument := zeros 16 ++ word64 length ++ word64 1 ++ zeros 32
  answer reply := (readVersion reply.bytes, reply.copied)

/-- Asks for the token another client authenticates us with. -/
def getMagic : Exchange UInt32 where
  request := .getMagic
  argument := zeros 4
  answer reply := read32 reply.bytes 0

/-- Authenticates the client that got `magic`. -/
def authMagic (magic : UInt32) : Exchange Unit where
  request := .authMagic
  argument := word32 magic
  answer _ := ()

/-- Becomes the master of the card. -/
def setMaster : Exchange Unit where
  request := .setMaster
  argument := []
  answer _ := ()

/-- Ceases to be the master of the card. -/
def dropMaster : Exchange Unit where
  request := .dropMaster
  argument := []
  answer _ := ()

/-- Allocates a dumb buffer. -/
def createDumb (width height bpp : UInt32) : Exchange DumbBuffer where
  request := .createDumb
  argument := word32 height ++ word32 width ++ word32 bpp ++ zeros 20
  answer reply := ⟨read32 reply.bytes 16, read32 reply.bytes 20, read64 reply.bytes 24⟩

/-- Asks for the offset at which a buffer is mapped. -/
def mapDumb (handle : UInt32) : Exchange UInt64 where
  request := .mapDumb
  argument := word32 handle ++ zeros 12
  answer reply := read64 reply.bytes 8

/-- Gives back a dumb buffer. -/
def destroyDumb (handle : UInt32) : Exchange Unit where
  request := .destroyDumb
  argument := word32 handle
  answer _ := ()

/-- Gives back a handle. -/
def gemClose (handle : UInt32) : Exchange Unit where
  request := .gemClose
  argument := word32 handle ++ zeros 4
  answer _ := ()

/-- Asks for a global name of a buffer. -/
def gemFlink (handle : UInt32) : Exchange UInt32 where
  request := .gemFlink
  argument := word32 handle ++ zeros 4
  answer reply := read32 reply.bytes 4

/-- Opens the object of a global name. -/
def gemOpen (name : UInt32) : Exchange GemObject where
  request := .gemOpen
  argument := word32 name ++ zeros 12
  answer reply := ⟨read32 reply.bytes 4, read64 reply.bytes 8⟩

/-- Asks for a handle on the memory of a file descriptor. -/
def primeFdToHandle (fd : Int32) : Exchange UInt32 where
  request := .primeFdToHandle
  argument := zeros 8 ++ int32 fd
  answer reply := read32 reply.bytes 0

/-- Asks for the counts and limits of the display. -/
def getResources : Exchange CardResources where
  request := .getResources
  argument := zeros 64
  answer reply :=
    ⟨read32 reply.bytes 32, read32 reply.bytes 36, read32 reply.bytes 40, read32 reply.bytes 44,
     read32 reply.bytes 48, read32 reply.bytes 52, read32 reply.bytes 56, read32 reply.bytes 60⟩

/-- Four words in a row. -/
def words (v : Vector UInt32 4) : Bytes := v.toList.flatMap word32

/-- Creates a framebuffer over the memory of `layout`. -/
def addFb2 (width height : UInt32) (format : Fourcc) (layout : PlaneLayout) : Exchange UInt32 where
  request := .addFb2
  argument := zeros 4 ++ word32 width ++ word32 height ++ word32 format.value ++ zeros 4
    ++ words layout.handles ++ words layout.pitches ++ words layout.offsets ++ zeros 36
  answer reply := read32 reply.bytes 0

/-- Removes a framebuffer. -/
def removeFb (id : UInt32) : Exchange Unit where
  request := .removeFb
  argument := word32 id
  answer _ := ()

end Exchange

end GraphicsBuffers.Wire
