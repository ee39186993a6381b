import GraphicsBuffers.Wire.LittleEndian
import GraphicsBuffers.Text.Hex
/-!
# Control requests

Every control request has a name, a number within the display family, a direction and a structure
of fixed size. Its code packs them into one word: direction in the top two bits, then fourteen bits
of size, eight of family and eight of number.
-/

namespace GraphicsBuffers.Wire

/-- The requests the allocator sends. -/
inductive Request
  | version | getMagic | gemClose | gemFlink | gemOpen | authMagic | setMaster | dropMaster
  | primeFdToHandle | getResources | removeFb | createDumb | mapDumb | destroyDumb | addFb2
  deriving DecidableEq

namespace Request

/-- Every request. -/
def all : List Request :=
  [version, getMagic, gemClose, gemFlink, gemOpen, authMagic, setMaster, dropMaster,
   primeFdToHandle, getResources, removeFb, createDumb, mapDumb, destroyDumb, addFb2]

/-- The name the request is shown under. -/
def name : Request → String
  | version => "version"
  | getMagic => "get_magic"
  | gemClose => "gem_close"
  | gemFlink => "gem_flink"
  | gemOpen => "gem_open"
  | authMagic => "auth_magic"
  | setMaster => "set_master"
  | dropMaster => "drop_master"
  | primeFdToHandle => "prime_fd_to_handle"
  | getResources => "mode_getresources"
  | removeFb => "mode_rmfb"
  | createDumb => "create_dumb"
  | mapDumb => "map_dumb"
  | destroyDumb => "destroy_dumb"
  | addFb2 => "mode_addfb2"

/-- The number of the request within the family. -/
def number : Request → UInt32
  | version => 0x00
  | getMagic => 0x02
  | gemClose => 0x09
  | gemFlink => 0x0a
  | gemOpen => 0x0b
  | authMagic => 0x11
  | setMaster => 0x1e
  | dropMaster => 0x1f
  | primeFdToHandle => 0x2e
  | getResources => 0xa0
  | removeFb => 0xaf
  | createDumb => 0xb2
  | mapDumb => 0xb3
  | destroyDumb => 0xb4
  | addFb2 => 0xb8

/-- Which way the structure travels: 1 if the kernel reads it, 2 if it fills it, 3 for both. -/
def direction : Request → UInt32
  | setMaster | dropMaster => 0
  | gemClose | authMagic => 1
  | getMagic => 2
  | version | gemFlink | gemOpen | primeFdToHandle | getResources | removeFb | createDumb | mapDumb
  | destroyDumb | addFb2 => 3

/-- The size of the structure in bytes. -/
def size : Request → UInt32
  | setMaster | dropMaster => 0
  | getMagic | authMagic | removeFb | destroyDumb => 4
  | gemClose | gemFlink => 8
  | primeFdToHandle => 12
  | gemOpen | mapDumb => 16
  | createDumb => 32
  | version | getResources => 64
  | addFb2 => 104

/-- The letter of the display family. -/
def family : UInt32 := 0x64

/-- The code the request is sent with. -/
def code (r : Request) : UInt32 :=
  r.direction <<< 30 ||| r.size <<< 16 ||| family <<< 8 ||| r.number

/-- The size field of a request code. -/
def sizeOfCode (code : UInt32) : UInt32 := (code >>> 16) &&& 0x3fff

/-- The code in hexadecimal. -/
def codeText (r : Request) : String := Text.hex r.code.toNat

end Request

end GraphicsBuffers.Wire
