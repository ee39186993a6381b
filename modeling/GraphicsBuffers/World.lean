import GraphicsBuffers.Process
/-!
# Worlds

What a process finds when it starts: the card nodes, the list of framebuffers, memory objects that
other processes allocated, and dma-bufs that it was handed.
-/

namespace GraphicsBuffers

/-- A memory object of another process, with its global name. -/
structure ForeignObject where
  name : UInt32
  size : UInt64
  deriving DecidableEq

/-- The surroundings of a process. -/
structure World where
  cards : List CardNode := []
  procFb : Except Errno Wire.Bytes := .error .ENOENT
  objects : List ForeignObject := []
  dmabufs : List DmaBuf := []
  /-- The first global name to be given out. -/
  nextName : UInt32 := 1

namespace World

/-- The kernel with the object of another process added. -/
def addForeign (k : Kernel) (o : ForeignObject) : Kernel :=
  { k with
    objects := k.objects ++ [{ size := o.size, foreign := true, name := o.name }]
    names := k.names.insert o.name k.objects.length }

/-- The kernel at the start. -/
def kernel (w : World) : Kernel :=
  w.objects.foldl addForeign
    { cards := w.cards, procFb := w.procFb, dmabufs := w.dmabufs, nextName := w.nextName }

/-- A process at the start, with a script for the scripted backend. -/
def process (w : World) (script : Script) : Process := { host := { kernel := w.kernel, script } }

end World

end GraphicsBuffers
