import GraphicsBuffers.AllocationTest.Outcome
/-!
# The allocation test as a command

Runs the allocation test on a machine with one card.
-/

namespace GraphicsBuffers.AllocationTest

/-- A machine with a single card. -/
def machine : World where
  cards := [{ driver := "vkms".toUTF8.toList }]

/-- Prints what a run prints. -/
def Outcome.print (o : Outcome) : IO Unit := do
  (← IO.getStdout).putStr o.output
  (← IO.getStderr).putStr o.errors

end GraphicsBuffers.AllocationTest

/-- Runs the allocation test with the arguments of the process. -/
def main (arguments : List String) : IO UInt32 := do
  let outcome :=
    GraphicsBuffers.AllocationTest.execute GraphicsBuffers.AllocationTest.machine arguments
  outcome.print
  return outcome.status
