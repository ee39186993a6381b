import GraphicsBuffers.AllocationTest.Run
/-!
# The outcome of the allocation test

How the program ends: the status it exits with, what it prints, and the calls it made. A failure is
printed as its message, followed by what it was caused by.
-/

namespace GraphicsBuffers.AllocationTest

namespace Failure

/-- What is printed of the failure itself. -/
def message : Failure → String
  | initialization _ => "failed to initialize device"
  | allocator e => e.message
  | notMapped => "buffer was not mapped"
  | wrongContents byte => "read back " ++ toString byte.toNat ++ " from the last line"
  | fault => "access outside of mapped memory"

/-- The texts of what lies below, outermost first. -/
def causes : Failure → List String
  | initialization e => e.message :: e.causes
  | allocator e => e.causes
  | notMapped | wrongContents _ | fault => []

end Failure

/-! ## Printing failures -/

/-- A text with `indent` in front of every line but the first. -/
def indented (indent text : String) : String :=
  String.join (text.toList.map fun c => if c = '\n' then "\n" ++ indent else c.toString)

/-- A numbered cause. -/
def numberedCause (n : Nat) (text : String) : String :=
  let number := toString n
  String.ofList (List.replicate (5 - number.length) ' ') ++ number ++ ": " ++
    indented "       " text ++ "\n"

/-- The causes of a failure; several are numbered from 0. -/
def causesText : List String → String
  | [] => ""
  | [cause] => "\nCaused by:\n    " ++ indented "    " cause ++ "\n"
  | causes =>
    "\nCaused by:\n" ++ String.join (causes.zipIdx.map fun (cause, n) => numberedCause n cause)

/-- What is printed of a failure. -/
def failureText (message : String) (causes : List String) : String :=
  "Error: " ++ message ++ "\n" ++ causesText causes

/-! ## The whole program -/

/-- How the program ends. -/
structure Outcome where
  /-- The status the program exits with. -/
  status : UInt32
  /-- What is printed to standard output. -/
  output : String := ""
  /-- What is printed to standard error. -/
  errors : String := ""
  /-- The calls of the process, in order. -/
  calls : List String := []

/-- The outcome of a run, and the process after it. -/
def outcomeOf (outcome : Except Failure Unit) (p : Process) : Outcome :=
  let calls := p.host.kernel.trace.reverse.map TraceEntry.text
  match outcome with
  | .ok _ => { status := 0, output := "Buffer test passed\n", calls }
  -- The status of a process that is killed for its access.
  | .error .fault => { status := 139, calls }
  | .error e => { status := 1, errors := failureText e.message e.causes, calls }

/-- The process the program is: it is only watched where it deals with card nodes. -/
def process (world : World) : Process :=
  let p := world.process {}
  { p with host := { p.host with kernel := { p.host.kernel with recordsOtherPaths := false } } }

/-- Runs the program with its arguments in a world. -/
def execute (world : World) (arguments : List String) : Outcome :=
  match Arguments.parse arguments with
  | .error .help => { status := 0, output := help }
  | .error .misuse => { status := 2, errors := "error: invalid arguments\n\n" ++ help }
  | .ok a =>
    match a.settings with
    | .error e => { status := 1, errors := failureText e.message [] }
    | .ok s =>
      let (outcome, p) := (run s).run (process world)
      outcomeOf outcome p

end GraphicsBuffers.AllocationTest
