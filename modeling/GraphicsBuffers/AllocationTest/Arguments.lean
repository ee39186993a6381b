/-!
# Arguments of the allocation test

The program takes the path of a card node and a few options. Arguments are read from the left, and
asking for help, or an argument that cannot be placed, ends the reading. Whether an option came
twice or without its value is decided afterwards.
-/

namespace GraphicsBuffers.AllocationTest

/-- What the program is run with. -/
structure Arguments where
  /-- The path of the card node, if one is given. -/
  device : Option String := none
  /-- Whether to use the card of the first framebuffer. -/
  probe : Bool := false
  frameSize : String := "640x480"
  format : String := "rgba8888"
  /-- Whether to attach the buffer to a framebuffer too. -/
  scanout : Bool := false
  deriving DecidableEq

/-- Why arguments give nothing to run. -/
inductive Declined
  | help
  | misuse
  deriving DecidableEq

/-! ## One argument -/

/-- What an argument is, by the dashes in front of it. A dash alone is plain. -/
inductive Shape
  /-- Two dashes alone: everything that follows is plain. -/
  | separator
  /-- An option, with the value after an equals sign. -/
  | long (name : String) (value : Option String)
  /-- One dash with letters. -/
  | short (first : Char)
  | plain

/-- The text before the first `sep`, and what follows it if it occurs. -/
def splitAt (sep : Char) (text : List Char) : List Char × Option (List Char) :=
  (text.takeWhile (· != sep),
    if text.contains sep then some ((text.dropWhile (· != sep)).drop 1) else none)

/-- The shape of an argument. -/
def shapeOf (argument : String) : Shape :=
  match argument.toList with
  | ['-', '-'] => .separator
  | '-' :: '-' :: text =>
    let (name, value) := splitAt '=' text
    .long (String.ofList name) (value.map String.ofList)
  | '-' :: letter :: _ => .short letter
  | _ => .plain

/-! ## All arguments -/

/-- One thing that was given. -/
inductive Given
  | device (path : String)
  | probe
  | scanout
  | frameSize (value : String)
  | format (value : String)
  /-- An option without its value. -/
  | incomplete
  deriving DecidableEq

/-- Reads arguments that are all plain. `seen` tells whether the device was given before. -/
def readPlain (seen : Bool) : List String → Except Declined (List Given)
  | [] => .ok []
  | [path] => if seen then .error .misuse else .ok [.device path]
  | _ => .error .misuse

/-- What an option that still awaits its value leaves when no value comes. -/
def unanswered (awaiting : Option (String → Given)) : List Given :=
  if awaiting.isSome then [.incomplete] else []

/-- Reads arguments. The value of an option is what follows its equals sign, or the next argument
if that is plain; `awaiting` is the option whose value may come next. -/
def read (seen : Bool) (awaiting : Option (String → Given)) :
    List String → Except Declined (List Given)
  | [] => .ok (unanswered awaiting)
  | argument :: rest =>
    match shapeOf argument, awaiting with
    | .plain, some option => (option argument :: ·) <$> read seen none rest
    | .plain, none =>
      if seen then .error .misuse else (.device argument :: ·) <$> read true none rest
    | .separator, _ => (unanswered awaiting ++ ·) <$> readPlain seen rest
    | .short letter, _ => .error (if letter = 'h' then .help else .misuse)
    | .long name value, _ =>
      (unanswered awaiting ++ ·) <$>
        match name, value with
        | "help", none => .error .help
        | "probe_fb", none => (.probe :: ·) <$> read seen none rest
        | "scanout", none => (.scanout :: ·) <$> read seen none rest
        | "frame_size", some value => (.frameSize value :: ·) <$> read seen none rest
        | "format", some value => (.format value :: ·) <$> read seen none rest
        | "frame_size", none => read seen (some .frameSize) rest
        | "format", none => read seen (some .format) rest
        | _, _ => .error .misuse

/-- The only value of a list; `none` of an empty list. Values that came twice are misuse. -/
def atMostOne {α : Type} : List α → Except Declined (Option α)
  | [] => .ok none
  | [a] => .ok (some a)
  | _ => .error .misuse

/-- The arguments of the program. -/
def Arguments.parse (arguments : List String) : Except Declined Arguments := do
  let given ← read false none arguments
  if given.contains .incomplete then throw .misuse
  let device ← atMostOne (given.filterMap fun | .device path => some path | _ => none)
  let probe ← atMostOne (given.filter (· == .probe))
  let scanout ← atMostOne (given.filter (· == .scanout))
  let frameSize ← atMostOne (given.filterMap fun | .frameSize value => some value | _ => none)
  let format ← atMostOne (given.filterMap fun | .format value => some value | _ => none)
  let defaults : Arguments := {}
  return {
    device
    probe := probe.isSome
    frameSize := frameSize.getD defaults.frameSize
    format := format.getD defaults.format
    scanout := scanout.isSome }

/-- What is printed on a request for help. -/
def help : String :=
  "gralloc allocation test \n\n" ++
  "USAGE:\n" ++
  "    alloc_test [OPTIONS] [device]\n\n" ++
  "ARGS:\n" ++
  "    <device>    Path to the DRM card node\n\n" ++
  "OPTIONS:\n" ++
  "        --format <format>            Pixel format (rgba8888, rgbx8888, bgra8888, rgb565 or nv12)\n" ++
  "                                     [default: rgba8888]\n" ++
  "        --frame_size <frame_size>    Size of the buffer to allocate (e.g. \"640x480\") [default:\n" ++
  "                                     640x480]\n" ++
  "    -h, --help                       Print help information\n" ++
  "        --probe_fb                   Use the card driving the first framebuffer in /proc/fb\n" ++
  "        --scanout                    Also attach the buffer to a scanout framebuffer\n"

end GraphicsBuffers.AllocationTest
