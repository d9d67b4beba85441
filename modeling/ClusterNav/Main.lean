import ClusterNav.Arguments
import ClusterNav.Host.Running
import ClusterNav.Screen
import ClusterNav.Start

/-!
# Command line

A plain front end.  It reads the arguments and the configuration file, then the name of a key from
every line of the input, and writes the screen after each.  An empty line lets time pass until the
next waiting message is due.
-/

namespace ClusterNav
namespace FrontEnd

def width : Nat := 80

def height : Nat := 24

/-- The running host after an effect; nothing after the end.  A message sent back at once is
delivered at once. -/
def settle (r : Running) : Option Effect → Option Running
  | some .quit => none
  | some (.emit _) => some (r.act (.deliver (r.pending.length - 1)))
  | some (.after _ _) | none => some r

/-- What a line of input makes of the running host. -/
def readLine (r : Running) (line : String) : Option Running :=
  if line.isEmpty then
    match r.deliver? 0 with
    | some (next, effect) => settle next effect
    | none => some r
  else
    let (next, effect) := r.handle (.key ⟨line⟩)
    settle next effect

def draw (h : Host) : IO Unit := do
  for row in h.screen width height do
    IO.println row

/-- Reads lines until the input or the program ends. -/
partial def loop (stdin : IO.FS.Stream) (r : Running) : IO Unit := do
  draw r.host
  let line ← stdin.getLine
  if line.isEmpty then return
  match readLine r (String.ofList (line.toList.filter (· != '\n'))) with
  | none => return
  | some next => loop stdin next

/-- What stands under a path. -/
def readEntry (path : String) : IO (Option Config.FileEntry) := do
  try
    return some (.text (← IO.FS.readFile path))
  catch e =>
    match e with
    | .noFileOrDirectory .. => return none
    | _ => return some .unreadable

/-- The configuration of the working directory, or of the file asked for. -/
def loadConfig (explicit : Option String) : IO (Except Config.LoadError Config) := do
  let mut entries : List (String × Config.FileEntry) := []
  for path in explicit.toList ++ Config.fileNames.map (Config.pathIn ".") do
    if let some entry ← readEntry path then
      entries := entries ++ [(path, entry)]
  let found := entries
  return Config.load explicit "." fun path => (found.find? (·.1 == path)).map (·.2)

/-- Says why the program ends. -/
def fail (message : String) : IO UInt32 := do
  IO.eprintln ("podji: " ++ message)
  return 1

/-- Runs the program with the arguments read. -/
def start (a : Arguments) : IO UInt32 := do
  match ← loadConfig a.config with
  | .error e => fail e.message
  | .ok config =>
    match Host.ofConfig .standard (a.applyTo config) with
    | .error e => fail e.message
    | .ok h =>
      loop (← IO.getStdin) (({ host := h : Running }).act (.event (.resize width height)))
      return 0

end FrontEnd
end ClusterNav

def main (args : List String) : IO UInt32 :=
  match ClusterNav.Arguments.parse args with
  | .error _ => ClusterNav.FrontEnd.fail "the arguments cannot be read"
  | .ok a => ClusterNav.FrontEnd.start a
