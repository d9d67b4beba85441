import ClusterNav.Config
import ClusterNav.Scope

/-!
# Command line arguments

An option takes a value, attached to it or as the next argument; a flag takes none.  Short ones can
share a dash.  An option that waits for its value is settled when the next one starts or when the
arguments end, so an unknown argument is reported before a missing value, and a known one after it.
-/

namespace ClusterNav

/-- What the command line sets. -/
structure Arguments where
  ns : Option String := none
  allNamespaces : Bool := false
  context : Option String := none
  kind : Option String := none
  /-- Path of the configuration file. -/
  config : Option String := none
  logFilter : Option String := none
  logFile : Option String := none
deriving DecidableEq, Repr, Inhabited

/-- Why the arguments are not accepted, or what they ask for instead of a session. -/
inductive ArgumentError
  | unknown
  | missingValue
  | emptyPath
  | repeated
  | unneededValue
  | help
  | version
deriving DecidableEq, Repr

namespace Arguments

/-- The options, which take a value. -/
inductive Opt
  | ns
  | context
  | kind
  | config
  | logFilter
  | logFile
deriving DecidableEq, Repr

/-- The flags, which take none. -/
inductive Flag
  | allNamespaces
  | help
  | version
deriving DecidableEq, Repr

/-- The level of detail of logs unless it is set. -/
def defaultLogFilter : String := "info"

def longOption? : String → Option Opt
  | "namespace" => some .ns
  | "context" => some .context
  | "kind" => some .kind
  | "config" => some .config
  | "log-filter" => some .logFilter
  | "log-file" => some .logFile
  | _ => none

def longFlag? : String → Option Flag
  | "all-namespaces" => some .allNamespaces
  | "help" => some .help
  | "version" => some .version
  | _ => none

def shortOption? : Char → Option Opt
  | 'n' => some .ns
  | 'k' => some .kind
  | _ => none

def shortFlag? : Char → Option Flag
  | 'A' => some .allNamespaces
  | 'h' => some .help
  | 'V' => some .version
  | _ => none

def value? (a : Arguments) : Opt → Option String
  | .ns => a.ns
  | .context => a.context
  | .kind => a.kind
  | .config => a.config
  | .logFilter => a.logFilter
  | .logFile => a.logFile

/-- Is the value of an option a path? -/
def isPath : Opt → Bool
  | .config | .logFile => true
  | _ => false

def setValue (a : Arguments) (option : Opt) (value : String) : Arguments :=
  match option with
  | .ns => { a with ns := some value }
  | .context => { a with context := some value }
  | .kind => { a with kind := some value }
  | .config => { a with config := some value }
  | .logFilter => { a with logFilter := some value }
  | .logFile => { a with logFile := some value }

/-- Sets an option that was not set before; a path is not empty. -/
def store (a : Arguments) (option : Opt) (value : String) : Except ArgumentError Arguments :=
  if (a.value? option).isSome then .error .repeated
  else if isPath option && value.isEmpty then .error .emptyPath
  else .ok (a.setValue option value)

/-- The arguments so far, and the option that is still to be settled. -/
structure Progress where
  args : Arguments := {}
  pending : Option (Opt × Option String) := none

namespace Progress

def settle (p : Progress) : Except ArgumentError Progress :=
  match p.pending with
  | none => .ok p
  | some (_, none) => .error .missingValue
  | some (option, some value) => (p.args.store option value).map fun a => { args := a }

def flag (p : Progress) (f : Flag) : Except ArgumentError Progress := do
  let p ← p.settle
  match f with
  | .help => throw .help
  | .version => throw .version
  | .allNamespaces =>
    if p.args.allNamespaces then throw .repeated
    return { p with args := { p.args with allNamespaces := true } }

/-- Reads an option with the value attached to it, if there is one. -/
def option (p : Progress) (o : Opt) (attached : Option String) :
    Except ArgumentError Progress := do
  let p ← p.settle
  match attached with
  | some value => return { p with args := ← p.args.store o value }
  | none => return { p with pending := some (o, none) }

def letters (p : Progress) : List Char → Except ArgumentError Progress
  | [] => .ok p
  | c :: rest =>
    match shortFlag? c, shortOption? c with
    | some f, _ =>
      match p.flag f with
      | .ok p => letters p rest
      | .error e => .error e
    | none, some o =>
      match rest with
      | [] => p.option o none
      | '=' :: value => p.option o (some (String.ofList value))
      | value => p.option o (some (String.ofList value))
    | none, none => .error .unknown

/-- Reads a long name with the value attached to it, if there is one. -/
def long (p : Progress) (name : String) (attached : Option String) :
    Except ArgumentError Progress :=
  match longFlag? name, longOption? name with
  | some f, _ => if attached.isSome then .error .unneededValue else p.flag f
  | none, some o => p.option o attached
  | none, none => .error .unknown

/-- Reads one argument before any double dash. -/
def argument (p : Progress) (arg : String) : Except ArgumentError Progress :=
  match arg.toList with
  | '-' :: '-' :: body =>
    let name := String.ofList (body.takeWhile (· != '='))
    match body.dropWhile (· != '=') with
    | [] => p.long name none
    | _ :: value => p.long name (some (String.ofList value))
  | '-' :: c :: rest => p.letters (c :: rest)
  | _ =>
    match p.pending with
    | some (o, none) => .ok { p with pending := some (o, some arg) }
    | _ => .error .unknown

/-- Reads all arguments; nothing may follow a double dash. -/
def all (p : Progress) : List String → Except ArgumentError Arguments
  | [] => p.settle.map (·.args)
  | arg :: rest =>
    if arg = "--" then
      if rest.isEmpty then p.settle.map (·.args) else .error .unknown
    else
      match p.argument arg with
      | .ok p => all p rest
      | .error e => .error e

end Progress

/-- Reads the arguments of a command line. -/
def parse (args : List String) : Except ArgumentError Arguments :=
  Progress.all {} args

/-- The configuration with what the command line sets in its place; all namespaces win over one. -/
def applyTo (a : Arguments) (config : Config) : Config :=
  { config with
    ns := if a.allNamespaces then some NamespaceScope.allLabel else a.ns.or config.ns
    context := a.context.or config.context
    kind := a.kind.or config.kind }

end Arguments
end ClusterNav
