import ClusterNav.Config
import ClusterNav.Host

/-!
# Starting

A host from a configuration: the columns of every kind, the namespace, the context and the kind that
is shown first.
-/

namespace ClusterNav

/-- Why a host cannot start. -/
inductive StartError
  | unknownKind (name : String)
deriving DecidableEq, Repr

/-- The message of a failure to start. -/
def StartError.message : StartError → String
  | .unknownKind name => "unknown resource kind " ++ Text.quoted name

namespace Host

def sessionOf (registry : Registry) (config : Config) : Session :=
  let session := Session.ofRegistry registry (config.seedColumns .empty)
  { session with
    ns := (config.ns.map NamespaceScope.parse).getD session.ns
    context := config.context.getD session.context }

/-- The kind a configuration asks for; without a wish it is the primary kind. -/
def kindOf (registry : Registry) (config : Config) : Except StartError Kind :=
  match config.kind with
  | none => .ok registry.primary
  | some name =>
    match registry.resolve? name with
    | some kind => .ok kind
    | none => .error (.unknownKind name)

def ofConfig (registry : Registry) (config : Config) : Except StartError Host :=
  (kindOf registry config).map fun kind => ofKind (sessionOf registry config) kind

end Host
end ClusterNav
