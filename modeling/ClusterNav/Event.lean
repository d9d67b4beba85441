import ClusterNav.Key

/-!
# Events, messages and effects

What reaches the host and what it asks for in return.  A message is the late result of an effect; it
comes back as an event of its own.
-/

namespace ClusterNav

/-- The two things a scope picker can choose. -/
inductive PickerKind
  | namespaces
  | contexts
deriving DecidableEq, Repr, Inhabited

def PickerKind.title : PickerKind → String
  | .namespaces => "namespaces"
  | .contexts => "contexts"

/-- The late result of an effect. -/
inductive Message
  /-- A namespace or context was chosen. -/
  | selected (kind : PickerKind) (value : String)
  /-- The visible columns of a kind were chosen. -/
  | picked (resource : String) (visibleIds : List String)
  /-- It is time for the next line of a followed log. -/
  | logTick (request : Nat)
deriving DecidableEq, Repr

/-- What reaches the host. -/
inductive Event
  | key (k : Key)
  | resize (width height : Nat)
  | message (m : Message)
deriving DecidableEq, Repr

/-- What the host asks its surroundings to do. -/
inductive Effect
  | quit
  /-- Send the message back at once. -/
  | emit (m : Message)
  /-- Send the message back after some milliseconds. -/
  | after (delay : Nat) (m : Message)
deriving DecidableEq, Repr

/-- The message that an effect will send back. -/
def Effect.message? : Effect → Option Message
  | .quit => none
  | .emit m => some m
  | .after _ m => some m

end ClusterNav
