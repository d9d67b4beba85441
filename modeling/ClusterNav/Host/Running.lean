import ClusterNav.Host

/-!
# Running hosts

A host together with the messages that are on their way to it.  Every effect that sends a message
adds to them, and the surroundings may deliver them in any order and at any time.
-/

namespace ClusterNav

/-- A host and the messages on their way to it. -/
structure Running where
  host : Host
  /-- The messages not yet delivered, the oldest first. -/
  pending : List Message := []

namespace Running

/-- A host on the list of a kind, with no message on its way. -/
def ofKind (session : Session) (kind : Kind) : Running where
  host := .ofKind session kind

/-- Handles an event; the message of its effect is then on its way. -/
def handle (r : Running) (event : Event) : Running × Option Effect :=
  let (host, effect) := r.host.step event
  ({ host := host, pending := r.pending ++ (effect.bind Effect.message?).toList }, effect)

def deliver? (r : Running) (n : Nat) : Option (Running × Option Effect) :=
  r.pending[n]?.map fun m => { r with pending := r.pending.eraseIdx n }.handle (.message m)

/-- What the surroundings can do: let an event happen, or deliver a message. -/
inductive Act
  | event (e : Event)
  | deliver (n : Nat)
deriving DecidableEq, Repr

/-- The running host after an act; a message that is not there cannot be delivered. -/
def act (r : Running) : Act → Running
  | .event e => (r.handle e).1
  | .deliver n =>
    match r.deliver? n with
    | some (next, _) => next
    | none => r

/-- The running host after a list of acts. -/
def run : Running → List Act → Running
  | r, [] => r
  | r, a :: rest => run (r.act a) rest

/-- A run in two parts goes on from where the first part ends. -/
theorem run_append (r : Running) (acts more : List Act) :
    r.run (acts ++ more) = (r.run acts).run more := by
  induction acts generalizing r with
  | nil => rfl
  | cons a rest ih => exact ih (r.act a)

theorem run_concat (r : Running) (acts : List Act) (a : Act) :
    r.run (acts ++ [a]) = (r.run acts).act a := by
  rw [run_append]
  rfl

end Running
end ClusterNav
