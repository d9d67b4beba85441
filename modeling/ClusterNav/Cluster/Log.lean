import ClusterNav.Cluster.Pod
import ClusterNav.Instant

/-!
# Logs

The log of a container: a line every nine minutes up to the reference instant, each with a level
and a message that go by the number of the line.  A window keeps the lines that are young enough.
A container that was restarted also has the log of its last end.
-/

namespace ClusterNav
namespace Cluster

/-- Which part of a log to show. -/
structure LogRequest where
  container : Option String := none
  /-- The log of the instance before the last restart. -/
  previous : Bool := false
  /-- The window in minutes; no window shows everything. -/
  since : Option Nat := none
deriving DecidableEq, Repr

namespace Log

/-- The reference instant: half past nine on the 14th of May 2024. -/
def epoch : Instant := ⟨1715679000⟩

/-- Minutes between two lines. -/
def step : Nat := 9

/-- The number of lines before the youngest. -/
def span : Nat := 400 / step

def level (phase : Phase) (n : Nat) : String :=
  match phase with
  | .crashLooping => if n % 3 = 0 then "ERROR" else "INFO"
  | .running | .completed => if n % 11 = 7 then "WARN" else "INFO"
  | _ => "INFO"

/-- What the containers of a tier say, in turns. -/
def messages : Tier → List String
  | .edge =>
    ["GET /healthz 200 1ms", "POST /v1/orders 201 38ms", "GET /v1/catalog 200 12ms",
     "upstream payments-api returned 503, retrying"]
  | .frontend =>
    ["rendered / in 24ms", "cache miss for /products", "served static bundle main.js"]
  | .cache =>
    ["DB saved on disk", "Background saving started", "1 changes in 60 seconds. Saving..."]
  | .backend =>
    ["processing batch of 50 transactions", "failed to connect to database: connection refused",
     "retrying in 5s"]
  | .observability =>
    ["scrape completed for 42 targets", "compacting block range",
     "dashboard provisioning finished"]
  | .batch => ["job started", "processed 1200 rows", "job finished"]
  | .platform => ["sync loop finished", "watching for changes"]

def line (t : Instant) (level container message : String) : String :=
  s!"{t.text} {Text.padRight level 5} [{container}] {message}"

/-- The line of a number, written at an instant. -/
def numbered (pod : Pod) (container : String) (n : Nat) (t : Instant) : String :=
  line t (level pod.phase n) container (inTurn (messages pod.workload.tier) n)

/-- Minutes from the line of a number to the reference instant. -/
def minutesAgo (n : Nat) : Nat :=
  (span - n) * step

/-- The numbers of the lines in a window. -/
def window (since : Option Nat) : List Nat :=
  (List.range (span + 1)).filter fun n => since.all (minutesAgo n ≤ ·)

/-- The lines in a window, the oldest first. -/
def current (pod : Pod) (container : String) (since : Option Nat) : List String :=
  (window since).map fun n =>
    numbered pod container n (epoch.later (-(60 * minutesAgo n)))

/-- The log of the instance before the last restart. -/
def previous (pod : Pod) (container : String) : List String :=
  if pod.restarts = 0 then
    [s!"previous terminated container \"{container}\" in pod \"{pod.name}\" not found"]
  else
    let last := epoch.later (-240)
    [line (last.later (-3)) "INFO" container "starting",
     line (last.later (-1)) "ERROR" container "failed to connect to database: connection refused",
     line last "FATAL" container "exiting with status 1"]

/-- The log of a pod as requested; the main container where none is named. -/
def ofPod (pod : Pod) (request : LogRequest) : List String :=
  let container := request.container.getD pod.workload.main.name
  if request.previous then previous pod container else current pod container request.since

/-- The line that follows after `n` seconds; their count is a signed 64-bit number. -/
def follow (pod : Pod) (container : String) (n : Nat) : String :=
  numbered pod container n (epoch.later (Int.bmod n 0x10000000000000000))

end Log
end Cluster
end ClusterNav
