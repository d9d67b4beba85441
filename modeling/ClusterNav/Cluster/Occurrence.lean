import ClusterNav.Cluster.Objects
import ClusterNav.Cluster.Pod
import ClusterNav.Text.Fit
import ClusterNav.Text.Lowercase

/-!
# Occurrences

What the cluster reports about its objects: each workload, then each of its pods, then the volume
claims that wait.  An occurrence belongs to an object and to whatever the object is named after.
-/

namespace ClusterNav
namespace Cluster

/-- One report about an object. -/
structure Occurrence where
  ns : String
  object : String
  objectKind : String
  severity : String
  reason : String
  message : String
  age : String
deriving DecidableEq, Repr

namespace Occurrence

def name (o : Occurrence) : String :=
  o.object ++ "." ++ Text.asciiLower o.reason

def line (o : Occurrence) : String :=
  s!"{Text.padRight o.age 5} {Text.padRight o.severity 8} {Text.padRight o.reason 18} "
    ++ s!"{o.objectKind}/{o.object}: {o.message}"

/-- Does the report belong to a name? -/
def concerns (o : Occurrence) (name : String) : Bool :=
  o.object == name || isNamedAfter o.object name

end Occurrence

def workloadOccurrences (w : Workload) : List Occurrence :=
  let normal (reason message age : String) : Occurrence :=
    { ns := w.ns, object := w.name, objectKind := w.controller.apiKind, severity := "Normal"
      reason := reason, message := message, age := age }
  match w.phase with
  | .progressing =>
    [normal "ScalingReplicaSet" s!"Scaled up replica set {w.name}-7c9d5 to {w.replicas}" "2m"]
  | .suspended => [normal "SuspendedCronJob" "Cron job is suspended, skipping schedule" "1d"]
  | .completed => [normal "Completed" "Job completed" "2h"]
  | _ => []

def podOccurrences (p : Pod) : List Occurrence :=
  let report (severity reason message age : String) : Occurrence :=
    { ns := p.ns, object := p.name, objectKind := "Pod", severity := severity
      reason := reason, message := message, age := age }
  let main := p.workload.main
  match p.phase with
  | .crashLooping =>
    [report "Normal" "Pulled" s!"Container image \"{main.image}\" already present on machine" "3m",
     report "Warning" "BackOff" s!"Back-off restarting failed container {main.name}" "45s"]
  | .pending =>
    [report "Warning" "FailedScheduling" "0/3 nodes are available: 3 Insufficient memory." "1m"]
  | .creating => [report "Normal" "Pulling" s!"Pulling image \"{main.image}\"" "20s"]
  | .running =>
    if 0 < p.restarts then
      [report "Warning" "Unhealthy"
        "Readiness probe failed: HTTP probe failed with statuscode: 503" "5m"]
    else [report "Normal" "Started" s!"Started container {main.name}" p.age]
  | _ => []

def claimOccurrences (c : VolumeClaim) : List Occurrence :=
  if c.status == "Pending" then
    [{ ns := c.ns, object := c.name, objectKind := "PersistentVolumeClaim", severity := "Warning"
       reason := "ProvisioningFailed"
       message := s!"storageclass.storage.k8s.io \"{c.storageClass}\" not found", age := c.age }]
  else []

def occurrencesIn (scope : NamespaceScope) : List Occurrence :=
  ((workloadsIn scope).flatMap fun w =>
      workloadOccurrences w ++ (podsOf w).flatMap podOccurrences)
    ++ (volumeClaimsIn scope).flatMap claimOccurrences

/-- The reports of a namespace that belong to a name. -/
def occurrencesFor (ns name : String) : List Occurrence :=
  (occurrencesIn (.named ns)).filter (·.concerns name)

/-- The lines of the reports that belong to a name. -/
def occurrenceLines (ns name : String) : List String :=
  (occurrencesFor ns name).map (·.line)

end Cluster
end ClusterNav
