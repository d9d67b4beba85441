import ClusterNav.Scope

/-!
# Workloads

A workload keeps some copies of its containers running.  The sample cluster has thirteen of them, in
four namespaces; `workloads` lists them in their fixed order and `workload?` finds one by namespace
and name.
-/

namespace ClusterNav
namespace Cluster

/-- What controls the pods of a workload. -/
inductive Controller
  | deployment
  | statefulSet
  | daemonSet
  | cronJob
  | job
deriving DecidableEq, Repr

namespace Controller

def tag : Controller → String
  | .deployment => "DEP"
  | .statefulSet => "STS"
  | .daemonSet => "DS"
  | .cronJob => "CJ"
  | .job => "JOB"

/-- The name of a controller in documents. -/
def apiKind : Controller → String
  | .deployment => "Deployment"
  | .statefulSet => "StatefulSet"
  | .daemonSet => "DaemonSet"
  | .cronJob => "CronJob"
  | .job => "Job"

/-- The interface that documents of a controller name. -/
def apiVersion : Controller → String
  | .cronJob | .job => "batch/v1"
  | .deployment | .statefulSet | .daemonSet => "apps/v1"

end Controller

/-- How a workload or a pod is doing. -/
inductive Phase
  | running
  | degraded
  | progressing
  | pending
  | creating
  | crashLooping
  | suspended
  | completed
deriving DecidableEq, Repr

def Phase.title : Phase → String
  | .running => "Running"
  | .degraded => "Degraded"
  | .progressing => "Progressing"
  | .pending => "Pending"
  | .creating => "ContainerCreating"
  | .crashLooping => "CrashLoopBackOff"
  | .suspended => "Suspended"
  | .completed => "Completed"

/-- The part a workload plays. -/
inductive Tier
  | edge
  | frontend
  | cache
  | backend
  | observability
  | batch
  | platform
deriving DecidableEq, Repr

def Tier.title : Tier → String
  | .edge => "edge"
  | .frontend => "frontend"
  | .cache => "cache"
  | .backend => "backend"
  | .observability => "observability"
  | .batch => "batch"
  | .platform => "platform"

/-- A container of a workload. -/
structure Container where
  name : String
  image : String
deriving DecidableEq, Repr

/-- A workload of the cluster. -/
structure Workload where
  name : String
  ns : String
  controller : Controller
  phase : Phase
  ready : String
  age : String
  replicas : Nat
  /-- The container that does the work. -/
  main : Container
  /-- The containers that help it. -/
  sidecars : List Container := []
  tier : Tier
deriving DecidableEq, Repr

namespace Workload

/-- All containers, the main one first. -/
def containers (w : Workload) : List Container :=
  w.main :: w.sidecars

/-- The images of all containers, with commas between them. -/
def images (w : Workload) : String :=
  ",".intercalate (w.containers.map (·.image))

end Workload

/-- The workloads of the cluster, namespace by namespace. -/
def workloads : List Workload :=
  [{ name := "api-gateway", ns := "default", controller := .deployment, phase := .running,
     ready := "3/3", age := "12d", replicas := 3,
     main := ⟨"gateway", "ghcr.io/podji/gateway:1.8.2"⟩,
     sidecars := [⟨"envoy", "envoyproxy/envoy:v1.30.1"⟩], tier := .edge },
   { name := "web-frontend", ns := "default", controller := .deployment, phase := .degraded,
     ready := "1/2", age := "4d", replicas := 2, main := ⟨"web", "ghcr.io/podji/web:3.2.0"⟩,
     tier := .frontend },
   { name := "redis", ns := "default", controller := .statefulSet, phase := .running,
     ready := "1/1", age := "40d", replicas := 1, main := ⟨"redis", "redis:7.2-alpine"⟩,
     tier := .cache },
   { name := "log-shipper", ns := "default", controller := .daemonSet, phase := .running,
     ready := "3/3", age := "30d", replicas := 3,
     main := ⟨"fluent-bit", "fluent/fluent-bit:3.0.4"⟩, tier := .platform },
   { name := "nightly-report", ns := "default", controller := .cronJob, phase := .suspended,
     ready := "0/0", age := "9d", replicas := 0,
     main := ⟨"report", "ghcr.io/podji/report:0.4.1"⟩, tier := .batch },
   { name := "db-migrate", ns := "default", controller := .job, phase := .completed,
     ready := "1/1", age := "2h", replicas := 1,
     main := ⟨"migrate", "ghcr.io/podji/migrate:2024.05"⟩, tier := .batch },
   { name := "payments-api", ns := "payments", controller := .deployment,
     phase := .crashLooping, ready := "0/2", age := "6h", replicas := 2,
     main := ⟨"api", "ghcr.io/podji/payments:5.0.0-rc1"⟩,
     sidecars := [⟨"vault-agent", "hashicorp/vault:1.16"⟩], tier := .backend },
   { name := "ledger", ns := "payments", controller := .statefulSet, phase := .pending,
     ready := "0/1", age := "15m", replicas := 1,
     main := ⟨"ledger", "ghcr.io/podji/ledger:1.1.0"⟩, tier := .backend },
   { name := "prometheus", ns := "monitoring", controller := .statefulSet, phase := .running,
     ready := "1/1", age := "21d", replicas := 1,
     main := ⟨"prometheus", "quay.io/prometheus/prometheus:v2.52.0"⟩,
     sidecars :=
       [⟨"config-reloader", "quay.io/prometheus-operator/prometheus-config-reloader:v0.74.0"⟩],
     tier := .observability },
   { name := "grafana", ns := "monitoring", controller := .deployment, phase := .progressing,
     ready := "1/2", age := "30m", replicas := 2, main := ⟨"grafana", "grafana/grafana:11.0.0"⟩,
     tier := .observability },
   { name := "node-exporter", ns := "monitoring", controller := .daemonSet, phase := .running,
     ready := "3/3", age := "21d", replicas := 3,
     main := ⟨"node-exporter", "quay.io/prometheus/node-exporter:v1.8.1"⟩,
     tier := .observability },
   { name := "coredns", ns := "kube-system", controller := .deployment, phase := .running,
     ready := "2/2", age := "90d", replicas := 2,
     main := ⟨"coredns", "registry.k8s.io/coredns/coredns:v1.11.1"⟩, tier := .platform },
   { name := "kube-proxy", ns := "kube-system", controller := .daemonSet, phase := .running,
     ready := "3/3", age := "90d", replicas := 3,
     main := ⟨"kube-proxy", "registry.k8s.io/kube-proxy:v1.30.0"⟩, tier := .platform }]

def workloadsIn (scope : NamespaceScope) : List Workload :=
  workloads.filter fun w => scope.holds w.ns

/-- The workload of a namespace and name. -/
def workload? (ns name : String) : Option Workload :=
  workloads.find? fun w => w.ns == ns && w.name == name

end Cluster
end ClusterNav
