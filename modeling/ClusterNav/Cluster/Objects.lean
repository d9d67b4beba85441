import ClusterNav.Scope

/-!
# Other objects of the cluster

Services, configuration objects, volume claims, nodes, contexts, namespaces and the definitions of
custom resources.
-/

namespace ClusterNav
namespace Cluster

/-- A service in front of the pods of a workload. -/
structure Service where
  name : String
  ns : String
  type : String
  clusterIp : String
  ports : List String
  /-- The workload it selects. -/
  selector : String
  age : String
deriving DecidableEq, Repr

/-- A config map or a secret. -/
structure ConfigObject where
  name : String
  ns : String
  isSecret : Bool
  keys : List String
  /-- The workloads that read it. -/
  consumers : List String
  age : String
deriving DecidableEq, Repr

/-- A claim on storage. -/
structure VolumeClaim where
  name : String
  ns : String
  status : String
  capacity : String
  storageClass : String
  /-- The workload that mounts it. -/
  mountedBy : String
  age : String
deriving DecidableEq, Repr

/-- A machine of the cluster. -/
structure Node where
  name : String
  status : String
  roles : String
  version : String
  age : String
deriving DecidableEq, Repr

/-- A cluster one can connect to, and as whom. -/
structure Context where
  name : String
  cluster : String
  user : String
  server : String
deriving DecidableEq, Repr

/-- The definition of a custom resource. -/
structure CustomResource where
  name : String
  group : String
  version : String
  kind : String
  plural : String
  namespaced : Bool
deriving DecidableEq, Repr

def namespaces : List String :=
  ["default", "payments", "monitoring", "kube-system"]

def contexts : List Context :=
  [{ name := "kind-dev", cluster := "kind-dev", user := "kind-dev-admin",
     server := "https://127.0.0.1:6443" },
   { name := "staging-eu", cluster := "staging-eu-west-1", user := "oidc-staging",
     server := "https://staging.eu.k8s.internal" },
   { name := "prod-us", cluster := "prod-us-east-2", user := "oidc-prod",
     server := "https://prod.us.k8s.internal" }]

def services : List Service :=
  [{ name := "api-gateway", ns := "default", type := "ClusterIP", clusterIp := "10.96.12.4",
     ports := ["80/TCP", "443/TCP"], selector := "api-gateway", age := "12d" },
   { name := "web-frontend", ns := "default", type := "LoadBalancer", clusterIp := "10.96.40.2",
     ports := ["80:31080/TCP"], selector := "web-frontend", age := "4d" },
   { name := "redis", ns := "default", type := "ClusterIP", clusterIp := "10.96.7.9",
     ports := ["6379/TCP"], selector := "redis", age := "40d" },
   { name := "payments-api", ns := "payments", type := "ClusterIP", clusterIp := "10.96.88.17",
     ports := ["8080/TCP"], selector := "payments-api", age := "6h" },
   { name := "ledger-headless", ns := "payments", type := "ClusterIP", clusterIp := "None",
     ports := ["5432/TCP"], selector := "ledger", age := "15m" },
   { name := "prometheus", ns := "monitoring", type := "ClusterIP", clusterIp := "10.96.3.30",
     ports := ["9090/TCP"], selector := "prometheus", age := "21d" },
   { name := "grafana", ns := "monitoring", type := "NodePort", clusterIp := "10.96.3.41",
     ports := ["3000:30300/TCP"], selector := "grafana", age := "30m" },
   { name := "kube-dns", ns := "kube-system", type := "ClusterIP", clusterIp := "10.96.0.10",
     ports := ["53/UDP", "53/TCP"], selector := "coredns", age := "90d" }]

def configObjects : List ConfigObject :=
  [{ name := "gateway-routes", ns := "default", isSecret := false,
     keys := ["routes.yaml", "ratelimit.yaml"], consumers := ["api-gateway"], age := "12d" },
   { name := "web-settings", ns := "default", isSecret := false, keys := ["settings.json"],
     consumers := ["web-frontend"], age := "4d" },
   { name := "gateway-tls", ns := "default", isSecret := true, keys := ["tls.crt", "tls.key"],
     consumers := ["api-gateway"], age := "12d" },
   { name := "redis-auth", ns := "default", isSecret := true, keys := ["password"],
     consumers := ["redis", "api-gateway"], age := "40d" },
   { name := "payments-config", ns := "payments", isSecret := false, keys := ["application.yaml"],
     consumers := ["payments-api", "ledger"], age := "6h" },
   { name := "payments-db", ns := "payments", isSecret := true,
     keys := ["username", "password", "url"], consumers := ["payments-api", "ledger"],
     age := "6h" },
   { name := "prometheus-rules", ns := "monitoring", isSecret := false,
     keys := ["alerts.yaml", "recording.yaml"], consumers := ["prometheus"], age := "21d" },
   { name := "grafana-admin", ns := "monitoring", isSecret := true,
     keys := ["admin-user", "admin-password"], consumers := ["grafana"], age := "30m" },
   { name := "coredns", ns := "kube-system", isSecret := false, keys := ["Corefile"],
     consumers := ["coredns"], age := "90d" }]

def volumeClaims : List VolumeClaim :=
  [{ name := "data-redis-0", ns := "default", status := "Bound", capacity := "8Gi",
     storageClass := "standard", mountedBy := "redis", age := "40d" },
   { name := "data-ledger-0", ns := "payments", status := "Pending", capacity := "50Gi",
     storageClass := "fast-ssd", mountedBy := "ledger", age := "15m" },
   { name := "prometheus-db", ns := "monitoring", status := "Bound", capacity := "100Gi",
     storageClass := "standard", mountedBy := "prometheus", age := "21d" },
   { name := "grafana-storage", ns := "monitoring", status := "Bound", capacity := "10Gi",
     storageClass := "standard", mountedBy := "grafana", age := "30m" }]

def nodes : List Node :=
  [{ name := "control-plane-1", status := "Ready", roles := "control-plane", version := "v1.30.0",
     age := "90d" },
   { name := "worker-a", status := "Ready", roles := "worker", version := "v1.30.0",
     age := "90d" },
   { name := "worker-b", status := "NotReady", roles := "worker", version := "v1.30.0",
     age := "45d" }]

/-- The definition of a custom resource in version 1, named after its plural and group. -/
def CustomResource.ofPlural (plural group kind : String) (namespaced : Bool) : CustomResource where
  name := plural ++ "." ++ group
  group := group
  version := "v1"
  kind := kind
  plural := plural
  namespaced := namespaced

def customResources : List CustomResource :=
  [.ofPlural "certificates" "cert-manager.io" "Certificate" true,
   .ofPlural "clusterissuers" "cert-manager.io" "ClusterIssuer" false,
   .ofPlural "servicemonitors" "monitoring.coreos.com" "ServiceMonitor" true,
   .ofPlural "kustomizations" "kustomize.toolkit.fluxcd.io" "Kustomization" true]

def servicesIn (scope : NamespaceScope) : List Service :=
  services.filter fun s => scope.holds s.ns

/-- The service of a namespace and name. -/
def service? (ns name : String) : Option Service :=
  services.find? fun s => s.ns == ns && s.name == name

/-- The secrets or the config maps in scope. -/
def configObjectsIn (scope : NamespaceScope) (isSecret : Bool) : List ConfigObject :=
  configObjects.filter fun o => o.isSecret == isSecret && scope.holds o.ns

/-- The secret or config map of a namespace and name. -/
def configObject? (ns name : String) (isSecret : Bool) : Option ConfigObject :=
  configObjects.find? fun o => o.isSecret == isSecret && o.ns == ns && o.name == name

def volumeClaimsIn (scope : NamespaceScope) : List VolumeClaim :=
  volumeClaims.filter fun c => scope.holds c.ns

/-- The volume claim of a namespace and name. -/
def volumeClaim? (ns name : String) : Option VolumeClaim :=
  volumeClaims.find? fun c => c.ns == ns && c.name == name

def node? (name : String) : Option Node :=
  nodes.find? (·.name == name)

def context? (name : String) : Option Context :=
  contexts.find? (·.name == name)

end Cluster
end ClusterNav
