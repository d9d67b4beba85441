import ClusterNav.Kind

/-!
# Custom resources as kinds

Of a custom resource only the definition is known, so its list is empty.
-/

namespace ClusterNav

open Cluster

namespace Kind

def ofCustom (c : CustomResource) : Kind where
  name := c.plural
  tag := c.kind
  group := c.group
  version := c.version
  namespaced := c.namespaced
  builtin := false
  items _ := []
  yaml item := resourceDocument s!"{c.group}/{c.version}" c.kind item []
  emptyMessage? scope :=
    if c.namespaced then some s!"No {c.kind} resources found in {scope.phrase}."
    else some s!"No {c.kind} resources found."

end Kind
end ClusterNav
