import ClusterNav.ColumnStore
import ClusterNav.Registry
import ClusterNav.Scope

/-!
# Sessions

What all views see: the namespace and the context looked at, the kinds, and the chosen columns.
-/

namespace ClusterNav

/-- A session. -/
structure Session where
  ns : NamespaceScope
  context : String
  registry : Registry
  columns : ColumnStore

namespace Session

/-- A new session, with the first namespace and context of its registry. -/
def ofRegistry (registry : Registry) (columns : ColumnStore) : Session where
  ns := .named registry.defaultNamespace
  context := registry.defaultContext
  registry := registry
  columns := columns

end Session
end ClusterNav
