import ClusterNav.Text.Blank

/-!
# Scopes

Which namespace a session looks at, and the ring of scopes through which the root view walks
outward: resources, then namespaces, then contexts, where it ends.
-/

namespace ClusterNav

/-- One namespace, or all of them. -/
inductive NamespaceScope
  | all
  | named (name : String)
deriving DecidableEq, Repr, Inhabited

namespace NamespaceScope

def allLabel : String := "(all)"

/-- Reads a namespace, without the blanks around it; no text means all. -/
def parse (text : String) : NamespaceScope :=
  let name := Text.trim text
  if name = allLabel ∨ name = "" then .all else .named name

def label : NamespaceScope → String
  | .all => allLabel
  | .named name => name

def isAll : NamespaceScope → Bool
  | .all => true
  | .named _ => false

def holds : NamespaceScope → String → Bool
  | .all, _ => true
  | .named name, ns => name == ns

def phrase : NamespaceScope → String
  | .all => "any namespace"
  | .named name => s!"namespace {name}"

@[simp]
theorem holds_all (ns : String) : holds .all ns = true := rfl

@[simp]
theorem holds_named (name ns : String) : holds (.named name) ns = (name == ns) := rfl

end NamespaceScope

/-- What the root view shows. -/
inductive Scope
  | resources
  | namespaces
  | contexts
deriving DecidableEq, Repr, Inhabited

namespace Scope

/-- The next scope outward; there is none after the contexts. -/
def outward? : Scope → Option Scope
  | .resources => some .namespaces
  | .namespaces => some .contexts
  | .contexts => none

def title : Scope → String
  | .resources => "resources"
  | .namespaces => "namespace"
  | .contexts => "context"

/-- The scopes inside a scope, outermost last. -/
def inner : Scope → List Scope
  | .resources => []
  | .namespaces => [.resources]
  | .contexts => [.resources, .namespaces]

theorem inner_outward {s t : Scope} (h : s.outward? = some t) : t.inner = s.inner ++ [s] := by
  cases s <;> simp [outward?] at h <;> subst h <;> rfl

end Scope
end ClusterNav
