import ClusterNav.Style
import ClusterNav.Text.Blank
import ClusterNav.Text.Lowercase

/-!
# Status classes

Status words fall into classes, from the worst to the least telling.  The class gives a status its
colour and its place when problems are sorted first.
-/

namespace ClusterNav

/-- Classes of a status, the most severe first. -/
inductive StatusClass
  | failed
  | warning
  | pending
  | healthy
  | suspended
  | other
deriving DecidableEq, Repr

namespace StatusClass

def words : List (StatusClass × List String) :=
  [(.failed, ["failed", "crashloop", "crashloopbackoff", "error", "imagepullbackoff",
      "errimagepull", "oomkilled"]),
   (.warning, ["degraded", "warning", "notready"]),
   (.pending, ["pending", "progressing", "unknown", "containercreating"]),
   (.healthy, ["healthy", "running", "ready", "active", "bound", "available", "normal",
      "completed", "succeeded"]),
   (.suspended, ["suspended"])]

/-- The class of a status word, whatever its case and the blanks around it. -/
def ofStatus (status : String) : StatusClass :=
  let word := Text.asciiLower (Text.trim status)
  ((words.find? fun entry => entry.2.contains word).map (·.1)).getD .other

/-- The place of a class in the order of severity. -/
def rank : StatusClass → Nat
  | .failed => 0
  | .warning => 1
  | .pending => 2
  | .healthy => 3
  | .suspended => 4
  | .other => 5

def color : StatusClass → Color
  | .failed => .failure
  | .warning => .warning
  | .pending => .info
  | .healthy => .accent
  | .suspended => .muted
  | .other => .white

end StatusClass

def statusStyle (status : String) : Style :=
  .colored (StatusClass.ofStatus status).color

end ClusterNav
