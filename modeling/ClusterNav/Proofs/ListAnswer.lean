import ClusterNav.Proofs.KeyAnswers

/-!
# What a list answers

A list has a subject, the kind of its items and what it is for.  Events move its
cursor and change its order, its filter and its columns, but never its subject.

**Results.**
* `stays_respond`: a list keeps its subject, asks for no view in its place, and
  sends no message but a choice.
-/

namespace ClusterNav
namespace ListView

variable (v : ListView)

/-- The kind of a list, and what the list is for. -/
def subject : Kind × ListMode :=
  (v.kind, v.mode)

@[simp] theorem subject_setSize (width height : Nat) :
    (v.setSize width height).subject = v.subject := by
  rfl

@[simp] theorem subject_find (k : Key) :
    (v.find k).subject = v.subject := by
  rfl

@[simp] theorem subject_syncNamespace (ns : NamespaceScope) :
    (v.syncNamespace ns).subject = v.subject := by
  unfold syncNamespace
  split <;> rfl

@[simp] theorem subject_cycleSort : v.cycleSort.subject = v.subject := by
  unfold cycleSort
  split
  · rfl
  · split <;> rfl

/-- The answer of a list is the same list, asks for no view in its place, and sends
at most a choice. -/
structure Stays (r : Response ListView) : Prop where
  subject : r.view.subject = v.subject
  move : ∀ next, r.move ≠ .replace next
  sends : ∀ m, r.effect.bind Effect.message? = some m →
    ∃ picker value, m = .selected picker value

/-- An answer that sends nothing. -/
theorem Stays.silent
    {w : ListView} {move : Move}
    (hsubject : w.subject = v.subject)
    (hmove : ∀ next, move ≠ .replace next) :
    v.Stays { view := w, move := move } where
  subject := hsubject
  move := hmove
  sends := by
    intro m hm
    cases hm

theorem stays_key (session : Session) (k : Key) :
    v.Stays (v.key session k) := by
  have hanswer := v.keyAnswer_key session k
  generalize v.key session k = r at hanswer ⊢
  cases hanswer with
  | edits | opensFilter | armsFind | opensColumns | clearsFilter | leaves | opensItem | moves
  | follows | ignores =>
      exact .silent v rfl (by simp)
  | finds =>
      exact .silent v (v.subject_find k) (by simp)
  | sorts =>
      exact .silent v v.subject_cycleSort (by simp)
  | selects picker item =>
      refine ⟨rfl, by simp, ?_⟩
      intro m hm
      exact ⟨picker, item.name, (Option.some.inj hm).symm⟩

/-- Whatever the event, a list stays the list it is. -/
theorem stays_respond (session : Session) (event : Event) :
    v.Stays (v.respond session event) := by
  have hsync := v.subject_syncNamespace session.ns
  cases event with
  | key k =>
      have hkey := (v.syncNamespace session.ns).stays_key session k
      exact ⟨hkey.subject.trans hsync, hkey.move, hkey.sends⟩
  | resize width height =>
      exact .silent v hsync (by simp)
  | message m =>
      exact .silent v hsync (by simp)

end ListView
end ClusterNav
