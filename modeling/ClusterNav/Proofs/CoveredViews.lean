import ClusterNav.Proofs.ViewTower
import Mathlib.Data.List.Infix

/-!
# Covered views

A view that is covered by another one waits.  Whatever happens above it, however
long and however high the views are stacked, it comes to light again as it was and
is then fitted into the room.  A root that was left for a wider scope waits in the
same way.

The invariant is a suffix: as long as more views stand than the covered ones, these
are the lowest ones below the top view.

**Results.**
* `Host.covered_run`: covered views are kept by a run that never uncovers them.
* `Host.left_run`: roots left are kept by a run that never goes back to them.
* `covered_views_return`: what comes to light is what was covered.
-/

namespace ClusterNav

deriving instance DecidableEq for StackChange

theorem suffix_of_suffix_cons
    {α : Type} {x : α} {l rest : List α}
    (h : l <:+ x :: rest)
    (hlength : l.length ≤ rest.length) :
    l <:+ rest := by
  rcases List.suffix_cons_iff.mp h with rfl | h
  · rw [List.length_cons] at hlength
    omega
  · exact h

namespace Host

variable (h : Host)

@[simp] theorem tower_heard (event : Event) : (h.heard event).tower = h.tower := by
  cases event <;> rfl

@[simp] theorem history_heard (event : Event) : (h.heard event).history = h.history := by
  cases event <;> rfl

@[simp] theorem scope_heard (event : Event) : (h.heard event).scope = h.scope := by
  cases event <;> rfl

@[simp] theorem root_heard (event : Event) : (h.heard event).root = h.root := by
  cases event <;> rfl

/-- Does an event close the top view, or at the root go back to the root left last?
The user goes back, or the top view asks for it. -/
def Pops (event : Event) : Prop :=
  (h.heard event).change (h.route event) = .pop

instance (event : Event) : Decidable (h.Pops event) :=
  inferInstanceAs (Decidable (_ = _))

/-- The only view of a tower is the root. -/
theorem of_tower_eq_singleton
    {v : View}
    (ht : h.tower = [v]) :
    h.stack = [] ∧ h.root = v := by
  cases hs : h.stack with
  | nil =>
      rw [h.tower_of_nil hs] at ht
      exact ⟨rfl, List.head_eq_of_cons_eq ht⟩
  | cons top rest =>
      rw [h.tower_of_cons hs] at ht
      simp at ht

variable {h}

/-! ## One step -/

/-- Covered views stay covered as long as one more view stands. -/
theorem covered_step
    {views : List View} {event : Event}
    (hviews : views ≠ [])
    (hcovered : views <:+ h.tower.tail)
    (hdeep : views.length < (h.step event).1.depth) :
    views <:+ (h.step event).1.tower.tail := by
  have hpos : 0 < views.length := List.length_pos_iff.mpr hviews
  have hshift := h.shift_step event
  rw [← h.tower_heard event] at hcovered
  rw [h.step_eq_follow, ← length_tower] at hdeep
  rw [h.step_eq_follow]
  cases hshift with
  | stays v tower history =>
      rw [tower]
      exact hcovered
  | opens new v tower history =>
      rw [tower]
      exact hcovered.trans (List.suffix_cons _ _)
  | closes v rest before tower history =>
      rw [tower, List.length_cons] at hdeep
      rw [before] at hcovered
      rw [tower]
      exact suffix_of_suffix_cons hcovered (Nat.le_of_lt_succ hdeep)
  | leaves new bottom tower history | returns saved rest bottom before tower history scope
  | starts new change tower history =>
      rw [tower, List.length_singleton] at hdeep
      omega

/-- The covered view is revealed when closing leaves no more views than it and
those below it. -/
theorem revealed_step
    {v : View} {rest : List View} {event : Event}
    (hpops : h.Pops event)
    (hcovered : v :: rest <:+ h.tower.tail)
    (hdepth : (h.step event).1.depth = (v :: rest).length) :
    (h.step event).1.tower = (h.step event).1.fitted v :: rest := by
  have hlength := hcovered.length_le
  have hshift := h.shift_step event
  rw [← h.tower_heard event] at hcovered hlength
  rw [h.step_eq_follow, ← length_tower] at hdepth
  rw [h.step_eq_follow]
  rw [List.length_cons] at hlength hdepth
  cases hshift with
  | stays u tower history =>
      rw [tower, List.length_cons] at hdepth
      omega
  | opens new u tower history =>
      rw [tower, List.length_cons, List.length_cons] at hdepth
      omega
  | closes u below before tower history =>
      rw [tower, List.length_cons] at hdepth
      rw [before] at hcovered
      obtain ⟨rfl, rfl⟩ : v = u ∧ rest = below := by
        have heq := hcovered.eq_of_length (by rw [List.length_cons, List.length_cons]; omega)
        exact List.cons_eq_cons.mp heq
      exact tower
  | leaves new bottom tower history | returns saved left bottom before tower history scope =>
      rw [tower_of_nil _ bottom, List.tail_cons, List.length_nil] at hlength
      omega
  | starts new change tower history =>
      rw [hpops] at change
      cases change

/-- Roots left are kept as long as more are left. -/
theorem left_step
    {saved : List SavedRoot} {event : Event}
    (hleft : saved <:+ h.history)
    (hmore : saved.length ≤ (h.step event).1.history.length) :
    saved <:+ (h.step event).1.history := by
  have hshift := h.shift_step event
  rw [← h.history_heard event] at hleft
  rw [h.step_eq_follow] at hmore ⊢
  cases hshift with
  | stays v tower history | opens new v tower history | closes v rest before tower history =>
      rw [history]
      exact hleft
  | leaves new bottom tower history =>
      rw [history]
      exact hleft.trans (List.suffix_cons _ _)
  | returns last rest bottom before tower history scope =>
      rw [before] at hleft
      rw [history] at hmore ⊢
      exact suffix_of_suffix_cons hleft hmore
  | starts new change tower history =>
      rw [history, List.length_nil] at hmore
      rw [List.length_eq_zero_iff.mp (Nat.le_zero.mp hmore)]
      exact List.nil_suffix

/-- The root left last comes back when going back leaves those before it. -/
theorem returned_step
    {saved : SavedRoot} {rest : List SavedRoot} {event : Event}
    (hpops : h.Pops event)
    (hleft : saved :: rest <:+ h.history)
    (hfewer : (h.step event).1.history.length = rest.length) :
    (h.step event).1.tower = [(h.step event).1.fitted saved.root] ∧
    (h.step event).1.scope = saved.scope ∧
    (h.step event).1.history = rest := by
  have hlength := hleft.length_le
  have hshift := h.shift_step event
  rw [← h.history_heard event] at hleft hlength
  rw [h.step_eq_follow] at hfewer ⊢
  rw [List.length_cons] at hlength
  cases hshift with
  | stays v tower history | opens new v tower history | closes v below before tower history =>
      rw [history] at hfewer
      omega
  | leaves new bottom tower history =>
      rw [history, List.length_cons] at hfewer
      omega
  | returns last others bottom before tower history scope =>
      rw [history] at hfewer
      rw [before] at hleft
      obtain ⟨rfl, rfl⟩ : saved = last ∧ rest = others := by
        have heq := hleft.eq_of_length (by rw [List.length_cons, List.length_cons, hfewer])
        exact List.cons_eq_cons.mp heq
      exact ⟨tower, scope, history⟩
  | starts new change tower history =>
      rw [hpops] at change
      cases change

/-! ## Runs -/

/-- What is kept by every step to a state of some sort is kept by a run through
such states. -/
theorem run_induction_through
    {P Q : Host → Prop}
    (hstep : ∀ h event, P h → Q (step h event).1 → P (step h event).1)
    {h : Host}
    (hstart : P h)
    {events : List Event}
    (hthrough : ∀ past, past <+: events → Q (h.run past)) :
    P (h.run events) := by
  induction events generalizing h with
  | nil =>
      exact hstart
  | cons event rest ih =>
      have hfirst : Q (h.step event).1 := hthrough [event] (by simp)
      apply ih (hstep h event hstart hfirst)
      intro past hpast
      exact hthrough (event :: past) (List.prefix_cons_inj event |>.mpr hpast)

theorem covered_run
    {views : List View}
    (hviews : views ≠ [])
    (hcovered : views <:+ h.tower.tail)
    {events : List Event}
    (hdeep : ∀ past, past <+: events → views.length < (h.run past).depth) :
    views <:+ (h.run events).tower.tail :=
  run_induction_through
    (P := fun k => views <:+ k.tower.tail) (Q := fun k => views.length < k.depth)
    (fun _ _ hcovered hdeep => covered_step hviews hcovered hdeep) hcovered hdeep

theorem left_run
    {saved : List SavedRoot}
    (hleft : saved <:+ h.history)
    {events : List Event}
    (hmore : ∀ past, past <+: events → saved.length ≤ (h.run past).history.length) :
    saved <:+ (h.run events).history :=
  run_induction_through
    (P := fun k => saved <:+ k.history) (Q := fun k => saved.length ≤ k.history.length)
    (fun _ _ hleft hmore => left_step hleft hmore) hleft hmore

/-! ## Covering -/

/-- An event that makes the tower higher opens a view above the top view. -/
theorem tower_of_depth_lt
    {event : Event}
    (hdeeper : h.depth < (h.step event).1.depth) :
    ∃ new v, (h.step event).1.tower = new :: v :: h.tower.tail := by
  have hshift := h.shift_step event
  have hlength : h.tower.length = h.tower.tail.length + 1 := by
    rw [tower_eq_cons]
    rfl
  rw [h.step_eq_follow, ← length_tower, ← length_tower] at hdeeper
  rw [h.step_eq_follow]
  cases hshift with
  | opens new v tower history =>
      rw [tower_heard] at tower
      exact ⟨new, v, tower⟩
  | stays v tower history =>
      rw [tower, tower_heard, List.length_cons] at hdeeper
      omega
  | closes v rest before tower history =>
      rw [tower_heard] at before
      rw [before, List.length_cons] at hlength
      rw [tower, List.length_cons] at hdeeper
      omega
  | leaves new bottom tower history | returns saved rest bottom before tower history scope
  | starts new change tower history =>
      rw [tower, List.length_singleton] at hdeeper
      omega

/-- An event that makes the history longer leaves the root. -/
theorem history_of_length_lt
    {event : Event}
    (hlonger : h.history.length < (h.step event).1.history.length) :
    (h.step event).1.history = ⟨h.scope, h.root⟩ :: h.history := by
  have hshift := h.shift_step event
  rw [h.step_eq_follow] at hlonger ⊢
  cases hshift with
  | leaves new bottom tower history =>
      rw [history, scope_heard, root_heard, history_heard]
  | stays v tower history | opens new v tower history | closes v rest before tower history =>
      rw [history, history_heard] at hlonger
      omega
  | returns saved rest bottom before tower history scope =>
      rw [history_heard] at before
      rw [history, before, List.length_cons] at hlonger
      omega
  | starts new change tower history =>
      rw [history, List.length_nil] at hlonger
      omega

end Host

/-- A view is covered in a state of any run, and another event closes a view after
any further run.  If more views stood all the time, and now as many stand as before,
the covered view is on top, as it was and fitted into the room, and all views below
it are as they were.  If a root was left instead, and was left all the time, then it
is back in its scope in the same way. -/
theorem covered_views_return
    (session : Session) (kind : Kind)
    (past : List Event) (cover : Event) (more : List Event) (uncover : Event) :
    let before := (Host.ofKind session kind).run past
    let covered := (before.step cover).1
    let after := ((covered.run more).step uncover).1
    (covered.run more).Pops uncover →
    (before.depth < covered.depth →
      ∃ v, covered.tower[1]? = some v ∧
        ((∀ p, p <+: more → before.depth < (covered.run p).depth) →
          after.depth = before.depth →
          after.top = after.fitted v ∧
          after.tower.tail = covered.tower.drop 2)) ∧
    (before.history.length < covered.history.length →
      (∀ p, p <+: more → before.history.length < (covered.run p).history.length) →
      after.history.length = before.history.length →
      after.top = after.fitted before.root ∧
      after.stack = [] ∧
      after.scope = before.scope ∧
      after.history = before.history) := by
  intro before covered after hpops
  constructor
  · intro hdeeper
    obtain ⟨new, v, htower⟩ := Host.tower_of_depth_lt hdeeper
    change covered.tower = _ at htower
    have hlength : (v :: before.tower.tail).length = before.depth := by
      rw [← before.length_tower, before.tower_eq_cons]
      rfl
    refine ⟨v, by rw [htower]; rfl, ?_⟩
    intro hmore hdepth
    have hcovered : v :: before.tower.tail <:+ (covered.run more).tower.tail := by
      apply Host.covered_run (List.cons_ne_nil _ _)
      · rw [htower]
        exact List.suffix_rfl
      · intro p hp
        rw [hlength]
        exact hmore p hp
    have hafter := Host.revealed_step hpops hcovered (hdepth.trans hlength.symm)
    change after.tower = after.fitted v :: _ at hafter
    refine ⟨?_, ?_⟩
    · rw [after.tower_eq_cons] at hafter
      exact List.head_eq_of_cons_eq hafter
    · rw [hafter, htower, List.tail_cons]
      rfl
  · intro hlonger hmore hlength
    have hhistory := Host.history_of_length_lt hlonger
    change covered.history = _ at hhistory
    have hleft : ⟨before.scope, before.root⟩ :: before.history <:+ (covered.run more).history := by
      apply Host.left_run
      · rw [hhistory]
      · exact hmore
    obtain ⟨htower, hscope, hrest⟩ := Host.returned_step hpops hleft hlength
    change after.tower = [after.fitted before.root] at htower
    obtain ⟨hstack, hroot⟩ := after.of_tower_eq_singleton htower
    exact ⟨by rw [after.top_of_nil hstack, hroot], hstack, hscope, hrest⟩

open Host in
/-- Help is opened over a list and closed at another size of the screen: the list
is back.  In a cluster without namespaces, a root is left with its cursor moved, and
is back after the list of namespaces was filtered. -/
theorem covered_views_return_help :
    let registry : Registry :=
      { Registry.standard with namespaceKind := { Kind.namespaces with items := fun _ => [] } }
    let start : Host := .ofKind (.ofRegistry registry .empty) .workload
    let before := start.run [.resize 100 30]
    let covered := (before.step (.key ⟨"?"⟩)).1
    let more : List Event := [.resize 90 12, .key ⟨"j"⟩]
    let after := ((covered.run more).step (.key ⟨"esc"⟩)).1
    let wide := start.run [.key ⟨"j"⟩]
    let left := (wide.step (.key ⟨"left"⟩)).1
    let others : List Event := [.key ⟨"/"⟩, .key ⟨"a"⟩, .key ⟨"enter"⟩, .key ⟨"esc"⟩]
    let back := ((left.run others).step (.key ⟨"esc"⟩)).1
    (∃ v, covered.tower[1]? = some v ∧ after.top = after.fitted v) ∧
    back.top = back.fitted wide.root ∧ back.scope = .resources := by
  intro registry start before covered more after wide left others back
  have hclose : (covered.run more).Pops (.key ⟨"esc"⟩) := by
    decide +kernel
  have hdeep : ∀ p ∈ more.inits, before.depth < (covered.run p).depth := by
    decide +kernel
  have hback : (left.run others).Pops (.key ⟨"esc"⟩) := by
    decide +kernel
  have hleft : ∀ p ∈ others.inits, wide.history.length < (left.run p).history.length := by
    decide +kernel
  obtain ⟨v, hv, hafter⟩ :=
    (covered_views_return _ _ [.resize 100 30] (.key ⟨"?"⟩) more _ hclose).1 (by decide +kernel)
  obtain ⟨htop, -⟩ := hafter (fun p hp => hdeep p ((List.mem_inits _ _).mpr hp)) (by decide +kernel)
  obtain ⟨hroot, -, hscope, -⟩ :=
    (covered_views_return _ _ [.key ⟨"j"⟩] (.key ⟨"left"⟩) others _ hback).2 (by decide +kernel)
      (fun p hp => hleft p ((List.mem_inits _ _).mpr hp)) (by decide +kernel)
  exact ⟨⟨v, hv, htop⟩, hroot, hscope⟩

end ClusterNav
