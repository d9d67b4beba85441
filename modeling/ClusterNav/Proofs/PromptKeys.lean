import ClusterNav.Proofs.ScopeHistory
import ClusterNav.Proofs.ViewTower
import Mathlib.Data.List.Infix

/-!
# Keys of an open prompt

A view with an open prompt takes all keys for itself, and so does a box to choose
from.  Such a key never reaches beyond the view: a prompt stays open or closes, and
nothing else happens; a box stays, or it closes, and only `enter` sends a choice.

When a box closes, the view below it gets the room, which may be another one than it
had.  So it is not left as it was, but it is not changed otherwise.

**Results.**
* `View.contained_respond`: what a view does with a key that it takes for itself.
* `prompt_keys_contained`: what a host does with such a key.
* `closing_box_resizes_below`: the view below a box is fitted when the box closes.
-/

namespace ClusterNav

/-! ## The answer of a view -/

/-- An answer with which a view keeps the key to itself. -/
structure Response.Silent {α : Type} (r : Response α) : Prop where
  move : r.move = .stay
  effect : r.effect = none

/-- The answer of a box to a key. -/
inductive Response.Chooses {α : Type} (k : Key) (r : Response α) : Prop
  | stays (silent : r.Silent)
  | cancels (key : k.name = "esc") (move : r.move = .pop) (effect : r.effect = none)
  | commits (key : k.name = "enter") (move : r.move = .pop)
      (m : Message) (effect : r.effect = some (.emit m))

namespace Response

variable {α β : Type} {r : Response α}

theorem Silent.map
    (h : r.Silent)
    (f : α → β) :
    (r.map f).Silent :=
  ⟨h.move, h.effect⟩

theorem Chooses.map
    {k : Key}
    (h : r.Chooses k)
    (f : α → β) :
    (r.map f).Chooses k := by
  cases h with
  | stays silent =>
      exact .stays (silent.map f)
  | cancels key move effect =>
      exact .cancels key move effect
  | commits key move m effect =>
      exact .commits key move m effect

end Response

theorem ListView.silent_key
    {v : ListView}
    (h : v.takesAllKeys = true)
    (session : Session) (k : Key) :
    (v.key session k).Silent := by
  unfold key
  split
  · exact ⟨rfl, rfl⟩
  split
  · exact ⟨rfl, rfl⟩
  · simp_all [takesAllKeys]

theorem ListView.takesAllKeys_syncNamespace (v : ListView) (ns : NamespaceScope) :
    (v.syncNamespace ns).takesAllKeys = v.takesAllKeys := by
  unfold syncNamespace
  split <;> rfl

theorem ListView.silent_respond
    {v : ListView}
    (h : v.takesAllKeys = true)
    (session : Session) (k : Key) :
    (v.respond session (.key k)).Silent := by
  have hsilent : ((v.syncNamespace session.ns).key session k).Silent := by
    apply silent_key
    rw [takesAllKeys_syncNamespace, h]
  exact hsilent.map (·.refreshColumns session.columns)

theorem BrowserView.silent_key
    {v : BrowserView}
    (h : v.takesAllKeys = true)
    (k : Key) :
    (v.key k).Silent := by
  unfold key
  split
  · exact ⟨rfl, rfl⟩
  split
  · exact ⟨rfl, rfl⟩
  · simp_all [takesAllKeys]

theorem PodPicker.silent_key
    {v : PodPicker}
    (h : v.list.isFiltering = true)
    (k : Key) :
    (v.key k).Silent := by
  rw [key, LogPicker.key?, if_pos h]
  exact ⟨rfl, rfl⟩

theorem ContainerPicker.silent_key
    {v : ContainerPicker}
    (h : v.list.isFiltering = true)
    (k : Key) :
    (v.key k).Silent := by
  rw [key, LogPicker.key?, if_pos h]
  exact ⟨rfl, rfl⟩

theorem LogView.silent_key
    {v : LogView}
    (h : v.takesAllKeys = true)
    (k : Key) :
    (v.key k).Silent := by
  unfold takesAllKeys at h
  unfold key
  cases hsearch : v.search with
  | typing text =>
      exact ⟨rfl, rfl⟩
  | off =>
      simp [hsearch] at h
  | applied needle found =>
      simp [hsearch] at h

theorem ScopePicker.chooses_key (v : ScopePicker) (k : Key) :
    (v.key k).Chooses k := by
  unfold key
  split
  · rename_i hkey
    exact .cancels hkey rfl rfl
  · rename_i hkey
    unfold enter
    split
    · exact .commits hkey rfl _ rfl
    · exact .stays ⟨rfl, rfl⟩
  · exact .stays ⟨rfl, rfl⟩

theorem ColumnPicker.chooses_key (v : ColumnPicker) (k : Key) :
    (v.key k).Chooses k := by
  unfold key
  split
  · exact .stays ⟨rfl, rfl⟩
  split
  · rename_i hkey
    exact .cancels hkey rfl rfl
  · rename_i hkey
    exact .commits hkey rfl _ rfl
  all_goals exact .stays ⟨rfl, rfl⟩

namespace View

/-- Is the view a box to choose from? -/
def isBox : View → Bool
  | .columns _ | .scope _ => true
  | _ => false

/-- What a view does with a key that it takes for itself. -/
theorem contained_respond
    {v : View}
    (h : v.takesAllKeys = true)
    (session : Session) (k : Key) :
    v.isBox = false ∧ (v.respond session (.key k)).Silent ∨
    v.isBox = true ∧ (v.respond session (.key k)).Chooses k := by
  cases v with
  | list v =>
      exact Or.inl ⟨rfl, (v.silent_respond h session k).map _⟩
  | pods v =>
      exact Or.inl ⟨rfl, (v.silent_key h k).map _⟩
  | containers v =>
      exact Or.inl ⟨rfl, (v.silent_key h k).map _⟩
  | log v =>
      exact Or.inl ⟨rfl, (v.silent_key h k).map _⟩
  | browser v =>
      exact Or.inl ⟨rfl, (v.silent_key h k).map _⟩
  | columns v =>
      exact Or.inr ⟨rfl, (v.chooses_key k).map _⟩
  | scope v =>
      exact Or.inr ⟨rfl, (v.chooses_key k).map _⟩
  | detail v | text v | relations v | help v =>
      cases h

/-- The rows of a page of a list of items. -/
def perPage? : View → Option Nat
  | .list v => some v.list.paginator.perPage
  | _ => none

end View

/-! ## The host -/

namespace Host

variable (h : Host)

/-- What the views stand on: the session, the kind of the root, the scope, and the
roots that were left. -/
def ground : Session × Kind × Scope × List SavedRoot :=
  (h.session, h.rootKind, h.scope, h.history)

@[simp] theorem ground_withTop (v : View) : (h.withTop v).ground = h.ground := by
  rw [withTop_eq]
  rfl

@[simp] theorem ground_resizeTop : h.resizeTop.ground = h.ground := by
  rw [resizeTop_eq, ground_withTop]

@[simp] theorem ground_answered_key (k : Key) : (h.answered (.key k)).ground = h.ground := by
  rw [answered, ground_withTop, sessionAfter_key]

/-- Closing a view above the root leaves the ground as it is. -/
theorem ground_pop
    (hs : h.stack ≠ []) :
    h.pop.ground = h.ground := by
  obtain ⟨v, rest, hstack⟩ := List.exists_cons_of_ne_nil hs
  have hpop : h.pop = resizeTop { h with stack := rest } := by
    rw [pop, hstack]
  rw [hpop, ground_resizeTop]
  rfl

variable {h}

/-- A box stands above the root. -/
theorem stack_ne_nil_of_isBox
    (hi : ScopesInStep h)
    (hbox : h.top.isBox = true) :
    h.stack ≠ [] := by
  intro hs
  obtain ⟨v, hroot, -⟩ := hi.root
  rw [h.top_of_nil hs, hroot] at hbox
  cases hbox

/-- What becomes of a host and its views when a key stays with the top view. -/
inductive Contained (h : Host) (k : Key) (g : Host) (effect : Option Effect) : Prop
  | stays
      (ground : g.ground = h.ground)
      (tower : g.tower.tail = h.tower.tail)
      (silent : effect = none)
  /-- A box closes, and the view below it gets the room. -/
  | closes
      (v : View) (rest : List View)
      (box : h.top.isBox = true)
      (ground : g.ground = h.ground)
      (before : h.tower.tail = v :: rest)
      (tower : g.tower = g.fitted v :: rest)
      (key : k.name = "esc" ∧ effect = none ∨ k.name = "enter" ∧ ∃ m, effect = some (.emit m))

theorem contained_of_silent
    {k : Key}
    (hsilent : (h.answer (.key k)).Silent) :
    h.Contained k (h.deliver (.key k)).1 (h.deliver (.key k)).2 := by
  rw [deliver_eq, hsilent.move]
  refine .stays ?_ ?_ hsilent.effect
  · exact h.ground_answered_key k
  · rw [move, tower_answered, List.tail_cons]

theorem contained_of_pop
    {k : Key}
    (hs : h.stack ≠ [])
    (hbox : h.top.isBox = true)
    (hmove : (h.answer (.key k)).move = .pop)
    (hkey : k.name = "esc" ∧ (h.answer (.key k)).effect = none ∨
      k.name = "enter" ∧ ∃ m, (h.answer (.key k)).effect = some (.emit m)) :
    h.Contained k (h.deliver (.key k)).1 (h.deliver (.key k)).2 := by
  have hanswered : (h.answered (.key k)).stack ≠ [] := by
    rw [ne_eq, stack_answered_eq_nil_iff]
    exact hs
  have hground : (h.answered (.key k)).pop.ground = h.ground := by
    rw [ground_pop _ hanswered, ground_answered_key]
  rw [deliver_eq, hmove]
  cases (h.answered (.key k)).closing with
  | reveals v rest before tower history =>
      rw [tower_answered, List.tail_cons] at before
      exact .closes v rest hbox hground before tower hkey
  | returns saved rest bottom before tower history scope =>
      exact absurd bottom hanswered
  | stays bottom same =>
      exact absurd bottom hanswered

/-- A key that the top view takes for itself stays with it. -/
theorem contained_deliver
    (hi : ScopesInStep h)
    (hkeys : h.top.takesAllKeys = true)
    (k : Key) :
    h.Contained k (h.deliver (.key k)).1 (h.deliver (.key k)).2 := by
  rcases View.contained_respond hkeys (h.sessionAfter (.key k)) k with
    ⟨-, hsilent⟩ | ⟨hbox, hchooses⟩
  · exact contained_of_silent hsilent
  · have hs := stack_ne_nil_of_isBox hi hbox
    cases hchooses with
    | stays silent =>
        exact contained_of_silent silent
    | cancels key move effect =>
        exact contained_of_pop hs hbox move (Or.inl ⟨key, effect⟩)
    | commits key move m effect =>
        exact contained_of_pop hs hbox move (Or.inr ⟨key, m, effect⟩)

theorem step_key_of_takesAllKeys
    (hkeys : h.top.takesAllKeys = true)
    (k : Key) :
    h.step (.key k) = (h.heard (.key k)).deliver (.key k) := by
  rw [step_eq_follow, route, if_pos hkeys, follow]

theorem depth_eq_length_tail (h : Host) : h.depth = h.tower.tail.length + 1 := by
  rw [← h.length_tower, h.tower_eq_cons]
  rfl

namespace Contained

variable {k : Key} {g : Host} {effect : Option Effect}

theorem ground_eq
    (hc : h.Contained k g effect) :
    g.ground = h.ground := by
  cases hc with
  | stays ground tower silent =>
      exact ground
  | closes v rest box ground before tower key =>
      exact ground

theorem effect_ne_quit
    (hc : h.Contained k g effect) :
    effect ≠ some .quit := by
  cases hc with
  | stays ground tower silent =>
      simp [silent]
  | closes v rest box ground before tower key =>
      rcases key with ⟨-, hnone⟩ | ⟨-, m, hsome⟩
      · simp [hnone]
      · simp [hsome]

theorem silent_of_not_isBox
    (hc : h.Contained k g effect)
    (hbox : h.top.isBox = false) :
    g.depth = h.depth ∧ effect = none := by
  cases hc with
  | stays ground tower silent =>
      rw [g.depth_eq_length_tail, tower, h.depth_eq_length_tail]
      exact ⟨rfl, silent⟩
  | closes v rest box ground before tower key =>
      simp [box] at hbox

/-- The stack loses a view only when a box closes. -/
theorem depth_of_ne
    (hc : h.Contained k g effect)
    (hne : g.depth ≠ h.depth) :
    g.depth + 1 = h.depth ∧ (k.name = "esc" ∨ k.name = "enter") := by
  cases hc with
  | stays ground tower silent =>
      rw [g.depth_eq_length_tail, tower, h.depth_eq_length_tail] at hne
      exact absurd rfl hne
  | closes v rest box ground before tower key =>
      rw [g.depth_eq_length_tail, h.depth_eq_length_tail, tower, before]
      exact ⟨rfl, key.imp And.left And.left⟩

theorem enter_of_effect
    (hc : h.Contained k g effect)
    (hne : effect ≠ none) :
    k.name = "enter" := by
  cases hc with
  | stays ground tower silent =>
      exact absurd silent hne
  | closes v rest box ground before tower key =>
      rcases key with ⟨-, hnone⟩ | ⟨henter, -⟩
      · exact absurd hnone hne
      · exact henter

theorem below
    (hc : h.Contained k g effect) :
    g.tower.tail = h.tower.tail ∨
    ∃ v rest, h.tower.tail = v :: rest ∧ g.tower = g.fitted v :: rest := by
  cases hc with
  | stays ground tower silent =>
      exact Or.inl tower
  | closes v rest box ground before tower key =>
      exact Or.inr ⟨v, rest, before, tower⟩

end Contained

/-- What a reachable host does with a key that the top view takes for itself. -/
theorem contained_step_key
    (session : Session) (kind : Kind) (events : List Event) (k : Key)
    (hkeys : ((Host.ofKind session kind).run events).top.takesAllKeys = true) :
    let h := (Host.ofKind session kind).run events
    h.Contained k (h.step (.key k)).1 (h.step (.key k)).2 := by
  intro h
  have hi : ScopesInStep h := (ScopesInStep.ofKind session kind).run events
  rw [step_key_of_takesAllKeys hkeys]
  cases contained_deliver (hi.heard (.key k)) hkeys k with
  | stays ground tower silent =>
      exact .stays ground tower silent
  | closes v rest box ground before tower key =>
      exact .closes v rest box ground before tower key

end Host

/-- While the top view of a reachable host takes all keys, no key leaves the program
or changes the session, the kind of the root, the scope or the roots that were left.
A view with a prompt keeps the height of the stack and sends nothing.  A box closes
only by `esc` and `enter` and sends a choice only by `enter`.  All views below the
top view stay as they are, but when a box closes, the view below it is fitted into
the room. -/
theorem prompt_keys_contained
    (session : Session) (kind : Kind) (events : List Event) (k : Key)
    (hkeys : ((Host.ofKind session kind).run events).top.takesAllKeys = true) :
    let h := (Host.ofKind session kind).run events
    let g := (h.step (.key k)).1
    let effect := (h.step (.key k)).2
    (g.session = h.session ∧ g.rootKind = h.rootKind ∧ g.scope = h.scope ∧
      g.history = h.history) ∧
    effect ≠ some .quit ∧
    (h.top.isBox = false → g.depth = h.depth ∧ effect = none) ∧
    (g.depth ≠ h.depth → g.depth + 1 = h.depth ∧ (k.name = "esc" ∨ k.name = "enter")) ∧
    (effect ≠ none → k.name = "enter") ∧
    (g.tower.tail = h.tower.tail ∨
      ∃ v rest, h.tower.tail = v :: rest ∧ g.tower = g.fitted v :: rest) := by
  intro h g effect
  have hc : h.Contained k g effect := Host.contained_step_key session kind events k hkeys
  have hground : g.ground = h.ground := hc.ground_eq
  simp only [Host.ground, Prod.mk.injEq] at hground
  exact ⟨hground, hc.effect_ne_quit, hc.silent_of_not_isBox, hc.depth_of_ne,
    hc.enter_of_effect, hc.below⟩

/-- The box with the namespaces is open: `q` does not leave the program, and `enter`
closes the box with a choice. -/
theorem prompt_keys_contained_namespaces :
    let h := (Host.ofKind (.ofRegistry .standard .empty) .workload).run
      [.resize 100 30, .key ⟨"n"⟩]
    h.top.takesAllKeys = true ∧
    (h.step (.key ⟨"q"⟩)).2 ≠ some .quit ∧
    (h.step (.key ⟨"enter"⟩)).2 ≠ none ∧
    (h.step (.key ⟨"enter"⟩)).1.depth + 1 = h.depth ∧
    (h.step (.key ⟨"enter"⟩)).1.session.ns = h.session.ns := by
  intro h
  have hkeys : h.top.takesAllKeys = true := by
    decide +kernel
  have hshorter : (h.step (.key ⟨"enter"⟩)).1.depth ≠ h.depth := by
    decide +kernel
  have hchoice : (h.step (.key ⟨"enter"⟩)).2 ≠ none := by
    decide +kernel
  obtain ⟨-, hquit, -⟩ := prompt_keys_contained (.ofRegistry .standard .empty) .workload
    [.resize 100 30, .key ⟨"n"⟩] ⟨"q"⟩ hkeys
  obtain ⟨⟨hsession, -⟩, -, -, hdepth, -⟩ := prompt_keys_contained
    (.ofRegistry .standard .empty) .workload [.resize 100 30, .key ⟨"n"⟩] ⟨"enter"⟩ hkeys
  exact ⟨hkeys, hquit, hchoice, (hdepth hshorter).1, by rw [hsession]⟩

/-- A box is opened over a list, and the screen becomes smaller: when the box is
closed, the list below it has smaller pages than before. -/
theorem closing_box_resizes_below :
    ¬ ∀ (session : Session) (kind : Kind) (events : List Event) (k : Key),
      ((Host.ofKind session kind).run events).top.takesAllKeys = true →
      ((Host.ofKind session kind).run events).tower.tail <:+
        (((Host.ofKind session kind).run events).step (.key k)).1.tower := by
  intro hkept
  let shrunk : Host :=
    (Host.ofKind (.ofRegistry .standard .empty) .workload).run
      [.resize 100 30, .key ⟨"n"⟩, .resize 100 9]
  have hkeys : shrunk.top.takesAllKeys = true := by
    decide +kernel
  have hbefore : shrunk.tower.tail.map View.perPage? = [some 25] := by
    decide +kernel
  have hafter : (shrunk.step (.key ⟨"esc"⟩)).1.tower.map View.perPage? = [some 4] := by
    decide +kernel
  have hsuffix := (hkept _ _ _ ⟨"esc"⟩ hkeys).map View.perPage?
  change shrunk.tower.tail.map View.perPage? <:+
    (shrunk.step (.key ⟨"esc"⟩)).1.tower.map View.perPage? at hsuffix
  rw [hbefore, hafter] at hsuffix
  exact absurd hsuffix (by decide)

end ClusterNav
