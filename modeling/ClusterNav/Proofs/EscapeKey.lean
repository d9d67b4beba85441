import ClusterNav.Proofs.CoveredViews
import ClusterNav.Proofs.PromptKeys
import ClusterNav.Proofs.ViewOrigins

/-!
# The escape key

A view may be in the middle of something: a filter or a search that is typed or kept, or
a jump to a letter.  These modes end one after the other with `esc`.  A view without a
mode asks to be closed, and then the view below comes to light, or at the root the root
left last.

**Results.**
* `View.escapes`: what a view does with `esc`.
* `Host.escape_step`: what a host does with `esc`, unless a bare root is its only view.
-/

namespace ClusterNav

/-! ## Modes -/

/-- What a view may be in the middle of. -/
inductive Mode
  | typingFilter
  /-- The next key jumps to a letter. -/
  | finding
  | filtered
  | typingSearch
  | searched
deriving DecidableEq, Repr

/-- An answer that ends the first mode, or asks to close a view without modes. -/
structure Escapes (before after : List Mode) (move : Move) (effect : Option Effect) : Prop where
  after_eq : after = before.tail
  move_eq : move = if before = [] then .pop else .stay
  effect_eq : effect = none

namespace Escapes

theorem pops : Escapes [] [] .pop none :=
  ⟨rfl, rfl, rfl⟩

theorem ends
    {before after : List Mode}
    (mode : Mode)
    (h : before = mode :: after) :
    Escapes before after .stay none := by
  subst h
  exact ⟨rfl, rfl, rfl⟩

end Escapes

namespace Select.FilterList

/-- The modes of a filtered list, in the order in which they end. -/
def modes (l : FilterList) (finding : Bool) : List Mode :=
  (if l.isFiltering then [.typingFilter] else []) ++
    ((if finding then [.finding] else []) ++
      (if !l.isFiltering && l.isFiltered then [.filtered] else []))

variable {l : FilterList} {finding : Bool}

theorem length_modes_le (l : FilterList) (finding : Bool) : (l.modes finding).length ≤ 2 := by
  unfold modes
  cases l.isFiltering <;> cases finding <;> cases l.isFiltered <;> decide

theorem modes_eq_nil_iff :
    l.modes finding = [] ↔ (l.isFiltering || finding) = false ∧ l.isFiltered = false := by
  unfold modes
  cases l.isFiltering <;> cases finding <;> cases l.isFiltered <;> decide

/-- Without its filter a list has at most a jump to make. -/
theorem modes_clearFilter (l : FilterList) (finding : Bool) :
    l.clearFilter.modes finding = if finding then [.finding] else [] := by
  have hfiltering : l.clearFilter.isFiltering = false := rfl
  have hfiltered : l.clearFilter.isFiltered = false := by
    show (!"".isEmpty) = false
    decide
  simp [modes, hfiltering, hfiltered]

/-- What `esc` makes of a filtered list and of a jump to be made, and where it leads. -/
def escape (l : FilterList) (finding : Bool) : FilterList × Bool × Move :=
  if l.isFiltering then (l.clearFilter, finding, .stay)
  else if finding then (l, false, .stay)
  else if l.isFiltered then (l.clearFilter, finding, .stay)
  else (l, finding, .pop)

theorem escapes_escape (l : FilterList) (finding : Bool) :
    Escapes (l.modes finding) ((l.escape finding).1.modes (l.escape finding).2.1)
      (l.escape finding).2.2 none := by
  unfold escape
  split
  · rename_i hfiltering
    apply Escapes.ends .typingFilter
    rw [modes_clearFilter]
    simp [modes, hfiltering]
  rename_i hfiltering
  split
  · rename_i hfinding
    apply Escapes.ends .finding
    simp [modes, hfiltering, hfinding]
  rename_i hfinding
  split
  · rename_i hfiltered
    apply Escapes.ends .filtered
    rw [modes_clearFilter]
    simp [modes, hfiltering, hfinding, hfiltered]
  · rename_i hfiltered
    have hmodes : l.modes finding = [] := by
      simp [modes, hfiltering, hfinding, hfiltered]
    rw [hmodes]
    exact .pops

end Select.FilterList

def ListView.modes (v : ListView) : List Mode :=
  v.list.modes v.findArmed

def BrowserView.modes (v : BrowserView) : List Mode :=
  v.list.modes v.findArmed

def LogView.modes (v : LogView) : List Mode :=
  match v.search with
  | .off => []
  | .typing _ => [.typingSearch]
  | .applied _ _ => [.searched]

/-- The modes of a view, in the order in which they end. -/
def View.modes : View → List Mode
  | .list v => v.modes
  | .pods v => v.list.modes false
  | .containers v => v.list.modes false
  | .log v => v.modes
  | .browser v => v.modes
  | .detail _ | .text _ | .relations _ | .columns _ | .scope _ | .help _ => []

theorem LogView.length_modes_le (v : LogView) : v.modes.length ≤ 1 := by
  unfold modes
  split <;> decide

theorem View.length_modes_le (v : View) : v.modes.length ≤ 2 := by
  cases v with
  | list v | browser v =>
      exact v.list.length_modes_le v.findArmed
  | pods v | containers v =>
      exact v.list.length_modes_le false
  | log v =>
      exact v.length_modes_le.trans (by decide)
  | detail v | text v | relations v | columns v | scope v | help v =>
      exact Nat.zero_le 2

theorem LogView.modes_setSize (v : LogView) (width height : Nat) :
    (v.setSize width height).modes = v.modes := by
  unfold setSize
  split <;> rfl

/-- A size ends no mode. -/
@[simp] theorem View.modes_setSize (v : View) (width height : Nat) :
    (v.setSize width height).modes = v.modes := by
  cases v with
  | log v =>
      exact v.modes_setSize width height
  | list v | detail v | text v | relations v | pods v | containers v | columns v | scope v
  | browser v | help v =>
      rfl

theorem ListView.modes_syncNamespace (v : ListView) (ns : NamespaceScope) :
    (v.syncNamespace ns).modes = v.modes := by
  unfold syncNamespace
  split <;> rfl

/-! ## The answer of a view -/

/-- An answer to `esc` that ends the first mode, or asks to close a view without modes. -/
def Response.Escapes {α : Type} (modes : α → List Mode) (v : α) (r : Response α) : Prop :=
  ClusterNav.Escapes (modes v) (modes r.view) r.move r.effect

theorem ListView.key_esc (v : ListView) (session : Session) :
    v.key session ⟨"esc"⟩ =
      { view :=
          { v with
            list := (v.list.escape v.findArmed).1
            findArmed := (v.list.escape v.findArmed).2.1 }
        move := (v.list.escape v.findArmed).2.2 } := by
  unfold key Select.FilterList.escape
  split
  · rfl
  split
  · rfl
  show v.leave = _
  unfold leave
  split <;> rfl

theorem ListView.escapes_respond (v : ListView) (session : Session) :
    (v.respond session (.key ⟨"esc"⟩)).Escapes modes v := by
  have hkey := (v.syncNamespace session.ns).key_esc session
  unfold respond
  dsimp only
  rw [hkey, Response.Escapes, ← v.modes_syncNamespace session.ns]
  exact (v.syncNamespace session.ns).list.escapes_escape _

theorem BrowserView.key_esc (v : BrowserView) :
    v.key ⟨"esc"⟩ =
      { view :=
          { v with
            list := (v.list.escape v.findArmed).1
            findArmed := (v.list.escape v.findArmed).2.1 }
        move := (v.list.escape v.findArmed).2.2 } := by
  unfold key Select.FilterList.escape
  split
  · rfl
  split
  · rfl
  show v.leave = _
  unfold leave
  split <;> rfl

theorem BrowserView.escapes_key (v : BrowserView) :
    (v.key ⟨"esc"⟩).Escapes modes v := by
  rw [key_esc]
  exact v.list.escapes_escape v.findArmed

/-- The list of a picker reads `esc` as other lists do, but knows no jumps. -/
theorem LogPicker.key?_esc (l : Select.FilterList) :
    key? l ⟨"esc"⟩ = some ((l.escape false).1, (l.escape false).2.2) := by
  unfold key? Select.FilterList.escape
  cases l.isFiltering <;> cases l.isFiltered <;> rfl

/-- A picker has the modes of its list. -/
theorem LogPicker.escapes_escape (l : Select.FilterList) :
    Escapes (l.modes false) ((l.escape false).1.modes false) (l.escape false).2.2 none := by
  have hfinding : (l.escape false).2.1 = false := by
    unfold Select.FilterList.escape
    cases l.isFiltering <;> cases l.isFiltered <;> rfl
  have hescapes := l.escapes_escape false
  rw [hfinding] at hescapes
  exact hescapes

theorem PodPicker.escapes_key (v : PodPicker) :
    (v.key ⟨"esc"⟩).Escapes (·.list.modes false) v := by
  rw [key, LogPicker.key?_esc]
  exact LogPicker.escapes_escape v.list

theorem ContainerPicker.escapes_key (v : ContainerPicker) :
    (v.key ⟨"esc"⟩).Escapes (·.list.modes false) v := by
  rw [key, LogPicker.key?_esc]
  exact LogPicker.escapes_escape v.list

theorem LogView.key_esc_of_off
    {v : LogView}
    (h : v.search = .off) :
    v.key ⟨"esc"⟩ = { view := v, move := .pop } := by
  rw [key, h]
  show v.leave = _
  rw [leave, h]

/-- A search ends with `esc`, whether it is typed or kept. -/
theorem LogView.key_esc_of_ne
    {v : LogView}
    (h : v.search ≠ .off) :
    v.key ⟨"esc"⟩ = { view := (v.withSearch .off).relayout } := by
  unfold key
  cases hsearch : v.search with
  | off =>
      exact absurd hsearch h
  | typing text =>
      rfl
  | applied needle found =>
      show v.leave = _
      rw [leave, hsearch]

theorem LogView.escapes_key (v : LogView) :
    (v.key ⟨"esc"⟩).Escapes modes v := by
  have hends {mode : Mode} (hne : v.search ≠ .off) (hmodes : v.modes = [mode]) :
      (v.key ⟨"esc"⟩).Escapes modes v := by
    rw [key_esc_of_ne hne, Response.Escapes]
    exact .ends mode hmodes
  cases hsearch : v.search with
  | off =>
      have hmodes : v.modes = [] := by
        rw [modes, hsearch]
      rw [key_esc_of_off hsearch, Response.Escapes, hmodes]
      exact .pops
  | typing text =>
      exact hends (by simp [hsearch]) (by rw [modes, hsearch])
  | applied needle found =>
      exact hends (by simp [hsearch]) (by rw [modes, hsearch])

/-- A view ends its first mode with `esc`, or asks to be closed when it has none. -/
theorem View.escapes (v : View) (session : Session) :
    (v.respond session (.key ⟨"esc"⟩)).Escapes modes v := by
  cases v with
  | list v =>
      exact v.escapes_respond session
  | pods v =>
      exact v.escapes_key
  | containers v =>
      exact v.escapes_key
  | log v =>
      exact v.escapes_key
  | browser v =>
      exact v.escapes_key
  | detail v | text v | relations v | columns v | scope v | help v =>
      exact .pops

/-! ## A press -/

namespace Host

variable (h : Host)

/-- No view is passed by. -/
theorem route_esc : h.route (.key ⟨"esc"⟩) = .hand (.key ⟨"esc"⟩) := by
  apply h.route_of_globalRoute
  rw [globalRoute, if_neg (by decide), if_neg (by decide), if_neg (by decide)]
  rfl

theorem step_esc :
    h.step (.key ⟨"esc"⟩) = (h.heard (.key ⟨"esc"⟩)).deliver (.key ⟨"esc"⟩) := by
  rw [step_eq_follow, route_esc, follow]

theorem escapes_answer :
    (h.answer (.key ⟨"esc"⟩)).Escapes View.modes h.top :=
  h.top.escapes _

/-- Nothing is sent with `esc`. -/
theorem effect_step_esc : (h.step (.key ⟨"esc"⟩)).2 = none := by
  rw [step_esc]
  exact (escapes_answer _).effect_eq

@[simp] theorem modes_fitted (v : View) : (h.fitted v).modes = v.modes :=
  v.modes_setSize _ _

/-- What a press of `esc` does that ends a mode, closes a view or goes back. -/
inductive Escape (h g : Host) : Prop
  /-- The first mode of the top view ends. -/
  | ends (mode : Mode)
      (modes : h.top.modes = mode :: g.top.modes)
      (tower : g.tower.tail = h.tower.tail)
      (history : g.history = h.history)
      (scope : g.scope = h.scope)
  /-- The top view has no mode and is closed. -/
  | closes (v : View) (rest : List View)
      (modes : h.top.modes = [])
      (before : h.tower.tail = v :: rest)
      (tower : g.tower = g.fitted v :: rest)
      (history : g.history = h.history)
      (scope : g.scope = h.scope)
  /-- The root has no mode, and the one left last comes back. -/
  | returns (saved : SavedRoot) (rest : List SavedRoot)
      (modes : h.top.modes = [])
      (bottom : h.stack = [])
      (before : h.history = saved :: rest)
      (tower : g.tower = [g.fitted saved.root])
      (history : g.history = rest)
      (scope : g.scope = saved.scope)

theorem scope_pop_of_ne
    (hs : h.stack ≠ []) :
    h.pop.scope = h.scope := by
  unfold pop
  split
  · rw [scope_resizeTop]
  · rename_i hnil _
    exact absurd hnil hs
  · rfl

/-- A root stays only when no root was left for it. -/
theorem history_of_pop_eq
    (hs : h.stack = [])
    (hpop : h.pop = h) :
    h.history = [] := by
  cases hh : h.history with
  | nil =>
      rfl
  | cons saved rest =>
      have hrest : h.pop.history = rest := by
        rw [pop, hs, hh]
        exact history_resizeTop _
      rw [hpop, hh] at hrest
      exact absurd hrest (List.cons_ne_self _ _)

/-- A press of `esc` ends a mode, closes a view or goes back, unless the only view is a
root without modes. -/
theorem escape_step
    (hmore : h.top.modes ≠ [] ∨ h.stack ≠ [] ∨ h.history ≠ []) :
    h.Escape (h.step (.key ⟨"esc"⟩)).1 := by
  let seen := h.heard (.key ⟨"esc"⟩)
  let answered := seen.answered (.key ⟨"esc"⟩)
  have hstep : (h.step (.key ⟨"esc"⟩)).1 =
      answered.move (seen.answer (.key ⟨"esc"⟩)).move := by
    rw [step_esc, deliver_eq]
  have htower : answered.tower = (seen.answer (.key ⟨"esc"⟩)).view :: h.tower.tail :=
    tower_answered _
  have hhistory : answered.history = h.history := history_answered _
  have hscope : answered.scope = h.scope := scope_withTop _ _
  have hbottom : answered.stack = [] ↔ h.stack = [] := stack_answered_eq_nil_iff _
  have hescapes := seen.escapes_answer
  have hmove := hescapes.move_eq
  change _ = if h.top.modes = [] then _ else _ at hmove
  rw [hstep]
  cases hmodes : h.top.modes with
  | cons mode rest =>
      have hafter : (seen.answer (.key ⟨"esc"⟩)).view.modes = rest :=
        hescapes.after_eq.trans (congrArg List.tail hmodes)
      have htop : answered.top = (seen.answer (.key ⟨"esc"⟩)).view := top_withTop _ _
      rw [hmove, if_neg (by simp [hmodes]), move]
      refine .ends mode ?_ ?_ hhistory hscope
      · rw [hmodes, htop, hafter]
      · rw [htower, List.tail_cons]
  | nil =>
      rw [hmove, if_pos hmodes, move]
      cases answered.closing with
      | reveals v rest before tower history =>
          have hdeep : answered.stack ≠ [] := by
            intro hnil
            rw [answered.tower_of_nil hnil] at before
            cases before
          rw [htower] at before
          exact .closes v rest hmodes before tower (history.trans hhistory)
            ((answered.scope_pop_of_ne hdeep).trans hscope)
      | returns saved rest bottom before tower history scope =>
          exact .returns saved rest hmodes (hbottom.mp bottom) (hhistory.symm.trans before) tower
            history scope
      | stays bottom same =>
          have hnone : answered.history = [] := answered.history_of_pop_eq bottom same
          rcases hmore with hne | hne | hne
          · exact absurd hmodes hne
          · exact absurd (hbottom.mp bottom) hne
          · exact absurd (hhistory.symm.trans hnone) hne

end Host
end ClusterNav
