import ClusterNav.Proofs.CurrentLists
import ClusterNav.Proofs.EscapeKey
import ClusterNav.Proofs.ScopeLists
import Mathlib.Algebra.Order.BigOperators.Group.List
import Mathlib.Algebra.Order.Ring.Nat

/-!
# The way home

Whoever presses `esc` often enough comes home: to the list of the resources scope, with
no other view and no root left, and with no mode open.  Each press before takes away one
layer, where a view has a layer for itself and one for each of its modes.

**Results.**
* `Host.Escape.layers_eq`: what it means to take away one layer.
* `Host.atHome_or_escape`: away from home a press of `esc` takes away one.
* `escape_leads_home`: the way home, and what `esc` does there.
* `banner_taken_away_at_home`: at home a press may still take the banner away.
-/

namespace ClusterNav

/-- A view and its modes. -/
def View.layers (v : View) : Nat :=
  v.modes.length + 1

theorem View.layers_le (v : View) : v.layers ≤ 3 := by
  have hmodes := v.length_modes_le
  unfold layers
  omega

namespace Host

variable {h g : Host}

/-! ## Layers -/

/-- The views of a host and their modes, the roots that were left included. -/
def layers (h : Host) : Nat :=
  (h.views.map View.layers).sum

theorem layers_le (h : Host) : h.layers ≤ 3 * (h.depth + h.history.length) := by
  have hsum := List.sum_le_card_nsmul (h.views.map View.layers) 3 (by
    intro n hn
    obtain ⟨v, -, rfl⟩ := List.mem_map.mp hn
    exact v.layers_le)
  rw [List.length_map, length_views, Nat.nsmul_eq_mul, Nat.mul_comm] at hsum
  exact hsum

/-- The layers of the tower, and those of the roots that were left. -/
theorem layers_eq (h : Host) :
    h.layers =
      (h.tower.map View.layers).sum + (h.history.map fun saved => saved.root.layers).sum := by
  have hviews : h.views = h.tower ++ h.history.map (·.root) := by
    rw [views, tower, List.append_assoc, List.singleton_append]
  rw [layers, hviews, List.map_append, List.sum_append, List.map_map]
  rfl

theorem layers_tower (h : Host) :
    (h.tower.map View.layers).sum = h.top.layers + (h.tower.tail.map View.layers).sum := by
  rw [tower_eq_cons, List.map_cons, List.sum_cons]
  rfl

theorem one_le_layers (h : Host) : 1 ≤ h.layers := by
  rw [layers_eq, layers_tower, View.layers]
  omega

@[simp] theorem layers_fitted (v : View) : (h.fitted v).layers = v.layers := by
  rw [View.layers, modes_fitted, View.layers]

/-- A press of `esc` takes away one layer. -/
theorem Escape.layers_eq
    (he : h.Escape g) :
    g.layers + 1 = h.layers := by
  rw [Host.layers_eq, Host.layers_eq h, h.layers_tower]
  cases he with
  | ends mode modes tower history scope =>
      rw [g.layers_tower, tower, history, View.layers, View.layers, modes, List.length_cons]
      omega
  | closes v rest modes before tower history scope =>
      rw [tower, history, before, View.layers, modes, List.map_cons, layers_fitted, List.map_cons,
        List.length_nil]
      omega
  | returns saved rest modes bottom before tower history scope =>
      rw [tower, history, h.tower_of_nil bottom, before, View.layers, modes, List.map_cons,
        layers_fitted, List.map_cons, List.sum_cons, List.sum_cons, List.length_nil,
        List.tail_cons, List.map_nil, List.sum_nil]
      omega

/-! ## Home -/

/-- The host shows the list of the resources alone, and the list has no mode. -/
structure AtHome (h : Host) : Prop where
  stack : h.stack = []
  history : h.history = []
  scope : h.scope = .resources
  root : ∃ v, h.root = .list v ∧ v.kind = h.rootKind ∧ v.mode = .browse ∧
    v.takesAllKeys = false ∧ v.list.isFiltered = false

/-- A root without modes that is the only view is home. -/
theorem atHome_of_bare
    (hi : ScopesInStep h)
    (hmodes : h.top.modes = [])
    (hstack : h.stack = [])
    (hhistory : h.history = []) :
    h.AtHome := by
  have hscope : h.scope = .resources := by
    apply hi.scope_of_getLast?_eq_none
    rw [hhistory]
    rfl
  have hroot := hi.root
  rw [hscope] at hroot
  obtain ⟨v, hv, hsubject⟩ := hroot
  rw [h.top_of_nil hstack, hv] at hmodes
  obtain ⟨hkeys, hfiltered⟩ := Select.FilterList.modes_eq_nil_iff.mp hmodes
  obtain ⟨hkind, hmode⟩ := Prod.mk.inj hsubject
  exact ⟨hstack, hhistory, hscope, v, hv, hkind, hmode, hkeys, hfiltered⟩

/-- Away from home there is something to end, to close or to go back to. -/
theorem atHome_or_escape
    (hi : ScopesInStep h) :
    h.AtHome ∨ h.Escape (h.step (.key ⟨"esc"⟩)).1 := by
  by_cases hmore : h.top.modes ≠ [] ∨ h.stack ≠ [] ∨ h.history ≠ []
  · exact Or.inr (h.escape_step hmore)
  · simp only [not_or, not_not] at hmore
    exact Or.inl (atHome_of_bare hi hmore.1 hmore.2.1 hmore.2.2)

/-- At home there is only one layer, and no press takes it away. -/
theorem AtHome.not_escape
    (hh : h.AtHome) :
    ¬ h.Escape g := by
  intro hescape
  obtain ⟨v, hroot, -, -, hkeys, hfiltered⟩ := hh.root
  have hmodes : v.modes = [] := Select.FilterList.modes_eq_nil_iff.mpr ⟨hkeys, hfiltered⟩
  have hone : h.layers = 1 := by
    rw [layers_eq, h.tower_of_nil hh.stack, hh.history, hroot]
    simp [View.layers, View.modes, hmodes]
  have hfewer := hescape.layers_eq
  have hpos := g.one_le_layers
  omega

/-! ## Presses -/

/-- The host after some presses of `esc`. -/
def escaped (h : Host) (n : Nat) : Host :=
  h.run (List.replicate n (.key ⟨"esc"⟩))

theorem escaped_add (h : Host) (m n : Nat) : h.escaped (m + n) = (h.escaped m).escaped n := by
  rw [escaped, List.replicate_add, run_append]
  rfl

theorem escaped_succ (h : Host) (n : Nat) :
    h.escaped (n + 1) = ((h.escaped n).step (.key ⟨"esc"⟩)).1 := by
  rw [escaped_add]
  rfl

/-- The way home takes fewer presses than there are layers. -/
theorem way_home
    (hi : ScopesInStep h) :
    ∃ n, n < h.layers ∧
      (∀ m, m < n → (h.escaped m).Escape (h.escaped (m + 1))) ∧
      (h.escaped n).AtHome := by
  -- Each press that is needed takes away one layer.
  induction hlayers : h.layers generalizing h with
  | zero =>
      have hpos := h.one_le_layers
      omega
  | succ k ih =>
      rcases atHome_or_escape hi with hhome | hescape
      · exact ⟨0, by omega, by simp, hhome⟩
      have hfewer := hescape.layers_eq
      obtain ⟨n, hn, hescapes, hhome⟩ := ih (hi.step (.key ⟨"esc"⟩)) (by omega)
      have hshift (m : Nat) : h.escaped (m + 1) = ((h.step (.key ⟨"esc"⟩)).1).escaped m := by
        rw [Nat.add_comm, escaped_add]
        rfl
      refine ⟨n + 1, by omega, ?_, by rw [hshift]; exact hhome⟩
      intro m hm
      cases m with
      | zero =>
          exact hescape
      | succ m =>
          rw [hshift, hshift]
          exact hescapes m (by omega)

/-! ## Presses at home -/

/-- A list without modes asks to be closed and takes its columns once more. -/
theorem respond_esc_of_bare
    {v : ListView} {session : Session}
    (hkeys : v.takesAllKeys = false)
    (hfiltered : v.list.isFiltered = false)
    (hsync : v.syncNamespace session.ns = v) :
    v.respond session (.key ⟨"esc"⟩) =
      { view := v.refreshColumns session.columns, move := .pop } := by
  rw [ListView.takesAllKeys, Bool.or_eq_false_iff] at hkeys
  have hleaves : v.list.escape v.findArmed = (v.list, v.findArmed, .pop) := by
    rw [Select.FilterList.escape, if_neg (by simp [hkeys.1]), if_neg (by simp [hkeys.2]),
      if_neg (by simp [hfiltered])]
  unfold ListView.respond
  dsimp only
  rw [hsync, v.key_esc, hleaves]
  rfl

/-- The host without a banner, and with the columns of its list as the store has them. -/
def tidied (h : Host) (v : ListView) : Host :=
  { h with notice := "", root := .list (v.refreshColumns h.session.columns) }

theorem AtHome.tidied
    {v : ListView}
    (hh : h.AtHome)
    (hroot : h.root = .list v) :
    (h.tidied v).AtHome := by
  obtain ⟨w, hw, hkind, hmode, hkeys, hfiltered⟩ := hh.root
  rw [hroot] at hw
  cases hw
  exact ⟨hh.stack, hh.history, hh.scope, _, rfl, hkind, hmode, hkeys, hfiltered⟩

/-- At home a press of `esc` does no more than tidy up. -/
theorem step_esc_of_atHome
    {v : ListView}
    (hh : h.AtHome)
    (hroot : h.root = .list v)
    (hcurrent : v.Current h.session) :
    (h.step (.key ⟨"esc"⟩)).1 = h.tidied v := by
  obtain ⟨w, hw, -, -, hkeys, hfiltered⟩ := hh.root
  rw [hroot] at hw
  cases hw
  have htop : h.top = .list v := (h.top_of_nil hh.stack).trans hroot
  have hsync : v.syncNamespace h.session.ns = v := ListView.syncNamespace_eq_self hcurrent.ns_eq
  have hanswer : h.answer (.key ⟨"esc"⟩) =
      { view := .list (v.refreshColumns h.session.columns), move := .pop } := by
    rw [answer, sessionAfter_key, htop]
    exact congrArg (Response.map View.list) (respond_esc_of_bare hkeys hfiltered hsync)
  have hanswered : (h.heard (.key ⟨"esc"⟩)).answered (.key ⟨"esc"⟩) = h.tidied v := by
    rw [answered, sessionAfter_heard, answer_heard, hanswer, sessionAfter_key, withTop_eq]
    simp [heard, tidied, hh.stack]
  have hpop : (h.tidied v).pop = h.tidied v := by
    have hhome := hh.tidied hroot
    rw [pop, hhome.stack, hhome.history]
  rw [step_esc, deliver_eq, hanswered, answer_heard, hanswer]
  exact hpop

/-- Once the host is tidied up, `esc` changes nothing. -/
theorem escaped_tidied
    {v : ListView}
    (hh : h.AtHome)
    (hroot : h.root = .list v)
    (hcurrent : v.Current h.session)
    (n : Nat) :
    (h.tidied v).escaped n = h.tidied v := by
  induction n with
  | zero =>
      rfl
  | succ n ih =>
      have hrefreshed : (v.refreshColumns h.session.columns).Current h.session :=
        ⟨hcurrent.ns_eq, hcurrent.items_eq⟩
      rw [escaped_succ, ih]
      exact step_esc_of_atHome (v := v.refreshColumns h.session.columns) (hh.tidied hroot) rfl
        hrefreshed

end Host

/-- From every state of a run fewer presses of `esc` than three for each view and each
root left lead home, to the list of the resources without a mode.  Each of these
presses ends a mode of the top view, closes one view, or goes back to the root left
last, and none has an effect.  One more press may take the banner away and brings the
columns of the list up to date; it changes nothing else, and after it `esc` changes
nothing at all. -/
theorem escape_leads_home (session : Session) (kind : Kind) (events : List Event) :
    let h := (Host.ofKind session kind).run events
    (∀ m, ((h.escaped m).step (.key ⟨"esc"⟩)).2 = none) ∧
    ∃ n v,
      n < 3 * (h.depth + h.history.length) ∧
      (∀ m, m < n → (h.escaped m).Escape (h.escaped (m + 1))) ∧
      (h.escaped n).AtHome ∧
      (h.escaped n).root = .list v ∧
      ∀ m, n < m → h.escaped m = (h.escaped n).tidied v := by
  intro h
  have hi : ScopesInStep h := (ScopesInStep.ofKind session kind).run events
  obtain ⟨n, hn, hescapes, hhome⟩ := Host.way_home hi
  obtain ⟨v, hroot, -⟩ := hhome.root
  refine ⟨fun m => (h.escaped m).effect_step_esc, n, v, hn.trans_le h.layers_le, hescapes, hhome,
    hroot, ?_⟩
  have hcurrent : v.Current (h.escaped n).session := by
    have hlists := Host.current_run session kind (events ++ List.replicate n (.key ⟨"esc"⟩))
    rw [Host.run_append] at hlists
    exact hlists (h.escaped n).top (Host.top_mem_views _) v
      ((Host.top_of_nil _ hhome.stack).trans hroot)
  intro m hm
  obtain ⟨k, rfl⟩ : ∃ k, m = n + 1 + k := ⟨m - (n + 1), by omega⟩
  rw [Host.escaped_add, Host.escaped_succ, Host.step_esc_of_atHome hhome hroot hcurrent,
    Host.escaped_tidied hhome hroot hcurrent]

namespace Host

theorem modes_ofKind (session : Session) (kind : Kind) :
    (ListView.ofKind session kind).modes = [] := by
  apply Select.FilterList.modes_eq_nil_iff.mpr
  exact ⟨rfl, by show (!"".isEmpty) = false; decide⟩

/-- The user goes out to the contexts, chooses the current one and asks for a wider scope,
all before the choice arrives. -/
def toWarnedHome (context : String) : List Event :=
  [.key ⟨"left"⟩, .key ⟨"left"⟩, .key ⟨"enter"⟩, .key ⟨"left"⟩,
   .message (.selected .contexts context)]

/-- The choice leads home, where the banner is still shown. -/
theorem warned_at_home
    (session : Session) (kind : Kind) (width height : Nat)
    (hseven : 7 ≤ height) :
    let h := (ofKind session kind).run (.resize width height :: toWarnedHome session.context)
    h.AtHome ∧ h.notice ≠ "" := by
  intro h
  let first : ListView := (ListView.ofKind session kind).setSize width (height - 4)
  let start : Host := ((ofKind session kind).step (.resize width height)).1
  let namespaces : Host := (start.step (.key ⟨"left"⟩)).1
  let contexts : Host := (namespaces.step (.key ⟨"left"⟩)).1
  let chosen : Host := (contexts.step (.key ⟨"enter"⟩)).1
  have hkeys := ListView.takesAllKeys_setSize_ofScope session
  have hstart : Rests session height .resources first start :=
    Rests.of_resizeTop (g := { ofKind session kind with width := width, height := height })
      rfl rfl hseven rfl rfl rfl rfl
  have hnamespaces := hstart.left hseven rfl .namespaces rfl rfl
  have hcontexts := hnamespaces.left hseven (hkeys _ _ _) .contexts rfl rfl
  obtain ⟨hchosen, hsame⟩ := hcontexts.enter (hkeys _ _ _) rfl
  obtain ⟨notice, hnotice, hwarned⟩ := hchosen.warns (hkeys .contexts namespaces.width _)
  have hlast : chosen.history.getLast? = some ⟨.resources, .list first⟩ := by
    have hnone : start.history = [] := history_resizeTop _
    rw [hsame, hnamespaces.history_left (hkeys _ _ _) rfl, hstart.history_left rfl rfl, hnone]
    rfl
  let warned : Host := { chosen with notice := notice }
  have hunchanged : changes warned.session .contexts session.context = false := by
    apply (changes_eq_false_iff _ _ _).mpr
    show { chosen.session with context := session.context } = chosen.session
    rw [hchosen.session_eq]
  have hrun : h = warned.select .contexts session.context := by
    show ((chosen.step (.key ⟨"left"⟩)).1.step (.message (.selected .contexts _))).1 = _
    rw [hwarned]
    rfl
  have hi : ScopesInStep h := (ScopesInStep.ofKind session kind).run _
  have hhistory : h.history = [] := by
    rw [hrun]
    exact (warned.fields_select _ _).2.2.1
  obtain ⟨hstack, hroot⟩ := views_select_of_saved .contexts session.context hunchanged hlast
  rw [← hrun] at hstack hroot
  refine ⟨atHome_of_bare hi ?_ hstack hhistory, ?_⟩
  · rw [h.top_of_nil hstack, hroot, modes_fitted]
    exact modes_ofKind session kind
  · rw [hrun, (warned.fields_select _ _).2.2.2.2.2.2]
    exact hnotice

end Host

/-- The user is home, and a banner is shown.  No number of presses, each of which ends a
mode, closes a view or goes back, leads home for good: already the first press does
nothing of that kind, but takes the banner away. -/
theorem banner_taken_away_at_home :
    let h := (Host.ofKind (.ofRegistry .standard .empty) .workload).run
      [.resize 100 30, .key ⟨"left"⟩, .key ⟨"left"⟩, .key ⟨"enter"⟩, .key ⟨"left"⟩,
       .message (.selected .contexts "kind-dev")]
    h.AtHome ∧ h.notice ≠ "" ∧ (h.escaped 1).notice = "" ∧
    ¬ ∃ n, n ≤ 3 * (h.depth + h.history.length) ∧
      (∀ m, m < n → (h.escaped m).Escape (h.escaped (m + 1))) ∧
      (h.escaped n).AtHome ∧
      ∀ m, n ≤ m → h.escaped m = h.escaped n := by
  intro h
  obtain ⟨hhome, hnotice⟩ :=
    Host.warned_at_home (.ofRegistry .standard .empty) .workload 100 30 (by decide)
  change h.AtHome at hhome
  change h.notice ≠ "" at hnotice
  have hcurrent := Host.current_run (.ofRegistry .standard .empty) .workload
    [.resize 100 30, .key ⟨"left"⟩, .key ⟨"left"⟩, .key ⟨"enter"⟩, .key ⟨"left"⟩,
     .message (.selected .contexts "kind-dev")]
  obtain ⟨v, hroot, -⟩ := hhome.root
  have htaken : (h.escaped 1).notice = "" := by
    have htop : h.top = .list v := (h.top_of_nil hhome.stack).trans hroot
    show (h.step (.key ⟨"esc"⟩)).1.notice = ""
    rw [Host.step_esc_of_atHome hhome hroot (hcurrent h.top h.top_mem_views v htop)]
    rfl
  refine ⟨hhome, hnotice, htaken, ?_⟩
  rintro ⟨n, -, hescapes, -, hsettled⟩
  cases n with
  | zero =>
      have hsame := congrArg Host.notice (hsettled 1 (Nat.zero_le 1))
      rw [htaken] at hsame
      exact hnotice hsame.symm
  | succ n =>
      exact hhome.not_escape (hescapes 0 (Nat.succ_pos n))

end ClusterNav
