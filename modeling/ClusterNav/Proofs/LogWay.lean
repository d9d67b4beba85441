import ClusterNav.Proofs.HelpPages
import ClusterNav.Proofs.ItemOrder
import ClusterNav.Proofs.LogStages

/-!
# The way to a log

All stages of the way to a log stand in one place, right above the view where the way
began: each choice replaces the view in which it is made.  So the way is a matter of one
view, and of the rows that were under the cursor when a key picked.

**Results.**
* `Host.way_step`: what a key of a way does to the views.
* `Host.OnWay.step`, `Host.onWay_presses`: whose log a way leads to, after one more key
  and after any keys.
* `log_way_leads_to_picked`: what this says of every way.
* `only_pod_not_picked`: the log of an item is not that of its only pod, and a list does
  not always come back as it was.
-/

namespace ClusterNav

open Select

/-! ## Keys of a way -/

namespace Key

/-- The keys that open a filter, move a cursor or pick, by their names. -/
def wayNames : List String :=
  "/" :: "enter" :: "l" :: "right" :: scrollNames

/-- The characters among these keys, and the key with which a way begins. -/
def wayRunes : List Char :=
  ['o', '/', 'l', 'j', 'k', 'g', 'G']

end Key

/-- No kind has a key of a way for its hotkey. -/
theorem Registry.byHotkey?_standard_wayRunes :
    ∀ c ∈ Key.wayRunes, standard.byHotkey? c = none := by
  simp only [Key.wayRunes, List.forall_mem_cons, List.not_mem_nil, false_implies, implies_true,
    and_true]
  decide +kernel

namespace Host

variable {h : Host} {k : Key}

/-- A key that filters, moves or picks.  While a filter or a search is typed, all keys do;
`esc` ends one that is there. -/
def IsWayKey (h : Host) (k : Key) : Prop :=
  h.top.takesAllKeys = true ∨ k.name ∈ Key.wayNames ∨ k.name = "esc" ∧ h.top.modes ≠ []

instance (h : Host) (k : Key) : Decidable (h.IsWayKey k) :=
  inferInstanceAs (Decidable (_ ∨ _ ∨ _))

/-- The key as the top view reads it. -/
def handed (h : Host) (k : Key) : Key :=
  if h.top.takesAllKeys = false ∧ k.isSpace = true then ⟨"pgdown"⟩ else k

theorem handed_eq_or (h : Host) (k : Key) : h.handed k = k ∨ h.handed k = ⟨"pgdown"⟩ := by
  unfold handed
  split
  · exact Or.inr rfl
  · exact Or.inl rfl

/-- No key of a way leaves a stage. -/
theorem handed_stays
    (hstage : h.top.stage?.isSome)
    (hk : h.IsWayKey k) :
    ¬ ((h.handed k).name = "esc" ∧ h.top.modes = []) := by
  rintro ⟨hesc, hnil⟩
  rcases h.handed_eq_or k with hsame | hpage
  · rw [hsame] at hesc
    rcases hk with htakes | hway | ⟨-, hmodes⟩
    · exact View.modes_ne_nil_of_takesAllKeys hstage htakes hnil
    · rw [hesc] at hway
      exact absurd hway (by decide)
    · exact hmodes hnil
  · rw [hpage] at hesc
    exact absurd hesc (by decide)

theorem handed_picks_iff : (h.handed k).Picks ↔ k.Picks := by
  unfold handed
  split
  case isTrue hspace =>
    refine iff_of_false (by decide) fun hk => ?_
    have hblank := hspace.2
    simp only [Key.isSpace, Key.Picks, List.mem_cons, List.not_mem_nil, or_false] at hblank hk
    rcases hk with hk | hk | hk <;> simp [hk] at hblank
  case isFalse => exact Iff.rfl

section Routes

variable (hfree : ∀ c ∈ Key.wayRunes, h.session.registry.byHotkey? c = none)
include hfree

theorem globalRoute_way
    (hname : k.name ∈ "o" :: "esc" :: Key.wayNames) :
    h.globalRoute k = .hand (.key (if k.isSpace then ⟨"pgdown"⟩ else k)) := by
  have hquit : ∀ name ∈ "o" :: "esc" :: Key.wayNames, ["q", "ctrl+c"].contains name = false := by
    decide
  have hback : ∀ name ∈ "o" :: "esc" :: Key.wayNames,
      ["backspace", "left", "ctrl+h"].contains name = false := by
    decide
  have hrunes : ∀ name ∈ "o" :: "esc" :: Key.wayNames, (Key.mk name).isSpace = false →
      ((Key.mk name).rune?.all fun c =>
        Key.wayRunes.contains c && (globalTarget? c).isNone) = true := by
    decide +kernel
  apply h.globalRoute_eq_hand (hquit k.name hname) (hback k.name hname)
  intro hspace c hc
  have hrune := hrunes k.name hname hspace
  change (k.rune?.all _) = true at hrune
  rw [hc] at hrune
  simp only [Option.all_some, Bool.and_eq_true, List.contains_iff_mem,
    Option.isNone_iff_eq_none] at hrune
  exact ⟨hfree c hrune.1, hrune.2⟩

/-- The top view reads all keys of a way. -/
theorem route_wayKey
    (hk : h.IsWayKey k) :
    h.route (.key k) = .hand (.key (h.handed k)) := by
  unfold handed
  cases hkeys : h.top.takesAllKeys with
  | true =>
      rw [route, if_pos hkeys]
      simp
  | false =>
      have hname : k.name ∈ "o" :: "esc" :: Key.wayNames := by
        rcases hk with htakes | hway | ⟨hesc, -⟩
        · simp [hkeys] at htakes
        · exact List.mem_cons_of_mem _ (List.mem_cons_of_mem _ hway)
        · simp [hesc]
      rw [route, if_neg (by simp [hkeys]), globalRoute_way hfree hname]
      simp

end Routes

/-- What a key of a way does to a stage. -/
inductive WayStep (h : Host) (k : Key) (g : Host) : Prop
  | stays
      (stage : g.top.stage? = h.top.stage?)
      (nothing : k.Picks → h.top.takesAllKeys = false → ¬ h.top.HasRow)
  | picks (next : Destination)
      (key : k.Picks)
      (idle : h.top.takesAllKeys = false)
      (leads : h.top.LeadsTo next)
      (stage : g.top.stage? = some next)

/-- A key of a way touches the stage alone. -/
theorem way_step
    (hfree : ∀ c ∈ Key.wayRunes, h.session.registry.byHotkey? c = none)
    (hstage : h.top.stage?.isSome)
    (horder : h.top.PicksInOrder)
    (hk : h.IsWayKey k) :
    let g := (h.step (.key k)).1
    g.tower.tail = h.tower.tail ∧ g.top.PicksInOrder ∧ h.WayStep k g := by
  intro g
  have hanswer : h.top.WayAnswer (h.handed k) (h.answer (.key (h.handed k))) :=
    View.wayAnswer hstage horder (handed_stays hstage hk) _
  let answered := (h.heard (.key k)).answered (.key (h.handed k))
  have hg : g = answered.move (h.answer (.key (h.handed k))).move :=
    congrArg Prod.fst (step_hand (route_wayKey hfree hk))
  have hanswered : answered.tower = (h.answer (.key (h.handed k))).view :: h.tower.tail := by
    rw [tower_answered, answer_heard, tower_heard]
  cases hanswer with
  | stays stage order move nothing =>
      have htower : g.tower = (h.answer (.key (h.handed k))).view :: h.tower.tail := by
        rw [hg, move, ← hanswered]
        rfl
      obtain ⟨htop, htail⟩ := top_of_tower htower
      refine ⟨htail, htop ▸ order, ?_⟩
      exact .stays (by rw [htop, stage]) fun hkey => nothing (handed_picks_iff.mpr hkey)
  | picks next key idle leads move =>
      have htower : g.tower =
          (answered.replace next).fitted (.ofDestination answered.session next) ::
            h.tower.tail := by
        rw [hg, move, Host.move, tower_replace, hanswered, List.tail_cons]
      obtain ⟨htop, htail⟩ := top_of_tower htower
      refine ⟨htail, ?_, ?_⟩
      · rw [htop]
        exact (View.picksInOrder_ofDestination _ next).setSize _ _
      · refine .picks next (handed_picks_iff.mp key) idle leads ?_
        rw [htop, fitted, View.stage?_setSize]
        exact View.stage?_of_leadsTo leads _

/-! ## The beginning of a way -/

variable {s : Selection}

/-- A way begins right above the view that asks for a log. -/
theorem step_o
    (hfree : ∀ c ∈ Key.wayRunes, h.session.registry.byHotkey? c = none)
    (hidle : h.top.takesAllKeys = false)
    (hselection : h.top.selection? = some s)
    (hcurrent : h.top.Current h.session) :
    ∃ f : Host, (h.step (.key ⟨"o"⟩)).1.tower =
      f.fitted (.ofDestination h.session (s.log h.session)) ::
        h.top.refreshed h.session.columns :: h.tower.tail := by
  have hroute : h.route (.key ⟨"o"⟩) = .hand (.key ⟨"o"⟩) :=
    h.route_of_globalRoute (globalRoute_way hfree List.mem_cons_self)
  have hanswer : h.answer (.key ⟨"o"⟩) =
      { view := h.top.refreshed h.session.columns, move := .push (s.log h.session) } := by
    rw [answer, sessionAfter_key]
    exact View.respond_o hidle hselection hcurrent
  let answered := (h.heard (.key ⟨"o"⟩)).answered (.key ⟨"o"⟩)
  have hsession : answered.session = h.session :=
    (session_withTop _ _).trans (sessionAfter_key (h.heard (.key ⟨"o"⟩)) ⟨"o"⟩)
  have hanswered : answered.tower = h.top.refreshed h.session.columns :: h.tower.tail := by
    rw [tower_answered, answer_heard, tower_heard, hanswer]
  refine ⟨answered.push (s.log h.session), ?_⟩
  rw [step_hand hroute, hanswer]
  show (answered.push (s.log h.session)).tower = _
  rw [tower_push, hanswered, hsession]

/-! ## Keys one after the other -/

/-- The host after some keys. -/
def presses (h : Host) (keys : List Key) : Host :=
  h.run (keys.map .key)

theorem presses_concat (h : Host) (keys : List Key) (k : Key) :
    h.presses (keys ++ [k]) = ((h.presses keys).step (.key k)).1 := by
  simp [presses, run_append, run]

/-- Among some keys is one that picked, and the view on top was of some sort then. -/
def PickedWhen (start : Host) (keys : List Key) (P : View → Prop) : Prop :=
  ∃ past k more, keys = past ++ k :: more ∧ k.Picks ∧
    (start.presses past).top.takesAllKeys = false ∧ P (start.presses past).top

theorem PickedWhen.more
    {start : Host} {keys : List Key} {P : View → Prop}
    (h : start.PickedWhen keys P)
    (k : Key) :
    start.PickedWhen (keys ++ [k]) P := by
  obtain ⟨past, pick, more, rfl, hpick⟩ := h
  exact ⟨past, pick, more ++ [k], by simp, hpick⟩

theorem PickedWhen.last
    {start : Host} {keys : List Key} {k : Key} {P : View → Prop}
    (hpicks : k.Picks)
    (hidle : (start.presses keys).top.takesAllKeys = false)
    (hview : P (start.presses keys).top) :
    start.PickedWhen (keys ++ [k]) P :=
  ⟨keys, k, [], rfl, hpicks, hidle, hview⟩

/-- Whose log a way leads to: that of the item itself unless it has several pods, and then
that of the pod that was under the cursor when a key picked. -/
inductive LogTarget (start : Host) (s : Selection) (keys : List Key) : Kind → Item → Prop
  | itself (few : s.pods.length ≤ 1) : LogTarget start s keys s.kind s.item
  | pod {pod : Item}
      (several : 2 ≤ s.pods.length)
      (mem : pod ∈ s.pods)
      (picked : start.PickedWhen keys (·.HighlightsPod pod)) :
      LogTarget start s keys (s.podKind start.session) pod

/-- Which container a way leads to: the one that was under the cursor when a key picked, or
the only one, or none. -/
inductive LogContainer (start : Host) (keys : List Key) (kind : Kind) (item : Item) :
    Option String → Prop
  | only (few : (kind.containers item).length ≤ 1) :
      LogContainer start keys kind item (kind.containers item).head?
  | picked {name : String}
      (several : 2 ≤ (kind.containers item).length)
      (mem : name ∈ kind.containers item)
      (picked : start.PickedWhen keys (·.HighlightsContainer kind item name)) :
      LogContainer start keys kind item (some name)

/-- The stages that a way comes to after some keys. -/
inductive WayStage (start : Host) (s : Selection) (keys : List Key) : Destination → Prop
  | pods (several : 2 ≤ s.pods.length) :
      WayStage start s keys (.pods (s.podKind start.session) s.pods)
  | containers {kind : Kind} {item : Item}
      (target : start.LogTarget s keys kind item)
      (several : 2 ≤ (kind.containers item).length) :
      WayStage start s keys (.containers kind item (kind.containers item))
  | log {kind : Kind} {item : Item} {container : Option String}
      (target : start.LogTarget s keys kind item)
      (found : start.LogContainer keys kind item container) :
      WayStage start s keys (.log kind item container)

variable {start : Host} {keys : List Key}

theorem LogTarget.more
    {kind : Kind} {item : Item}
    (h : start.LogTarget s keys kind item)
    (k : Key) :
    start.LogTarget s (keys ++ [k]) kind item := by
  cases h with
  | itself few =>
      exact .itself few
  | pod several mem picked =>
      exact .pod several mem (picked.more k)

theorem WayStage.more
    {stage : Destination}
    (h : start.WayStage s keys stage)
    (k : Key) :
    start.WayStage s (keys ++ [k]) stage := by
  cases h with
  | pods several =>
      exact .pods several
  | containers target several =>
      exact .containers (target.more k) several
  | log target found =>
      refine .log (target.more k) ?_
      cases found with
      | only few =>
          exact .only few
      | picked several mem picked =>
          exact .picked several mem (picked.more k)

theorem WayStage.of_opensLog
    {kind : Kind} {item : Item} {next : Destination}
    (target : start.LogTarget s keys kind item)
    (h : kind.OpensLog item next) :
    start.WayStage s keys next := by
  cases h with
  | containers several =>
      exact .containers target several
  | log few =>
      exact .log target (.only few)

/-- A pick leads from one stage to the next. -/
theorem WayStage.picks
    {stage next : Destination}
    (h : start.WayStage s keys stage)
    (hstage : (start.presses keys).top.stage? = some stage)
    (hpicks : k.Picks)
    (hidle : (start.presses keys).top.takesAllKeys = false)
    (hleads : (start.presses keys).top.LeadsTo next) :
    start.WayStage s (keys ++ [k]) next := by
  have hlast {P : View → Prop} := PickedWhen.last (P := P) hpicks hidle
  generalize (start.presses keys).top = v at hstage hleads hlast
  cases hleads with
  | @pod v pod next highlighted opens =>
      cases h with
      | pods several =>
          obtain ⟨hkind, hpods⟩ := Destination.pods.inj (Option.some.inj hstage)
          have hmem : pod ∈ s.pods := by
            obtain ⟨index, -, hindex⟩ := Option.bind_eq_some_iff.mp highlighted.1
            exact hpods ▸ List.mem_of_getElem? hindex
          rw [hkind] at opens
          exact .of_opensLog (.pod several hmem (hlast highlighted)) opens
      | containers target several | log target found =>
          cases hstage
  | @container v name highlighted =>
      cases h with
      | @containers kind item target several =>
          obtain ⟨hkind, hitem, hnames⟩ := Destination.containers.inj (Option.some.inj hstage)
          have hmem : name ∈ kind.containers item := by
            obtain ⟨index, -, hindex⟩ := Option.bind_eq_some_iff.mp highlighted.1
            exact hnames ▸ List.mem_of_getElem? hindex
          subst hkind hitem
          exact .log (target.more k) (.picked several hmem (hlast ⟨rfl, rfl, highlighted⟩))
      | pods several | log target found =>
          cases hstage

/-- A host that has begun a way and not left it. -/
structure OnWay (start : Host) (s : Selection) (keys : List Key) : Prop where
  session_eq : (start.presses keys).session = start.session
  below : (start.presses keys).tower.tail = start.tower.tail
  order : (start.presses keys).top.PicksInOrder
  stage : ∃ stage, (start.presses keys).top.stage? = some stage ∧ start.WayStage s keys stage

theorem OnWay.step
    (h : start.OnWay s keys)
    (hfree : ∀ c ∈ Key.wayRunes, start.session.registry.byHotkey? c = none)
    (hk : (start.presses keys).IsWayKey k) :
    start.OnWay s (keys ++ [k]) := by
  obtain ⟨stage, hstage, hway⟩ := h.stage
  obtain ⟨hbelow, horder, hstep⟩ :=
    way_step (h.session_eq ▸ hfree) (by rw [hstage]; rfl) h.order hk
  rw [← presses_concat] at hbelow horder hstep
  refine ⟨?_, hbelow.trans h.below, horder, ?_⟩
  · rw [presses_concat, session_step_key, h.session_eq]
  · cases hstep with
    | stays same nothing =>
        exact ⟨stage, same.trans hstage, hway.more k⟩
    | picks next key idle leads now =>
        exact ⟨next, now, hway.picks hstage key idle leads⟩

/-- A way is not left by keys that filter, move or pick. -/
theorem onWay_presses
    (h : start.OnWay s [])
    (hfree : ∀ c ∈ Key.wayRunes, start.session.registry.byHotkey? c = none)
    (hkeys : ∀ past k, past ++ [k] <+: keys → (start.presses past).IsWayKey k) :
    start.OnWay s keys := by
  induction keys using List.reverseRecOn with
  | nil =>
      exact h
  | append_singleton past k ih =>
      refine (ih fun p j hp => hkeys p j ?_).step hfree (hkeys past k List.prefix_rfl)
      exact hp.trans (List.prefix_append past [k])

/-- The stage with which a way begins. -/
theorem stage?_of_begins
    {f : Host} {session : Session}
    (hstart : start.top = f.fitted (.ofDestination session (s.log session))) :
    (2 ≤ s.pods.length → start.top.stage? = some (.pods (s.podKind session) s.pods)) ∧
    (s.pods.length ≤ 1 → ∃ next, s.kind.OpensLog s.item next ∧ start.top.stage? = some next) := by
  rw [hstart, fitted, View.stage?_setSize]
  constructor
  · intro hseveral
    rw [Selection.log_of_several hseveral]
    rfl
  · intro hfew
    rw [Selection.log_of_few hfew]
    have hopens := s.kind.opensLog_logOf s.item
    exact ⟨_, hopens, View.stage?_of_opensLog hopens session⟩

theorem onWay_of_begins
    {f : Host}
    (hstart : start.top = f.fitted (.ofDestination start.session (s.log start.session))) :
    start.OnWay s [] := by
  obtain ⟨hseveral, hfew⟩ := stage?_of_begins hstart
  refine ⟨rfl, rfl, ?_, ?_⟩
  · show start.top.PicksInOrder
    rw [hstart]
    exact (View.picksInOrder_ofDestination _ _).setSize _ _
  · by_cases hpods : s.pods.length ≤ 1
    · obtain ⟨next, hopens, hstage⟩ := hfew hpods
      exact ⟨next, hstage, .of_opensLog (.itself hpods) hopens⟩
    · exact ⟨_, hseveral (by omega), .pods (by omega)⟩

/-- A press of `esc` without a filter or search takes the stage away. -/
theorem step_esc_of_bare
    {g : Host} {v : View} {rest : List View}
    (hbare : g.top.modes = [])
    (hbelow : g.tower.tail = v :: rest) :
    (g.step (.key ⟨"esc"⟩)).1.tower = (g.step (.key ⟨"esc"⟩)).1.fitted v :: rest := by
  have hstack : g.stack ≠ [] := by
    intro hnil
    rw [g.tower_of_nil hnil] at hbelow
    cases hbelow
  cases g.escape_step (Or.inr (Or.inl hstack)) with
  | ends mode modes tower history scope =>
      rw [hbare] at modes
      cases modes
  | closes u below modes before tower history scope =>
      obtain ⟨rfl, rfl⟩ := List.cons_eq_cons.mp (hbelow.symm.trans before)
      exact tower
  | returns saved left modes bottom before tower history scope =>
      exact absurd bottom hstack

end Host

open Host

/-- In any state of a run, `o` asks for the log of the item on which the view on top acts.
While keys filter, move or pick, there is one view more than before, and the view that
asked lies right below it, as it was but for the columns that a list takes anew with the
key.  The way begins with the choice of a pod exactly when the item has several, and goes
on with the choice of a container exactly when the item, or the pod that was picked, has
several.  A key that picks leads to what the row under the cursor shows.  So a log is that
of the pod and container that were under the cursor when they were picked; without such a
choice it is that of the item itself, and of its only container, if there is one.  Without
a search `esc` leads back to the view that asked, fitted into the room. -/
theorem log_way_leads_to_picked
    (session : Session) (kind : Kind) (events : List Event) (s : Selection) (keys : List Key)
    (hfree : ∀ c ∈ Key.wayRunes, session.registry.byHotkey? c = none)
    (hidle : ((Host.ofKind session kind).run events).top.takesAllKeys = false)
    (hselection : ((Host.ofKind session kind).run events).top.selection? = some s)
    (hkeys : ∀ past k, past ++ [k] <+: keys →
      ((((Host.ofKind session kind).run events).step (.key ⟨"o"⟩)).1.presses past).IsWayKey k) :
    let h := (Host.ofKind session kind).run events
    let start := (h.step (.key ⟨"o"⟩)).1
    let g := start.presses keys
    g.depth = h.depth + 1 ∧
    g.tower.tail = h.top.refreshed h.session.columns :: h.tower.tail ∧
    (h.top.UpToDate h.session.columns → g.tower.tail = h.tower) ∧
    (2 ≤ s.pods.length → start.top.stage? = some (.pods (s.podKind h.session) s.pods)) ∧
    (s.pods.length ≤ 1 → ∃ next, s.kind.OpensLog s.item next ∧ start.top.stage? = some next) ∧
    (∀ k : Key, k.Picks → g.top.takesAllKeys = false → g.top.HasRow →
      ∃ next, g.top.LeadsTo next ∧ (g.step (.key k)).1.top.stage? = some next) ∧
    (∃ stage, g.top.stage? = some stage ∧ start.WayStage s keys stage) ∧
    (g.top.modes = [] →
      let back := (g.step (.key ⟨"esc"⟩)).1
      back.tower = back.fitted (h.top.refreshed h.session.columns) :: h.tower.tail) := by
  intro h start g
  have hregistry : h.session.registry = session.registry := registry_run _ events
  have hfree' : ∀ c ∈ Key.wayRunes, h.session.registry.byHotkey? c = none := hregistry ▸ hfree
  have hcurrent : h.top.Current h.session := current_run session kind events _ h.top_mem_views
  have hsession : start.session = h.session := h.session_step_key _
  obtain ⟨f, htower⟩ := step_o hfree' hidle hselection hcurrent
  change start.tower = _ at htower
  obtain ⟨htop, htail⟩ := top_of_tower htower
  have hway : start.OnWay s keys :=
    onWay_presses (onWay_of_begins (hsession.symm ▸ htop)) (hsession.symm ▸ hfree') hkeys
  have hbelow : g.tower.tail = h.top.refreshed h.session.columns :: h.tower.tail := by
    rw [hway.below, htail]
  obtain ⟨hseveral, hfew⟩ := stage?_of_begins htop
  refine ⟨?_, hbelow, ?_, hseveral, hfew, ?_, hway.stage,
    fun hbare => step_esc_of_bare hbare hbelow⟩
  · rw [g.depth_eq_length_tail, hbelow, h.depth_eq_length_tail, List.length_cons]
  · intro hfresh
    rw [hbelow, View.refreshed_of_upToDate hfresh, ← h.tower_eq_cons]
  · intro k hpicks hquiet hrow
    obtain ⟨stage, hstage, -⟩ := hway.stage
    have hkey : g.IsWayKey k := by
      refine Or.inr (Or.inl ?_)
      simp only [Key.Picks, List.mem_cons, List.not_mem_nil, or_false] at hpicks
      rcases hpicks with hk | hk | hk <;> simp [hk, Key.wayNames]
    obtain ⟨-, -, hstep⟩ := way_step (hway.session_eq.trans hsession ▸ hfree')
      (by rw [hstage]; rfl) hway.order hkey
    cases hstep with
    | stays same nothing =>
        exact absurd hrow (nothing hpicks hquiet)
    | picks next key idle leads now =>
        exact ⟨next, leads, now⟩

/-- Of the two pods of a deployment, the filter leaves the second one.  It is picked, and
then the second of its containers. -/
theorem log_way_leads_to_picked_payments :
    let session : Session := { Session.ofRegistry .standard .empty with ns := .named "payments" }
    let h := (Host.ofKind session .deployment).run []
    let start := (h.step (.key ⟨"o"⟩)).1
    let keys : List Key := [⟨"/"⟩, ⟨"m"⟩, ⟨"8"⟩, ⟨"enter"⟩, ⟨"l"⟩, ⟨"j"⟩, ⟨"enter"⟩]
    let g := start.presses keys
    ∃ s v, h.top.selection? = some s ∧ g.depth = 2 ∧ g.top = .log v ∧
      v.item.name = "payments-api-7c9d5-m8wzt" ∧ v.container = some "vault-agent" ∧
      start.LogTarget s keys v.kind v.item ∧ start.LogContainer keys v.kind v.item v.container := by
  intro session h start keys g
  have hselected : h.top.selection?.isSome := by
    decide +kernel
  obtain ⟨s, hs⟩ := Option.isSome_iff_exists.mp hselected
  have hway : ∀ past ∈ keys.inits, ∀ k ∈ keys, past ++ [k] <+: keys →
      (start.presses past).IsWayKey k := by
    decide +kernel
  have hkeys : ∀ past k, past ++ [k] <+: keys → (start.presses past).IsWayKey k := by
    intro past k hleads
    have hpast : past <+: keys := (List.prefix_append past [k]).trans hleads
    exact hway past ((List.mem_inits _ _).mpr hpast) k (hleads.subset (by simp)) hleads
  have hlog : g.top.log?.map (fun v => (v.item.name, v.container)) =
      some ("payments-api-7c9d5-m8wzt", some "vault-agent") := by
    decide +kernel
  obtain ⟨v, hv, hnames⟩ := Option.map_eq_some_iff.mp hlog
  have htop : g.top = .log v := View.log?_eq_some_iff.mp hv
  obtain ⟨hdepth, -, -, -, -, -, ⟨stage, hstage, hreached⟩, -⟩ :=
    log_way_leads_to_picked session .deployment [] s keys Registry.byHotkey?_standard_wayRunes
      (by decide +kernel) hs hkeys
  change g.top.stage? = some stage at hstage
  rw [htop] at hstage
  obtain ⟨hname, hcontainer⟩ := Prod.mk.inj hnames
  cases hreached with
  | log target found =>
      cases hstage
      exact ⟨s, v, hs, hdepth, htop, hname, hcontainer, target, found⟩
  | pods several | containers target several =>
      cases hstage

/-- A list with items selects one of them when it is opened. -/
theorem ListView.selection?_isSome_ofKind
    {session : Session} {kind : Kind}
    (hitems : kind.items session.ns ≠ []) :
    (ofKind session kind).selection?.isSome := by
  have hpaged := paged_ofKind session kind
  have hlength : (ofKind session kind).list.visible.length = (kind.items session.ns).length := by
    rw [hpaged.visible_eq]
    show (FilterList.matchesFrom "" 0 _).length = _
    rw [FilterList.length_matchesFrom_empty, List.length_map]
    exact (SortMode.sortItems_perm _ _).length_eq
  have hvisible : (ofKind session kind).list.visible ≠ [] := by
    rw [← List.length_pos_iff, hlength]
    exact List.length_pos_iff.mpr hitems
  obtain ⟨item, -, -, hitem, -⟩ := body_cursor hpaged hvisible
  simp [selection?, hitem]

/-- An item with one pod shows its own log, and not that of the pod.  A list to which a log
leads back holds the columns of the store, whatever it held when it asked. -/
theorem only_pod_not_picked :
    (¬ ∀ (session : Session) (kind : Kind) (events : List Event) (s : Selection) (pod : Item)
        (v : LogView),
      let h := (Host.ofKind session kind).run events
      h.top.takesAllKeys = false → h.top.selection? = some s → s.pods = [pod] →
        (h.step (.key ⟨"o"⟩)).1.top = .log v → v.item.name = pod.name) ∧
    (¬ ∀ (session : Session) (kind : Kind) (events : List Event) (s : Selection) (v : LogView),
      let h := (Host.ofKind session kind).run events
      let opened := (h.step (.key ⟨"o"⟩)).1
      let back := (opened.step (.key ⟨"esc"⟩)).1
      h.top.takesAllKeys = false → h.top.selection? = some s →
        opened.top = .log v → v.modes = [] → back.top = back.fitted h.top) := by
  constructor
  · intro hpicks
    let h := (Host.ofKind (.ofRegistry .standard .empty) .statefulSet).run []
    have hpods : h.top.selection?.map (fun s => s.pods.map (·.name)) = some ["redis-0"] := by
      decide +kernel
    have hlog : (h.step (.key ⟨"o"⟩)).1.top.log?.map (·.item.name) = some "redis" := by
      decide +kernel
    obtain ⟨s, hs, hnames⟩ := Option.map_eq_some_iff.mp hpods
    obtain ⟨pod, hpod, hname⟩ := List.map_eq_singleton_iff.mp hnames
    obtain ⟨v, hv, hitem⟩ := Option.map_eq_some_iff.mp hlog
    have hsame := hpicks _ _ [] s pod v (by decide +kernel) hs hpod (View.log?_eq_some_iff.mp hv)
    rw [hitem, hname] at hsame
    exact absurd hsame (by decide)
  · intro hkeeps
    let session : Session := .ofRegistry .standard .empty
    let events : List Event :=
      [.resize 100 30, .key ⟨"left"⟩, .message (.picked "namespaces" ["name", "age"]),
       .key ⟨"esc"⟩]
    let h := (Host.ofKind session .namespaces).run events
    let opened := (h.step (.key ⟨"o"⟩)).1
    obtain ⟨⟨width, height, htop⟩, hstore⟩ := Host.returns_to_namespaces
    obtain ⟨hheld, hcustom⟩ := Host.custom_returned
    change h.top = _ at htop
    rw [← hstore] at hcustom
    change h.session.columns.isCustom "namespaces" = true at hcustom
    have hselected : (ListView.ofKind session .namespaces).selection?.isSome :=
      ListView.selection?_isSome_ofKind (by decide)
    obtain ⟨s, hselection⟩ := Option.isSome_iff_exists.mp hselected
    obtain ⟨item, -, rfl⟩ := Option.map_eq_some_iff.mp hselection
    have hs : h.top.selection? = some ⟨.namespaces, item⟩ := by
      rw [htop]
      exact hselection
    have hidle : h.top.takesAllKeys = false := by
      rw [htop]
      rfl
    have hcurrent : h.top.Current h.session :=
      current_run session .namespaces events _ h.top_mem_views
    have hfree : ∀ c ∈ Key.wayRunes, h.session.registry.byHotkey? c = none := by
      rw [registry_run _ events]
      exact Registry.byHotkey?_standard_wayRunes
    obtain ⟨f, htower⟩ := step_o hfree hidle hs hcurrent
    obtain ⟨hopened, hbelow⟩ := top_of_tower htower
    -- A namespace has neither pods nor containers, so its log is open.
    have hbare : opened.top.modes = [] := congrArg View.modes hopened
    have hback := (top_of_tower (step_esc_of_bare hbare hbelow)).1
    have hsame := hback.symm.trans (hkeeps session .namespaces events _ _ hidle hs hopened rfl)
    rw [htop] at hsame
    have hshown : some (h.session.columns.isCustom "namespaces") = some false :=
      congrArg (fun u => u.list?.map (·.customColumns)) hsame
    rw [hcustom] at hshown
    cases hshown

end ClusterNav
