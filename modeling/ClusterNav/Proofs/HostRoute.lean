import ClusterNav.Host

/-!
# What a host does with an event

A host first decides where an event leads and then goes there.  The decision is
a `Route`; going there is `Host.follow`.  A statement about every step of a host
is one statement for each route.

**Results.**
* `step_eq_follow`: a step is its route, followed.
* `deliver_eq`: handing an event to the top view is putting its answer in the
  place of the view, and then the move the answer asks for.
* `run_induction`: what every step keeps holds after every run.
-/

namespace ClusterNav

/-- Where an event leads. -/
inductive Route
  | fit (width height : Nat)
  | select (kind : PickerKind) (value : String)
  | quit
  /-- The top view answers the event. -/
  | hand (event : Event)
  | back
  | widen
  | goTo (kind : Kind)
  | push (next : Destination)

namespace Host

variable (h : Host)

/-- Where a global key leads that is a character. -/
def runeRoute? (c : Char) : Option Route :=
  match h.session.registry.byHotkey? c with
  | some kind => some (.goTo kind)
  | none => (globalTarget? c).map .push

/-- Where a key leads that the top view does not claim. -/
def globalRoute (k : Key) : Route :=
  if k.isAny ["q", "ctrl+c"] then .quit
  else if k.isSpace then .hand (.key ⟨"pgdown"⟩)
  else if k.isAny ["backspace", "left", "ctrl+h"] then
    if 1 < h.depth then .back else .widen
  else (k.rune?.bind h.runeRoute?).getD (.hand (.key k))

/-- Where an event leads. -/
def route : Event → Route
  | .resize width height => .fit width height
  | .key k => if h.top.takesAllKeys then .hand (.key k) else h.globalRoute k
  | .message (.selected kind value) => .select kind value
  | .message m => .hand (.message m)

/-- The host once it has noticed an event; a key takes the banner away. -/
def heard : Event → Host
  | .key _ => { h with notice := "" }
  | _ => h

/-- The host after a route, and the effect it asks for. -/
def follow : Route → Host × Option Effect
  | .fit width height => (resizeTop { h with width := width, height := height }, none)
  | .select kind value => (h.select kind value, none)
  | .quit => (h, some .quit)
  | .hand event => h.deliver event
  | .back => (h.pop, none)
  | .widen => (h.widen, none)
  | .goTo kind => (h.goTo kind, none)
  | .push next => (h.push next, none)

theorem globalRune?_eq (c : Char) :
    h.globalRune? c = (h.runeRoute? c).map fun r => (h.follow r).1 := by
  unfold globalRune? runeRoute?
  cases h.session.registry.byHotkey? c with
  | some kind =>
      rfl
  | none =>
      cases globalTarget? c <;> rfl

theorem follow_runeRoute?
    {c : Char} {r : Route}
    (hr : h.runeRoute? c = some r) :
    (h.follow r).2 = none := by
  unfold runeRoute? at hr
  cases hkind : h.session.registry.byHotkey? c with
  | some kind =>
      simp only [hkind, Option.some.injEq] at hr
      subst hr
      rfl
  | none =>
      simp only [hkind, Option.map_eq_some_iff] at hr
      obtain ⟨next, -, rfl⟩ := hr
      rfl

/-- Where a key may lead. -/
inductive KeyRoute : Route → Prop
  | quit : KeyRoute .quit
  | hand (k : Key) : KeyRoute (.hand (.key k))
  | back (deep : 1 < h.depth) : KeyRoute .back
  | widen (bottom : h.stack = []) : KeyRoute .widen
  | goTo (kind : Kind) : KeyRoute (.goTo kind)
  | push (next : Destination) : KeyRoute (.push next)

theorem keyRoute_rune
    {c : Char} {r : Route}
    (hr : h.runeRoute? c = some r) :
    h.KeyRoute r := by
  unfold runeRoute? at hr
  cases hkind : h.session.registry.byHotkey? c with
  | some kind =>
      simp only [hkind, Option.some.injEq] at hr
      subst hr
      exact .goTo kind
  | none =>
      simp only [hkind, Option.map_eq_some_iff] at hr
      obtain ⟨next, -, rfl⟩ := hr
      exact .push next

theorem keyRoute_globalRoute (k : Key) : h.KeyRoute (h.globalRoute k) := by
  unfold globalRoute
  split
  · exact .quit
  split
  · exact .hand _
  split
  · split
    · rename_i hdeep
      exact .back hdeep
    · rename_i hdepth
      have hbottom : h.stack.length = 0 := by
        unfold depth at hdepth
        omega
      exact .widen (List.eq_nil_of_length_eq_zero hbottom)
  cases hrune : k.rune?.bind h.runeRoute? with
  | none =>
      exact .hand k
  | some r =>
      obtain ⟨c, -, hc⟩ := Option.bind_eq_some_iff.mp hrune
      exact h.keyRoute_rune hc

/-- A key stays a key, and the root is left at the root only. -/
theorem keyRoute (k : Key) : h.KeyRoute (h.route (.key k)) := by
  show h.KeyRoute (if h.top.takesAllKeys then .hand (.key k) else h.globalRoute k)
  split
  · exact .hand k
  · exact h.keyRoute_globalRoute k

/-- A key that is not a global one reaches the top view. -/
theorem route_of_globalRoute
    {k : Key}
    (hglobal : h.globalRoute k = .hand (.key k)) :
    h.route (.key k) = .hand (.key k) := by
  show (if h.top.takesAllKeys then _ else h.globalRoute k) = _
  rw [hglobal, ite_self]

/-- A key that is no global key and no hotkey reaches the top view, and the blank as the
key for the next page. -/
theorem globalRoute_eq_hand
    {k : Key}
    (hquit : k.isAny ["q", "ctrl+c"] = false)
    (hback : k.isAny ["backspace", "left", "ctrl+h"] = false)
    (hrune : k.isSpace = false → ∀ c, k.rune? = some c →
      h.session.registry.byHotkey? c = none ∧ globalTarget? c = none) :
    h.globalRoute k = .hand (.key (if k.isSpace then ⟨"pgdown"⟩ else k)) := by
  rw [globalRoute, hquit, hback]
  cases hspace : k.isSpace with
  | true =>
      rfl
  | false =>
      have hnone : k.rune?.bind h.runeRoute? = none := by
        rw [Option.bind_eq_none_iff]
        intro c hc
        obtain ⟨hhotkey, htarget⟩ := hrune hspace c hc
        rw [runeRoute?, hhotkey, htarget]
        rfl
      rw [hnone]
      rfl

/-- A message that is handed on came to the host as that message. -/
theorem eq_of_route_eq_hand_message
    {event : Event} {m : Message}
    (hr : h.route event = .hand (.message m)) :
    event = .message m := by
  cases event with
  | resize width height =>
      cases hr
  | key k =>
      have hkey := h.keyRoute k
      rw [hr] at hkey
      cases hkey
  | message m' =>
      cases m' <;> cases hr
      all_goals rfl

/-- The top view is fitted when the screen gets a size. -/
theorem eq_resize_of_route_eq_fit
    {event : Event} {width height : Nat}
    (hr : h.route event = .fit width height) :
    event = .resize width height := by
  cases event with
  | resize width height =>
      cases hr
      rfl
  | key k =>
      have hkey := h.keyRoute k
      rw [hr] at hkey
      cases hkey
  | message m =>
      cases m <;> cases hr

theorem globalKey_eq_follow (k : Key) :
    h.globalKey k = h.follow (h.globalRoute k) := by
  unfold globalKey globalRoute
  split
  · rfl
  split
  · rfl
  split
  · split <;> rfl
  cases hrune : k.rune? with
  | none =>
      rfl
  | some c =>
      simp only [Option.bind_some, globalRune?_eq]
      cases hroute : h.runeRoute? c with
      | none =>
          rfl
      | some r =>
          simp only [Option.map_some, Option.getD_some]
          rw [← h.follow_runeRoute? hroute]

/-- A step is its route, followed. -/
theorem step_eq_follow (event : Event) :
    h.step event = (h.heard event).follow (h.route event) := by
  cases event with
  | resize width height =>
      rfl
  | key k =>
      show Host.key h k = _
      unfold Host.key route heard
      show (if h.top.takesAllKeys then _ else _) = _
      split
      · rfl
      · exact globalKey_eq_follow { h with notice := "" } k
  | message m =>
      cases m <;> rfl

/-! ## Handing an event to the top view -/

/-- The session once the column store has seen an event. -/
def sessionAfter (event : Event) : Session :=
  { h.session with columns := h.top.storeAfter event h.session.columns }

/-- A key leaves the column store alone. -/
theorem sessionAfter_key (k : Key) : h.sessionAfter (.key k) = h.session := by
  unfold sessionAfter
  cases h.top <;> rfl

def answer (event : Event) : Response View :=
  h.top.respond (h.sessionAfter event) event

/-- The host with the answer of the top view in the place of the view. -/
def answered (event : Event) : Host :=
  { h with session := h.sessionAfter event }.withTop (h.answer event).view

theorem deliver_eq (event : Event) :
    h.deliver event = ((h.answered event).move (h.answer event).move, (h.answer event).effect) := by
  rfl

/-! ## The top view -/

/-- Another view on top: the root when nothing stands above it. -/
theorem withTop_eq (v : View) :
    h.withTop v =
      { h with
        root := if h.stack = [] then v else h.root
        stack := h.stack.set 0 v } := by
  unfold withTop
  cases hs : h.stack with
  | nil =>
      simp
  | cons top rest =>
      simp

@[simp] theorem stack_withTop (v : View) :
    (h.withTop v).stack = h.stack.set 0 v := by
  rw [withTop_eq]

theorem top_of_nil
    (hs : h.stack = []) :
    h.top = h.root := by
  simp [top, hs]

theorem top_of_cons
    {v : View} {rest : List View}
    (hs : h.stack = v :: rest) :
    h.top = v := by
  simp [top, hs]

/-! ## Choosing a namespace or context -/

theorem select_of_changes
    {kind : PickerKind} {value : String}
    (hchanges : changes h.session kind value = true) :
    h.select kind value =
      resizeTop
        { h with
          session := selectedSession h.session kind value
          root := .list (.ofKind (selectedSession h.session kind value) h.rootKind)
          stack := []
          history := []
          scope := .resources } := by
  simp [select, hchanges]

/-- The old choice again goes back to the first root left. -/
theorem select_of_saved
    {kind : PickerKind} {value : String} {saved : SavedRoot}
    (hchanges : changes h.session kind value = false)
    (hlast : h.history.getLast? = some saved) :
    h.select kind value =
      resizeTop
        { h with
          session := selectedSession h.session kind value
          root := saved.root
          stack := []
          history := []
          scope := .resources } := by
  simp [select, hchanges, hlast]

/-- The old choice again changes no view when no root was left. -/
theorem select_of_unsaved
    {kind : PickerKind} {value : String}
    (hchanges : changes h.session kind value = false)
    (hlast : h.history.getLast? = none) :
    h.select kind value =
      resizeTop
        { h with
          session := selectedSession h.session kind value
          history := []
          scope := .resources } := by
  simp [select, hchanges, hlast]

/-! ## Runs -/

/-- What holds of a host and is kept by every step holds after every run. -/
theorem run_induction
    {P : Host → Prop}
    (hstep : ∀ h event, P h → P (step h event).1)
    {h : Host}
    (hstart : P h)
    (events : List Event) :
    P (h.run events) := by
  induction events generalizing h with
  | nil =>
      exact hstart
  | cons event rest ih =>
      exact ih (hstep h event hstart)

end Host
end ClusterNav
