import ClusterNav.Proofs.SessionChange

/-!
# Hotkeys

A hotkey leads to the list of its kind and forgets all else: the views, the roots
that were left, the scope and the banner.  What remains is the session and the size
of the screen, and from these alone a new host would come to the same state.

**Results.**
* `Host.goTo_eq`: going to a kind is starting anew on a screen of the same size.
* `Host.step_hotkey`: what a hotkey does.
* `hotkey_starts_anew`: after any run, a hotkey leads where a new host starts, and a
  second press changes nothing.
-/

namespace ClusterNav

/-! ## Hotkeys of the registry -/

namespace Registry

theorem mem_of_byHotkey?
    {r : Registry} {c : Char} {kind : Kind}
    (h : r.byHotkey? c = some kind) :
    kind ∈ r.kinds ∧ kind.hotkey = some c := by
  refine ⟨List.mem_of_find?_eq_some h, ?_⟩
  simpa using List.find?_some h

/-- No hotkey is taken away by a global key that comes first: the one that quits, or
the blank. -/
theorem byHotkey?_standard
    {c : Char} {kind : Kind}
    (h : standard.byHotkey? c = some kind) :
    c ≠ 'q' ∧ c ≠ ' ' := by
  have hfree : ∀ kind ∈ standard.kinds, kind.hotkey ≠ some 'q' ∧ kind.hotkey ≠ some ' ' := by
    decide
  obtain ⟨hmem, hhotkey⟩ := mem_of_byHotkey? h
  have hkind := hfree kind hmem
  simpa [hhotkey] using hkind

end Registry

namespace Host

variable {h : Host} {k : Key} {c : Char} {kind : Kind}

/-- A new host on the list of a kind, on a screen of the same size. -/
def anew (h : Host) (kind : Kind) : Host :=
  ((ofKind h.session kind).step (.resize h.width h.height)).1

/-- Starting anew takes nothing over but the session and the size of the screen. -/
theorem anew_eq :
    h.anew kind =
      resizeTop { ofKind h.session kind with width := h.width, height := h.height } := by
  rfl

theorem anew_congr
    {g : Host}
    (hsession : g.session = h.session)
    (hwidth : g.width = h.width)
    (hheight : g.height = h.height) :
    g.anew kind = h.anew kind := by
  rw [anew_eq, anew_eq, hsession, hwidth, hheight]

theorem anew_anew : (h.anew kind).anew kind = h.anew kind := by
  apply anew_congr
  · rw [anew_eq, session_resizeTop]
    rfl
  · rw [anew_eq, resizeTop_eq, width_withTop]
  · rw [anew_eq, height_resizeTop]

/-- A new list has no prompt open. -/
theorem takesAllKeys_anew : (h.anew kind).top.takesAllKeys = false := by
  rw [anew_eq, top_resizeTop]
  rfl

/-- Going to a kind without a banner is starting anew. -/
theorem goTo_eq
    (hnotice : h.notice = "") :
    h.goTo kind = h.anew kind := by
  rw [anew_eq, goTo, hnotice]
  rfl

/-! ## The host after a hotkey -/

/-- A hotkey leads to its kind, unless the top view takes all keys. -/
theorem route_hotkey
    (hkeys : h.top.takesAllKeys = false)
    (hrune : k.rune? = some c)
    (hquit : c ≠ 'q') (hblank : c ≠ ' ')
    (hhotkey : h.session.registry.byHotkey? c = some kind) :
    h.route (.key k) = .goTo kind := by
  have hname (name : String) (hne : name.toList ≠ [c]) : k.name ≠ name :=
    Key.name_ne_of_rune? hrune hne
  have hq : k.isAny ["q", "ctrl+c"] = false := by
    simp [Key.isAny, hname "q" (by simpa using hquit.symm),
      hname "ctrl+c" (by simp)]
  have hspace : k.isSpace = false := by
    simp [Key.isSpace, hname " " (by simpa using hblank.symm),
      hname "space" (by simp)]
  have hback : k.isAny ["backspace", "left", "ctrl+h"] = false := by
    simp [Key.isAny, hname "backspace" (by simp), hname "left" (by simp),
      hname "ctrl+h" (by simp)]
  rw [route, hkeys, globalRoute, hq, hspace, hback, hrune]
  simp [runeRoute?, hhotkey]

/-- A hotkey starts anew, unless the top view takes all keys. -/
theorem step_hotkey
    (hkeys : h.top.takesAllKeys = false)
    (hrune : k.rune? = some c)
    (hquit : c ≠ 'q') (hblank : c ≠ ' ')
    (hhotkey : h.session.registry.byHotkey? c = some kind) :
    h.step (.key k) = (h.anew kind, none) := by
  rw [step_eq_follow, route_hotkey hkeys hrune hquit hblank hhotkey, follow, goTo_eq rfl]
  rfl

end Host

/-- After any run, while the top view leaves keys to the host, a hotkey of a kind leads
to the state in which a new host with the same session on the list of this kind is
when it has got the size of the screen.  So all hosts with the same session on screens
of the same size come to the same state, and a second press changes nothing. -/
theorem hotkey_starts_anew
    (session : Session) (start : Kind) (events : List Event) (k : Key) (c : Char) (kind : Kind)
    (hregistry : session.registry = .standard)
    (hkeys : ((Host.ofKind session start).run events).top.takesAllKeys = false)
    (hrune : k.rune? = some c)
    (hhotkey : session.registry.byHotkey? c = some kind) :
    let h := (Host.ofKind session start).run events
    let fresh := ((Host.ofKind h.session kind).step (.resize h.width h.height)).1
    h.step (.key k) = (fresh, none) ∧
    fresh.step (.key k) = (fresh, none) ∧
    ∀ g : Host, g.session = h.session → g.width = h.width → g.height = h.height →
      g.top.takesAllKeys = false → g.step (.key k) = h.step (.key k) := by
  intro h fresh
  have hknown : h.session.registry = session.registry := Host.registry_run _ events
  obtain ⟨hquit, hblank⟩ := Registry.byHotkey?_standard (hregistry ▸ hhotkey)
  have hlead (g : Host) (hg : g.session.registry = session.registry)
      (hgkeys : g.top.takesAllKeys = false) : g.step (.key k) = (g.anew kind, none) :=
    Host.step_hotkey hgkeys hrune hquit hblank (hg ▸ hhotkey)
  have hpress : h.step (.key k) = (fresh, none) := hlead h hknown hkeys
  refine ⟨hpress, ?_, ?_⟩
  · have hfresh : fresh.session.registry = session.registry := by
      rw [← hknown]
      exact congrArg (·.registry) (Host.session_resizeTop _)
    rw [hlead fresh hfresh Host.takesAllKeys_anew]
    exact congrArg (·, none) Host.anew_anew
  · intro g hsession hwidth hheight hgkeys
    rw [hlead g (by rw [hsession, hknown]) hgkeys, hpress]
    exact congrArg (·, none) (Host.anew_congr hsession hwidth hheight)

/-- Help is open over the detail page of the only stateful set: the hotkey of the pods
leads to the list of pods alone. -/
theorem hotkey_starts_anew_pods :
    let h := (Host.ofKind (.ofRegistry .standard .empty) .statefulSet).run
      [.resize 100 30, .key ⟨"enter"⟩, .key ⟨"?"⟩]
    let fresh := ((Host.ofKind h.session .pod).step (.resize h.width h.height)).1
    h.depth = 3 ∧ h.top.takesAllKeys = false ∧
    Registry.standard.byHotkey? 'P' = some .pod ∧
    h.step (.key ⟨"P"⟩) = (fresh, none) := by
  intro h fresh
  have hkeys : h.top.takesAllKeys = false := by
    decide +kernel
  have hrune : Key.rune? ⟨"P"⟩ = some 'P' := by
    decide +kernel
  have hpress := hotkey_starts_anew (.ofRegistry .standard .empty) .statefulSet
    [.resize 100 30, .key ⟨"enter"⟩, .key ⟨"?"⟩] ⟨"P"⟩ 'P' .pod rfl hkeys hrune rfl
  exact ⟨by decide +kernel, hkeys, rfl, hpress.1⟩

end ClusterNav
