import ClusterNav.Proofs.EscapeKey

/-!
# Help over help

The host reads the key for help before the view on top can, and opens a page with it.
A page of help would close at the same key, but never gets it.  So each press puts one
more page on the views that were there, and these wait below unchanged; the pages scroll
like any text, and each is closed by a press of `esc`.

**Results.**
* `HelpView.key_of_scrolls`: a scroll key only scrolls a page.
* `Host.step_question`, `Host.step_scroll`: what the keys do to pages of help.
* `Host.paged_run`: what any of these keys do, one after the other.
* `help_pages_pile_up`: what this says of all runs.
-/

namespace ClusterNav

/-! ## Keys -/

namespace Key

/-- The keys that scroll a text; the host hands the blank on as one of them. -/
def scrollNames : List String :=
  ["up", "k", "down", "j", "pgup", "ctrl+u", "pgdown", "ctrl+d", "home", "g", "end", "G",
   " ", "space"]

/-- A key that scrolls a text. -/
def Scrolls (k : Key) : Prop :=
  k.name ∈ scrollNames

/-- The key for help. -/
def question : Key := ⟨"?"⟩

variable {k : Key}

/-- No scroll key is among keys with other names. -/
theorem Scrolls.isAny_eq_false
    {names : List String}
    (hk : k.Scrolls)
    (hnames : ∀ name ∈ scrollNames, names.contains name = false) :
    k.isAny names = false :=
  hnames k.name hk

theorem scrolls_pgdown : Scrolls ⟨"pgdown"⟩ := by
  simp [Scrolls, scrollNames]

end Key

open Key (question scrolls_pgdown)

/-- A scroll key only scrolls a page. -/
theorem HelpView.key_of_scrolls
    {k : Key}
    (hk : k.Scrolls)
    (v : HelpView) :
    v.key k = { view := { v with viewport := v.viewport.scrollKey k } } := by
  rw [key, if_neg]
  rw [hk.isAny_eq_false (by decide)]
  decide

namespace Registry

/-- No kind has the key for help or a scroll key for its hotkey. -/
theorem byHotkey?_standard_eq_none
    {k : Key} {c : Char}
    (hk : k = question ∨ k.Scrolls)
    (hrune : k.rune? = some c) :
    standard.byHotkey? c = none := by
  have hfree : ∀ name ∈ "?" :: Key.scrollNames,
      ((Key.mk name).rune?.bind standard.byHotkey?).isNone = true := by
    decide +kernel
  have hmem : k.name ∈ "?" :: Key.scrollNames := by
    rcases hk with rfl | hk
    · exact List.mem_cons_self
    · exact List.mem_cons_of_mem _ hk
  have hnone := hfree k.name hmem
  change (k.rune?.bind standard.byHotkey?).isNone = true at hnone
  rw [hrune] at hnone
  exact Option.isNone_iff_eq_none.mp hnone

end Registry

namespace Host

variable {h : Host}

/-! ## Routes -/

section Routes

variable (hregistry : h.session.registry = .standard)
include hregistry

/-- The host opens help itself. -/
theorem globalRoute_question : h.globalRoute question = .push .help := by
  have hrune : question.rune? = some '?' := by
    decide +kernel
  have hnone := Registry.byHotkey?_standard_eq_none (.inl rfl) hrune
  rw [globalRoute, if_neg (by decide), if_neg (by decide), if_neg (by decide), hrune]
  simp [runeRoute?, hregistry, hnone, globalTarget?]

/-- Scroll keys reach the view on top, the blank as the key for the next page. -/
theorem globalRoute_of_scrolls
    {k : Key}
    (hk : k.Scrolls) :
    h.globalRoute k = .hand (.key (if k.isSpace then ⟨"pgdown"⟩ else k)) := by
  have htarget : ∀ name ∈ Key.scrollNames,
      ((Key.mk name).rune?.bind globalTarget?).isNone = true := by
    decide +kernel
  apply h.globalRoute_eq_hand
  case hquit => exact hk.isAny_eq_false (by decide)
  case hback => exact hk.isAny_eq_false (by decide)
  case hrune =>
    intro _ c hc
    have hnone := htarget k.name hk
    change (k.rune?.bind globalTarget?).isNone = true at hnone
    rw [hc] at hnone
    rw [hregistry]
    exact ⟨Registry.byHotkey?_standard_eq_none (.inr hk) hc, Option.isNone_iff_eq_none.mp hnone⟩

end Routes

/-! ## Pages of help -/

/-- A host without its banner and with pages of help on its views. -/
def under (h : Host) (pages : List HelpView) : Host :=
  { h with notice := "", stack := pages.map View.help ++ h.stack }

theorem takesAllKeys_under
    (hkeys : h.top.takesAllKeys = false)
    (pages : List HelpView) :
    (h.under pages).top.takesAllKeys = false := by
  cases pages with
  | nil =>
      exact hkeys
  | cons v pages =>
      rfl

theorem depth_under (h : Host) (pages : List HelpView) :
    (h.under pages).depth = h.depth + pages.length := by
  simp [under, depth]
  omega

/-- The key for help opens one page more, whatever is on top. -/
theorem step_question
    (hregistry : h.session.registry = .standard)
    (hkeys : h.top.takesAllKeys = false)
    (pages : List HelpView) :
    ∃ page, (h.under pages).step (.key question) = (h.under (page :: pages), none) := by
  rw [step_eq_follow, route, takesAllKeys_under hkeys, if_neg (by decide),
    globalRoute_question (h := h.under pages) hregistry]
  exact ⟨_, rfl⟩

/-- A scroll key stays with the page on top. -/
theorem step_scroll
    (hregistry : h.session.registry = .standard)
    {k : Key}
    (hk : k.Scrolls)
    (v : HelpView) (pages : List HelpView) :
    ∃ page, (h.under (v :: pages)).step (.key k) = (h.under (page :: pages), none) := by
  have hscrolls : Key.Scrolls (if k.isSpace then ⟨"pgdown"⟩ else k) := by
    split
    · exact scrolls_pgdown
    · exact hk
  have hroute : (h.under (v :: pages)).globalRoute k = _ :=
    globalRoute_of_scrolls (by exact hregistry) hk
  generalize (if k.isSpace then ⟨"pgdown"⟩ else k : Key) = handed at hscrolls hroute
  have hanswer : (h.under (v :: pages)).deliver (.key handed) =
      (((h.under (v :: pages)).withTop (.help (v.key handed).view)).move (v.key handed).move,
        (v.key handed).effect) := by
    rfl
  rw [v.key_of_scrolls hscrolls] at hanswer
  rw [step_eq_follow, route, if_neg (by simp [under, top, View.takesAllKeys]), hroute]
  exact ⟨_, hanswer⟩

/-- A press of `esc` closes the page on top. -/
theorem step_esc_under (v : HelpView) (pages : List HelpView) :
    (h.under (v :: pages)).step (.key ⟨"esc"⟩) = ((h.under pages).resizeTop, none) := by
  rw [step_esc]
  rfl

/-- Only the page on top takes a size. -/
theorem resizeTop_under (h : Host) (v : HelpView) (pages : List HelpView) :
    ∃ page, (h.under (v :: pages)).resizeTop = h.under (page :: pages) :=
  ⟨_, rfl⟩

/-- Any number of presses of the key for help, with scroll keys between them. -/
theorem paged_run
    (hregistry : h.session.registry = .standard)
    (hkeys : h.top.takesAllKeys = false)
    {keys : List Key}
    (hall : ∀ k ∈ keys, k = question ∨ k.Scrolls)
    (v : HelpView) (pages : List HelpView) :
    ∃ page others, others.length = pages.length + keys.count question ∧
      (h.under (v :: pages)).run (keys.map .key) = h.under (page :: others) := by
  induction keys generalizing v pages with
  | nil =>
      exact ⟨v, pages, rfl, rfl⟩
  | cons k keys ih =>
      have hrest : ∀ k ∈ keys, k = question ∨ k.Scrolls :=
        fun k hk => hall k (List.mem_cons_of_mem _ hk)
      rw [List.map_cons, run, List.count_cons]
      rcases hall k List.mem_cons_self with rfl | hscrolls
      · obtain ⟨page, hstep⟩ := step_question hregistry hkeys (v :: pages)
        obtain ⟨top, others, hlength, hrun⟩ := ih hrest page (v :: pages)
        refine ⟨top, others, ?_, by rw [hstep, hrun]⟩
        rw [hlength, List.length_cons, beq_self_eq_true, if_pos rfl]
        omega
      · obtain ⟨page, hstep⟩ := step_scroll hregistry hscrolls v pages
        obtain ⟨top, others, hlength, hrun⟩ := ih hrest page pages
        have hother : (k == question) = false := by
          rw [beq_eq_false_iff_ne]
          rintro rfl
          simp [Key.Scrolls, Key.scrollNames, question] at hscrolls
        refine ⟨top, others, ?_, by rw [hstep, hrun]⟩
        rw [hlength, hother]
        rfl

/-- As many presses of `esc` as there are pages lead back to the views below. -/
theorem run_esc_under (v : HelpView) (pages : List HelpView) :
    (h.under (v :: pages)).run (List.replicate (pages.length + 1) (.key ⟨"esc"⟩)) =
      (h.under []).resizeTop := by
  induction pages generalizing v with
  | nil =>
      rw [List.length_nil, List.replicate_one, run, step_esc_under]
      rfl
  | cons next pages ih =>
      obtain ⟨page, hpage⟩ := h.resizeTop_under next pages
      rw [List.replicate_succ, run, step_esc_under, hpage, List.length_cons]
      exact ih page

end Host

open Host

/-- After any run, while the top view leaves keys to the host: the key for help and then
any more presses of it, with scroll keys between them, put as many pages of help on the
views as there were presses.  All below stays as it was, and so do the session, the
scope and the roots that were left; only a banner goes away.  So the presses never lead
back to the views there were, whatever was on top; yet the page on top would close at
the key.  As many presses of `esc` lead back to these views, with the top one fitted. -/
theorem help_pages_pile_up
    (session : Session) (kind : Kind) (events : List Event) (keys : List Key)
    (hregistry : session.registry = .standard)
    (hkeys : ((Host.ofKind session kind).run events).top.takesAllKeys = false)
    (hall : ∀ k ∈ keys, k = question ∨ k.Scrolls) :
    let h := (Host.ofKind session kind).run events
    let after := h.run ((question :: keys).map .key)
    let presses := keys.count question + 1
    (∃ pages : List HelpView, pages.length = presses ∧
      after = { h with notice := "", stack := pages.map View.help ++ h.stack }) ∧
    after.depth = h.depth + presses ∧
    (after.top.respond after.session (.key question)).move = .pop ∧
    after.run (List.replicate presses (.key ⟨"esc"⟩)) = resizeTop { h with notice := "" } := by
  intro h after presses
  have hknown : h.session.registry = .standard := (registry_run _ events).trans hregistry
  obtain ⟨page, hopen⟩ := step_question hknown hkeys []
  obtain ⟨top, others, hlength, hrun⟩ := paged_run hknown hkeys hall page []
  have hafter : after = h.under (top :: others) := by
    -- The banner goes away with the first press.
    have hfirst : h.step (.key question) = (h.under []).step (.key question) := rfl
    change run (h.step (.key question)).1 (keys.map .key) = _
    rw [hfirst, hopen, hrun]
  have hpresses : presses = others.length + 1 := by
    rw [hlength, List.length_nil, Nat.zero_add]
  rw [hafter, hpresses]
  exact ⟨⟨top :: others, rfl, rfl⟩, depth_under h _, rfl, run_esc_under top others⟩

/-- Help is opened on the list of stateful sets, scrolled down and asked for again. -/
theorem help_pages_pile_up_twice :
    let h := (Host.ofKind (.ofRegistry .standard .empty) .statefulSet).run [.resize 100 30]
    let after := h.run ([question, ⟨"j"⟩, ⟨" "⟩, question].map .key)
    h.top.takesAllKeys = false ∧ h.depth = 1 ∧ after.depth = 3 := by
  intro h after
  have hkeys : h.top.takesAllKeys = false := by
    decide +kernel
  have hdepth : h.depth = 1 := by
    decide +kernel
  have hall : ∀ k ∈ [⟨"j"⟩, ⟨" "⟩, question], k = question ∨ k.Scrolls := by
    simp [Key.Scrolls, Key.scrollNames]
  obtain ⟨-, hafter, -⟩ := help_pages_pile_up (.ofRegistry .standard .empty) .statefulSet
    [.resize 100 30] [⟨"j"⟩, ⟨" "⟩, question] rfl hkeys hall
  exact ⟨hkeys, hdepth, hafter.trans (congrArg (· + 2) hdepth)⟩

/-- The key for help does not close help, even where nothing else is open. -/
theorem help_not_closed :
    ¬ ∀ (session : Session) (kind : Kind) (events : List Event),
      let h := (Host.ofKind session kind).run events
      h.top.takesAllKeys = false → (∀ v, h.top ≠ .help v) →
        (h.run [.key question, .key question]).depth = h.depth := by
  intro hcloses
  have hdepth := hcloses (.ofRegistry .standard .empty) .statefulSet [] (by decide +kernel) (by nofun)
  revert hdepth
  decide +kernel

end ClusterNav
