import ClusterNav.Proofs.LogTicks
import ClusterNav.Proofs.Resizing

/-!
# What happens to a log

A log answers events and is fitted into areas.  It reads many keys, but there are only
so many things it does: it lays out its lines again, with another search or another
wrapping; it asks its kind for lines; it moves its window; it takes a tick.  Whatever is
to be shown of a log is shown once for each of these.

**Results.**
* `LogView.change_after`: all that an input may do to a log.
* `LogView.run_keeps`: what each of these keeps is kept by every run.
* `LogView.counts_recount`: the count of a search after the lines were read anew.
-/

namespace ClusterNav

/-! ## Scroll keys -/

/-- Is it a key that scrolls up? -/
def Key.scrollsUp (k : Key) : Bool :=
  k.isAny ["up", "k", "pgup", "ctrl+u", "home", "g"]

namespace Viewport

variable {w u : Viewport} {k : Key}

/-- What a scroll key does: it moves the window up, or down as far as it goes. -/
inductive Scroll (w : Viewport) (k : Key) : Viewport → Prop
  | up (n : Nat) (key : k.scrollsUp = true) (moves : 0 < w.height → 0 < w.offset → 0 < n) :
      Scroll w k (w.scrollUp n)
  | down (n : Nat) (key : k.scrollsUp = false) : Scroll w k (w.scrollDown n)

theorem goTop_eq (w : Viewport) : w.goTop = w.scrollUp w.offset := by
  rw [scrollUp, Nat.sub_self, goTop]

theorem goBottom_eq (w : Viewport) : w.goBottom = w.scrollDown w.maxOffset := by
  have hoffset : min (w.offset + w.maxOffset) w.maxOffset = w.maxOffset := by
    omega
  rw [scrollDown, clamp, goBottom]
  exact congrArg (fun offset => { w with offset := offset }) hoffset.symm

theorem scroll_of_scrollKey?
    (hk : w.scrollKey? k = some u) :
    w.Scroll k u := by
  obtain ⟨name⟩ := k
  unfold scrollKey? at hk
  dsimp only at hk
  split at hk
  -- The keys in their order; the last case is that of all others.
  · cases hk
    exact .up 1 rfl fun _ _ => Nat.one_pos
  · cases hk
    exact .up 1 rfl fun _ _ => Nat.one_pos
  · cases hk
    exact .down 1 rfl
  · cases hk
    exact .down 1 rfl
  · cases hk
    exact .up w.height rfl fun hheight _ => hheight
  · cases hk
    exact .up w.height rfl fun hheight _ => hheight
  · cases hk
    exact .down w.height rfl
  · cases hk
    exact .down w.height rfl
  · rw [goTop_eq] at hk
    cases hk
    exact .up w.offset rfl fun _ hoffset => hoffset
  · rw [goTop_eq] at hk
    cases hk
    exact .up w.offset rfl fun _ hoffset => hoffset
  · rw [goBottom_eq] at hk
    cases hk
    exact .down w.maxOffset rfl
  · rw [goBottom_eq] at hk
    cases hk
    exact .down w.maxOffset rfl
  · cases hk

/-- A key that scrolls up moves every window. -/
theorem isSome_scrollKey?
    (hk : k.scrollsUp = true) :
    (w.scrollKey? k).isSome = true := by
  obtain ⟨name⟩ := k
  simp only [Key.scrollsUp, Key.isAny, List.contains_eq_mem, decide_eq_true_eq, List.mem_cons,
    List.not_mem_nil, or_false] at hk
  rcases hk with rfl | rfl | rfl | rfl | rfl | rfl <;> rfl

end Viewport

/-! ## Inputs -/

/-- What can happen to a log: an event, or another size. -/
inductive LogInput
  | event (e : Event)
  | fit (width height : Nat)
deriving DecidableEq, Repr

/-- A search that was made tells how many of the lines hold its text. -/
def LogSearch.Counts (lines : List String) : LogSearch → Prop
  | .applied needle found => found = LogView.countFound lines needle
  | .off | .typing _ => True

namespace LogView

variable (v : LogView)

/-- The log after an input. -/
def after : LogInput → LogView
  | .event e => (v.respond e).view
  | .fit width height => v.setSize width height

/-- The log after a list of inputs. -/
def run (v : LogView) (inputs : List LogInput) : LogView :=
  inputs.foldl after v

theorem run_concat (past : List LogInput) (input : LogInput) :
    v.run (past ++ [input]) = (v.run past).after input := by
  simp [run]

/-- The log with the line of a tick, at its end. -/
def ticked : LogView :=
  { v.advance with viewport := v.advance.viewport.goBottom }

/-- What an input may do to a log. -/
inductive Change (input : LogInput) : LogView → Prop
  | stays : Change input v
  /-- The prompt is opened, or its text changes. -/
  | types (text : String) : Change input (v.withSearch (.typing text))
  /-- A search is made or ended. -/
  | searches (search : LogSearch) (counts : search.Counts v.raw) :
      Change input (v.withSearch search).relayout
  | wraps : Change input (relayout { v with wrapping := !v.wrapping })
  /-- The kind is asked for the lines, maybe of another instance or window. -/
  | reads (previous : Bool) (window : LogWindow) :
      Change input (reload { v with previous := previous, window := window })
  | toggles : Change input v.toggleFollow.view
  | scrolls (k : Key) (input_eq : input = .event (.key k)) (outside : v.takesAllKeys = false) :
      Change input (v.scroll k)
  | ticks (input_eq : input = .event (.message (.logTick v.request)))
      (following : v.following = true) : Change input v.ticked
  | fits (width height : Nat) (input_eq : input = .fit width height) :
      Change input (v.setSize width height)

variable {v}

theorem change_searchKey (input : LogInput) (typed : String) (k : Key) :
    v.Change input (v.searchKey typed k) := by
  unfold searchKey
  split
  · exact .searches .off trivial
  · split
    · exact .searches .off trivial
    · exact .searches (.applied typed (countFound v.raw typed)) rfl
  · exact .types _
  · exact .types _
  · split
    · exact .types _
    · exact .stays

theorem change_leave (input : LogInput) :
    v.Change input v.leave.view := by
  unfold leave
  split
  · exact .searches .off trivial
  · exact .stays
  · exact .stays

theorem change_key (k : Key) :
    v.Change (.event (.key k)) (v.key k).view := by
  unfold key
  split
  · exact change_searchKey _ _ _
  -- Whether a search was made or not, the keys are the same.
  all_goals
    rename_i hsearch
    have houtside : v.takesAllKeys = false := by
      simp [takesAllKeys, hsearch]
    split
    · exact change_leave _
    · exact .toggles
    · exact .wraps
    · exact .reads _ _
    · exact .reads _ _
    · exact .reads _ _
    · exact .types ""
    · exact .scrolls k rfl houtside

theorem change_onTick (k : Nat) :
    v.Change (.event (.message (.logTick k))) (v.onTick k).view := by
  unfold onTick
  split
  · rename_i hlive
    rw [Bool.and_eq_true, beq_iff_eq] at hlive
    obtain ⟨hfollowing, rfl⟩ := hlive
    exact .ticks rfl hfollowing
  · exact .stays

/-- All that an input may do to a log. -/
theorem change_after (input : LogInput) :
    v.Change input (v.after input) := by
  cases input with
  | fit width height =>
      exact .fits width height rfl
  | event e =>
      cases e with
      | key k =>
          exact change_key k
      | resize width height =>
          exact .stays
      | message m =>
          cases m with
          | logTick k =>
              exact change_onTick k
          | selected kind value =>
              exact .stays
          | picked resource ids =>
              exact .stays

/-- What holds of a log and is kept by everything that may happen to it holds after
every run. -/
theorem run_keeps
    {P : LogView → Prop}
    (hkeeps : ∀ v input w, P v → v.Change input w → P w)
    (hv : P v)
    (inputs : List LogInput) :
    P (v.run inputs) := by
  induction inputs generalizing v with
  | nil =>
      exact hv
  | cons input rest ih =>
      exact ih (hkeeps v input _ hv (change_after input))

/-! ## What stays -/

@[simp] theorem lines_relayout (v : LogView) : v.relayout.viewport.lines = v.layout := by
  unfold relayout
  dsimp only
  split <;> rfl

@[simp] theorem width_relayout (v : LogView) : v.relayout.viewport.width = v.viewport.width := by
  unfold relayout
  dsimp only
  split <;> rfl

@[simp] theorem height_relayout (v : LogView) : v.relayout.viewport.height = v.viewport.height := by
  unfold relayout
  dsimp only
  split <;> rfl

/-- A log without its window and its ticks. -/
def content (v : LogView) : LogView :=
  { v with viewport := .unsized, following := false, request := 0 }

theorem content_toggleFollow (v : LogView) : v.toggleFollow.view.content = v.content := by
  unfold toggleFollow
  dsimp only
  split <;> rfl

theorem content_scroll (v : LogView) (k : Key) : (v.scroll k).content = v.content := by
  unfold scroll
  split
  · rfl
  · split <;> rfl

theorem content_setSize (v : LogView) (width height : Nat) :
    (v.setSize width height).content = v.content := by
  unfold setSize
  dsimp only
  split <;> rfl

/-- To count again changes the search alone. -/
theorem recount_eq (v : LogView) : v.recount = v.withSearch v.recount.search := by
  unfold recount
  split <;> rfl

theorem counts_recount (v : LogView) : v.recount.search.Counts v.raw := by
  cases hsearch : v.search <;> simp [recount, hsearch, LogSearch.Counts]

/-- To take over lines is to lay them out with a search that counts them. -/
theorem withLines_eq (v : LogView) (lines : List String) :
    ∃ search : LogSearch, search.Counts lines ∧ search.needle? = v.search.needle? ∧
      v.withLines lines = relayout { v with raw := lines, search := search } := by
  refine ⟨_, counts_recount { v with raw := lines }, ?_, ?_⟩
  · cases hsearch : v.search <;> simp [recount, LogSearch.needle?]
  · rw [withLines, recount_eq]
    rfl

/-- The window after a scroll. -/
theorem viewport_scroll (v : LogView) (k : Key) :
    (v.scroll k).viewport = v.viewport.scrollKey k := by
  unfold scroll Viewport.scrollKey
  split
  · rename_i hnone
    rw [hnone]
    rfl
  · rename_i u hu
    rw [hu]
    split <;> rfl

/-! ## What a log is the log of -/

/-- What a log is the log of. -/
def source (v : LogView) : Kind × Item × Option String :=
  (v.kind, v.item, v.container)

variable {w : LogView}

/-- What a log is the log of, and its lines, have nothing to do with its window. -/
theorem lines_of_content_eq
    (hsame : w.content = v.content) :
    w.source = v.source ∧ w.raw = v.raw ∧ w.followed = v.followed := by
  have hsource := congrArg LogView.source hsame
  have hraw := congrArg LogView.raw hsame
  have hfollowed := congrArg LogView.followed hsame
  exact ⟨hsource, hraw, hfollowed⟩

theorem Change.source
    {input : LogInput}
    (hchange : v.Change input w) :
    w.source = v.source := by
  cases hchange with
  | reads previous window =>
      obtain ⟨search, -, -, hlines⟩ :=
        withLines_eq { v with previous := previous, window := window } _
      rw [reload, hlines]
      rfl
  | toggles =>
      exact (lines_of_content_eq v.content_toggleFollow).1
  | scrolls k input_eq outside =>
      exact (lines_of_content_eq (v.content_scroll k)).1
  | ticks input_eq following =>
      unfold ticked advance
      split
      · rename_i line hline
        obtain ⟨search, -, -, hlines⟩ :=
          withLines_eq { v with followed := v.followed + 1 } (v.raw ++ [line])
        rw [hlines]
        rfl
      · rfl
  | fits width height input_eq =>
      exact (lines_of_content_eq (v.content_setSize width height)).1
  | stays | types text | searches search counts | wraps =>
      rfl

end LogView
end ClusterNav
