import ClusterNav.Host.Running
import ClusterNav.Proofs.HostRoute

/-!
# Ticks of followed logs

A log answers the ticks that carry its current number while it is followed.  This
module says what an event can do to that number, and what a tick does to the logs
of a host.

**Results.**
* `LogView.turn_respond`: an event leaves the ticking of a log alone, or starts
  it, or stops it, or is the tick the log waits for.
* `Host.step_tick_of_live`: a tick that the top view waits for is answered.
* `Host.step_tick_of_ne`: any other tick is lost.
-/

namespace ClusterNav

/-- The effect that sends a tick with a number. -/
def Effect.tick (k : Nat) : Effect :=
  .after LogView.interval (.logTick k)

/-! ## One log -/

namespace LogView

variable (v : LogView)

/-- Is the log followed, and the number of its current request. -/
def ticking : Bool × Nat :=
  (v.following, v.request)

/-- The number of the ticks that the log answers. -/
def live? : Option Nat :=
  if v.following then some v.request else none

theorem live?_eq_some_iff (k : Nat) :
    v.live? = some k ↔ v.ticking = (true, k) := by
  cases h : v.following <;> simp [live?, ticking, h]

theorem isSome_live? : v.live?.isSome = v.following := by
  cases h : v.following <;> simp [live?, h]

@[simp] theorem ticking_relayout : v.relayout.ticking = v.ticking := by
  rfl

@[simp] theorem ticking_recount : v.recount.ticking = v.ticking := by
  unfold recount
  split <;> rfl

@[simp] theorem ticking_withLines (lines : List String) :
    (v.withLines lines).ticking = v.ticking := by
  rw [withLines, ticking_relayout, ticking_recount]
  rfl

@[simp] theorem ticking_reload : v.reload.ticking = v.ticking := by
  rw [reload, ticking_withLines]

@[simp] theorem ticking_advance : v.advance.ticking = v.ticking := by
  unfold advance
  split
  · rw [ticking_withLines]
    rfl
  · rfl

@[simp] theorem ticking_searchKey (typed : String) (k : Key) :
    (v.searchKey typed k).ticking = v.ticking := by
  unfold searchKey
  split
  · rfl
  · rfl
  · rfl
  · rfl
  · split <;> rfl

@[simp] theorem ticking_setSize (width height : Nat) :
    (v.setSize width height).ticking = v.ticking := by
  unfold setSize
  split <;> rfl

/-- What an event can do to the ticking of a log. -/
inductive Turn (event : Event) (r : Response LogView) : Prop
  /-- The ticking stays as it is. -/
  | keeps
      (ticking : r.view.ticking = v.ticking)
      (effect : r.effect = none)
  /-- The log begins to be followed, under a new number. -/
  | starts
      (before : v.following = false)
      (ticking : r.view.ticking = (true, v.request + 1))
      (effect : r.effect = some (.tick (v.request + 1)))
      (move : r.move = .stay)
  /-- The log is no longer followed, and its number is used up. -/
  | stops
      (before : v.following = true)
      (ticking : r.view.ticking = (false, v.request + 1))
      (effect : r.effect = none)
      (move : r.move = .stay)
  /-- The tick that the log waits for has come. -/
  | answers
      (before : v.following = true)
      (event_eq : event = .message (.logTick v.request))
      (ticking : r.view.ticking = v.ticking)
      (effect : r.effect = some (.tick v.request))
      (move : r.move = .stay)

theorem turn_toggleFollow (event : Event) :
    v.Turn event v.toggleFollow := by
  cases h : v.following with
  | false =>
      apply Turn.starts h <;> simp [toggleFollow, h, ticking, tick, Effect.tick]
  | true =>
      apply Turn.stops h <;> simp [toggleFollow, h, ticking]

theorem turn_scroll (event : Event) (k : Key) :
    v.Turn event { view := v.scroll k } := by
  unfold scroll
  split
  · exact .keeps rfl rfl
  · split
    · rename_i hleaves
      rw [Bool.and_eq_true] at hleaves
      exact .stops hleaves.1 rfl rfl rfl
    · exact .keeps rfl rfl

theorem turn_leave (event : Event) :
    v.Turn event v.leave := by
  unfold leave
  split <;> exact .keeps rfl rfl

theorem turn_key (event : Event) (k : Key) :
    v.Turn event (v.key k) := by
  unfold key
  split
  · exact .keeps (by simp) rfl
  -- Whether a search was made or not, the keys are the same.
  all_goals
    split
    · exact v.turn_leave event
    · exact v.turn_toggleFollow event
    · exact .keeps rfl rfl
    · exact .keeps (by rw [ticking_reload]; rfl) rfl
    · exact .keeps (by rw [ticking_reload]; rfl) rfl
    · exact .keeps (by rw [ticking_reload]; rfl) rfl
    · exact .keeps rfl rfl
    · exact v.turn_scroll event k

/-- A tick with any other number than the live one changes nothing. -/
theorem onTick_of_ne
    {k : Nat}
    (h : v.live? ≠ some k) :
    v.onTick k = { view := v } := by
  rw [Ne, live?_eq_some_iff, ticking, Prod.mk.injEq, not_and] at h
  unfold onTick
  split
  · rename_i hlive
    rw [Bool.and_eq_true, beq_iff_eq] at hlive
    exact absurd hlive.2.symm (h hlive.1)
  · rfl

/-- The tick with the live number is answered by another one. -/
theorem onTick_of_live
    {k : Nat}
    (h : v.live? = some k) :
    (v.onTick k).view.ticking = v.ticking ∧
    (v.onTick k).effect = some (.tick k) ∧
    (v.onTick k).move = .stay := by
  rw [live?_eq_some_iff, ticking, Prod.mk.injEq] at h
  obtain ⟨hfollowing, rfl⟩ := h
  have hadvance := v.ticking_advance
  have hrequest : v.advance.request = v.request := (Prod.mk.inj hadvance).2
  unfold onTick
  rw [hfollowing, beq_self_eq_true, Bool.and_self, if_pos rfl]
  refine ⟨hadvance, ?_, rfl⟩
  simp [tick, Effect.tick, hrequest]

/-- What an event can do to the ticking of a log. -/
theorem turn_respond (event : Event) :
    v.Turn event (v.respond event) := by
  cases event with
  | resize width height =>
      exact .keeps rfl rfl
  | key k =>
      exact v.turn_key _ k
  | message m =>
      cases m with
      | selected kind value =>
          exact .keeps rfl rfl
      | picked resource ids =>
          exact .keeps rfl rfl
      | logTick k =>
          by_cases h : v.live? = some k
          · obtain ⟨hticking, heffect, hmove⟩ := v.onTick_of_live h
            have hboth := (v.live?_eq_some_iff k).mp h
            obtain ⟨hfollowing, rfl⟩ := Prod.mk.inj hboth
            exact .answers hfollowing rfl hticking heffect hmove
          · show v.Turn _ (v.onTick k)
            rw [v.onTick_of_ne h]
            exact .keeps rfl rfl

end LogView

/-! ## Any view -/

namespace View

/-- The log that a view is. -/
def log? : View → Option LogView
  | .log v => some v
  | _ => none

theorem log?_eq_some_iff {u : View} {v : LogView} : u.log? = some v ↔ u = .log v := by
  cases u <;> simp [log?]

/-- The number of the ticks that a view answers; only a followed log answers any. -/
def live? (v : View) : Option Nat :=
  v.log?.bind LogView.live?

/-- The tick that a view waits for is answered by another one. -/
theorem respond_of_live
    {v : View} {session : Session} {k : Nat}
    (h : v.live? = some k) :
    (v.respond session (.message (.logTick k))).effect = some (.tick k) := by
  cases v with
  | log v =>
      exact (v.onTick_of_live h).2.1
  | _ =>
      cases h

/-- A tick that a view does not wait for is lost on it. -/
theorem respond_of_ne
    {v : View} {k : Nat}
    (session : Session)
    (h : v.live? ≠ some k) :
    (v.respond session (.message (.logTick k))).effect = none ∧
    (v.respond session (.message (.logTick k))).move = .stay ∧
    (v.respond session (.message (.logTick k))).view.log? = v.log? := by
  cases v with
  | log v =>
      have hsame : v.respond (.message (.logTick k)) = { view := v } := v.onTick_of_ne h
      simp [respond, Response.map, hsame]
  | _ =>
      exact ⟨rfl, rfl, rfl⟩

end View

/-! ## All views of a host -/

namespace Host

variable (h : Host)

/-- All views that a host holds: the stack, the root, and the roots it left. -/
def views : List View :=
  h.stack ++ h.root :: h.history.map (·.root)

/-- All views but the top one. -/
def below : List View :=
  h.views.tail

theorem views_eq_cons : h.views = h.top :: h.below := by
  unfold below views top
  cases h.stack <;> rfl

@[simp] theorem below_withTop (v : View) :
    (h.withTop v).below = h.below := by
  unfold below views withTop
  cases h.stack <;> simp

theorem views_withTop (v : View) :
    (h.withTop v).views = v :: h.below := by
  rw [views_eq_cons, top_withTop, below_withTop]

/-- The logs among the views. -/
def logs : List LogView :=
  h.views.filterMap View.log?

variable {h} {k : Nat}

/-- A tick with the number that the top view waits for is answered. -/
theorem step_tick_of_live
    (htop : h.top.live? = some k) :
    (h.step (.message (.logTick k))).2 = some (.tick k) := by
  exact View.respond_of_live htop

/-- A tick that the top view does not wait for is lost and leaves all logs as they
are. -/
theorem step_tick_of_ne
    (htop : h.top.live? ≠ some k) :
    (h.step (.message (.logTick k))).2 = none ∧
    (h.step (.message (.logTick k))).1.logs = h.logs := by
  have hstep : h.step (.message (.logTick k)) = h.deliver (.message (.logTick k)) := by
    rfl
  obtain ⟨heffect, hmove, hlog⟩ :=
    View.respond_of_ne (h.sessionAfter (.message (.logTick k))) htop
  rw [hstep, deliver_eq, show (h.answer (.message (.logTick k))).move = .stay from hmove]
  refine ⟨heffect, ?_⟩
  have hviews := views_withTop { h with session := h.sessionAfter (.message (.logTick k)) }
    (h.answer (.message (.logTick k))).view
  rw [move, answered, logs, hviews, logs, views_eq_cons, List.filterMap_cons,
    List.filterMap_cons, show (h.answer (.message (.logTick k))).view.log? = h.top.log? from hlog]
  rfl

end Host
end ClusterNav
