import ClusterNav.Host.Running
import ClusterNav.Proofs.StackChange
import Mathlib.Data.List.Induction

/-!
# Followed logs wait for a tick

A followed log goes on only as long as a tick with its number is on the way.  The
log itself answers each such tick with the next one.  But a host hands a tick to
the top view, whatever that is: a tick that arrives while the log is covered by
another view is lost.

So it is exactly the lost ticks that matter: a run keeps all followed logs alive
if and only if it never wastes the last tick that one of them waits for.

**Results.**
* `alive_act_iff`: an act keeps the followed logs alive unless it wastes a tick.
* `follow_alive_iff`: the same for whole runs, in any order of acts.
* `follow_stalls`: a tick that arrives below the help page stalls a log.
-/

namespace ClusterNav
namespace Running

/-- The tick of each followed log is on the way. -/
def Alive (r : Running) : Prop :=
  ∀ v ∈ r.host.logs, v.following = true → .logTick v.request ∈ r.pending

/-- An act that loses the last tick of a followed log: the tick is delivered while
the view on top does not wait for its number. -/
def Wastes (r : Running) : Act → Prop
  | .event _ => False
  | .deliver n =>
      ∃ v ∈ r.host.logs, v.following = true ∧
        r.pending[n]? = some (.logTick v.request) ∧
        .logTick v.request ∉ r.pending.eraseIdx n ∧
        r.host.top.live? ≠ some v.request

variable {r : Running}

/-- A followed log, as it stands on the stack. -/
theorem followed_iff
    (hi : ScopesInStep r.host)
    {k : Nat} :
    some (true, k) ∈ r.host.tickings ↔
      ∃ v ∈ r.host.logs, v.following = true ∧ v.request = k := by
  rw [hi.mem_tickings_iff]
  simp only [LogView.ticking, Prod.mk.injEq]

theorem alive_iff
    (hi : ScopesInStep r.host) :
    r.Alive ↔ ∀ k, some (true, k) ∈ r.host.tickings → .logTick k ∈ r.pending := by
  constructor
  · intro halive k hk
    obtain ⟨v, hv, hfollowing, rfl⟩ := (followed_iff hi).mp hk
    exact halive v hv hfollowing
  · intro halive v hv hfollowing
    exact halive v.request ((followed_iff hi).mpr ⟨v, hv, hfollowing, rfl⟩)

/-- An event keeps the logs alive when each followed log has a tick on the way or
gets a new one. -/
theorem alive_handle
    (hi : ScopesInStep r.host)
    {event : Event}
    (h : ∀ k, some (true, k) ∈ r.host.tickings →
      .logTick k ∈ r.pending ∨ (r.host.step event).2 = some (.tick k)) :
    (r.handle event).1.Alive := by
  rw [alive_iff (hi.step event)]
  intro k hk
  have hsent :
      .logTick k ∈ r.pending ∨ (r.host.step event).2 = some (.tick k) := by
    rcases hi.followed_of_step hk with hbefore | heffect
    · exact h k hbefore
    · exact Or.inr heffect
  show Message.logTick k ∈ r.pending ++ ((r.host.step event).2.bind Effect.message?).toList
  rw [List.mem_append]
  refine hsent.imp_right fun heffect => ?_
  simp [heffect, Effect.tick, Effect.message?]

theorem act_deliver_of_none
    {n : Nat}
    (hget : r.pending[n]? = none) :
    r.act (.deliver n) = r := by
  simp [act, deliver?, hget]

theorem act_deliver_of_some
    {n : Nat} {m : Message}
    (hget : r.pending[n]? = some m) :
    r.act (.deliver n) =
      ({ r with pending := r.pending.eraseIdx n }.handle (.message m)).1 := by
  simp [act, deliver?, hget]

/-- Delivering one message leaves all others on the way. -/
theorem mem_eraseIdx_of_ne
    {α : Type} {l : List α} {n : Nat} {x y : α}
    (hget : l[n]? = some y)
    (hne : x ≠ y)
    (hx : x ∈ l) :
    x ∈ l.eraseIdx n := by
  obtain ⟨i, hi⟩ := List.mem_iff_getElem?.mp hx
  refine List.mem_eraseIdx_iff_getElem?.mpr ⟨i, ?_, hi⟩
  rintro rfl
  exact hne (Option.some.inj (hi.symm.trans hget))

/-- A tick that is delivered and not wasted leaves all followed logs alive. -/
theorem alive_deliver
    (hi : ScopesInStep r.host)
    (halive : r.Alive)
    {n : Nat}
    (hwaste : ¬ r.Wastes (.deliver n)) :
    (r.act (.deliver n)).Alive := by
  cases hget : r.pending[n]? with
  | none =>
      rw [act_deliver_of_none hget]
      exact halive
  | some m =>
      rw [act_deliver_of_some hget]
      apply alive_handle (r := { r with pending := r.pending.eraseIdx n }) hi
      intro k hk
      change .logTick k ∈ r.pending.eraseIdx n ∨ (r.host.step _).2 = _
      by_cases hm : m = .logTick k
      · subst hm
        by_cases htop : r.host.top.live? = some k
        · exact Or.inr (Host.step_tick_of_live htop)
        · left
          by_contra hlast
          obtain ⟨v, hv, hfollowing, rfl⟩ := (followed_iff hi).mp hk
          exact hwaste ⟨v, hv, hfollowing, hget, hlast, htop⟩
      · exact Or.inl (mem_eraseIdx_of_ne hget (Ne.symm hm) ((alive_iff hi).mp halive k hk))

/-- A wasted tick leaves a followed log without one. -/
theorem not_alive_of_wastes
    {n : Nat}
    (hwaste : r.Wastes (.deliver n)) :
    ¬ (r.act (.deliver n)).Alive := by
  obtain ⟨v, hv, hfollowing, hget, hlast, htop⟩ := hwaste
  obtain ⟨heffect, hlogs⟩ := Host.step_tick_of_ne htop
  rw [act_deliver_of_some hget]
  intro halive
  have hmem := halive v (hlogs ▸ hv) hfollowing
  change Message.logTick v.request ∈
    r.pending.eraseIdx n ++
      ((r.host.step (.message (.logTick v.request))).2.bind Effect.message?).toList at hmem
  rw [heffect] at hmem
  exact hlast (by simpa using hmem)

/-- An act keeps all followed logs alive, unless it wastes a tick. -/
theorem alive_act_iff
    (hi : ScopesInStep r.host)
    (halive : r.Alive)
    (a : Act) :
    (r.act a).Alive ↔ ¬ r.Wastes a := by
  cases a with
  | event e =>
      refine iff_of_true (alive_handle hi fun k hk => Or.inl ?_) id
      exact (alive_iff hi).mp halive k hk
  | deliver n =>
      exact ⟨fun halive hwaste => not_alive_of_wastes hwaste halive, alive_deliver hi halive⟩

theorem scopesInStep_act
    (hi : ScopesInStep r.host)
    (a : Act) :
    ScopesInStep (r.act a).host := by
  cases a with
  | event e =>
      exact hi.step e
  | deliver n =>
      cases hget : r.pending[n]? with
      | none =>
          rw [act_deliver_of_none hget]
          exact hi
      | some m =>
          rw [act_deliver_of_some hget]
          exact hi.step (.message m)

theorem scopesInStep_run
    (session : Session) (kind : Kind) (acts : List Act) :
    ScopesInStep ((ofKind session kind).run acts).host := by
  induction acts using List.reverseRecOn with
  | nil =>
      exact .ofKind session kind
  | append_singleton past a ih =>
      rw [run_concat]
      exact scopesInStep_act ih a

end Running

open Running in
/-- In every run, in any order of keys, sizes, messages and deliveries: the tick
of each followed log is on the way all the time if and only if no delivery takes
the last tick of a followed log while the view on top does not wait for it. -/
theorem follow_alive_iff (session : Session) (kind : Kind) (acts : List Act) :
    (∀ past, past <+: acts → ((ofKind session kind).run past).Alive) ↔
    (∀ past a, past ++ [a] <+: acts → ¬ ((ofKind session kind).run past).Wastes a) := by
  have hscopes := scopesInStep_run session kind
  constructor
  · intro halive past a hprefix
    have hpast : past <+: acts := (List.prefix_append past [a]).trans hprefix
    rw [← alive_act_iff (hscopes past) (halive past hpast), ← run_concat]
    exact halive _ hprefix
  · intro hwaste past
    induction past using List.reverseRecOn with
    | nil =>
        -- The first view is a list, so no log is followed.
        intro _ v hv
        cases hv
    | append_singleton past a ih =>
        intro hprefix
        have hpast : past <+: acts := (List.prefix_append past [a]).trans hprefix
        rw [run_concat, alive_act_iff (hscopes past) (ih hpast)]
        exact hwaste past a hprefix

open Running in
/-- Following stalls: a log is followed, the help page opened, and the tick comes
while the page is shown. -/
theorem follow_stalls :
    ¬ ∀ (session : Session) (kind : Kind) (acts : List Act),
      ((ofKind session kind).run acts).Alive := by
  intro halive
  let stalled : Running :=
    (ofKind (.ofRegistry .standard .empty) .statefulSet).run
      [.event (.key ⟨"o"⟩), .event (.key ⟨"f"⟩), .event (.key ⟨"?"⟩), .deliver 0]
  have hnone : stalled.pending = [] := by
    decide +kernel
  have hfollowed : some (true, 1) ∈ stalled.host.tickings := by
    decide +kernel
  have hmem : .logTick 1 ∈ stalled.pending :=
    (alive_iff (scopesInStep_run _ _ _)).mp (halive _ _ _) 1 hfollowed
  rw [hnone] at hmem
  exact absurd hmem List.not_mem_nil

end ClusterNav
