import ClusterNav.Proofs.TickOwners

/-!
# Logs and the ticks of others

A log should answer only the ticks that it sent itself since it was last followed.
Then one chain of ticks is all that keeps it going, and closing a log ends its
chain.

The number of a tick tells the round it was sent in, but not the view.  So there
is one way in which this goes wrong: a tick of one log arrives while another log is
in the same round.

**Results.**
* `stirs_logTick_iff`: a tick stirs the logs when the top view waits for it.
* `single_act`: an act starts no second chain, unless rounds collide.
* `own_ticks_iff`: in exactly the runs without a collision, logs answer their own
  ticks only.
* `foreign_tick_answered`: a run where a log answers the tick of a closed one.
-/

namespace ClusterNav

namespace Host

variable {h : Host} {k : Nat}

/-- A message stirs the logs when one of them changes with it, or when it is answered
by an effect. -/
def Stirs (h : Host) (m : Message) : Prop :=
  (h.step (.message m)).1.logs ≠ h.logs ∨ (h.step (.message m)).2 ≠ none

/-- A tick stirs the logs when the top view waits for it. -/
theorem stirs_logTick_iff :
    h.Stirs (.logTick k) ↔ h.top.live? = some k := by
  constructor
  · intro hstirs
    by_contra hlive
    obtain ⟨heffect, hlogs⟩ := step_tick_of_ne hlive
    rcases hstirs with hchanged | hanswered
    · exact hchanged hlogs
    · exact hanswered heffect
  · intro hlive
    right
    rw [step_tick_of_live hlive]
    exact Option.some_ne_none _

/-- The view on top of the stack is the one that waits for ticks, when the root is
no log. -/
theorem live?_top_eq_some_iff
    (hroot : h.root.ticking? = none) :
    h.top.live? = some k ↔ ∃ rest, h.tickings = some (true, k) :: rest := by
  rw [View.live?_eq_some_iff]
  cases hs : h.stack with
  | nil =>
      rw [h.top_of_nil hs, hroot, tickings, hs]
      simp
  | cons v rest =>
      rw [h.top_of_cons hs, tickings_of_cons hs]
      simp

end Host

namespace Watched

/-- Each tick that stirs the logs is one of the top view's own, sent in the current
round; no tick of a closed view stirs them; and no followed log has two ticks on
their way that it would answer. -/
structure OwnTicks (w : Watched) : Prop where
  own : ∀ k sender, (.logTick k, sender) ∈ w.sent → w.host.Stirs (.logTick k) →
    ∃ o, w.owners.head? = some o ∧ sender = some o
  closed : ∀ k o, (.logTick k, some o) ∈ w.sent → (∀ p ∈ w.owners, p.view ≠ o.view) →
    ¬ w.host.Stirs (.logTick k)
  single : ∀ v ∈ w.host.logs, v.following = true →
    w.running.pending.count (.logTick v.request) ≤ 1

/-- The view on top is followed, and a tick is on its way that another view sent in
the same round. -/
def Collides (w : Watched) : Prop :=
  ∃ k o p, (.logTick k, some p) ∈ w.sent ∧ w.owners.head? = some o ∧
    w.host.top.live? ≠ none ∧ p.view ≠ o.view ∧ p.round = o.round

/-- No two ticks on their way carry the same number. -/
def Single (w : Watched) : Prop :=
  ∀ k, w.running.pending.count (.logTick k) ≤ 1

variable {w : Watched} {k : Nat}

/-- The number that the top view waits for tells its round. -/
theorem Sound.round_of_live
    (hi : w.Sound)
    (hlive : w.host.top.live? = some k) :
    ∃ o, w.owners.head? = some o ∧ k + 1 = 2 * o.round := by
  obtain ⟨rest, htickings⟩ := (Host.live?_top_eq_some_iff hi.scopes.ticking?_root).mp hlive
  obtain ⟨o, os, howners⟩ := hi.exists_owner htickings
  have hfits := hi.named.fits
  rw [htickings, howners] at hfits
  refine ⟨o, by rw [howners]; rfl, ?_⟩
  exact (List.forall₂_cons.mp hfits).1 true k rfl

/-- Where two rounds collide, a log answers the tick of another. -/
theorem not_collides_of_own
    (hi : w.Sound)
    (hown : w.OwnTicks) :
    ¬ w.Collides := by
  rintro ⟨k, o, p, hsent, howner, hlive, hview, hround⟩
  obtain ⟨j, hj⟩ := Option.ne_none_iff_exists'.mp hlive
  obtain ⟨o', howner', hjround⟩ := hi.round_of_live hj
  obtain ⟨p', hp', hkround, -, -⟩ := hi.named.ticks k _ hsent
  cases hp'
  cases howner.symm.trans howner'
  have hkj : k = j := by omega
  rw [← hkj, ← Host.stirs_logTick_iff] at hj
  obtain ⟨q, hq, hsender⟩ := hown.own k _ hsent hj
  cases hsender
  cases howner.symm.trans hq
  exact hview rfl

/-- Without a collision, a tick that stirs the logs is one of the top view's own. -/
theorem own_of_not_collides
    (hi : w.Sound)
    (hfree : ¬ w.Collides)
    {sender : Option Follow}
    (hsent : (.logTick k, sender) ∈ w.sent)
    (hstirs : w.host.Stirs (.logTick k)) :
    ∃ o, w.owners.head? = some o ∧ sender = some o := by
  have hlive := Host.stirs_logTick_iff.mp hstirs
  obtain ⟨o, howner, horound⟩ := hi.round_of_live hlive
  obtain ⟨p, rfl, hpround, -, -⟩ := hi.named.ticks k _ hsent
  have hround : p.round = o.round := by omega
  refine ⟨o, howner, ?_⟩
  by_contra hne
  have hview : p.view ≠ o.view := by
    intro hview
    apply hne
    rw [Option.some.injEq]
    cases p
    cases o
    simp_all
  refine hfree ⟨k, o, p, hsent, howner, ?_, hview, hround⟩
  rw [hlive]
  exact Option.some_ne_none k

theorem ownTicks_of_not_collides
    (hi : w.Sound)
    (hfree : ¬ w.Collides)
    (hsingle : w.Single) :
    w.OwnTicks where
  own := fun _ _ => own_of_not_collides hi hfree
  closed := by
    intro k o hsent hclosed hstirs
    obtain ⟨p, hp, hsender⟩ := own_of_not_collides hi hfree hsent hstirs
    cases hsender
    exact hclosed o (List.mem_of_mem_head? hp) rfl
  single := fun v _ _ => hsingle v.request

/-! ## Chains of ticks -/

theorem pending_handle (event : Event) :
    (w.handle event).running.pending =
      w.running.pending ++ ((w.host.step event).2.bind Effect.message?).toList := by
  rw [running_handle]
  rfl

/-- An event that sends no tick starts no chain. -/
theorem count_pending_of_quiet
    {event : Event}
    (hquiet : (w.host.step event).2.bind Effect.message? ≠ some (.logTick k)) :
    (w.handle event).running.pending.count (.logTick k) =
      w.running.pending.count (.logTick k) := by
  rw [pending_handle, List.count_append, Nat.add_eq_left, List.count_eq_zero]
  exact fun hk => hquiet (Option.mem_toList.mp hk)

theorem count_pending_of_tick
    {event : Event} {j : Nat}
    (heffect : (w.host.step event).2 = some (.tick j)) :
    (w.handle event).running.pending.count (.logTick k) =
      w.running.pending.count (.logTick k) + if j = k then 1 else 0 := by
  rw [pending_handle, heffect, List.count_append]
  congr 1
  by_cases hjk : j = k <;> simp [Effect.tick, Effect.message?, hjk]

/-- The number of a new round is on its way already only where rounds collide. -/
theorem count_pending_of_begins
    (hi : w.Sound)
    {event : Event} {o : Follow} {os : List Follow}
    (howners : w.owners = o :: os)
    (hbefore : (w.handle event).owners = o.next :: os)
    (hk : k = 2 * o.round)
    (hlive : (w.handle event).host.top.live? ≠ none)
    (hfree : ¬ (w.handle event).Collides) :
    w.running.pending.count (.logTick (k + 1)) = 0 := by
  rw [List.count_eq_zero]
  intro hmem
  obtain ⟨⟨m, sender⟩, hsent, hm⟩ := List.mem_map.mp hmem
  obtain rfl : m = .logTick (k + 1) := hm
  obtain ⟨p, rfl, hround, -, hlatest⟩ := hi.named.ticks _ _ hsent
  by_cases hview : p.view = o.view
  · -- No tick of the view is from a later round than the last one.
    have hle : p.round ≤ o.round := by
      apply hlatest o _ hview.symm
      rw [howners]
      exact List.mem_cons_self
    omega
  · refine hfree ⟨k + 1, o.next, p, List.mem_append_left _ hsent, ?_, hlive, hview, ?_⟩
    · rw [hbefore]
      rfl
    · show p.round = o.round + 1
      omega

/-- An event starts no second chain, when its tick is counted no more and rounds do
not collide. -/
theorem single_handle
    (hi : w.Sound)
    {event : Event}
    (hsingle : ∀ k, w.running.pending.count (.logTick k) +
      (if event = .message (.logTick k) then 1 else 0) ≤ 1)
    (hfree : ¬ (w.handle event).Collides) :
    (w.handle event).Single := by
  intro k
  have hstep := w.host.step_eq_follow event
  have hk : w.running.pending.count (.logTick k) ≤ 1 := by
    exact Nat.le_trans (Nat.le_add_right _ _) (hsingle k)
  cases hi.scopes.turn event with
  | moves new hopened hbegins hafter hquiet =>
      rw [count_pending_of_quiet (by rw [hstep]; exact hquiet k)]
      exact hk
  | starts j rest hbegins hchange hbefore hafter heffect =>
      rw [Host.tickings_heard] at hbefore
      obtain ⟨o, os, howners⟩ := hi.exists_owner hbefore
      have hfits := hi.named.fits
      rw [hbefore, howners] at hfits
      have hround : j = 2 * o.round := (List.forall₂_cons.mp hfits).1 false j rfl
      have hnone : w.running.pending.count (.logTick (j + 1)) = 0 := by
        apply count_pending_of_begins hi howners
          (owners_handle_of_begins hbegins hchange howners) hround _ hfree
        have hlive : (w.handle event).host.top.live? = some (j + 1) := by
          rw [Host.live?_top_eq_some_iff (hi.handle event).scopes.ticking?_root]
          refine ⟨rest, ?_⟩
          show (w.host.step event).1.tickings = _
          rw [hstep, hafter]
        rw [hlive]
        exact Option.some_ne_none _
      rw [count_pending_of_tick (hstep ▸ heffect)]
      split
      · rename_i hjk
        subst hjk
        omega
      · exact hk
  | stops j rest hbegins hchange hbefore hafter heffect =>
      rw [count_pending_of_quiet (by rw [hstep, heffect]; simp)]
      exact hk
  | answers j rest hroute hbegins hchange hbefore hafter heffect =>
      have hevent := Host.eq_of_route_eq_hand_message _ hroute
      rw [count_pending_of_tick (hstep ▸ heffect)]
      have hcount := hsingle k
      rw [hevent] at hcount
      simpa using hcount

/-- An input starts no second chain, unless rounds collide. -/
theorem single_act
    (hi : w.Sound)
    (hsingle : w.Single)
    {input : Input}
    (hfree : ¬ (w.act input).Collides) :
    (w.act input).Single := by
  cases input with
  | key k =>
      exact single_handle hi (fun k => by simpa using hsingle k) hfree
  | resize width height =>
      exact single_handle hi (fun k => by simpa using hsingle k) hfree
  | deliver n =>
      cases hget : w.sent[n]? with
      | none =>
          rw [act_deliver_of_none hget]
          exact hsingle
      | some sending =>
          obtain ⟨m, sender⟩ := sending
          rw [act_deliver_of_some hget] at hfree ⊢
          refine single_handle (hi.erase n) (fun k => ?_) hfree
          -- The message that is delivered was on its way with the others.
          obtain ⟨hn, hm⟩ := List.getElem?_eq_some_iff.mp hget
          have hperm := (List.getElem_cons_eraseIdx_perm hn).map Prod.fst
          have hcount := hperm.count_eq (.logTick k)
          rw [hm, List.map_cons, List.count_cons] at hcount
          have hone := hsingle k
          change ((w.sent.eraseIdx n).map Prod.fst).count (.logTick k) + _ ≤ 1
          simp only [Event.message.injEq, running] at hone ⊢
          simp only [beq_iff_eq] at hcount
          omega

end Watched

open Watched in
/-- In every run, in any order of keys, sizes and deliveries: the logs answer their
own ticks only, all the time, if and only if no two rounds ever collide. -/
theorem own_ticks_iff (session : Session) (kind : Kind) (inputs : List Input) :
    ((ofKind session kind).run inputs).running =
      (Running.ofKind session kind).run (inputs.map Input.act) ∧
    ((∀ past, past <+: inputs → ((ofKind session kind).run past).OwnTicks) ↔
      ∀ past, past <+: inputs → ¬ ((ofKind session kind).run past).Collides) := by
  refine ⟨running_run _ inputs, ?_, ?_⟩
  · intro hown past hpast
    exact not_collides_of_own (sound_run (sound_ofKind session kind) past) (hown past hpast)
  · intro hfree past hpast
    apply ownTicks_of_not_collides (sound_run (sound_ofKind session kind) past) (hfree past hpast)
    induction past using List.reverseRecOn with
    | nil =>
        intro k
        exact Nat.zero_le 1
    | append_singleton past input ih =>
        have hprefix : past <+: inputs := (List.prefix_append past [input]).trans hpast
        have hstep := hfree _ hpast
        rw [run_concat] at hstep ⊢
        exact single_act (sound_run (sound_ofKind session kind) past) (ih hprefix) hstep

open Watched in
/-- A log is followed and closed, and another one is opened and followed within the
second: then it answers the tick of the closed log. -/
theorem foreign_tick_answered :
    ¬ ∀ (session : Session) (kind : Kind) (inputs : List Input),
      ((ofKind session kind).run inputs).OwnTicks := by
  intro hown
  let reopened : Watched :=
    (ofKind (.ofRegistry .standard .empty) .statefulSet).run
      [.key ⟨"o"⟩, .key ⟨"f"⟩, .key ⟨"esc"⟩, .key ⟨"o"⟩, .key ⟨"f"⟩]
  have hsent : reopened.sent = [(.logTick 1, some ⟨0, 1⟩), (.logTick 1, some ⟨3, 1⟩)] := by
    decide +kernel
  have howners : reopened.owners = [⟨3, 1⟩] := by
    decide +kernel
  have hlive : reopened.host.top.live? = some 1 := by
    decide +kernel
  have hclosed := (hown _ _ _ : reopened.OwnTicks).closed 1 ⟨0, 1⟩
  rw [hsent, howners] at hclosed
  exact hclosed (by simp) (by simp) (Host.stirs_logTick_iff.mpr hlive)

end ClusterNav
