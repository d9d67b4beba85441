import ClusterNav.Host.Running
import ClusterNav.Proofs.StackChange
import Mathlib.Data.List.Induction
import Mathlib.Data.List.InsertIdx
import Mathlib.Data.List.Perm.Basic

/-!
# Whose tick it is

A tick carries a number, and a log answers the ticks that carry its own.  The
numbers of each log start over, so the tick of one log can carry the number of
another.

To say whose tick it is, a running host is watched: each view of the stack gets a
name when it is opened, its rounds of being followed are counted, and each message
is noted with the view that sent it.  The watch has no influence on the run.

**Results.**
* `running_run`: a watched run is the run that is watched.
* `sound_run`: the number of each tick tells the round it was sent in.
-/

namespace ClusterNav

/-- A view of the stack, and how often it began to be followed. -/
structure Follow where
  view : Nat
  round : Nat
deriving DecidableEq, Repr

def Follow.next (f : Follow) : Follow :=
  { f with round := f.round + 1 }

/-- A running host with names for the views of its stack. -/
structure Watched where
  host : Host
  /-- The names and rounds of the views of the stack, the top first. -/
  owners : List Follow
  /-- The messages on their way, each with the view that was on top when it was
  sent. -/
  sent : List (Message × Option Follow)
  fresh : Nat

/-- What can happen to a running host: a key, another size of the screen, or the
arrival of one of the messages on their way. -/
inductive Input
  | key (k : Key)
  | resize (width height : Nat)
  | deliver (n : Nat)

def Input.act : Input → Running.Act
  | .key k => .event (.key k)
  | .resize width height => .event (.resize width height)
  | .deliver n => .deliver n

namespace Watched

/-- A host on the list of a kind, whose stack is empty. -/
def ofKind (session : Session) (kind : Kind) : Watched where
  host := .ofKind session kind
  owners := []
  sent := []
  fresh := 0

variable (w : Watched)

/-- The running host that is watched. -/
def running : Running where
  host := w.host
  pending := w.sent.map Prod.fst

/-- What the stack changes to with an event. -/
def change (event : Event) : StackChange :=
  (w.host.heard event).change (w.host.route event)

/-- The views of the stack once the top view has answered; a new round begins when
it begins to be followed. -/
def answering (event : Event) : List Follow :=
  if (w.host.heard event).begins (w.host.route event) then w.owners.modifyHead .next
  else w.owners

/-- Handles an event: the host makes its step, and the names follow it. -/
def handle (event : Event) : Watched where
  host := (w.host.step event).1
  owners := (w.change event).apply ⟨w.fresh, 0⟩ (w.answering event)
  sent :=
    w.sent ++
      ((w.host.step event).2.bind Effect.message?).toList.map
        fun m => (m, (w.answering event).head?)
  fresh := w.fresh + 1

/-- One of the messages is no longer on its way. -/
def erase (n : Nat) : Watched :=
  { w with sent := w.sent.eraseIdx n }

def act : Input → Watched
  | .key k => w.handle (.key k)
  | .resize width height => w.handle (.resize width height)
  | .deliver n =>
      match w.sent[n]? with
      | some (m, _) => (w.erase n).handle (.message m)
      | none => w

def run (w : Watched) (inputs : List Input) : Watched :=
  inputs.foldl act w

/-! ## The watch has no influence -/

theorem running_handle (event : Event) :
    (w.handle event).running = (w.running.handle event).1 := by
  simp [running, handle, Running.handle, Function.comp_def]

theorem running_erase (n : Nat) :
    (w.erase n).running = { w.running with pending := w.running.pending.eraseIdx n } := by
  simp only [running, erase, List.eraseIdx_map]

theorem running_act (input : Input) :
    (w.act input).running = w.running.act input.act := by
  cases input with
  | key k =>
      exact w.running_handle _
  | resize width height =>
      exact w.running_handle _
  | deliver n =>
      have hget : w.running.pending[n]? = w.sent[n]?.map Prod.fst := by
        rw [running, List.getElem?_map]
      simp only [act, Input.act, Running.act, Running.deliver?, hget]
      cases w.sent[n]? with
      | none =>
          rfl
      | some sending =>
          simp only [Option.map_some, running_handle, running_erase]

/-- A watched run is the run that is watched. -/
theorem running_run (inputs : List Input) :
    (w.run inputs).running = w.running.run (inputs.map Input.act) := by
  induction inputs generalizing w with
  | nil =>
      rfl
  | cons input rest ih =>
      rw [List.map_cons, Running.run, ← running_act]
      exact ih (w.act input)

theorem run_concat (inputs : List Input) (input : Input) :
    w.run (inputs ++ [input]) = (w.run inputs).act input := by
  rw [run, List.foldl_concat]
  rfl

/-! ## Numbers and rounds -/

/-- In each round a view uses one number while it is followed, and another one
after that. -/
def Fits (ticking : Option (Bool × Nat)) (o : Follow) : Prop :=
  ∀ following request, ticking = some (following, request) →
    request + following.toNat = 2 * o.round

/-- The names fit the views, no two views have the same one, and the number of each
tick on its way tells the round, not later than the current one, that it was sent
in. -/
structure Named
    (tickings : List (Option (Bool × Nat)))
    (owners : List Follow)
    (sent : List (Message × Option Follow))
    (fresh : Nat) : Prop where
  fits : List.Forall₂ Fits tickings owners
  apart : owners.Pairwise (·.view ≠ ·.view)
  known : ∀ o ∈ owners, o.view < fresh
  ticks : ∀ k sender, (.logTick k, sender) ∈ sent →
    ∃ o, sender = some o ∧ k + 1 = 2 * o.round ∧ o.view < fresh ∧
      ∀ p ∈ owners, p.view = o.view → o.round ≤ p.round

namespace Named

variable {tickings rest : List (Option (Bool × Nat))} {owners os : List Follow}
  {sent more : List (Message × Option Follow)} {fresh k : Nat} {o : Follow}

theorem of_subset
    (hi : Named tickings owners sent fresh)
    (hsub : ∀ k sender, (.logTick k, sender) ∈ more → (.logTick k, sender) ∈ sent) :
    Named tickings owners more fresh :=
  ⟨hi.fits, hi.apart, hi.known, fun k sender hk => hi.ticks k sender (hsub k sender hk)⟩

/-- Messages that are no ticks do not matter. -/
theorem append_quiet
    (hi : Named tickings owners sent fresh)
    (hquiet : ∀ k sender, (.logTick k, sender) ∉ more) :
    Named tickings owners (sent ++ more) fresh := by
  refine hi.of_subset fun k sender hk => ?_
  exact (List.mem_append.mp hk).resolve_right (hquiet k sender)

/-- The stack may change, when each view that is opened gets a fresh name. -/
theorem change
    (hi : Named tickings owners sent fresh)
    {new : Option (Bool × Nat)}
    (hopened : Host.Opened new)
    (c : StackChange) :
    Named (c.apply new tickings) (c.apply ⟨fresh, 0⟩ owners) sent (fresh + 1) where
  fits := by
    refine StackChange.forall₂_apply hi.fits ?_ c
    rintro following request rfl
    rcases hopened with hnone | hlog
    · cases hnone
    · cases hlog
      rfl
  apart := by
    refine StackChange.pairwise_apply hi.apart (fun p hp => ?_) c
    exact Nat.ne_of_gt (hi.known p hp)
  known := by
    intro p hp
    rcases StackChange.mem_apply hp with rfl | hp
    · exact Nat.lt_succ_self fresh
    · exact Nat.lt_succ_of_lt (hi.known p hp)
  ticks := by
    intro k sender hk
    obtain ⟨o, hsender, hnumber, hview, hround⟩ := hi.ticks k sender hk
    refine ⟨o, hsender, hnumber, Nat.lt_succ_of_lt hview, fun p hp hsame => ?_⟩
    rcases StackChange.mem_apply hp with rfl | hp
    · -- No tick comes from the view that was just opened.
      exact absurd hsame (Nat.ne_of_gt hview)
    · exact hround p hp hsame

/-- A new round brings a number that no tick of the view had before. -/
theorem start
    (hi : Named (some (false, k) :: rest) (o :: os) sent fresh) :
    Named (some (true, k + 1) :: rest) (o.next :: os)
      (sent ++ [(.logTick (k + 1), some o.next)]) fresh := by
  obtain ⟨hfits, hrest⟩ := List.forall₂_cons.mp hi.fits
  obtain ⟨hapart, hos⟩ := List.pairwise_cons.mp hi.apart
  have hk : k = 2 * o.round := hfits false k rfl
  refine ⟨.cons ?_ hrest, List.pairwise_cons.mpr ⟨hapart, hos⟩, ?_, ?_⟩
  · intro following request h
    cases h
    show k + 1 + 1 = 2 * (o.round + 1)
    omega
  · intro p hp
    rcases List.mem_cons.mp hp with rfl | hp
    · exact hi.known o List.mem_cons_self
    · exact hi.known p (List.mem_cons_of_mem _ hp)
  · intro j sender hj
    rcases List.mem_append.mp hj with hj | hj
    · obtain ⟨s, hsender, hnumber, hview, hround⟩ := hi.ticks j sender hj
      refine ⟨s, hsender, hnumber, hview, fun p hp hsame => ?_⟩
      rcases List.mem_cons.mp hp with rfl | hp
      · exact Nat.le_succ_of_le (hround o List.mem_cons_self hsame)
      · exact hround p (List.mem_cons_of_mem _ hp) hsame
    · cases List.mem_singleton.mp hj
      refine ⟨o.next, rfl, ?_, hi.known o List.mem_cons_self, fun p hp hsame => ?_⟩
      · show k + 1 + 1 = 2 * (o.round + 1)
        omega
      · rcases List.mem_cons.mp hp with rfl | hp
        · exact Nat.le_refl _
        · exact absurd hsame.symm (hapart p hp)

/-- The number after a round is used by no tick. -/
theorem stop
    (hi : Named (some (true, k) :: rest) (o :: os) sent fresh) :
    Named (some (false, k + 1) :: rest) (o :: os) sent fresh := by
  obtain ⟨hfits, hrest⟩ := List.forall₂_cons.mp hi.fits
  have hk : k + 1 = 2 * o.round := hfits true k rfl
  refine ⟨.cons ?_ hrest, hi.apart, hi.known, hi.ticks⟩
  intro following request h
  cases h
  exact hk

/-- A tick that is answered is followed by one of the current round. -/
theorem answer
    (hi : Named (some (true, k) :: rest) (o :: os) sent fresh) :
    Named (some (true, k) :: rest) (o :: os) (sent ++ [(.logTick k, some o)]) fresh := by
  have hk : k + 1 = 2 * o.round := (List.forall₂_cons.mp hi.fits).1 true k rfl
  refine ⟨hi.fits, hi.apart, hi.known, fun j sender hj => ?_⟩
  rcases List.mem_append.mp hj with hj | hj
  · exact hi.ticks j sender hj
  · cases List.mem_singleton.mp hj
    refine ⟨o, rfl, hk, hi.known o List.mem_cons_self, fun p hp hsame => ?_⟩
    rcases List.mem_cons.mp hp with rfl | hp
    · exact Nat.le_refl _
    · exact absurd hsame.symm ((List.pairwise_cons.mp hi.apart).1 p hp)

end Named

/-- The scopes are in step, and names and numbers fit. -/
structure Sound (w : Watched) : Prop where
  scopes : ScopesInStep w.host
  named : Named w.host.tickings w.owners w.sent w.fresh

theorem sound_ofKind (session : Session) (kind : Kind) :
    (ofKind session kind).Sound where
  scopes := .ofKind session kind
  named := ⟨.nil, .nil, by simp [ofKind], by simp [ofKind]⟩

variable {w}

theorem Sound.erase
    (hi : w.Sound)
    (n : Nat) :
    (w.erase n).Sound where
  scopes := hi.scopes
  named := hi.named.of_subset fun _ _ hk => List.mem_of_mem_eraseIdx hk

/-- The top view of a stack whose ticking is known. -/
theorem Sound.exists_owner
    (hi : w.Sound)
    {x : Option (Bool × Nat)} {rest : List (Option (Bool × Nat))}
    (hx : w.host.tickings = x :: rest) :
    ∃ o os, w.owners = o :: os := by
  have hfits := hi.named.fits
  rw [hx, List.forall₂_cons_left_iff] at hfits
  obtain ⟨o, os, -, -, howners⟩ := hfits
  exact ⟨o, os, howners⟩

/-- The top view keeps its name when it begins a new round. -/
theorem owners_handle_of_begins
    {event : Event} {o : Follow} {os : List Follow}
    (hbegins : (w.host.heard event).begins (w.host.route event) = true)
    (hchange : (w.host.heard event).change (w.host.route event) = .keep)
    (howners : w.owners = o :: os) :
    (w.handle event).owners = o.next :: os := by
  show (w.change event).apply _ (w.answering event) = _
  rw [change, hchange, answering, if_pos hbegins, howners]
  rfl

theorem Sound.handle
    (hi : w.Sound)
    (event : Event) :
    (w.handle event).Sound := by
  have hnamed := hi.named
  have hstep := w.host.step_eq_follow event
  refine ⟨hi.scopes.step event, ?_⟩
  show Named (w.host.step event).1.tickings ((w.change event).apply ⟨w.fresh, 0⟩ (w.answering event))
    (w.sent ++ _) (w.fresh + 1)
  cases hi.scopes.turn event with
  | moves new hopened hbegins hafter hquiet =>
      have hanswering : w.answering event = w.owners := by
        simp [answering, hbegins]
      rw [hanswering, hstep, hafter, Host.tickings_heard]
      refine (hnamed.append_quiet fun k sender hk => ?_).change hopened _
      obtain ⟨m, hm, hsent⟩ := List.mem_map.mp hk
      cases hsent
      exact hquiet k (Option.mem_toList.mp hm)
  | starts k rest hbegins hchange hbefore hafter heffect =>
      rw [Host.tickings_heard] at hbefore
      obtain ⟨o, os, howners⟩ := hi.exists_owner hbefore
      have hanswering : w.answering event = o.next :: os := by
        simp [answering, hbegins, howners]
      rw [hbefore, howners] at hnamed
      rw [hanswering, hstep, hafter, heffect, change, hchange]
      exact hnamed.start.change (Or.inl rfl) .keep
  | stops k rest hbegins hchange hbefore hafter heffect =>
      rw [Host.tickings_heard] at hbefore
      obtain ⟨o, os, howners⟩ := hi.exists_owner hbefore
      have hanswering : w.answering event = o :: os := by
        simp [answering, hbegins, howners]
      rw [hbefore, howners] at hnamed
      rw [hanswering, hstep, hafter, heffect, change, hchange, Option.bind_none,
        Option.toList_none, List.map_nil, List.append_nil]
      exact hnamed.stop.change (Or.inl rfl) .keep
  | answers k rest hroute hbegins hchange hbefore hafter heffect =>
      rw [Host.tickings_heard] at hbefore hafter
      obtain ⟨o, os, howners⟩ := hi.exists_owner hbefore
      have hanswering : w.answering event = o :: os := by
        simp [answering, hbegins, howners]
      rw [hbefore, howners] at hnamed
      rw [hanswering, hstep, hafter, heffect, change, hchange, hbefore]
      exact hnamed.answer.change (Or.inl rfl) .keep

theorem act_deliver_of_none
    {n : Nat}
    (hget : w.sent[n]? = none) :
    w.act (.deliver n) = w := by
  simp [act, hget]

theorem act_deliver_of_some
    {n : Nat} {m : Message} {sender : Option Follow}
    (hget : w.sent[n]? = some (m, sender)) :
    w.act (.deliver n) = (w.erase n).handle (.message m) := by
  simp [act, hget]

theorem Sound.act
    (hi : w.Sound)
    (input : Input) :
    (w.act input).Sound := by
  cases input with
  | key k =>
      exact hi.handle _
  | resize width height =>
      exact hi.handle _
  | deliver n =>
      cases hget : w.sent[n]? with
      | none =>
          rw [act_deliver_of_none hget]
          exact hi
      | some sending =>
          rw [act_deliver_of_some hget]
          exact (hi.erase n).handle _

theorem sound_run
    (hi : w.Sound)
    (inputs : List Input) :
    (w.run inputs).Sound := by
  induction inputs using List.reverseRecOn with
  | nil =>
      exact hi
  | append_singleton past input ih =>
      rw [run_concat]
      exact ih.act input

end Watched
end ClusterNav
