import ClusterNav.Proofs.LogTicks
import ClusterNav.Proofs.ScopeHistory
import Mathlib.Data.List.Forall2

/-!
# What a route does to the stack

A route first lets the top view answer, which may change how it ticks, and then
moves the stack.  The move is a `StackChange`; it acts on any list that keeps
one entry for each view of the stack, so that whatever is known of the views
moves along with them.

**Results.**
* `View.quiet_respond`: only logs send ticks.
* `tickings_follow`: how the views of the stack tick after a route.
* `turn_follow`: a route changes the ticking of at most the top view, and then it
  leaves the stack as it is.
-/

namespace ClusterNav

/-! ## Only logs send ticks -/

@[simp] theorem DetailView.effect_key (v : DetailView) (session : Session) (k : Key) :
    (v.key session k).effect = none := by
  unfold key
  split
  · rfl
  · split <;> rfl

@[simp] theorem TextView.effect_key (v : TextView) (k : Key) :
    (v.key k).effect = none := by
  unfold key
  split <;> rfl

@[simp] theorem RelationView.effect_key (v : RelationView) (session : Session) (k : Key) :
    (v.key session k).effect = none := by
  unfold key
  split
  · rfl
  · split <;> rfl
  · split <;> rfl
  · split <;> rfl
  · rfl

@[simp] theorem PodPicker.effect_key (v : PodPicker) (k : Key) :
    (v.key k).effect = none := by
  unfold key
  split
  · rfl
  · split <;> rfl

@[simp] theorem ContainerPicker.effect_key (v : ContainerPicker) (k : Key) :
    (v.key k).effect = none := by
  unfold key
  split
  · rfl
  · split <;> rfl

@[simp] theorem BrowserView.effect_key (v : BrowserView) (k : Key) :
    (v.key k).effect = none := by
  have hanswer := v.keyAnswer_key k
  generalize v.key k = r at hanswer ⊢
  cases hanswer <;> rfl

@[simp] theorem HelpView.effect_key (v : HelpView) (k : Key) :
    (v.key k).effect = none := by
  unfold key
  split <;> rfl

/-- An answer that sends no tick. -/
def Response.Quiet {α : Type} (r : Response α) : Prop :=
  ∀ k, r.effect.bind Effect.message? ≠ some (.logTick k)

theorem Response.quiet_of_effect
    {α : Type} {r : Response α}
    (h : r.effect = none) :
    r.Quiet := by
  intro k hk
  rw [h] at hk
  cases hk

theorem Response.quiet_onKey
    {α : Type} {view : α} {key : Key → Response α}
    (h : ∀ k, (key k).Quiet)
    (event : Event) :
    (Response.onKey view event key).Quiet := by
  cases event with
  | key k =>
      exact h k
  | _ =>
      exact quiet_of_effect rfl

open Response (quiet_of_effect quiet_onKey)

theorem ListView.quiet_respond (v : ListView) (session : Session) (event : Event) :
    (v.respond session event).Quiet := by
  intro k hk
  obtain ⟨picker, value, hm⟩ := (v.stays_respond session event).sends _ hk
  cases hm

theorem ColumnPicker.quiet_key (v : ColumnPicker) (k : Key) :
    (v.key k).Quiet := by
  unfold key
  split
  · exact quiet_of_effect rfl
  split
  · exact quiet_of_effect rfl
  · intro j hj
    cases hj
  all_goals exact quiet_of_effect rfl

theorem ScopePicker.quiet_key (v : ScopePicker) (k : Key) :
    (v.key k).Quiet := by
  unfold key
  split
  · exact quiet_of_effect rfl
  · unfold enter
    split
    · intro j hj
      cases hj
    · exact quiet_of_effect rfl
  · exact quiet_of_effect rfl

namespace View

/-- Is a view a followed log, and the number of its current request; nothing for
views of other sorts. -/
def ticking? (v : View) : Option (Bool × Nat) :=
  v.log?.map LogView.ticking

theorem live?_eq_some_iff (v : View) (k : Nat) :
    v.live? = some k ↔ v.ticking? = some (true, k) := by
  rw [live?, ticking?, Option.bind_eq_some_iff, Option.map_eq_some_iff]
  simp only [LogView.live?_eq_some_iff]

@[simp] theorem ticking?_setSize (v : View) (width height : Nat) :
    (v.setSize width height).ticking? = v.ticking? := by
  cases v with
  | log v =>
      exact congrArg some (v.ticking_setSize width height)
  | _ =>
      rfl

/-- A view that was just opened is no log, or one that was never followed. -/
theorem ticking?_ofDestination (session : Session) (next : Destination) :
    (ofDestination session next).ticking? = none ∨
    (ofDestination session next).ticking? = some (false, 0) := by
  cases next with
  | log kind item container =>
      right
      show some (LogView.ofItem kind item container).ticking = _
      exact congrArg some (LogView.ticking_reload _)
  | _ =>
      exact Or.inl rfl

/-- A view that is not a log sends no ticks, and stays one that does not. -/
theorem quiet_respond
    {v : View}
    (hv : v.ticking? = none)
    (session : Session) (event : Event) :
    (v.respond session event).Quiet ∧
    (v.respond session event).view.ticking? = none := by
  cases v with
  | log v =>
      cases hv
  | list v =>
      exact ⟨v.quiet_respond session event, rfl⟩
  | detail v =>
      exact ⟨quiet_onKey (fun k => quiet_of_effect (v.effect_key session k)) event, rfl⟩
  | text v =>
      exact ⟨quiet_onKey (fun k => quiet_of_effect (v.effect_key k)) event, rfl⟩
  | relations v =>
      exact ⟨quiet_onKey (fun k => quiet_of_effect (v.effect_key session k)) event, rfl⟩
  | pods v =>
      exact ⟨quiet_onKey (fun k => quiet_of_effect (v.effect_key k)) event, rfl⟩
  | containers v =>
      exact ⟨quiet_onKey (fun k => quiet_of_effect (v.effect_key k)) event, rfl⟩
  | columns v =>
      exact ⟨quiet_onKey v.quiet_key event, rfl⟩
  | scope v =>
      exact ⟨quiet_onKey v.quiet_key event, rfl⟩
  | browser v =>
      exact ⟨quiet_onKey (fun k => quiet_of_effect (v.effect_key k)) event, rfl⟩
  | help v =>
      exact ⟨quiet_onKey (fun k => quiet_of_effect (v.effect_key k)) event, rfl⟩

end View

/-! ## Changes of the stack -/

/-- What a route does to the stack of views. -/
inductive StackChange
  | keep
  | push
  | replace
  | pop
  | clear

namespace StackChange

/-- The change of a list with one entry for each view of the stack, the top first;
a view that is opened gets a given entry. -/
def apply {α : Type} (new : α) : StackChange → List α → List α
  | .keep, l => l
  | .push, l => new :: l
  | .replace, l => l.set 0 new
  | .pop, l => l.tail
  | .clear, _ => []

theorem mem_apply
    {α : Type} {new x : α} {c : StackChange} {l : List α}
    (h : x ∈ c.apply new l) :
    x = new ∨ x ∈ l := by
  cases c with
  | keep =>
      exact Or.inr h
  | push =>
      exact List.mem_cons.mp h
  | replace =>
      exact (List.mem_or_eq_of_mem_set h).symm
  | pop =>
      exact Or.inr (List.mem_of_mem_tail h)
  | clear =>
      exact absurd h List.not_mem_nil

/-- Entries that are pairwise related stay so, when the new entry is related to
all. -/
theorem pairwise_apply
    {α : Type} {R : α → α → Prop} {new : α} {l : List α}
    (hl : l.Pairwise R)
    (hnew : ∀ x ∈ l, R new x)
    (c : StackChange) :
    (c.apply new l).Pairwise R := by
  cases c with
  | keep =>
      exact hl
  | push =>
      exact List.pairwise_cons.mpr ⟨hnew, hl⟩
  | replace =>
      cases l with
      | nil =>
          exact List.Pairwise.nil
      | cons x rest =>
          refine List.pairwise_cons.mpr ⟨?_, (List.pairwise_cons.mp hl).2⟩
          exact fun y hy => hnew y (List.mem_cons_of_mem _ hy)
  | pop =>
      exact hl.tail
  | clear =>
      exact List.Pairwise.nil

/-- Two lists that match entry by entry still do, when the new entries match. -/
theorem forall₂_apply
    {α β : Type} {R : α → β → Prop} {new : α} {new' : β} {l : List α} {l' : List β}
    (hl : List.Forall₂ R l l')
    (hnew : R new new')
    (c : StackChange) :
    List.Forall₂ R (c.apply new l) (c.apply new' l') := by
  cases c with
  | keep =>
      exact hl
  | push =>
      exact .cons hnew hl
  | replace =>
      cases hl with
      | nil =>
          exact .nil
      | cons _ hrest =>
          exact .cons hnew hrest
  | pop =>
      cases hl with
      | nil =>
          exact .nil
      | cons _ hrest =>
          exact hrest
  | clear =>
      exact .nil

end StackChange

/-- What a move does to the stack. -/
def Move.change : Move → StackChange
  | .stay => .keep
  | .push _ => .push
  | .replace _ => .replace
  | .pop => .pop

namespace Host

variable (h : Host)

/-- What a route does to the stack. -/
def change : Route → StackChange
  | .fit _ _ | .quit | .widen => .keep
  | .select kind value =>
      if changes h.session kind value || !h.history.isEmpty then .clear else .keep
  | .hand event => (h.answer event).move.change
  | .back => .pop
  | .goTo _ => .clear
  | .push _ => .push

/-- How the views of the stack tick. -/
def tickings : List (Option (Bool × Nat)) :=
  h.stack.map View.ticking?

@[simp] theorem tickings_heard (event : Event) :
    (h.heard event).tickings = h.tickings := by
  cases event <;> rfl

@[simp] theorem tickings_withTop (v : View) :
    (h.withTop v).tickings = h.tickings.set 0 v.ticking? := by
  rw [tickings, stack_withTop, List.map_set]
  rfl

theorem tickings_set_top : h.tickings.set 0 h.top.ticking? = h.tickings := by
  rw [tickings, top]
  cases h.stack <;> rfl

@[simp] theorem tickings_resizeTop : h.resizeTop.tickings = h.tickings := by
  rw [resizeTop, tickings_withTop, View.ticking?_setSize, tickings_set_top]

/-- A view that is opened is no log, or one that was never followed. -/
def Opened (x : Option (Bool × Nat)) : Prop :=
  x = none ∨ x = some (false, 0)

theorem tickings_move (m : Move) :
    ∃ new, Opened new ∧ (h.move m).tickings = m.change.apply new h.tickings := by
  cases m with
  | stay =>
      exact ⟨none, Or.inl rfl, rfl⟩
  | push next =>
      exact ⟨_, View.ticking?_ofDestination h.session next, tickings_resizeTop _⟩
  | replace next =>
      refine ⟨_, View.ticking?_ofDestination h.session next, ?_⟩
      rw [move, replace, tickings_resizeTop, tickings_withTop]
      rfl
  | pop =>
      refine ⟨none, Or.inl rfl, ?_⟩
      show h.pop.tickings = h.tickings.tail
      unfold pop
      split
      · rename_i v rest hstack
        rw [tickings_resizeTop, tickings, tickings, hstack]
        rfl
      · rename_i saved rest hstack hhistory
        rw [tickings_resizeTop, tickings, tickings, hstack]
        rfl
      · rename_i hstack hhistory
        rw [tickings, hstack]
        rfl

/-- A choice keeps the stack when it is the old choice again and no root was
left. -/
theorem change_select
    (kind : PickerKind) (value : String) :
    h.change (.select kind value) =
      if changes h.session kind value || !h.history.isEmpty then .clear else .keep := by
  rfl

theorem tickings_select (kind : PickerKind) (value : String) :
    (h.select kind value).tickings =
      (h.change (.select kind value)).apply none h.tickings := by
  rw [change_select]
  cases hchanges : changes h.session kind value with
  | true =>
      rw [h.select_of_changes hchanges, tickings_resizeTop]
      rfl
  | false =>
      cases hlast : h.history.getLast? with
      | some saved =>
          have hhistory : h.history.isEmpty = false := by
            cases hnil : h.history <;> simp [hnil] at hlast ⊢
          rw [h.select_of_saved hchanges hlast, tickings_resizeTop, hhistory]
          rfl
      | none =>
          rw [h.select_of_unsaved hchanges hlast, tickings_resizeTop,
            List.getLast?_eq_none_iff.mp hlast]
          rfl

/-- The host once its top view has answered. -/
def touched : Route → Host
  | .hand event => h.answered event
  | _ => h

/-- How the views of the stack tick after a route. -/
theorem tickings_follow (r : Route) :
    ∃ new, Opened new ∧
      (h.follow r).1.tickings = (h.change r).apply new (h.touched r).tickings := by
  cases r with
  | fit width height =>
      exact ⟨none, Or.inl rfl, tickings_resizeTop _⟩
  | select kind value =>
      exact ⟨none, Or.inl rfl, h.tickings_select kind value⟩
  | quit =>
      exact ⟨none, Or.inl rfl, rfl⟩
  | hand event =>
      exact (h.answered event).tickings_move (h.answer event).move
  | back =>
      exact h.tickings_move .pop
  | widen =>
      refine ⟨none, Or.inl rfl, ?_⟩
      show h.widen.tickings = h.tickings
      unfold widen
      split
      · rfl
      · rw [tickings_resizeTop]
        rfl
  | goTo kind =>
      exact ⟨none, Or.inl rfl, tickings_resizeTop _⟩
  | push next =>
      exact h.tickings_move (.push next)

/-! ## One route -/

/-- Does the top view begin to be followed when it answers? -/
def begins : Route → Bool
  | .hand event => !h.top.live?.isSome && (h.answer event).view.live?.isSome
  | _ => false

/-- What a route can do to the ticking of the stack. -/
inductive Turn (r : Route) : Prop
  /-- No view changes how it ticks, and no tick is sent; the stack may change. -/
  | moves
      (new : Option (Bool × Nat))
      (opened : Opened new)
      (begins : h.begins r = false)
      (tickings : (h.follow r).1.tickings = (h.change r).apply new h.tickings)
      (quiet : ∀ k, (h.follow r).2.bind Effect.message? ≠ some (.logTick k))
  /-- The top view begins to be followed. -/
  | starts
      (k : Nat)
      (rest : List (Option (Bool × Nat)))
      (begins : h.begins r = true)
      (change : h.change r = .keep)
      (before : h.tickings = some (false, k) :: rest)
      (after : (h.follow r).1.tickings = some (true, k + 1) :: rest)
      (effect : (h.follow r).2 = some (.tick (k + 1)))
  /-- The top view is no longer followed. -/
  | stops
      (k : Nat)
      (rest : List (Option (Bool × Nat)))
      (begins : h.begins r = false)
      (change : h.change r = .keep)
      (before : h.tickings = some (true, k) :: rest)
      (after : (h.follow r).1.tickings = some (false, k + 1) :: rest)
      (effect : (h.follow r).2 = none)
  /-- The tick that the top view waits for has come. -/
  | answers
      (k : Nat)
      (rest : List (Option (Bool × Nat)))
      (route : r = .hand (.message (.logTick k)))
      (begins : h.begins r = false)
      (change : h.change r = .keep)
      (before : h.tickings = some (true, k) :: rest)
      (after : (h.follow r).1.tickings = h.tickings)
      (effect : (h.follow r).2 = some (.tick k))

variable {h}

theorem tickings_of_cons
    {v : View} {rest : List View}
    (hs : h.stack = v :: rest) :
    h.tickings = v.ticking? :: rest.map View.ticking? := by
  rw [tickings, hs, List.map_cons]

/-- An answer that sends no tick and changes no ticking only moves the stack. -/
theorem turn_of_quiet
    {event : Event}
    (hquiet : (h.answer event).Quiet)
    (hsame : (h.answer event).view.ticking? = h.top.ticking?) :
    h.Turn (.hand event) := by
  obtain ⟨new, hopened, hafter⟩ := h.tickings_follow (.hand event)
  have hlive : (h.answer event).view.live? = h.top.live? := by
    apply Option.ext
    intro k
    rw [View.live?_eq_some_iff, View.live?_eq_some_iff, hsame]
  have htouched : (h.touched (.hand event)).tickings = h.tickings := by
    show (h.answered event).tickings = _
    rw [answered, tickings_withTop, hsame]
    exact h.tickings_set_top
  rw [htouched] at hafter
  refine .moves new hopened ?_ hafter hquiet
  rw [begins, hlive]
  cases h.top.live? <;> rfl

/-- Where a log is on top, its turn is that of the host. -/
theorem turn_of_log
    {event : Event} {v : LogView} {rest : List View}
    (hs : h.stack = .log v :: rest) :
    h.Turn (.hand event) := by
  have htop : h.top = .log v := h.top_of_cons hs
  have hbefore : h.tickings = some v.ticking :: rest.map View.ticking? := tickings_of_cons hs
  have hanswer : h.answer event = (v.respond event).map .log := by
    rw [answer, htop]
    rfl
  have hstay (hmove : (v.respond event).move = .stay) :
      h.change (.hand event) = .keep ∧
      (h.follow (.hand event)).1.tickings =
        some (v.respond event).view.ticking :: rest.map View.ticking? := by
    have hchange : h.change (.hand event) = .keep := by
      show (h.answer event).move.change = _
      rw [hanswer]
      exact congrArg Move.change hmove
    obtain ⟨new, -, hafter⟩ := h.tickings_follow (.hand event)
    refine ⟨hchange, ?_⟩
    rw [hafter, hchange]
    show (h.answered event).tickings = _
    rw [answered, tickings_withTop, hanswer]
    exact congrArg (List.set · 0 _) hbefore
  have heffect : (h.follow (.hand event)).2 = (v.respond event).effect := by
    show (h.answer event).effect = _
    rw [hanswer]
    rfl
  have hbegins :
      h.begins (.hand event) = (!v.following && (v.respond event).view.following) := by
    rw [begins, htop, hanswer]
    exact congrArg₂ (!· && ·) v.isSome_live? (v.respond event).view.isSome_live?
  cases v.turn_respond event with
  | keeps hticking hnone =>
      apply turn_of_quiet
      · exact Response.quiet_of_effect (by rw [hanswer]; exact hnone)
      · rw [hanswer, htop]
        exact congrArg some hticking
  | starts hfollowing hticking hsent hmove =>
      obtain ⟨hchange, hafter⟩ := hstay hmove
      rw [LogView.ticking, hfollowing] at hbefore
      rw [hticking] at hafter
      refine .starts v.request _ ?_ hchange hbefore hafter (heffect.trans hsent)
      rw [hbegins, hfollowing, (Prod.mk.inj hticking).1]
      rfl
  | stops hfollowing hticking hsent hmove =>
      obtain ⟨hchange, hafter⟩ := hstay hmove
      rw [LogView.ticking, hfollowing] at hbefore
      rw [hticking] at hafter
      refine .stops v.request _ ?_ hchange hbefore hafter (heffect.trans hsent)
      rw [hbegins, hfollowing]
      rfl
  | answers hfollowing hevent hticking hsent hmove =>
      obtain ⟨hchange, hafter⟩ := hstay hmove
      rw [hticking, ← hbefore] at hafter
      rw [LogView.ticking, hfollowing] at hbefore
      refine .answers v.request _ (by rw [hevent]) ?_ hchange hbefore hafter (heffect.trans hsent)
      rw [hbegins, hfollowing]
      rfl

/-- What a route can do to the ticking of the stack, when the root is no log. -/
theorem turn_follow
    (hroot : h.root.ticking? = none)
    (r : Route) :
    h.Turn r := by
  cases r with
  | hand event =>
      cases hs : h.stack with
      | nil =>
          have htop : h.top = h.root := h.top_of_nil hs
          rw [← htop] at hroot
          obtain ⟨hquiet, hsame⟩ := View.quiet_respond hroot (h.sessionAfter event) event
          exact turn_of_quiet hquiet (hsame.trans hroot.symm)
      | cons v rest =>
          have htop : h.top = v := h.top_of_cons hs
          cases hv : v.ticking? with
          | none =>
              rw [← htop] at hv
              obtain ⟨hquiet, hsame⟩ := View.quiet_respond hv (h.sessionAfter event) event
              exact turn_of_quiet hquiet (hsame.trans hv.symm)
          | some ticking =>
              cases v with
              | log v =>
                  exact turn_of_log hs
              | _ =>
                  cases hv
  | quit =>
      exact .moves none (Or.inl rfl) rfl rfl (by simp [follow, Effect.message?])
  | _ =>
      obtain ⟨new, hopened, hafter⟩ := h.tickings_follow _
      exact .moves new hopened rfl hafter (by simp [follow])

end Host

/-! ## Hosts whose scopes are in step -/

namespace ScopesInStep

variable {h : Host}

theorem ticking?_root
    (hi : ScopesInStep h) :
    h.root.ticking? = none := by
  obtain ⟨v, hroot, -⟩ := hi.root
  rw [hroot]
  rfl

theorem turn
    (hi : ScopesInStep h)
    (event : Event) :
    (h.heard event).Turn (h.route event) :=
  Host.turn_follow (hi.heard event).ticking?_root _

/-- All logs are on the stack. -/
theorem logs_eq
    (hi : ScopesInStep h) :
    h.logs = h.stack.filterMap View.log? := by
  rw [Host.logs, Host.views, List.filterMap_append]
  have hroots : (h.root :: h.history.map (·.root)).filterMap View.log? = [] := by
    rw [List.filterMap_eq_nil_iff]
    intro v hv
    rcases List.mem_cons.mp hv with rfl | hv
    · obtain ⟨u, hroot, -⟩ := hi.root
      rw [hroot]
      rfl
    · obtain ⟨saved, hsaved, rfl⟩ := List.mem_map.mp hv
      obtain ⟨u, hroot, -⟩ := hi.saved saved hsaved
      rw [hroot]
      rfl
  rw [hroots, List.append_nil]

theorem mem_tickings_iff
    (hi : ScopesInStep h)
    {ticking : Bool × Nat} :
    some ticking ∈ h.tickings ↔ ∃ v ∈ h.logs, v.ticking = ticking := by
  rw [hi.logs_eq, Host.tickings]
  simp only [List.mem_map, List.mem_filterMap, View.ticking?, Option.map_eq_some_iff]
  constructor
  · rintro ⟨u, hu, v, hv, hticking⟩
    exact ⟨v, ⟨u, hu, hv⟩, hticking⟩
  · rintro ⟨v, ⟨u, hu, hv⟩, hticking⟩
    exact ⟨u, hu, v, hv, hticking⟩

/-- A log that is followed after a step was followed before, with the same number,
or a tick with this number was just sent. -/
theorem followed_of_step
    (hi : ScopesInStep h)
    {event : Event} {k : Nat}
    (hk : some (true, k) ∈ (h.step event).1.tickings) :
    some (true, k) ∈ h.tickings ∨ (h.step event).2 = some (.tick k) := by
  rw [h.step_eq_follow] at hk ⊢
  rw [← h.tickings_heard event]
  cases hi.turn event with
  | moves new hopened hbegins hafter hquiet =>
      rw [hafter] at hk
      rcases StackChange.mem_apply hk with rfl | hk
      · rcases hopened with hnone | hlog
        · cases hnone
        · cases hlog
      · exact Or.inl hk
  | starts j rest hbegins hchange hbefore hafter heffect =>
      rw [hafter] at hk
      rcases List.mem_cons.mp hk with hj | hk
      · cases hj
        exact Or.inr heffect
      · rw [hbefore]
        exact Or.inl (List.mem_cons_of_mem _ hk)
  | stops j rest hbegins hchange hbefore hafter heffect =>
      rw [hafter] at hk
      rcases List.mem_cons.mp hk with hj | hk
      · cases hj
      · rw [hbefore]
        exact Or.inl (List.mem_cons_of_mem _ hk)
  | answers j rest hroute hbegins hchange hbefore hafter heffect =>
      rw [hafter] at hk
      exact Or.inl hk

end ScopesInStep
end ClusterNav
