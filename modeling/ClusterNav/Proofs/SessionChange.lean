import ClusterNav.Proofs.ScopeChoice

/-!
# What an event does to the session

All views see the session of the host, and none of them changes it.  A choice of
namespace or context reaches the host itself.  A choice of columns reaches the view
on top, and a list that goes by the name of the choice takes it over.

**Results.**
* `Host.session_step`: the session after an event.
* `Host.choice?_run`: what is stored for a name stays, as long as no choice for this
  name is delivered.
* `session_change`: what an event may change in the session, and to what.
-/

namespace ClusterNav

/-- What is stored for a name changes only where a choice for this name meets a list
that goes by it. -/
theorem View.choice?_storeAfter
    (v : View) (event : Event) (store : ColumnStore) (name : String) :
    (v.storeAfter event store).choice? name = store.choice? name ∨
    ∃ w ids, v = .list w ∧ w.kind.name = name ∧ event = .message (.picked name ids) ∧
      (v.storeAfter event store).choice? name = ColumnStore.stored w.kind.columns ids := by
  cases v with
  | list w =>
      cases event with
      | key k | resize width height =>
          exact Or.inl rfl
      | message m =>
          cases m with
          | selected picker value | logTick request =>
              exact Or.inl rfl
          | picked resource ids =>
              by_cases hname : resource = w.kind.name
              · have hpick : View.storeAfter (.message (.picked resource ids)) store (.list w) =
                    store.pick resource w.kind.columns ids := if_pos hname
                rw [hpick, ColumnStore.choice?_pick]
                by_cases hsame : resource = name
                · right
                  rw [if_pos hsame]
                  exact ⟨w, ids, rfl, hname.symm.trans hsame, by rw [hsame], rfl⟩
                · left
                  rw [if_neg hsame]
              · have hkeep : View.storeAfter (.message (.picked resource ids)) store (.list w) =
                    store := if_neg hname
                left
                rw [hkeep]
  | detail w | text w | relations w | pods w | containers w | log w | columns w | scope w
  | browser w | help w =>
      exact Or.inl rfl

namespace Host

variable (h : Host)

/-! ## The session after a step -/

@[simp] theorem session_withTop (v : View) : (h.withTop v).session = h.session := by
  rw [withTop_eq]

@[simp] theorem session_resizeTop : h.resizeTop.session = h.session := by
  rw [resizeTop_eq, session_withTop]

@[simp] theorem session_heard (event : Event) : (h.heard event).session = h.session := by
  cases event <;> rfl

theorem session_pop : h.pop.session = h.session := by
  unfold pop
  split
  · rw [session_resizeTop]
  · rw [session_resizeTop]
  · rfl

theorem session_move (m : Move) : (h.move m).session = h.session := by
  cases m with
  | stay =>
      rfl
  | push next =>
      exact session_resizeTop _
  | replace next =>
      rw [move, replace, session_resizeTop, session_withTop]
  | pop =>
      exact h.session_pop

theorem session_deliver (event : Event) : (h.deliver event).1.session = h.sessionAfter event := by
  rw [deliver_eq, session_move, answered, session_withTop]

theorem session_widen : h.widen.session = h.session := by
  unfold widen
  split
  · rfl
  · rw [session_resizeTop]

/-- A key reaches nothing but views, and these leave the session alone. -/
theorem session_step_key (k : Key) : (h.step (.key k)).1.session = h.session := by
  rw [step_eq_follow]
  have hroute := h.keyRoute k
  generalize h.route (.key k) = r at hroute
  cases hroute with
  | quit =>
      rfl
  | hand j =>
      rw [follow, session_deliver, sessionAfter_key, session_heard]
  | back deep =>
      rw [follow, session_pop, session_heard]
  | widen bottom =>
      rw [follow, session_widen, session_heard]
  | goTo kind =>
      exact session_resizeTop _
  | push next =>
      exact session_resizeTop _

/-- The session once an event has passed. -/
def nextSession : Event → Session
  | .message (.selected picker value) => selectedSession h.session picker value
  | event => h.sessionAfter event

/-- Of all that a step can do, only a choice reaches the session. -/
theorem session_step (event : Event) :
    (h.step event).1.session = h.nextSession event := by
  cases event with
  | resize width height =>
      rw [nextSession, sessionAfter]
      · show (resizeTop _).session = _
        rw [session_resizeTop]
        cases h.top <;> rfl
      · simp
  | key k =>
      rw [session_step_key, nextSession, sessionAfter_key]
      simp
  | message m =>
      cases m with
      | selected picker value =>
          exact (h.fields_select picker value).1
      | picked resource ids | logTick request =>
          exact h.session_deliver _

/-- A step sets one field of the session at most: the namespace, the context, or the
columns. -/
theorem session_step_cases (event : Event) :
    (∃ value, event = .message (.selected .namespaces value) ∧
      (h.step event).1.session = { h.session with ns := .parse value }) ∨
    (∃ value, event = .message (.selected .contexts value) ∧
      (h.step event).1.session = { h.session with context := value }) ∨
    ∃ columns, (h.step event).1.session = { h.session with columns := columns } := by
  rw [session_step]
  cases event with
  | key k | resize width height =>
      exact Or.inr (Or.inr ⟨_, rfl⟩)
  | message m =>
      cases m with
      | picked resource ids | logTick request =>
          exact Or.inr (Or.inr ⟨_, rfl⟩)
      | selected picker value =>
          cases picker with
          | namespaces =>
              exact Or.inl ⟨value, rfl, rfl⟩
          | contexts =>
              exact Or.inr (Or.inl ⟨value, rfl, rfl⟩)

/-- The kinds that a session knows stay the same over a whole run. -/
theorem registry_run (events : List Event) :
    (h.run events).session.registry = h.session.registry := by
  apply run_induction (P := fun g => g.session.registry = h.session.registry) ?_ rfl
  intro g event hg
  rw [← hg]
  rcases g.session_step_cases event with
    ⟨value, -, hsession⟩ | ⟨value, -, hsession⟩ | ⟨columns, hsession⟩
  all_goals rw [hsession]

/-! ## The choice of columns for a name -/

/-- What is stored for a name changes only where a choice for this name meets a list
that goes by it. -/
theorem choice?_step (event : Event) (name : String) :
    (h.step event).1.session.columns.choice? name = h.session.columns.choice? name ∨
    ∃ w ids, h.top = .list w ∧ w.kind.name = name ∧ event = .message (.picked name ids) ∧
      (h.step event).1.session.columns.choice? name =
        ColumnStore.stored w.kind.columns ids := by
  rw [session_step]
  cases event with
  | key k | resize width height =>
      exact h.top.choice?_storeAfter _ _ name
  | message m =>
      cases m with
      | selected picker value =>
          cases picker <;> exact Or.inl rfl
      | picked resource ids | logTick request =>
          exact h.top.choice?_storeAfter _ _ name

/-- Without a choice for a name, what is stored for it stays over a whole run. -/
theorem choice?_run
    {name : String} {events : List Event}
    (hevents : ∀ ids, .message (.picked name ids) ∉ events) :
    (h.run events).session.columns.choice? name = h.session.columns.choice? name := by
  induction events generalizing h with
  | nil =>
      rfl
  | cons event rest ih =>
      have hrest : ∀ ids, .message (.picked name ids) ∉ rest := by
        intro ids hmem
        exact hevents ids (List.mem_cons_of_mem _ hmem)
      rw [run, ih _ hrest]
      rcases h.choice?_step event name with hsame | ⟨w, ids, -, -, hevent, -⟩
      · exact hsame
      · rw [hevent] at hevents
        exact absurd List.mem_cons_self (hevents ids)

end Host

/-- No event changes the kinds that a session knows.  The namespace and the context
change with a choice of the one or the other alone, and become what was chosen.  What
is stored for a name changes only with a choice of columns for this very name, when
the top view is a list that goes by it, and becomes what the list makes of the
choice. -/
theorem session_change (h : Host) (event : Event) :
    let g := (h.step event).1
    g.session.registry = h.session.registry ∧
    (g.session.ns ≠ h.session.ns →
      ∃ value, event = .message (.selected .namespaces value) ∧ g.session.ns = .parse value) ∧
    (g.session.context ≠ h.session.context →
      ∃ value, event = .message (.selected .contexts value) ∧ g.session.context = value) ∧
    ∀ name, g.session.columns.choice? name ≠ h.session.columns.choice? name →
      ∃ v ids, h.top = .list v ∧ v.kind.name = name ∧ event = .message (.picked name ids) ∧
        g.session.columns.choice? name = ColumnStore.stored v.kind.columns ids := by
  intro g
  have hcolumns : ∀ name, g.session.columns.choice? name ≠ h.session.columns.choice? name → _ :=
    fun name hchanged => (h.choice?_step event name).resolve_left hchanged
  rcases h.session_step_cases event with
    ⟨value, hevent, hsession⟩ | ⟨value, hevent, hsession⟩ | ⟨columns, hsession⟩
  · change g.session = _ at hsession
    rw [hsession] at hcolumns ⊢
    exact ⟨rfl, fun _ => ⟨value, hevent, rfl⟩, fun hne => absurd rfl hne, hcolumns⟩
  · change g.session = _ at hsession
    rw [hsession] at hcolumns ⊢
    exact ⟨rfl, fun hne => absurd rfl hne, fun _ => ⟨value, hevent, rfl⟩, hcolumns⟩
  · change g.session = _ at hsession
    rw [hsession] at hcolumns ⊢
    exact ⟨rfl, fun hne => absurd rfl hne, fun hne => absurd rfl hne, hcolumns⟩

end ClusterNav
