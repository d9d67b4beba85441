import ClusterNav.Proofs.HeldColumns
import ClusterNav.Proofs.Openings

/-!
# Open prompts

A view that takes all keys for itself lets nothing be opened above it, and no key goes
past it.  So such a view is on top, and whatever happened since its prompt was opened
was handed to it: no banner was put up meanwhile, and a list has not missed a change of
the columns.

**Results.**
* `View.bare_of_push`: a view that opens another one takes no keys for itself.
* `Host.PromptOnTop.step`: a step leaves open prompts on top, with nothing missed.
* `Host.promptOnTop_run`: so does every run.
-/

namespace ClusterNav

/-! ## Opening a view -/

/-- An answer of a view that stays as it is when it opens another one. -/
def Response.Stands {α : Type} (r : Response α) (v : α) : Prop :=
  r.view = v ∨ r.move.destination? = none

theorem ListView.stands_key (v : ListView) (session : Session) (k : Key) :
    (v.key session k).Stands v := by
  have hanswer := v.keyAnswer_key session k
  generalize v.key session k = r at hanswer ⊢
  cases hanswer with
  | opensColumns | leaves | opensItem | selects | follows | ignores =>
      exact .inl rfl
  | edits | finds | opensFilter | armsFind | sorts | clearsFilter | moves =>
      exact .inr rfl

theorem BrowserView.stands_key (v : BrowserView) (k : Key) :
    (v.key k).Stands v := by
  have hanswer := v.keyAnswer_key k
  generalize v.key k = r at hanswer ⊢
  cases hanswer with
  | leaves | opensKind | ignores =>
      exact .inl rfl
  | edits | finds | opensFilter | armsFind | clearsFilter | moves =>
      exact .inr rfl

theorem PodPicker.stands_key (v : PodPicker) (k : Key) :
    (v.key k).Stands v := by
  unfold key
  split
  · rename_i hkey
    exact .inr (LogPicker.destination?_of_key? hkey)
  · split <;> exact .inl rfl

theorem ContainerPicker.stands_key (v : ContainerPicker) (k : Key) :
    (v.key k).Stands v := by
  unfold key
  split
  · rename_i hkey
    exact .inr (LogPicker.destination?_of_key? hkey)
  · split <;> exact .inl rfl

/-! ## What is not a key -/

/-- An answer that neither opens a prompt nor closes one. -/
structure Response.Calm {α : Type} (takesAllKeys : α → Bool) (r : Response α) (v : α) : Prop where
  move : r.move = .stay
  prompt : takesAllKeys r.view = takesAllKeys v

namespace LogView

theorem takesAllKeys_recount (v : LogView) : v.recount.takesAllKeys = v.takesAllKeys := by
  cases hsearch : v.search <;> simp [recount, takesAllKeys, hsearch]

theorem takesAllKeys_advance (v : LogView) : v.advance.takesAllKeys = v.takesAllKeys := by
  unfold advance
  split
  · exact takesAllKeys_recount _
  · rfl

theorem calm_onTick (v : LogView) (request : Nat) :
    Response.Calm takesAllKeys (v.onTick request) v := by
  unfold onTick
  split
  · exact ⟨rfl, v.takesAllKeys_advance⟩
  · exact ⟨rfl, rfl⟩

end LogView

namespace View

/-- Nothing but a key opens a view, or opens or closes a prompt. -/
theorem calm_respond
    (v : View) (session : Session) (event : Event)
    (hkey : ∀ k, event ≠ .key k) :
    Response.Calm takesAllKeys (v.respond session event) v := by
  cases event with
  | key k =>
      exact absurd rfl (hkey k)
  | resize width height =>
      cases v with
      | list v =>
          exact ⟨rfl, v.takesAllKeys_syncNamespace session.ns⟩
      | detail v | text v | relations v | pods v | containers v | log v | columns v | scope v
      | browser v | help v =>
          exact ⟨rfl, rfl⟩
  | message m =>
      cases v with
      | list v =>
          exact ⟨rfl, v.takesAllKeys_syncNamespace session.ns⟩
      | log v =>
          cases m with
          | logTick request =>
              have hcalm := v.calm_onTick request
              exact ⟨hcalm.move, hcalm.prompt⟩
          | selected picker value | picked resource ids =>
              exact ⟨rfl, rfl⟩
      | detail v | text v | relations v | pods v | containers v | columns v | scope v
      | browser v | help v =>
          exact ⟨rfl, rfl⟩

/-! ## Which views take all keys -/

@[simp] theorem takesAllKeys_setSize (v : View) (width height : Nat) :
    (v.setSize width height).takesAllKeys = v.takesAllKeys := by
  cases v with
  | log v =>
      show (v.setSize width height).takesAllKeys = v.takesAllKeys
      unfold LogView.setSize
      dsimp only
      split <;> rfl
  | list v | detail v | text v | relations v | pods v | containers v | columns v | scope v
  | browser v | help v =>
      rfl

/-- A root is opened without a prompt. -/
theorem takesAllKeys_rootOf (session : Session) (kind : Kind) (scope : Scope) :
    (Host.rootOf session kind scope).takesAllKeys = false := by
  cases scope with
  | resources =>
      rfl
  | namespaces | contexts =>
      exact ListView.takesAllKeys_setSize_ofScope session _ 0 0

/-- A view that takes all keys opens no other. -/
theorem destination?_of_takesAllKeys
    {v : View}
    (hkeys : v.takesAllKeys = true)
    (session : Session) (k : Key) :
    (v.respond session (.key k)).move.destination? = none := by
  rcases contained_respond hkeys session k with ⟨-, hsilent⟩ | ⟨-, hchooses⟩
  · rw [hsilent.move]
    rfl
  · cases hchooses with
    | stays silent =>
        rw [silent.move]
        rfl
    | cancels key move effect | commits key move m effect =>
        rw [move]
        rfl

/-- A view that opens another one opens no prompt of its own. -/
theorem prompt_or_destination? (v : View) (session : Session) (k : Key) :
    (v.respond session (.key k)).view.takesAllKeys = v.takesAllKeys ∨
    (v.respond session (.key k)).move.destination? = none := by
  cases v with
  | list v =>
      refine ((v.syncNamespace session.ns).stands_key session k).imp_left fun hview => ?_
      exact (congrArg ListView.takesAllKeys hview).trans (v.takesAllKeys_syncNamespace session.ns)
  | pods v =>
      exact (v.stands_key k).imp_left (congrArg fun w : PodPicker => w.list.isFiltering)
  | containers v =>
      exact (v.stands_key k).imp_left (congrArg fun w : ContainerPicker => w.list.isFiltering)
  | browser v =>
      exact (v.stands_key k).imp_left (congrArg BrowserView.takesAllKeys)
  | log v =>
      exact .inr (v.destination?_respond (.key k))
  | detail v | text v | relations v | columns v | scope v | help v =>
      exact .inl rfl

/-- A view that another one is opened above takes no keys for itself. -/
theorem bare_of_push
    {v : View} {session : Session} {event : Event} {next : Destination}
    (hmove : (v.respond session event).move = .push next) :
    (v.respond session event).view.takesAllKeys = false := by
  cases event with
  | resize width height =>
      rw [(v.calm_respond session (.resize width height) nofun).move] at hmove
      cases hmove
  | message m =>
      rw [(v.calm_respond session (.message m) nofun).move] at hmove
      cases hmove
  | key k =>
      have hopens : (v.respond session (.key k)).move.destination? ≠ none := by
        simp [hmove, Move.destination?]
      rw [(v.prompt_or_destination? session k).resolve_right hopens]
      exact eq_false_of_ne_true fun hkeys => hopens (destination?_of_takesAllKeys hkeys session k)

end View

/-! ## The host -/

namespace Host

variable (h : Host)

@[simp] theorem notice_resizeTop : h.resizeTop.notice = h.notice := by
  rw [resizeTop_eq, notice_withTop]

theorem notice_pop : h.pop.notice = h.notice := by
  unfold pop
  split
  · rw [notice_resizeTop]
  · rw [notice_resizeTop]
  · rfl

theorem notice_move (m : Move) : (h.move m).notice = h.notice := by
  cases m with
  | stay =>
      rfl
  | push next =>
      exact notice_resizeTop _
  | replace next =>
      rw [move, replace, notice_resizeTop, notice_withTop]
  | pop =>
      exact h.notice_pop

/-- A root that was left is covered. -/
theorem mem_below_of_mem_history
    {h : Host} {saved : SavedRoot}
    (hsaved : saved ∈ h.history) :
    saved.root ∈ h.below := by
  have hroot : saved.root ∈ h.history.map (·.root) := List.mem_map_of_mem hsaved
  unfold below views
  cases h.stack with
  | nil =>
      exact hroot
  | cons v rest =>
      simp [hroot]

/-- No covered view takes keys for itself.  While the top view does so, there is no
banner, and a list holds what the store says. -/
structure PromptOnTop (h : Host) : Prop where
  covered : ∀ u ∈ h.below, u.takesAllKeys = false
  quiet : h.top.takesAllKeys = true → h.notice = ""
  fresh : h.top.takesAllKeys = true → h.top.UpToDate h.session.columns

namespace PromptOnTop

variable {h : Host}

theorem of_views
    {v : View} {rest : List View}
    (hviews : h.views = v :: rest)
    (hrest : ∀ u ∈ rest, u.takesAllKeys = false)
    (hquiet : v.takesAllKeys = true → h.notice = "")
    (hfresh : v.takesAllKeys = true → v.UpToDate h.session.columns) :
    h.PromptOnTop := by
  rw [views_eq_cons, List.cons.injEq] at hviews
  obtain ⟨rfl, rfl⟩ := hviews
  exact ⟨hrest, hquiet, hfresh⟩

/-- No view takes keys for itself. -/
theorem of_bare
    {v : View} {rest : List View}
    (hviews : h.views = v :: rest)
    (hv : v.takesAllKeys = false)
    (hrest : ∀ u ∈ rest, u.takesAllKeys = false) :
    h.PromptOnTop := by
  refine of_views hviews hrest ?_ ?_ <;> simp [hv]

theorem ofKind (session : Session) (kind : Kind) :
    (Host.ofKind session kind).PromptOnTop := by
  have hviews : (Host.ofKind session kind).views = [.list (.ofKind session kind)] := rfl
  exact of_bare hviews rfl (by simp)

theorem heard
    (hi : h.PromptOnTop)
    (event : Event) :
    (h.heard event).PromptOnTop := by
  cases event with
  | key k =>
      exact ⟨hi.covered, fun _ => rfl, hi.fresh⟩
  | resize width height | message m =>
      exact hi

/-- A view that was covered comes to light without a prompt. -/
theorem pop
    (hi : h.PromptOnTop) :
    h.pop.PromptOnTop := by
  rcases h.views_pop with ⟨v, rest, hbelow, hviews⟩ | ⟨-, hpop⟩
  · have hcovered : ∀ u ∈ v :: rest, u.takesAllKeys = false := by
      rw [← hbelow]
      exact hi.covered
    refine of_bare hviews ?_ fun u hu => hcovered u (List.mem_cons_of_mem v hu)
    rw [fitted, View.takesAllKeys_setSize]
    exact hcovered v List.mem_cons_self
  · rw [hpop]
    exact hi

theorem resizeTop
    (hi : h.PromptOnTop) :
    h.resizeTop.PromptOnTop := by
  refine of_views h.views_resizeTop hi.covered ?_ ?_
  · rw [fitted, View.takesAllKeys_setSize, notice_resizeTop]
    exact hi.quiet
  · rw [fitted, View.takesAllKeys_setSize, session_resizeTop]
    intro hkeys
    exact (hi.fresh hkeys).setSize (fun _ hv => hv.setSize) _ _

/-- The top view takes no keys for itself either. -/
theorem bare_views
    (hi : h.PromptOnTop)
    (hbare : h.top.takesAllKeys = false) :
    ∀ u ∈ h.views, u.takesAllKeys = false := by
  rw [views_eq_cons]
  exact List.forall_mem_cons.mpr ⟨hbare, hi.covered⟩

/-- A new view has missed nothing. -/
theorem of_opened
    {next : Destination} {rest : List View}
    (hviews : h.views = h.fitted (.ofDestination h.session next) :: rest)
    (hrest : ∀ u ∈ rest, u.takesAllKeys = false)
    (hnotice : h.notice = "") :
    h.PromptOnTop := by
  refine of_views hviews hrest (fun _ => hnotice) fun _ => ?_
  exact View.IfList.setSize (View.upToDate_ofDestination h.session next)
    (fun _ hv => hv.setSize) _ _

/-- A new root has no prompt open. -/
theorem of_started
    {kind : Kind} {scope : Scope} {rest : List View}
    (hviews : h.views = h.fitted (rootOf h.session kind scope) :: rest)
    (hrest : ∀ u ∈ rest, u.takesAllKeys = false) :
    h.PromptOnTop := by
  refine of_bare hviews ?_ hrest
  rw [fitted, View.takesAllKeys_setSize]
  exact View.takesAllKeys_rootOf _ _ _

theorem push
    (hi : h.PromptOnTop)
    (hbare : h.top.takesAllKeys = false)
    (hnotice : h.notice = "")
    (next : Destination) :
    (h.push next).PromptOnTop := by
  have hsession : (h.push next).session = h.session := session_resizeTop _
  have hviews := h.views_push next
  rw [← hsession] at hviews
  exact of_opened hviews (hi.bare_views hbare) ((notice_resizeTop _).trans hnotice)

theorem replace
    (hi : h.PromptOnTop)
    (hnotice : h.notice = "")
    (next : Destination) :
    (h.replace next).PromptOnTop := by
  have hsession : (h.replace next).session = h.session := h.session_move (.replace next)
  have hviews := h.views_replace next
  rw [← hsession] at hviews
  exact of_opened hviews hi.covered ((h.notice_move (.replace next)).trans hnotice)

/-- The top view answers a key, or neither opens a view nor opens a prompt. -/
theorem deliver
    (hi : h.PromptOnTop)
    {event : Event}
    (hcalm : h.notice = "" ∨ Response.Calm View.takesAllKeys (h.answer event) h.top) :
    (h.deliver event).1.PromptOnTop := by
  have hanswered : (h.answered event).PromptOnTop := by
    refine of_views (h.views_answered event) hi.covered ?_ ?_
    · intro hkeys
      rw [answered, notice_withTop]
      rcases hcalm with hnotice | hcalm
      · exact hnotice
      · exact hi.quiet (hcalm.prompt.symm.trans hkeys)
    · intro _
      rw [answered, session_withTop]
      exact h.top.upToDate_respond _ event
  have hnotice (hmove : (h.answer event).move ≠ .stay) : (h.answered event).notice = "" := by
    rw [answered, notice_withTop]
    exact hcalm.resolve_right fun hcalm => hmove hcalm.move
  rw [deliver_eq]
  cases hmove : (h.answer event).move with
  | stay =>
      exact hanswered
  | pop =>
      exact hanswered.pop
  | replace next =>
      exact hanswered.replace (hnotice (by simp [hmove])) next
  | push next =>
      have hbare : (h.answered event).top.takesAllKeys = false := by
        rw [answered, top_withTop]
        exact View.bare_of_push hmove
      exact hanswered.push hbare (hnotice (by simp [hmove])) next

theorem widen
    (hi : h.PromptOnTop)
    (hbare : h.top.takesAllKeys = false)
    (hs : h.stack = []) :
    h.widen.PromptOnTop := by
  cases houtward : h.scope.outward? with
  | none =>
      rw [Host.widen, houtward]
      exact of_bare h.views_eq_cons hbare hi.covered
  | some scope =>
      have hviews := h.views_widen hs houtward
      rw [← h.session_widen] at hviews
      exact of_started hviews (hi.bare_views hbare)

theorem goTo (h : Host) (kind : Kind) :
    (h.goTo kind).PromptOnTop := by
  have hsession : (h.goTo kind).session = h.session := session_resizeTop _
  have hviews := h.views_goTo kind
  rw [← hsession] at hviews
  exact of_started hviews (by simp)

theorem select
    (hi : h.PromptOnTop)
    (picker : PickerKind) (value : String) :
    (h.select picker value).PromptOnTop := by
  have hhistory : (h.select picker value).history = [] := (h.fields_select picker value).2.2.1
  have halone (v : View) (hv : v.takesAllKeys = false)
      (hplace : (h.select picker value).stack = [] ∧
        (h.select picker value).root = (h.select picker value).fitted v) :
      (h.select picker value).PromptOnTop := by
    refine of_bare (views_of_alone _ hplace.1 hhistory) ?_ (by simp)
    rw [hplace.2, fitted, View.takesAllKeys_setSize, hv]
  cases hchanges : changes h.session picker value with
  | true =>
      exact halone _ rfl (h.views_select_of_changes picker value hchanges)
  | false =>
      cases hlast : h.history.getLast? with
      | some saved =>
          have hsaved := mem_below_of_mem_history (List.mem_of_getLast? hlast)
          exact halone _ (hi.covered _ hsaved) (h.views_select_of_saved picker value hchanges hlast)
      | none =>
          have hviews : views { h with history := [], scope := .resources } = h.top :: h.below := by
            rw [← views_eq_cons, views, views, List.getLast?_eq_none_iff.mp hlast]
          rw [h.select_of_unsaved hchanges hlast, (changes_eq_false_iff _ _ _).mp hchanges]
          exact resizeTop (of_views hviews hi.covered hi.quiet hi.fresh)

theorem step
    (hi : h.PromptOnTop)
    (event : Event) :
    (h.step event).1.PromptOnTop := by
  have hheard := hi.heard event
  rw [h.step_eq_follow]
  cases event with
  | resize width height =>
      exact resizeTop ⟨hi.covered, hi.quiet, hi.fresh⟩
  | message m =>
      cases m with
      | selected picker value =>
          exact hi.select picker value
      | picked resource ids | logTick request =>
          exact hi.deliver (.inr (h.top.calm_respond _ _ nofun))
  | key k =>
      cases hkeys : h.top.takesAllKeys with
      | true =>
          rw [route, if_pos hkeys]
          exact hheard.deliver (.inl rfl)
      | false =>
          have hroute := h.keyRoute k
          generalize h.route (.key k) = r at hroute ⊢
          cases hroute with
          | quit =>
              exact hheard
          | hand j =>
              exact hheard.deliver (.inl rfl)
          | back deep =>
              exact hheard.pop
          | widen bottom =>
              exact hheard.widen hkeys bottom
          | goTo kind =>
              exact goTo _ kind
          | push next =>
              exact hheard.push hkeys rfl next

end PromptOnTop

/-- After every run, only the top view may have a prompt open, and has missed nothing
since it was opened. -/
theorem promptOnTop_run
    (session : Session) (kind : Kind) (events : List Event) :
    ((ofKind session kind).run events).PromptOnTop :=
  run_induction (P := PromptOnTop) (fun _ event hi => hi.step event)
    (PromptOnTop.ofKind session kind) events

end Host
end ClusterNav
