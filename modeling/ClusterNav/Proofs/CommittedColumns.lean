import ClusterNav.Proofs.ColumnIsolation
import ClusterNav.Proofs.PickedColumns
import ClusterNav.Proofs.ToggledRows

/-!
# Committed choices of columns

A box for columns stands on the list whose columns it offers.  The key that commits a
choice closes the box and sends the choice as a message, which reaches whatever view
is then on top.  A list that goes by the name of the choice stores it; any other view
lets it pass, and the store stays as it was before the commit.

**Results.**
* `kept_boxed`: every box for columns stands on its list.
* `Host.list_of_commit`: a commit leads back to the list of the box.
* `committed_choice_kept_iff`: when a committed choice is stored, whatever keys and
  sizes come between the commit and the message.
-/

namespace ClusterNav

/-! ## Boxes and their lists -/

namespace ColumnPicker

/-- A box offers the columns of a list and some labels, under the name of the list. -/
structure Offers (p : ColumnPicker) (v : ListView) : Prop where
  resource : p.resource = v.kind.name
  rows : ∃ choice, p.rows = rowsOf choice ∧ choice.pool = v.kind.columns ∧ choice.labels.Nodup

/-- What a box offers. -/
def offer (p : ColumnPicker) : String × List PickerRow :=
  (p.resource, p.rows)

theorem Offers.of_offer
    {p q : ColumnPicker} {v : ListView}
    (h : p.Offers v)
    (hoffer : q.offer = p.offer) :
    q.Offers v := by
  obtain ⟨hresource, hrows⟩ := Prod.mk.inj hoffer
  exact ⟨hresource.trans h.resource, hrows ▸ h.rows⟩

theorem offer_toggle (p : ColumnPicker) : p.toggle.offer = p.offer := by
  unfold toggle
  split <;> rfl

/-- No key changes what a box offers. -/
theorem offer_key (p : ColumnPicker) (k : Key) : (p.key k).view.offer = p.offer := by
  cases p.keyChange k with
  | changes _ hq =>
      rw [hq, offer_toggle]
  | reverts _ hq | moves _ _ _ _ hq =>
      rw [hq]
      rfl

end ColumnPicker

/-- What a list opens for its columns offers them. -/
theorem ListView.offers_columnChoice (v : ListView) :
    (ColumnPicker.ofChoice v.columnChoice).Offers v :=
  ⟨rfl, v.columnChoice, rfl, rfl, v.nodup_labelKeys⟩

/-- Only the kind of a list matters for a box. -/
theorem ColumnPicker.Offers.of_kind
    {p : ColumnPicker} {v w : ListView}
    (h : p.Offers v)
    (hkind : w.kind = v.kind) :
    p.Offers w := by
  refine ⟨?_, ?_⟩
  · rw [hkind]
    exact h.resource
  · rw [hkind]
    exact h.rows

/-- A box for columns stands on the list whose columns it offers. -/
def View.Boxed (v : View) (below : Option View) : Prop :=
  ∀ p, v = .columns p → ∃ w, below = some (.list w) ∧ p.Offers w

namespace View

theorem boxed_of_ne
    {v : View}
    (h : ∀ p, v ≠ .columns p)
    (below : Option View) :
    v.Boxed below := by
  intro p hp
  exact absurd hp (h p)

theorem boxed_of_isPage
    {next : Destination}
    (h : next.isPage = true)
    (session : Session) (below : Option View) :
    (ofDestination session next).Boxed below := by
  apply boxed_of_ne
  cases next with
  | columns choice =>
      cases h
  | _ =>
      simp [ofDestination]

theorem boxed_setSize
    {v : View} {below : Option View}
    (hv : v.Boxed below)
    (width height : Nat) :
    (v.setSize width height).Boxed below := by
  cases v with
  | columns p =>
      obtain ⟨w, hbelow, hoffers⟩ := hv p rfl
      rintro q hq
      cases hq
      exact ⟨w, hbelow, hoffers.of_offer rfl⟩
  | list v | detail v | text v | relations v | pods v | containers v | log v | scope v
  | browser v | help v =>
      exact boxed_of_ne (by simp [setSize]) below

theorem boxed_respond
    {v : View} {below : Option View}
    (hv : v.Boxed below)
    (session : Session) (event : Event) :
    (v.respond session event).view.Boxed below := by
  cases v with
  | columns p =>
      obtain ⟨w, hbelow, hoffers⟩ := hv p rfl
      rintro q hq
      cases hq
      refine ⟨w, hbelow, hoffers.of_offer ?_⟩
      cases event with
      | key k =>
          exact p.offer_key k
      | resize width height | message m =>
          rfl
  | list v | detail v | text v | relations v | pods v | containers v | log v | scope v
  | browser v | help v =>
      exact boxed_of_ne (by simp [respond, Response.map]) below

end View

open View (boxed_of_ne boxed_of_isPage)

theorem kept_boxed (r : Registry) : Kept r (fun _ => True) View.Boxed where
  hotkey _ := trivial
  root _ _ scope := boxed_of_ne (by cases scope <;> simp [Host.rootOf, Host.picker?]) none
  fits hv width height := View.boxed_setSize hv width height
  answers _ hv event := View.boxed_respond hv _ event
  opens := by
    intro session v below event next hr hv hmove
    have hopening := v.opening session event
    rw [hmove] at hopening
    cases hopening with
    | @columns w =>
        rintro p hp
        cases hp
        refine ⟨_, rfl, (w.syncNamespace session.ns).offers_columnChoice.of_kind ?_⟩
        have hsync := (w.subject_syncNamespace session.ns)
        exact congrArg Prod.fst ((w.stays_respond session event).subject.trans hsync.symm)
    | kind hkind | related hevents =>
        exact boxed_of_ne (by simp [View.ofDestination]) _
    | turns hm =>
        exact boxed_of_isPage (hm next rfl) _ _
  replaces := by
    intro session v below event next hr hv hmove
    have hopening := v.opening session event
    rw [hmove] at hopening
    cases hopening with
    | turns hm =>
        exact boxed_of_isPage (hm next rfl) _ _
  reaches := by
    intro session c next hr htarget v
    unfold Host.globalTarget? at htarget
    split at htarget <;> cases htarget <;> exact boxed_of_ne (by simp [View.ofDestination]) _

/-- What is stored of a choice for one kind and for another is the same when it is the
choice of the default columns for both kinds or for neither. -/
theorem ColumnStore.stored_eq_stored_iff
    {pool other : List Column} {ids : List String} :
    stored other ids = stored pool ids ↔ (ids = defaultIds other ↔ ids = defaultIds pool) := by
  unfold stored
  by_cases hpool : ids = defaultIds pool <;> by_cases hother : ids = defaultIds other <;>
    simp_all

namespace Host

/-! ## The commit -/

/-- A message sent at once is sent by the top view. -/
theorem hand_of_emit
    {h : Host} {event : Event} {m : Message}
    (heffect : (h.step event).2 = some (.emit m)) :
    ∃ e, h.route event = .hand e ∧ ((h.heard event).answer e).effect = some (.emit m) := by
  rw [step_eq_follow] at heffect
  cases hroute : h.route event with
  | hand e =>
      rw [hroute] at heffect
      exact ⟨e, rfl, heffect⟩
  | fit width height | select picker value | quit | back | widen | goTo kind | push next =>
      rw [hroute] at heffect
      cases heffect

/-- A box that closes leads back to the view right below. -/
theorem top_pop_answered
    {h : Host} {event : Event} {v : View}
    (hbelow : h.tower.tail.head? = some v) :
    (h.answered event).pop.top = (h.answered event).pop.fitted v := by
  have htail := tower_answered (h := h) event
  cases (h.answered event).closing with
  | reveals u rest before tower history =>
      rw [htail, List.tail_cons] at before
      rw [before] at hbelow
      cases hbelow
      rw [tower_eq_cons] at tower
      exact (List.cons.inj tower).1
  | returns saved rest bottom before tower history scope =>
      rw [tower_of_nil _ ((stack_answered_eq_nil_iff event).mp bottom)] at hbelow
      cases hbelow
  | stays bottom same =>
      rw [tower_of_nil _ ((stack_answered_eq_nil_iff event).mp bottom)] at hbelow
      cases hbelow

/-- A list that gets the room of the top view stays a list of its kind. -/
theorem fitted_list (h : Host) (v : ListView) :
    ∃ w, h.fitted (.list v) = .list w ∧ w.kind = v.kind :=
  ⟨_, rfl, rfl⟩

/-- A commit closes the box and leads back to its list. -/
theorem list_of_commit
    {h : Host} {r : Registry} {roots : Kind → Prop} {event : Event} {resource : String}
    {ids : List String}
    (hi : h.Holds r roots View.Boxed)
    (hcommit : (h.step event).2 = some (.emit (.picked resource ids))) :
    ∃ p v, h.top = .columns p ∧ resource = p.resource ∧ ids = p.visibleIds ∧ p.Offers v ∧
      (h.step event).1.top = .list v := by
  obtain ⟨e, hroute, heffect⟩ := hand_of_emit hcommit
  obtain ⟨p, hp, hresource, hids, hmove⟩ := View.commits_of_picked heffect
  have hheard := hi.heard event
  obtain ⟨w, hbelow, hoffers⟩ := hheard.top p hp
  have hstep : (h.step event).1 = ((h.heard event).answered e).pop := by
    rw [step_eq_follow, hroute, follow, deliver_eq]
    exact congrArg ((h.heard event).answered e).move hmove
  have htop : h.top = .columns p := by
    rw [← hp]
    cases event <;> rfl
  obtain ⟨v, hv, hkind⟩ := fitted_list ((h.heard event).answered e).pop w
  refine ⟨p, v, htop, hresource, hids, hoffers.of_kind hkind, ?_⟩
  rw [hstep, top_pop_answered hbelow, hv]

/-! ## Between the commit and the message -/

/-- While only sizes come, a list stays on top. -/
theorem list_of_resizes
    {h : Host} {v : ListView} {events : List Event}
    (htop : h.top = .list v)
    (hevents : ∀ event ∈ events, ∃ width height, event = .resize width height) :
    ∃ w, (h.run events).top = .list w ∧ w.kind = v.kind := by
  induction events generalizing h v with
  | nil =>
      exact ⟨v, htop, rfl⟩
  | cons event rest ih =>
      obtain ⟨width, height, rfl⟩ := hevents event List.mem_cons_self
      obtain ⟨u, hu, hkind⟩ := fitted_list { h with width := width, height := height } v
      have hstep : (h.step (.resize width height)).1.top = .list u := by
        rw [← hu, ← htop]
        exact top_resizeTop _
      have hrest : ∀ event ∈ rest, ∃ width height, event = .resize width height :=
        fun event hmem => hevents event (List.mem_cons_of_mem _ hmem)
      obtain ⟨w, hw, hsame⟩ := ih hstep hrest
      exact ⟨w, hw, hsame.trans hkind⟩

/-- A choice that meets no list of its name passes by. -/
theorem choice?_step_of_ne
    {h : Host} {resource : String}
    (htop : ∀ v, h.top = .list v → v.kind.name ≠ resource)
    (ids : List String) :
    (h.step (.message (.picked resource ids))).1.session.columns.choice? resource =
      h.session.columns.choice? resource := by
  rcases h.choice?_step (.message (.picked resource ids)) resource with
    hsame | ⟨v, _, hv, hname, -, -⟩
  · exact hsame
  · exact absurd hname (htop v hv)

/-- A commit leaves the store as it is. -/
theorem choice?_commit
    {h : Host} {p : ColumnPicker}
    (htop : h.top = .columns p)
    (commit : Event) (name : String) :
    (h.step commit).1.session.columns.choice? name = h.session.columns.choice? name := by
  rcases h.choice?_step commit name with hsame | ⟨w, -, hw, -, -, -⟩
  · exact hsame
  · rw [htop] at hw
    cases hw

/-- When the store holds, after a choice has come as a message, what a given pool makes
of the choice. -/
theorem stored_step_picked_iff
    {h : Host} {resource : String} {ids : List String} {pool : List Column} :
    (h.step (.message (.picked resource ids))).1.session.columns.choice? resource =
        ColumnStore.stored pool ids ↔
      (∃ w, h.top = .list w ∧ w.kind.name = resource ∧
        (ids = ColumnStore.defaultIds w.kind.columns ↔ ids = ColumnStore.defaultIds pool)) ∨
      (∀ w, h.top = .list w → w.kind.name ≠ resource) ∧
        h.session.columns.choice? resource = ColumnStore.stored pool ids := by
  by_cases hlist : ∃ w, h.top = .list w ∧ w.kind.name = resource
  · obtain ⟨w, hw, hname⟩ := hlist
    rw [choice?_step_picked hw, if_pos ⟨hname.symm, rfl⟩, ColumnStore.stored_eq_stored_iff]
    constructor
    · intro hdefault
      exact Or.inl ⟨w, hw, hname, hdefault⟩
    · rintro (⟨u, hu, -, hdefault⟩ | ⟨hother, -⟩)
      · rw [hw] at hu
        cases hu
        exact hdefault
      · exact absurd hname (hother w hw)
  · have hother (w : ListView) (hw : h.top = .list w) : w.kind.name ≠ resource :=
      fun hname => hlist ⟨w, hw, hname⟩
    rw [choice?_step_of_ne hother]
    constructor
    · intro hstored
      exact Or.inr ⟨hother, hstored⟩
    · rintro (⟨w, hw, hname, -⟩ | ⟨-, hstored⟩)
      · exact absurd hname (hother w hw)
      · exact hstored

end Host

/-- In all runs that start on a known kind: a commit leads back to the list whose columns
were chosen.  Whatever keys and sizes come before the message, the committed choice is
in the store after the message in two cases only: a list of this name is on top, and the
ids are the default columns of both lists or of neither; or no list of this name is on
top, and the same choice was in the store before the commit.  When at most sizes come
before the message, the choice is in the store. -/
theorem committed_choice_kept_iff
    (session : Session) (start : Kind) (past : List Event) (commit : Event)
    (between : List Event) (resource : String) (ids : List String)
    (hregistry : session.registry = .standard)
    (hstart : Registry.standard.Knows start)
    (hcommit : (((Host.ofKind session start).run past).step commit).2 =
      some (.emit (.picked resource ids)))
    (hbetween : ∀ event ∈ between, ∀ m, event ≠ .message m) :
    let before := (Host.ofKind session start).run past
    let committed := (before.step commit).1
    let reached := committed.run between
    let after := (reached.step (.message (.picked resource ids))).1
    ∃ v, committed.top = .list v ∧ v.kind.name = resource ∧
      let choice := if ids = ColumnStore.defaultIds v.kind.columns then none else some ids
      (after.session.columns.choice? resource = choice ↔
        (∃ w, reached.top = .list w ∧ w.kind.name = resource ∧
          (ids = ColumnStore.defaultIds w.kind.columns ↔
            ids = ColumnStore.defaultIds v.kind.columns)) ∨
        (∀ w, reached.top = .list w → w.kind.name ≠ resource) ∧
          before.session.columns.choice? resource = choice) ∧
      ((∀ event ∈ between, ∃ width height, event = .resize width height) →
        after.session.columns.choice? resource = choice) := by
  intro before committed reached after
  have hboxed : before.Holds session.registry (fun _ => True) View.Boxed :=
    Host.holds_run (kept_boxed session.registry) rfl trivial past
  obtain ⟨p, v, hbox, rfl, rfl, hoffers, hv⟩ := Host.list_of_commit hboxed hcommit
  have hknown : Registry.standard.Knows v.kind := by
    rw [← hregistry] at hstart ⊢
    have hrun : ((Host.ofKind session start).run (past ++ [commit])).top = .list v := by
      rw [Host.run_append]
      exact hv
    exact Host.knows_run hstart hrun
  obtain ⟨offered, hrows, hpool, hlabels⟩ := hoffers.rows
  have hlisted : Listed p.visibleIds :=
    ColumnPicker.listed_visibleIds hrows (hpool ▸ poolInOrder_of_knows hknown) hlabels
  refine ⟨v, hv, hoffers.resource.symm, ?_⟩
  intro choice
  have hchoice : choice = ColumnStore.stored v.kind.columns p.visibleIds :=
    (ColumnStore.stored_eq hlisted _).symm
  -- Up to the message, what is stored is what was stored before the commit.
  have hreached : reached.session.columns.choice? p.resource =
      before.session.columns.choice? p.resource := by
    rw [← Host.choice?_commit hbox commit]
    exact Host.choice?_run _ fun ids hmem => hbetween _ hmem _ rfl
  rw [hchoice, ← hreached]
  refine ⟨Host.stored_step_picked_iff, ?_⟩
  intro hsizes
  obtain ⟨w, hw, hkind⟩ := Host.list_of_resizes hv hsizes
  refine Host.stored_step_picked_iff.mpr (Or.inl ⟨w, hw, ?_, ?_⟩)
  · rw [hkind, hoffers.resource]
  · rw [hkind]

/-- The kind column is chosen for the stateful sets, and the screen gets another size
before the message comes. -/
theorem committed_choice_kept_iff_kind :
    let before := (Host.ofKind (.ofRegistry .standard .empty) .statefulSet).run
      [.key ⟨"c"⟩, .key ⟨" "⟩]
    let committed := (before.step (.key ⟨"enter"⟩)).1
    let ids := ["name", "kind", "status", "ready", "restarts", "age", "images"]
    let after := ((committed.run [.resize 100 30]).step
      (.message (.picked "statefulsets" ids))).1
    (before.step (.key ⟨"enter"⟩)).2 = some (.emit (.picked "statefulsets" ids)) ∧
    ∃ v, committed.top = .list v ∧ v.kind.name = "statefulsets" ∧
      after.session.columns.choice? "statefulsets" =
        if ids = ColumnStore.defaultIds v.kind.columns then none else some ids := by
  intro before committed ids after
  have hcommit : (before.step (.key ⟨"enter"⟩)).2 =
      some (.emit (.picked "statefulsets" ids)) := by
    decide +kernel
  have hsets : Registry.standard.Knows .statefulSet := .listed (by simp [Registry.standard])
  obtain ⟨v, hv, hname, -, hsizes⟩ := committed_choice_kept_iff (.ofRegistry .standard .empty)
    .statefulSet [.key ⟨"c"⟩, .key ⟨" "⟩] (.key ⟨"enter"⟩) [.resize 100 30] "statefulsets" ids
    rfl hsets hcommit (by simp)
  exact ⟨hcommit, v, hv, hname, hsizes (by simp)⟩

/-- When help is opened between the commit and the message, the choice is lost. -/
theorem committed_choice_lost :
    let before := (Host.ofKind (.ofRegistry .standard .empty) .statefulSet).run
      [.key ⟨"c"⟩, .key ⟨" "⟩]
    let ids := ["name", "kind", "status", "ready", "restarts", "age", "images"]
    let after := (((before.step (.key ⟨"enter"⟩)).1.run [.key ⟨"?"⟩]).step
      (.message (.picked "statefulsets" ids))).1
    (before.step (.key ⟨"enter"⟩)).2 = some (.emit (.picked "statefulsets" ids)) ∧
    ids ≠ ColumnStore.defaultIds Kind.statefulSet.columns ∧
    after.session.columns.choice? "statefulsets" = none := by
  decide +kernel

end ClusterNav
