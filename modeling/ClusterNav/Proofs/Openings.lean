import ClusterNav.Proofs.StackChange

/-!
# What views ask for

A view opens the pages of the items it shows.  Lists come from the table of kinds and
from the relations of an item only, and boxes for the columns of a list from the list
itself.  A choice of columns is sent by such a box alone, with the key that closes it.

**Results.**
* `View.opening`: what a view may open.
* `View.commits_of_picked`: which view sends a choice of columns, and when.
-/

namespace ClusterNav

/-- Does a destination show items of a kind, as pages or to choose a log among them? -/
def Destination.isPage : Destination → Bool
  | .detail _ _ | .text _ _ _ | .relations _ _ | .pods _ _ | .containers _ _ _ | .log _ _ _ =>
    true
  | .list _ | .columns _ | .scope _ | .browser | .help => false

/-- A move that opens at most a page. -/
def Move.Turns (m : Move) : Prop :=
  ∀ next, m.destination? = some next → next.isPage = true

namespace Move

theorem turns_of_destination?
    {m : Move}
    (h : m.destination? = none) :
    m.Turns := by
  intro next hnext
  rw [h] at hnext
  cases hnext

theorem turns_of_isPage
    {m : Move} {next : Destination}
    (hm : m.destination? = some next)
    (h : next.isPage = true) :
    m.Turns := by
  intro other hother
  rw [hm] at hother
  rw [← Option.some.inj hother, h]

end Move

open Move (turns_of_destination? turns_of_isPage)

/-! ## Moves of the views of items -/

namespace Selection

theorem isPage_log (s : Selection) (session : Session) :
    (s.log session).isPage = true := by
  unfold log
  split
  · rfl
  · split <;> rfl

/-- The shortcuts of items lead to pages. -/
theorem isPage_of_keyShortcut?
    {s : Selection} {session : Session} {k : Key} {next : Destination}
    (h : s.keyShortcut? session k = some next) :
    next.isPage = true := by
  obtain ⟨c, -, hc⟩ := Option.bind_eq_some_iff.mp h
  unfold shortcut? at hc
  split at hc
  · rw [← Option.some.inj hc]
    rfl
  · rw [← Option.some.inj hc]
    rfl
  · rw [← Option.some.inj hc]
    rfl
  · rw [← Option.some.inj hc]
    exact s.isPage_log session
  · rw [← Option.some.inj hc]
    rfl
  · cases hc

end Selection

theorem DetailView.turns_key (v : DetailView) (session : Session) (k : Key) :
    (v.key session k).move.Turns := by
  unfold key
  split
  · exact turns_of_destination? rfl
  · split
    · rename_i next hnext
      exact turns_of_isPage rfl (Selection.isPage_of_keyShortcut? hnext)
    · exact turns_of_destination? rfl

theorem LogPicker.destination?_of_key?
    {list : Select.FilterList} {k : Key} {after : Select.FilterList} {m : Move}
    (h : key? list k = some (after, m)) :
    m.destination? = none := by
  unfold key? at h
  split at h
  · cases h
    rfl
  split at h
  · split at h <;> cases h <;> rfl
  · cases h
    rfl
  · cases h
  · cases h
  · cases h
  · cases h
    rfl

theorem PodPicker.isPage_next (v : PodPicker) (pod : Item) :
    (v.next pod).isPage = true := by
  unfold next
  split <;> rfl

theorem PodPicker.turns_key (v : PodPicker) (k : Key) :
    (v.key k).move.Turns := by
  unfold key
  split
  · rename_i hkey
    exact turns_of_destination? (LogPicker.destination?_of_key? hkey)
  · split
    · exact turns_of_isPage rfl (v.isPage_next _)
    · exact turns_of_destination? rfl

theorem ContainerPicker.turns_key (v : ContainerPicker) (k : Key) :
    (v.key k).move.Turns := by
  unfold key
  split
  · rename_i hkey
    exact turns_of_destination? (LogPicker.destination?_of_key? hkey)
  · split
    · exact turns_of_isPage rfl rfl
    · exact turns_of_destination? rfl

theorem LogView.destination?_respond (v : LogView) (event : Event) :
    (v.respond event).move.destination? = none := by
  unfold respond
  split
  · unfold onTick
    split <;> rfl
  · unfold key
    split
    · rfl
    -- Whether a search was made or not, the keys are the same.
    all_goals
      split
      · unfold leave
        split <;> rfl
      · simp only [toggleFollow]
        split <;> rfl
      all_goals rfl
  · rfl

/-! ## Moves of pages and boxes -/

theorem TextView.turns_key (v : TextView) (k : Key) :
    (v.key k).move.Turns := by
  unfold key
  split <;> exact turns_of_destination? rfl

theorem HelpView.turns_key (v : HelpView) (k : Key) :
    (v.key k).move.Turns := by
  unfold key
  split <;> exact turns_of_destination? rfl

theorem ColumnPicker.turns_key (v : ColumnPicker) (k : Key) :
    (v.key k).move.Turns := by
  unfold key
  split
  · exact turns_of_destination? rfl
  · split <;> exact turns_of_destination? rfl

theorem ScopePicker.turns_key (v : ScopePicker) (k : Key) :
    (v.key k).move.Turns := by
  unfold key
  split
  · exact turns_of_destination? rfl
  · unfold enter
    split <;> exact turns_of_destination? rfl
  · exact turns_of_destination? rfl

/-! ## Moves of lists -/

namespace ListView

variable (v : ListView)

/-- A list opens the box for its columns, or at most a page. -/
theorem opens_key (session : Session) (k : Key) :
    (v.key session k).move = .push (.columns v.columnChoice) ∨ (v.key session k).move.Turns := by
  have hanswer := v.keyAnswer_key session k
  generalize v.key session k = r at hanswer ⊢
  cases hanswer with
  | opensColumns =>
      exact Or.inl rfl
  | opensItem =>
      exact Or.inr (turns_of_isPage rfl rfl)
  | follows shortcut =>
      exact Or.inr (turns_of_isPage rfl (Selection.isPage_of_keyShortcut? shortcut))
  | edits | finds | opensFilter | armsFind | sorts | clearsFilter | leaves | selects | moves
  | ignores =>
      exact Or.inr (turns_of_destination? rfl)

theorem opens_respond (session : Session) (event : Event) :
    (v.respond session event).move = .push (.columns (v.syncNamespace session.ns).columnChoice) ∨
    (v.respond session event).move.Turns := by
  cases event with
  | key k =>
      exact (v.syncNamespace session.ns).opens_key session k
  | resize width height | message m =>
      exact Or.inr (turns_of_destination? rfl)

end ListView

/-- The table of kinds opens a kind that it shows. -/
theorem BrowserView.opens_key (v : BrowserView) (k : Key) :
    (∃ kind ∈ v.kinds, (v.key k).move = .push (.list kind)) ∨
    (v.key k).move.destination? = none := by
  have hanswer := v.keyAnswer_key k
  generalize v.key k = r at hanswer ⊢
  cases hanswer with
  | opensKind listed =>
      exact Or.inl ⟨_, listed, rfl⟩
  | edits | finds | opensFilter | armsFind | clearsFilter | leaves | moves | ignores =>
      exact Or.inr rfl

/-- The relations of an item open the list of a relation, or a page. -/
theorem RelationView.opens_key (v : RelationView) (session : Session) (k : Key) :
    (∃ relation, relation ≠ .events ∧
      (v.key session k).move = .push (.list (.ofRelation session.registry relation v.item))) ∨
    (v.key session k).move.Turns := by
  have hnext (relation : Relation) :
      (∃ other, other ≠ .events ∧ (Move.push (v.next session relation)) =
        .push (.list (.ofRelation session.registry other v.item))) ∨
      (Move.push (v.next session relation)).Turns := by
    unfold next
    split
    · exact Or.inr (turns_of_isPage rfl rfl)
    · rename_i hne
      exact Or.inl ⟨relation, hne, rfl⟩
  unfold key
  split
  · exact Or.inr (turns_of_destination? rfl)
  -- Three keys open the relation under the cursor.
  iterate 3
    · split
      · exact hnext _
      · exact Or.inr (turns_of_destination? rfl)
  · exact Or.inr (turns_of_destination? rfl)

theorem Response.turns_onKey
    {α : Type} {view : α} {key : Key → Response α}
    (h : ∀ k, (key k).move.Turns)
    (event : Event) :
    (Response.onKey view event key).move.Turns := by
  cases event with
  | key k =>
      exact h k
  | resize width height | message m =>
      exact turns_of_destination? rfl

/-! ## Moves of any view -/

namespace View

/-- What a view may ask to be opened. -/
inductive Opening (session : Session) : View → Move → Prop
  /-- A kind from the table of kinds. -/
  | kind {v : BrowserView} {kind : Kind} (hkind : kind ∈ v.kinds) :
      Opening session (.browser v) (.push (.list kind))
  /-- What a relation of an item leads to. -/
  | related {v : RelationView} {relation : Relation} (hevents : relation ≠ .events) :
      Opening session (.relations v)
        (.push (.list (.ofRelation session.registry relation v.item)))
  /-- The box for the columns of a list. -/
  | columns {v : ListView} :
      Opening session (.list v) (.push (.columns (v.syncNamespace session.ns).columnChoice))
  /-- A page at most. -/
  | turns {v : View} {m : Move} (hm : m.Turns) : Opening session v m

theorem opening (v : View) (session : Session) (event : Event) :
    Opening session v (v.respond session event).move := by
  cases v with
  | list v =>
      rcases v.opens_respond session event with hcolumns | hturns
      · show Opening session _ (v.respond session event).move
        rw [hcolumns]
        exact .columns
      · exact .turns hturns
  | relations v =>
      cases event with
      | key k =>
          rcases v.opens_key session k with ⟨relation, hevents, hmove⟩ | hturns
          · show Opening session _ (v.key session k).move
            rw [hmove]
            exact .related hevents
          · exact .turns hturns
      | resize width height | message m =>
          exact .turns (turns_of_destination? rfl)
  | browser v =>
      cases event with
      | key k =>
          rcases v.opens_key k with ⟨kind, hkind, hmove⟩ | hnone
          · show Opening session _ (v.key k).move
            rw [hmove]
            exact .kind hkind
          · exact .turns (turns_of_destination? hnone)
      | resize width height | message m =>
          exact .turns (turns_of_destination? rfl)
  | detail v =>
      exact .turns (Response.turns_onKey (v.turns_key session) event)
  | pods v =>
      exact .turns (Response.turns_onKey v.turns_key event)
  | containers v =>
      exact .turns (Response.turns_onKey v.turns_key event)
  | log v =>
      exact .turns (turns_of_destination? (v.destination?_respond event))
  | text v =>
      exact .turns (Response.turns_onKey v.turns_key event)
  | columns v =>
      exact .turns (Response.turns_onKey v.turns_key event)
  | scope v =>
      exact .turns (Response.turns_onKey v.turns_key event)
  | help v =>
      exact .turns (Response.turns_onKey v.turns_key event)

/-! ## Who sends a choice of columns -/

/-- A choice of columns is sent by the box for the columns, which closes with it. -/
theorem commits_of_picked
    {v : View} {session : Session} {event : Event} {resource : String} {ids : List String}
    (h : (v.respond session event).effect = some (.emit (.picked resource ids))) :
    ∃ p : ColumnPicker, v = .columns p ∧ resource = p.resource ∧ ids = p.visibleIds ∧
      (v.respond session event).move = .pop := by
  cases v with
  | columns p =>
      cases event with
      | resize width height | message m =>
          cases h
      | key k =>
          refine ⟨p, rfl, ?_⟩
          change (p.key k).effect = _ at h
          show _ ∧ _ ∧ (p.key k).move = .pop
          unfold ColumnPicker.key at h ⊢
          split at h
          · cases h
          split at h
          · cases h
          · cases h
            exact ⟨rfl, rfl, by simp_all⟩
          all_goals cases h
  | list v =>
      change (v.respond session event).effect = _ at h
      have hstays := v.stays_respond session event
      obtain ⟨picker, value, hm⟩ := hstays.sends (.picked resource ids) (by rw [h]; rfl)
      cases hm
  | log v =>
      change (v.respond event).effect = _ at h
      cases v.turn_respond event with
      | keeps ticking effect | stops before ticking effect move =>
          rw [effect] at h
          cases h
      | starts before ticking effect move | answers before event_eq ticking effect move =>
          rw [effect] at h
          cases h
  | scope v =>
      cases event with
      | resize width height | message m =>
          cases h
      | key k =>
          change (v.key k).effect = _ at h
          unfold ScopePicker.key at h
          split at h
          · cases h
          · unfold ScopePicker.enter at h
            split at h <;> cases h
          · cases h
  | detail v | text v | relations v | pods v | containers v | browser v | help v =>
      cases event with
      | resize width height | message m =>
          cases h
      | key k =>
          simp [respond, Response.map, Response.onKey] at h

end View
end ClusterNav
