import ClusterNav.Proofs.FilterOperations
import ClusterNav.Proofs.ListAnswer

/-!
# The items of a list

A list keeps the items it has loaded, and beside them the names it filters.  It loads
both at once, when it is opened, when it is sorted in another way, and when it follows
its session to another namespace.  All else moves the cursor or the filter.  So what is
drawn, what is filtered and what the keys act on are the same items.

**Results.**
* `ListView.view_key`: a key sorts a list, or moves within it.
* `ListView.loaded_respond`: whatever the event, a list shows the items it has to show.
* `ListView.actsOn_selected`: keys act on the item under the cursor.
* `list_shows_its_items`: what this says of a list after any use.
-/

namespace ClusterNav
namespace ListView

open Select

variable {v : ListView} {ns : NamespaceScope}

/-! ## Loading -/

/-- A list shows the items of a namespace, in the order of its sort mode. -/
structure Loaded (ns : NamespaceScope) (v : ListView) : Prop where
  ns_eq : v.ns = ns
  items_eq : v.items = v.loaded

theorem loaded_reload
    (hns : v.ns = ns) :
    v.reload.Loaded ns :=
  ⟨hns, rfl⟩

/-- To move within a list is not to load it. -/
theorem Loaded.moves
    (h : v.Loaded ns)
    (list : FilterList) (armed : Bool) :
    Loaded ns { v with list := list, findArmed := armed } :=
  ⟨h.ns_eq, h.items_eq⟩

theorem Loaded.refreshColumns
    (h : v.Loaded ns)
    (store : ColumnStore) :
    (v.refreshColumns store).Loaded ns :=
  ⟨h.ns_eq, h.items_eq⟩

theorem Loaded.setSize
    (h : v.Loaded ns)
    (width height : Nat) :
    (v.setSize width height).Loaded ns :=
  ⟨h.ns_eq, h.items_eq⟩

theorem Loaded.cycleSort
    (h : v.Loaded ns) :
    v.cycleSort.Loaded ns := by
  have hsorted : ∀ i, Loaded ns ({ v with sortIndex := i }.reload) :=
    fun _ => loaded_reload h.ns_eq
  unfold ListView.cycleSort
  split
  · exact h
  · dsimp only
    split
    · exact (hsorted _).moves _ _
    · exact hsorted _

/-- The namespace of a list in a session: a list of a scope keeps its own. -/
def nsIn (v : ListView) (session : Session) : NamespaceScope :=
  if v.mode = .browse then session.ns else v.ns

theorem Loaded.syncNamespace
    (h : v.Loaded ns)
    (session : Session) :
    (v.syncNamespace session.ns).Loaded (v.nsIn session) := by
  unfold ListView.syncNamespace nsIn
  by_cases hmode : v.mode = .browse
  · rw [if_pos hmode]
    split
    · exact loaded_reload rfl
    · rename_i hsame
      have hns : v.ns = session.ns := by
        simpa [hmode] using hsame
      exact ⟨hns, h.items_eq⟩
  · rw [if_neg hmode, if_neg fun hboth => hmode hboth.2]
    exact ⟨rfl, h.items_eq⟩

/-- In the namespace of its items a list follows nowhere. -/
theorem syncNamespace_eq_self
    (hns : v.mode = .browse → v.ns = ns) :
    v.syncNamespace ns = v := by
  rw [ListView.syncNamespace, if_neg]
  rintro ⟨hne, hmode⟩
  exact hne (hns hmode)

/-! ## Keys -/

/-- A key sorts a list, or moves within it. -/
theorem view_key (v : ListView) (session : Session) (k : Key) :
    (v.key session k).view = v.cycleSort ∨
    ∃ list armed, (v.key session k).view = { v with list := list, findArmed := armed } := by
  have hanswer := v.keyAnswer_key session k
  generalize v.key session k = r at hanswer ⊢
  cases hanswer with
  | sorts =>
      exact Or.inl rfl
  | edits | finds | opensFilter | armsFind | opensColumns | clearsFilter | leaves | opensItem
  | selects | moves | follows | ignores =>
      exact Or.inr ⟨_, _, rfl⟩

theorem Loaded.key
    (h : v.Loaded ns)
    (session : Session) (k : Key) :
    (v.key session k).view.Loaded ns := by
  rcases v.view_key session k with hsort | ⟨list, armed, hmoves⟩
  · rw [hsort]
    exact h.cycleSort
  · rw [hmoves]
    exact h.moves list armed

/-- Whatever the event, a list shows the items it has to show in the session. -/
theorem loaded_respond
    (h : v.Loaded ns)
    (session : Session) (event : Event) :
    (v.respond session event).view.Loaded (v.nsIn session) := by
  have hsync := h.syncNamespace session
  cases event with
  | key k =>
      exact (hsync.key session k).refreshColumns session.columns
  | resize width height | message m =>
      exact hsync.refreshColumns session.columns

/-! ## What keys act on -/

/-- The keys that open an item. -/
def openKeys : List String :=
  ["enter", "l", "right"]

/-- Keys act on an item: they open it, or choose it in the list of a scope, and the
shortcuts of items are those of this one. -/
structure ActsOn (v : ListView) (session : Session) (item : Item) : Prop where
  opens : ∀ k : Key, k.name ∈ openKeys → v.mode = .browse →
    (v.respond session (.key k)).move = .push (.detail v.kind item)
  chooses : ∀ (k : Key) (picker : PickerKind) (current : String),
    k.name ∈ openKeys → v.mode = .scope picker current →
    (v.respond session (.key k)).effect = some (.emit (.selected picker item.name))
  shortcuts : ∀ (k : Key) (c : Char) (next : Destination), k.rune? = some c →
    Selection.shortcut? session ⟨v.kind, item⟩ c = some next →
    (v.respond session (.key k)).move = .push next

theorem key_of_mem_openKeys
    (hkeys : v.takesAllKeys = false)
    (session : Session) {k : Key}
    (hk : k.name ∈ openKeys) :
    v.key session k = v.enter := by
  rw [takesAllKeys, Bool.or_eq_false_iff] at hkeys
  rw [key, if_neg (by simp [hkeys.1]), if_neg (by simp [hkeys.2])]
  simp only [openKeys, List.mem_cons, List.not_mem_nil, or_false] at hk
  rcases hk with hname | hname | hname <;> rw [hname] <;> rfl

/-- No key that is a shortcut of items has another meaning in a list. -/
theorem key_of_shortcut?
    (hkeys : v.takesAllKeys = false)
    {session : Session} {k : Key} {c : Char} {item : Item} {next : Destination}
    (hrune : k.rune? = some c)
    (hitem : v.selected? = some item)
    (hnext : Selection.shortcut? session ⟨v.kind, item⟩ c = some next) :
    v.key session k = { view := v, move := .push next } := by
  have hchar : c ∈ ['y', 'd', 'e', 'o', 'r'] := by
    unfold Selection.shortcut? at hnext
    split at hnext <;> simp_all
  obtain rfl : k = ⟨String.ofList [c]⟩ := by
    have hlist := Key.toList_name_of_rune? hrune
    cases k
    rw [← hlist, String.ofList_toList]
  have hshortcut : (v.selection?.bind fun s => s.keyShortcut? session ⟨String.ofList [c]⟩) =
      some next := by
    rw [selection?, hitem, Option.map_some, Option.bind_some, Selection.keyShortcut?, hrune]
    exact hnext
  have hother : v.otherKey session ⟨String.ofList [c]⟩ = { view := v, move := .push next } := by
    have hcursor : v.list.cursorKey? ⟨String.ofList [c]⟩ = none := by
      simp only [List.mem_cons, List.not_mem_nil, or_false] at hchar
      rcases hchar with rfl | rfl | rfl | rfl | rfl <;> rfl
    rw [otherKey, hcursor]
    dsimp only
    rw [hshortcut]
  rw [takesAllKeys, Bool.or_eq_false_iff] at hkeys
  rw [key, if_neg (by simp [hkeys.1]), if_neg (by simp [hkeys.2])]
  simp only [List.mem_cons, List.not_mem_nil, or_false] at hchar
  rcases hchar with rfl | rfl | rfl | rfl | rfl <;> exact hother

/-- Without an open prompt, keys act on the item under the cursor, in the namespace of
the session. -/
theorem actsOn_selected
    (hkeys : v.takesAllKeys = false)
    {session : Session} {item : Item}
    (hitem : (v.syncNamespace session.ns).selected? = some item) :
    v.ActsOn session item := by
  have hsynced : (v.syncNamespace session.ns).takesAllKeys = false := by
    unfold ListView.syncNamespace
    split <;> exact hkeys
  obtain ⟨hkind, hmode⟩ := Prod.mk.inj (v.subject_syncNamespace session.ns)
  refine ⟨?_, ?_, ?_⟩
  · intro k hk hbrowse
    show ((v.syncNamespace session.ns).key session k).move = _
    rw [key_of_mem_openKeys hsynced session hk, enter, hitem, hmode, hbrowse, hkind]
  · intro k picker current hk hscope
    show ((v.syncNamespace session.ns).key session k).effect = _
    rw [key_of_mem_openKeys hsynced session hk, enter, hitem, hmode, hscope]
  · intro k c next hrune hnext
    show ((v.syncNamespace session.ns).key session k).move = _
    rw [← hkind] at hnext
    rw [key_of_shortcut? hsynced hrune hitem hnext]

/-! ## The row of the item under the cursor -/

/-- One row of a list is drawn on the background of the cursor.  It stands as far below
the heading as the cursor is from the first row of the page, and it is drawn from the item
under the cursor. -/
theorem selected_row
    {n : Nat}
    (h : v.Paged n)
    (hvisible : v.list.visible ≠ []) :
    ∃ item entry hint,
      v.selection? = some ⟨v.kind, item⟩ ∧
      v.list.visible[v.list.cursor]? = some entry ∧
      v.item? entry = some item ∧
      v.body[v.list.cursor - v.list.pageBounds.1 + 1]? =
        some (Table.row (v.cells item entry hint) true) ∧
      ∀ (i : Nat) (line : Line), v.body[i]? = some line →
        (line.IsCursorRow ↔ i = v.list.cursor - v.list.pageBounds.1 + 1) := by
  obtain ⟨item, entry, hint, hitem, hentry, hrow⟩ := body_cursor h hvisible
  have hstart := h.start_add_mod
  have hplace : v.list.cursor - v.list.pageBounds.1 = v.list.cursor % n := by
    omega
  rw [hplace]
  refine ⟨item, entry, hint, ?_, hentry, ?_, hrow, ?_⟩
  · rw [selection?, hitem]
    rfl
  · rw [selected?, FilterList.selectedIndex?, hentry] at hitem
    exact hitem
  · intro i line hline
    constructor
    · exact eq_cursor_of_isCursorRow h hvisible hline
    · rintro rfl
      rw [hrow] at hline
      rw [← Option.some.inj hline, Table.isCursorRow_row_iff]

/-! ## The use of a list -/

/-- How a list is opened. -/
inductive Opened
  | ofKind (kind : Kind)
  | ofScope (picker : PickerKind)

def opened (session : Session) : Opened → ListView
  | .ofKind kind => ofKind session kind
  | .ofScope picker => ofScope session picker

/-- What happens to a list: it answers an event in a session, or gets a size. -/
inductive Use
  | event (session : Session) (event : Event)
  | size (width height : Nat)

def use (v : ListView) : Use → ListView
  | .event session event => (v.respond session event).view
  | .size width height => v.setSize width height

def useAll (v : ListView) (uses : List Use) : ListView :=
  uses.foldl use v

/-- A list of a scope keeps the namespace in which it was opened; a list of a kind is
in the namespace of the session in which it answered last. -/
structure InUse (session : Session) (v : ListView) : Prop where
  paged : ∃ n, v.Paged n
  loaded : v.Loaded v.ns
  scope_ns : v.mode ≠ .browse → v.ns = session.ns

theorem inUse_opened (session : Session) (start : Opened) :
    (opened session start).InUse session := by
  cases start with
  | ofKind kind =>
      exact ⟨⟨_, paged_ofKind session kind⟩, ⟨rfl, rfl⟩, fun hmode => absurd rfl hmode⟩
  | ofScope picker =>
      exact ⟨⟨_, paged_ofScope session picker⟩, ⟨rfl, rfl⟩, fun _ => rfl⟩

namespace InUse

variable {session : Session}

theorem respond
    (h : v.InUse session)
    (now : Session) (event : Event) :
    (v.respond now event).view.InUse session ∧
    ((v.respond now event).view.mode = .browse →
      (v.respond now event).view.ns = now.ns) := by
  obtain ⟨n, hn⟩ := h.paged
  have hloaded := loaded_respond h.loaded now event
  have hmode : (v.respond now event).view.mode = v.mode :=
    congrArg Prod.snd (v.stays_respond now event).subject
  have hns := hloaded.ns_eq
  rw [nsIn] at hns
  refine ⟨⟨⟨n, paged_respond hn now event⟩, ⟨rfl, hloaded.items_eq⟩, ?_⟩, ?_⟩
  · rw [hmode]
    intro hscope
    rw [hns, if_neg hscope, h.scope_ns hscope]
  · rw [hmode]
    intro hbrowse
    rw [hns, if_pos hbrowse]

theorem use
    (h : v.InUse session)
    (u : Use) :
    (v.use u).InUse session := by
  cases u with
  | event now event =>
      exact (h.respond now event).1
  | size width height =>
      obtain ⟨n, hn⟩ := h.paged
      exact ⟨⟨_, paged_setSize hn width height⟩, h.loaded.setSize width height, h.scope_ns⟩

theorem useAll
    (h : v.InUse session)
    (uses : List Use) :
    (v.useAll uses).InUse session := by
  induction uses generalizing v with
  | nil =>
      exact h
  | cons u rest ih =>
      exact ih (h.use u)

end InUse

end ListView

open ListView in
/-- A list is opened in a session and used in any way, in whatever sessions; then it
answers an event.  As a list of a kind it shows the items of the kind in the namespace
of the session in which it has answered, and as a list of a scope those of the session
in which it was opened, sorted by its mode; a list of namespaces has the entry for all
of them first.  It filters the names of these items, and all its rows are rows of items.
When a row is shown, exactly one is drawn on the background of the cursor, as far below
the heading as the cursor is from the first row of its page, and from the item under the
cursor.  Without an open prompt, keys act on the item under the cursor, in any session
with the same namespace on the one drawn so, and in a session with another one on the one
that is so drawn once the list has followed. -/
theorem list_shows_its_items
    (session : Session) (start : Opened) (past : List Use) (now : Session) (event : Event) :
    let v := (((opened session start).useAll past).respond now event).view
    let items := sortItems v.sortMode (v.kind.items v.ns)
    (v.mode = .browse → v.ns = now.ns ∧ v.items = items) ∧
    (∀ current, v.mode = .scope .namespaces current →
      v.ns = session.ns ∧ v.items = allEntry v.kind :: items) ∧
    (∀ current, v.mode = .scope .contexts current → v.ns = session.ns ∧ v.items = items) ∧
    v.list.values = v.items.map (·.name) ∧
    v.list.pageBounds.1 ≤ v.list.pageBounds.2 ∧
    v.list.pageBounds.2 ≤ v.list.visible.length ∧
    (∀ entry ∈ v.list.visible, (v.item? entry).isSome) ∧
    (v.list.visible ≠ [] →
      ∃ item entry hint,
        v.selection? = some ⟨v.kind, item⟩ ∧
        v.list.visible[v.list.cursor]? = some entry ∧
        v.item? entry = some item ∧
        v.body[v.list.cursor - v.list.pageBounds.1 + 1]? =
          some (Table.row (v.cells item entry hint) true) ∧
        ∀ (i : Nat) (line : Line), v.body[i]? = some line →
          (line.IsCursorRow ↔ i = v.list.cursor - v.list.pageBounds.1 + 1)) ∧
    (v.takesAllKeys = false → ∀ (later : Session) (item : Item),
      (v.syncNamespace later.ns).selected? = some item → v.ActsOn later item) ∧
    ∀ later : Session, later.ns = now.ns → v.syncNamespace later.ns = v := by
  intro v items
  have hpast := (inUse_opened session start).useAll past
  obtain ⟨hv, hbrowse⟩ := hpast.respond now event
  change v.InUse session at hv
  obtain ⟨n, hn⟩ := hv.paged
  have hitems := hv.loaded.items_eq
  rw [loaded] at hitems
  obtain ⟨hstart, hstop, -⟩ := Select.FilterList.Paged.bounds hn
  refine ⟨?_, ?_, ?_, hn.values_eq, hstart, hstop, ?_, selected_row hn, ?_, ?_⟩
  · intro hmode
    rw [hmode] at hitems
    exact ⟨hbrowse hmode, hitems⟩
  · intro current hmode
    rw [hmode] at hitems
    exact ⟨hv.scope_ns (by simp [hmode]), hitems⟩
  · intro current hmode
    rw [hmode] at hitems
    exact ⟨hv.scope_ns (by simp [hmode]), hitems⟩
  · intro entry hentry
    exact item?_isSome_of_mem_visible hn hentry
  · intro hkeys later item hitem
    exact actsOn_selected hkeys hitem
  · intro later hns
    apply syncNamespace_eq_self
    intro hmode
    rw [hns, hbrowse hmode]

end ClusterNav
