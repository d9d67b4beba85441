import ClusterNav.Proofs.ItemOrder
import ClusterNav.Proofs.ListItems
import Mathlib.Tactic.SplitIfs

/-!
# The selection of a sorted list

The key that sorts a list goes on to the next sort mode of the kind.  The list then puts
its cursor on the first item that has the name of the one selected before.  Where other
items have this name, as they may in other namespaces, that can be one of them, and
which one comes first is up to the sort mode.  So the selection is kept just where the
order of the items of one name lets it.

**Results.**
* `ListView.selected?_selectName`: what a list selects by a name.
* `ListView.Resorted.press`: what one press of the key keeps.
* `sorted_selection_kept_iff`: when sorting keeps the selection, for all lists in use.
-/

namespace ClusterNav

open Select

namespace Select.FilterList

variable {l : FilterList} {p : FilterMatch → Bool} {entry : FilterMatch}

/-- To select the first row of a property is to find it among the rows. -/
theorem selectedIndex?_selectFirst
    (h : l.visible.find? p = some entry) :
    (l.selectFirst p).selectedIndex? = some entry.index := by
  rw [List.find?_eq_bind_findIdx?_getElem?] at h
  obtain ⟨position, hposition, hentry⟩ := Option.bind_eq_some_iff.mp h
  have hlt := (List.getElem?_eq_some_iff.mp hentry).1
  have hcursor : min position (l.visible.length - 1) = position := by
    omega
  rw [selectFirst, hposition]
  change l.visible[min position (l.visible.length - 1)]?.map (·.index) = _
  rw [hcursor, hentry]
  rfl

end Select.FilterList

namespace ListView

variable {v w : ListView} {n : Nat} {name : String} {item : Item}

/-! ## Selecting by name -/

/-- The first item of a name. -/
def firstNamed? (items : List Item) (name : String) : Option Item :=
  items.find? (·.name == name)

/-- The item under the cursor is one of the items, and its name matches the filter. -/
theorem matches_of_selected?
    (h : v.Paged n)
    (hitem : v.selected? = some item) :
    item ∈ v.items ∧ (matchPositions? item.name v.list.filter).isSome = true := by
  obtain ⟨index, hindex, hitem⟩ := Option.bind_eq_some_iff.mp hitem
  obtain ⟨entry, hentry, rfl⟩ := Option.map_eq_some_iff.mp hindex
  have hmem := List.mem_of_getElem? hentry
  rw [h.visible_eq, FilterList.mem_matchesFrom_iff, List.getElem?_map, hitem] at hmem
  obtain ⟨value, hvalue, hpositions⟩ := hmem
  obtain rfl : item.name = value := Option.some.inj hvalue
  exact ⟨List.mem_of_getElem? hitem, by rw [hpositions]; rfl⟩

/-- The rows are in the order of the items, so the first row of a name is that of the
first item of the name. -/
theorem find?_isNamed
    (h : v.Paged n)
    (hmatches : (matchPositions? name v.list.filter).isSome = true)
    (hfirst : firstNamed? v.items name = some item) :
    ∃ entry, v.list.visible.find? (v.isNamed name) = some entry ∧ v.item? entry = some item := by
  obtain ⟨positions, hpositions⟩ := Option.isSome_iff_exists.mp hmatches
  obtain ⟨hname, before, after, hitems, hbefore⟩ := List.find?_eq_some_iff_append.mp hfirst
  have hitem : v.items[before.length]? = some item := by
    rw [hitems, List.getElem?_append_right (Nat.le_refl _), Nat.sub_self]
    rfl
  refine ⟨⟨before.length, positions⟩, ?_, hitem⟩
  have hmem : ⟨before.length, positions⟩ ∈ v.list.visible := by
    rw [h.visible_eq, FilterList.mem_matchesFrom_iff]
    refine ⟨name, ?_, hpositions⟩
    rw [List.getElem?_map, hitem, Option.map_some, beq_iff_eq.mp hname]
  obtain ⟨above, below, hvisible⟩ := List.append_of_mem hmem
  rw [List.find?_eq_some_iff_append]
  refine ⟨by rw [isNamed, item?, hitem]; exact hname, above, below, hvisible, ?_⟩
  intro entry hentry
  have horder := FilterList.pairwise_matchesFrom v.list.filter 0 (v.items.map (·.name))
  rw [← h.visible_eq, hvisible, List.pairwise_append] at horder
  have hlt : entry.index < before.length := horder.2.2 entry hentry _ List.mem_cons_self
  have hother : v.item? entry = some before[entry.index] := by
    rw [item?, hitems, List.getElem?_append_left hlt, List.getElem?_eq_getElem hlt]
  rw [isNamed, hother]
  exact hbefore _ (List.getElem_mem hlt)

/-- By a name a list selects the first item that has it. -/
theorem selected?_selectName
    (h : v.Paged n)
    (hmatches : (matchPositions? name v.list.filter).isSome = true)
    (hfirst : firstNamed? v.items name = some item) :
    (v.selectName name).selected? = some item := by
  obtain ⟨entry, hentry, hitem⟩ := find?_isNamed h hmatches hfirst
  rw [selected?, selectName, FilterList.selectedIndex?_selectFirst hentry]
  exact hitem

/-! ## The sort mode -/

/-- The place of the sort mode is one of those that there are. -/
def InCycle (v : ListView) : Prop :=
  v.sortIndex % v.kind.sortModes.length = v.sortIndex

theorem inCycle_cycleSort
    (h : v.InCycle) :
    v.cycleSort.InCycle := by
  have hmodes : v.cycleSort.kind = v.kind := congrArg Prod.fst v.subject_cycleSort
  unfold InCycle
  rw [hmodes]
  unfold cycleSort
  split
  · exact h
  · split <;> exact Nat.mod_mod _ _

theorem InCycle.syncNamespace
    (h : v.InCycle)
    (ns : NamespaceScope) :
    (v.syncNamespace ns).InCycle := by
  unfold ListView.syncNamespace
  split <;> exact h

theorem InCycle.respond
    (h : v.InCycle)
    (session : Session) (event : Event) :
    (v.respond session event).view.InCycle := by
  have hsync := h.syncNamespace session.ns
  cases event with
  | key k =>
      change ((v.syncNamespace session.ns).key session k).view.InCycle
      rcases (v.syncNamespace session.ns).view_key session k with hsort | ⟨list, armed, hmoves⟩
      · rw [hsort]
        exact inCycle_cycleSort hsync
      · rw [hmoves]
        exact hsync
  | resize width height | message m =>
      exact hsync

theorem InCycle.useAll
    (h : v.InCycle)
    (uses : List Use) :
    (v.useAll uses).InCycle := by
  induction uses generalizing v with
  | nil =>
      exact h
  | cons use uses ih =>
      cases use with
      | event session event =>
          exact ih (h.respond session event)
      | size width height =>
          exact ih h

theorem inCycle_opened (session : Session) (start : Opened) : (opened session start).InCycle := by
  cases start <;> exact Nat.zero_mod _

/-! ## What sorting keeps -/

/-- The lists are the same in all that sorting leaves as it is. -/
structure Alike (v w : ListView) : Prop where
  kind : w.kind = v.kind
  mode : w.mode = v.mode
  ns : w.ns = v.ns
  filter : w.list.filter = v.list.filter
  state : w.list.state = v.list.state
  findArmed : w.findArmed = v.findArmed

namespace Alike

theorem refl (v : ListView) : v.Alike v :=
  ⟨rfl, rfl, rfl, rfl, rfl, rfl⟩

theorem trans
    {u : ListView}
    (h : u.Alike v)
    (h' : v.Alike w) :
    u.Alike w :=
  ⟨h'.kind.trans h.kind, h'.mode.trans h.mode, h'.ns.trans h.ns, h'.filter.trans h.filter,
    h'.state.trans h.state, h'.findArmed.trans h.findArmed⟩

variable (h : v.Alike w)
include h

theorem takesAllKeys : w.takesAllKeys = v.takesAllKeys := by
  rw [ListView.takesAllKeys, ListView.takesAllKeys, FilterList.isFiltering, FilterList.isFiltering,
    h.state, h.findArmed]

/-- The items of a list are the same in all sort modes, up to their order. -/
theorem loaded_perm : w.loaded.Perm v.loaded := by
  have hsorted : (sortItems w.sortMode (v.kind.items v.ns)).Perm
      (sortItems v.sortMode (v.kind.items v.ns)) :=
    (SortMode.sortItems_perm _ _).trans (SortMode.sortItems_perm _ _).symm
  rw [loaded, loaded, h.kind, h.mode, h.ns]
  split
  · exact hsorted.cons _
  · exact hsorted

theorem sortMode_eq
    (hsort : w.sortIndex = v.sortIndex) :
    w.sortMode = v.sortMode := by
  rw [sortMode, sortMode, h.kind, hsort]

/-- The items and their order are those of the sort mode. -/
theorem loaded_eq
    (hsort : w.sortIndex = v.sortIndex) :
    w.loaded = v.loaded := by
  rw [loaded, loaded, h.sortMode_eq hsort, h.kind, h.mode, h.ns]

end Alike

theorem alike_selectName (v : ListView) (name : String) : v.Alike (v.selectName name) := by
  unfold selectName FilterList.selectFirst
  split <;> exact ⟨rfl, rfl, rfl, rfl, rfl, rfl⟩

theorem alike_cycleSort (v : ListView) : v.Alike v.cycleSort := by
  let sorted := { v with sortIndex := (v.sortIndex + 1) % v.kind.sortModes.length }.reload
  have hsorted : v.Alike sorted := ⟨rfl, rfl, rfl, rfl, rfl, rfl⟩
  unfold cycleSort
  split
  · exact .refl v
  · dsimp only
    split
    · exact hsorted.trans (alike_selectName _ _)
    · exact hsorted

/-! ## One press and many -/

/-- The list after so many presses of the key that sorts it. -/
def resorted (v : ListView) (now : Session) (presses : Nat) : ListView :=
  v.useAll (List.replicate presses (.event now (.key ⟨"s"⟩)))

theorem resorted_succ (v : ListView) (now : Session) (presses : Nat) :
    v.resorted now (presses + 1) =
      ((v.resorted now presses).respond now (.key ⟨"s"⟩)).view := by
  rw [resorted, List.replicate_succ', useAll, List.foldl_append]
  rfl

/-- In the namespace of the session the key only sorts, and the columns are taken from
the store again. -/
theorem respond_sort
    (hkeys : v.takesAllKeys = false)
    (now : Session)
    (hns : v.mode = .browse → v.ns = now.ns) :
    (v.respond now (.key ⟨"s"⟩)).view = v.cycleSort.refreshColumns now.columns := by
  have hsort : v.key now ⟨"s"⟩ = { view := v.cycleSort } := by
    rw [takesAllKeys, Bool.or_eq_false_iff] at hkeys
    rw [key, if_neg (by simp [hkeys.1]), if_neg (by simp [hkeys.2])]
    rfl
  rw [respond, syncNamespace_eq_self hns, hsort]
  rfl

/-- A list after some presses of the key, while an item of this name was selected. -/
structure Resorted (v : ListView) (name : String) (presses : Nat) (w : ListView) : Prop where
  alike : v.Alike w
  sortIndex_eq : w.sortIndex = (v.sortIndex + presses) % v.kind.sortModes.length
  items_eq : w.items = w.loaded
  paged : ∃ n, w.Paged n
  selected : ∃ found, w.selected? = some found ∧ found.name = name
  first : 0 < presses → w.selected? = firstNamed? w.items name

namespace Resorted

variable {now : Session} {presses : Nat}

theorem items_perm
    (h : Resorted v name presses w)
    (hloaded : v.items = v.loaded) :
    w.items.Perm v.items := by
  rw [h.items_eq, hloaded]
  exact h.alike.loaded_perm

/-- To sort once more selects the first item of the name in the next order. -/
theorem cycleSort
    (h : Resorted v name presses w)
    (hmodes : v.kind.sortModes ≠ []) :
    Resorted v name (presses + 1) w.cycleSort := by
  obtain ⟨n, hpaged⟩ := h.paged
  obtain ⟨item, hitem, rfl⟩ := h.selected
  obtain ⟨hmem, hmatches⟩ := matches_of_selected? hpaged hitem
  have hkind := h.alike.kind
  let next : ListView := { w with sortIndex := (w.sortIndex + 1) % w.kind.sortModes.length }
  have hcycle : w.cycleSort = next.reload.selectName item.name := by
    rw [ListView.cycleSort, if_neg (by simpa [hkind] using hmodes), hitem]
  have hperm : next.loaded.Perm w.items := by
    have halike : w.Alike next := ⟨rfl, rfl, rfl, rfl, rfl, rfl⟩
    rw [h.items_eq]
    exact halike.loaded_perm
  obtain ⟨found, hfound⟩ : ∃ found, firstNamed? next.loaded item.name = some found := by
    apply Option.isSome_iff_exists.mp
    rw [firstNamed?, List.find?_isSome]
    exact ⟨item, hperm.mem_iff.mpr hmem, beq_self_eq_true _⟩
  have hselected : w.cycleSort.selected? = some found := by
    rw [hcycle]
    exact selected?_selectName (paged_reload (show next.Paged n from hpaged)) hmatches hfound
  refine ⟨h.alike.trans (alike_cycleSort w), ?_, ?_, ⟨n, paged_cycleSort hpaged⟩, ?_, ?_⟩
  · rw [hcycle]
    change (w.sortIndex + 1) % w.kind.sortModes.length = _
    rw [hkind, h.sortIndex_eq, Nat.mod_add_mod, Nat.add_assoc]
  · rw [hcycle]
    rfl
  · rw [firstNamed?] at hfound
    exact ⟨found, hselected, by simpa using List.find?_some hfound⟩
  · intro _
    rw [hselected, hcycle]
    exact hfound.symm

theorem refreshColumns
    (h : Resorted v name presses w)
    (store : ColumnStore) :
    Resorted v name presses (w.refreshColumns store) :=
  ⟨h.alike.trans ⟨rfl, rfl, rfl, rfl, rfl, rfl⟩, h.sortIndex_eq, h.items_eq, h.paged, h.selected,
    h.first⟩

/-- One press of the key. -/
theorem press
    (h : Resorted v name presses w)
    (hmodes : v.kind.sortModes ≠ [])
    (hkeys : v.takesAllKeys = false)
    (hns : v.mode = .browse → v.ns = now.ns) :
    Resorted v name (presses + 1) (w.respond now (.key ⟨"s"⟩)).view := by
  rw [respond_sort (h.alike.takesAllKeys.trans hkeys) now
    (by rw [h.alike.mode, h.alike.ns]; exact hns)]
  exact (h.cycleSort hmodes).refreshColumns now.columns

end Resorted

/-! ## Lists in use -/

/-- A list in use that reads keys as keys, in the namespace of the session, on an item. -/
structure Ready (v : ListView) (now : Session) (item : Item) : Prop where
  paged : ∃ n, v.Paged n
  items_eq : v.items = v.loaded
  inCycle : v.InCycle
  keys : v.takesAllKeys = false
  ns_eq : v.mode = .browse → v.ns = now.ns
  selected : v.selected? = some item

namespace Ready

variable {now : Session}

/-- A list in use is ready once it has followed its session. -/
theorem of_use
    (session : Session) (start : Opened) (past : List Use)
    (hv : v = ((opened session start).useAll past).syncNamespace now.ns)
    (hkeys : v.takesAllKeys = false)
    (hitem : v.selected? = some item) :
    v.Ready now item := by
  have huse := (inUse_opened session start).useAll past
  have hcycle := (inCycle_opened session start).useAll past
  generalize (opened session start).useAll past = u at hv huse hcycle
  subst hv
  obtain ⟨n, hpaged⟩ := huse.paged
  have hsync := huse.loaded.syncNamespace now
  have hmode : (u.syncNamespace now.ns).mode = u.mode :=
    congrArg Prod.snd (u.subject_syncNamespace now.ns)
  refine ⟨⟨n, paged_syncNamespace hpaged now.ns⟩, hsync.items_eq, hcycle.syncNamespace now.ns,
    hkeys, ?_, hitem⟩
  intro hbrowse
  rw [hsync.ns_eq, nsIn, if_pos (hmode ▸ hbrowse)]

variable (h : v.Ready now item)
include h

/-- Any number of presses, where there are sort modes. -/
theorem resorted
    (hmodes : v.kind.sortModes ≠ [])
    (presses : Nat) :
    Resorted v item.name presses (v.resorted now presses) := by
  induction presses with
  | zero =>
      exact ⟨.refl v, h.inCycle.symm, h.items_eq, h.paged, ⟨item, h.selected, rfl⟩, nofun⟩
  | succ presses ih =>
      rw [resorted_succ]
      exact ih.press hmodes h.keys h.ns_eq

/-- Without sort modes the key does nothing. -/
theorem resorted_of_sortModes_eq_nil
    (hmodes : v.kind.sortModes = [])
    (presses : Nat) :
    ∃ columns custom,
      v.resorted now presses = { v with columns := columns, customColumns := custom } := by
  induction presses with
  | zero =>
      exact ⟨_, _, rfl⟩
  | succ presses ih =>
      obtain ⟨columns, custom, hv⟩ := ih
      let w : ListView := { v with columns := columns, customColumns := custom }
      have hw : w.cycleSort = w := by
        rw [ListView.cycleSort, if_pos (by simpa [w] using hmodes)]
      have hpress := respond_sort (show w.takesAllKeys = false from h.keys) now h.ns_eq
      rw [hw] at hpress
      rw [resorted_succ, hv, hpress]
      exact ⟨_, _, rfl⟩

/-- The key keeps all but the order, and the name of the selected item. -/
theorem kept (presses : Nat) :
    let w := v.resorted now presses
    v.Alike w ∧ w.items.Perm v.items ∧
    ∃ found ∈ w.items, w.selected? = some found ∧ found.name = item.name := by
  intro w
  by_cases hmodes : v.kind.sortModes = []
  · obtain ⟨columns, custom, hw⟩ := h.resorted_of_sortModes_eq_nil hmodes presses
    have hv : w = { v with columns := columns, customColumns := custom } := hw
    obtain ⟨n, hpaged⟩ := h.paged
    rw [hv]
    exact ⟨⟨rfl, rfl, rfl, rfl, rfl, rfl⟩, List.Perm.refl _, item,
      (matches_of_selected? hpaged h.selected).1, h.selected, rfl⟩
  · have hw : Resorted v item.name presses w := h.resorted hmodes presses
    obtain ⟨n, hpaged⟩ := hw.paged
    obtain ⟨found, hfound, hname⟩ := hw.selected
    exact ⟨hw.alike, hw.items_perm h.items_eq, found, (matches_of_selected? hpaged hfound).1,
      hfound, hname⟩

/-- As many presses as there are sort modes bring back the mode, the order and the rows. -/
theorem round :
    let w := v.resorted now v.kind.sortModes.length
    w.sortMode = v.sortMode ∧ w.items = v.items ∧ w.list.visible = v.list.visible := by
  intro w
  by_cases hmodes : v.kind.sortModes = []
  · obtain ⟨columns, custom, hw⟩ := h.resorted_of_sortModes_eq_nil hmodes v.kind.sortModes.length
    have hv : w = { v with columns := columns, customColumns := custom } := hw
    rw [hv]
    exact ⟨rfl, rfl, rfl⟩
  · have hw : Resorted v item.name v.kind.sortModes.length w := h.resorted hmodes _
    have hsort : w.sortIndex = v.sortIndex := by
      rw [hw.sortIndex_eq, Nat.add_mod_right, h.inCycle]
    have hitems : w.items = v.items := by
      rw [hw.items_eq, h.items_eq, hw.alike.loaded_eq hsort]
    obtain ⟨m, hpaged⟩ := h.paged
    obtain ⟨m', hpaged'⟩ := hw.paged
    refine ⟨hw.alike.sortMode_eq hsort, hitems, ?_⟩
    rw [hpaged'.visible_eq, hpaged.visible_eq, hw.alike.filter, hitems]

/-- When one press keeps the name and the namespace, and a round of presses the item. -/
theorem selection_kept_iff :
    ((∃ found, (v.resorted now 1).selected? = some found ∧ found.name = item.name ∧
        found.ns = item.ns) ∧
      (v.resorted now v.kind.sortModes.length).selected? = some item) ↔
    v.kind.sortModes = [] ∨
      (∃ found, firstNamed? (v.resorted now 1).items item.name = some found ∧
        found.ns = item.ns) ∧
      firstNamed? v.items item.name = some item := by
  by_cases hmodes : v.kind.sortModes = []
  · have hselected (presses : Nat) : (v.resorted now presses).selected? = some item := by
      obtain ⟨columns, custom, hw⟩ := h.resorted_of_sortModes_eq_nil hmodes presses
      rw [hw]
      exact h.selected
    exact iff_of_true ⟨⟨item, hselected 1, rfl, rfl⟩, hselected _⟩ (.inl hmodes)
  · have hround := (h.resorted hmodes v.kind.sortModes.length).first
      (List.length_pos_iff.mpr hmodes)
    rw [h.round.2.1] at hround
    rw [hround, ← (h.resorted hmodes 1).first Nat.one_pos]
    constructor
    · rintro ⟨⟨found, hfound, -, hns⟩, hitem⟩
      exact .inr ⟨⟨found, hfound, hns⟩, hitem⟩
    · rintro (hnone | ⟨⟨found, hfound, hns⟩, hitem⟩)
      · exact absurd hnone hmodes
      · obtain ⟨other, hother, hname⟩ := (h.resorted hmodes 1).selected
        obtain rfl : found = other := Option.some.inj (hfound.symm.trans hother)
        exact ⟨⟨found, hfound, hname, hns⟩, hitem⟩

end Ready

/-! ## Two items of one name -/

/-- A cache of nine days in one namespace. -/
def oldCache : Item := { name := "cache", ns := "default", age := "9d" }

/-- A cache of two days in another. -/
def newCache : Item := { name := "cache", ns := "payments", age := "2d" }

/-- The kind of the two caches. -/
def caches : Kind where
  name := "caches"
  tag := "CACHE"
  items scope := [oldCache, newCache].filter fun item => scope.holds item.ns
  yaml _ := ""

/-- A session that looks at some namespaces. -/
def lookingAt (ns : NamespaceScope) : Session :=
  { Session.ofRegistry .standard .empty with ns := ns }

/-- By name the old cache comes first, by age the new one. -/
theorem loaded_caches
    (hkind : v.kind = caches)
    (hmode : v.mode = .browse)
    (hns : v.ns = .all) :
    v.loaded = if v.sortMode = .age then [newCache, oldCache] else [oldCache, newCache] := by
  have hitems : caches.items .all = [oldCache, newCache] := by
    rfl
  rw [loaded, hmode, hkind, hns, hitems, SortMode.sortItems_pair]
  cases v.sortMode <;> decide +kernel

/-- The list of all caches is ready on the old one. -/
theorem ready_caches : (ofKind (lookingAt .all) caches).Ready (lookingAt .all) oldCache := by
  have hloaded := loaded_caches (v := unloaded caches .browse .all) rfl rfl rfl
  apply Ready.of_use (lookingAt .all) (.ofKind caches) []
  · exact (syncNamespace_eq_self fun _ => rfl).symm
  · rfl
  · change ((unloaded caches .browse .all).reload).selected? = _
    rw [reload, hloaded]
    decide +kernel

/-- What is selected of the caches is settled by the sort mode. -/
theorem Ready.selected?_resorted_caches
    (h : v.Ready (lookingAt .all) item)
    (hkind : v.kind = caches)
    (hmode : v.mode = .browse)
    (hname : item.name = "cache")
    {presses : Nat}
    (hpresses : 0 < presses) :
    (v.resorted (lookingAt .all) presses).selected? =
      some (if (v.sortIndex + presses) % 2 = 1 then newCache else oldCache) := by
  have hw := h.resorted (by rw [hkind]; decide) presses
  have hkind' := hw.alike.kind.trans hkind
  have hloaded := loaded_caches hkind' (hw.alike.mode.trans hmode)
    (hw.alike.ns.trans (h.ns_eq hmode))
  have hsort := hw.sortIndex_eq
  rw [hkind] at hsort
  rw [hw.first hpresses, hw.items_eq, hloaded, sortMode, hkind', hsort, hname]
  change firstNamed? (if ([SortMode.name, .age][(v.sortIndex + presses) % 2]?).getD .name = .age
    then _ else _) _ = _
  rcases Nat.mod_two_eq_zero_or_one (v.sortIndex + presses) with hmod | hmod <;> rw [hmod] <;> rfl

end ListView

open ListView

/-- A list is opened in a session and used in any way, and then answers in a session; let
it read keys as keys, and let an item be selected.  However often the key that sorts it
is pressed: it shows the same items under the same filter in the order of the next mode,
and an item of the same name is selected, the first one there is in that order.  With as
many presses as there are modes, the mode, the order and the rows are what they were.

One press keeps the name and the namespace of the selected item, and that many presses
bring back the item, exactly if there are no modes, or the first item of the name in the
next order is in the same namespace and the selected item is the first of its name in
the present order.  An item that shares its name with no other is always kept. -/
theorem sorted_selection_kept_iff
    (session : Session) (start : Opened) (past : List Use) (now : Session)
    (v : ListView) (item : Item)
    (hv : v = ((opened session start).useAll past).syncNamespace now.ns)
    (hkeys : v.takesAllKeys = false)
    (hitem : v.selected? = some item) :
    let modes := v.kind.sortModes
    let next := v.resorted now 1
    let round := v.resorted now modes.length
    (∀ presses, let w := v.resorted now presses
      w.takesAllKeys = false ∧ w.list.filter = v.list.filter ∧ w.items.Perm v.items ∧
      (∃ found, w.selected? = some found ∧ found.name = item.name) ∧
      (modes ≠ [] → w.sortIndex = (v.sortIndex + presses) % modes.length ∧
        (0 < presses → w.selected? = firstNamed? w.items item.name))) ∧
    (round.sortMode = v.sortMode ∧ round.items = v.items ∧
      round.list.visible = v.list.visible) ∧
    (((∃ found, next.selected? = some found ∧ found.name = item.name ∧ found.ns = item.ns) ∧
        round.selected? = some item) ↔
      modes = [] ∨
        (∃ found, firstNamed? next.items item.name = some found ∧ found.ns = item.ns) ∧
        firstNamed? v.items item.name = some item) ∧
    ((∀ other ∈ v.items, other.name = item.name → other = item) →
      ∀ presses, (v.resorted now presses).selected? = some item) := by
  intro modes next round
  have h : v.Ready now item := .of_use session start past hv hkeys hitem
  refine ⟨?_, h.round, h.selection_kept_iff, ?_⟩
  · intro presses w
    obtain ⟨halike, hperm, found, -, hselected⟩ := h.kept presses
    refine ⟨halike.takesAllKeys.trans hkeys, halike.filter, hperm, ⟨found, hselected⟩, ?_⟩
    intro hmodes
    have hw := h.resorted hmodes presses
    exact ⟨hw.sortIndex_eq, hw.first⟩
  · intro hsole presses
    obtain ⟨-, hperm, found, hmem, hfound, hname⟩ := h.kept presses
    rw [hfound, hsole found (hperm.mem_iff.mp hmem) hname]

/-- With one cache to see, sorting keeps it, however often. -/
theorem sorted_selection_kept_iff_cache :
    let session := lookingAt (.named "payments")
    let v := ofKind session caches
    v.takesAllKeys = false ∧ v.selected? = some newCache ∧
    ∀ presses, (v.resorted session presses).selected? = some newCache := by
  intro session v
  have hloaded : (unloaded caches .browse (.named "payments")).loaded = [newCache] := by
    rw [loaded, sortItems]
    exact List.mergeSort_singleton _
  have hv : v = ((opened session (.ofKind caches)).useAll []).syncNamespace session.ns :=
    (syncNamespace_eq_self fun _ => rfl).symm
  have hitem : v.selected? = some newCache := by
    change ((unloaded caches .browse (.named "payments")).reload).selected? = _
    rw [reload, hloaded]
    decide +kernel
  obtain ⟨-, -, -, hkept⟩ :=
    sorted_selection_kept_iff session (.ofKind caches) [] session v newCache hv rfl hitem
  refine ⟨rfl, hitem, hkept ?_⟩
  intro other hother _
  change other ∈ (unloaded caches .browse (.named "payments")).loaded at hother
  rw [hloaded] at hother
  exact List.mem_singleton.mp hother

/-- One press leads from the old cache to the new one in another namespace, and as many
presses as there are sort modes lead from the new one to the old one. -/
theorem sorting_leaves_namespace :
    let session := lookingAt .all
    let v := ofKind session caches
    let w := v.useAll [.event session (.key ⟨"j"⟩)]
    v.takesAllKeys = false ∧ v.selected? = some oldCache ∧
    (v.resorted session 1).selected? = some newCache ∧ newCache.ns ≠ oldCache.ns ∧
    w.takesAllKeys = false ∧ w.selected? = some newCache ∧
    (w.resorted session caches.sortModes.length).selected? = some oldCache := by
  intro session v w
  have hv : v.Ready session oldCache := ready_caches
  have hselected : w.selected? = some newCache := by
    have hloaded := loaded_caches (v := unloaded caches .browse .all) rfl rfl rfl
    change (((unloaded caches .browse .all).reload.refreshColumns .empty).respond session
      (.key ⟨"j"⟩)).view.selected? = _
    rw [reload, hloaded]
    decide +kernel
  have hw : w.Ready session newCache :=
    .of_use session (.ofKind caches) [.event session (.key ⟨"j"⟩)]
      (syncNamespace_eq_self fun _ => rfl).symm rfl hselected
  have hsort : w.sortIndex = 0 := rfl
  have hround := hw.selected?_resorted_caches rfl rfl rfl Nat.two_pos
  rw [hsort] at hround
  exact ⟨rfl, hv.selected, hv.selected?_resorted_caches rfl rfl rfl Nat.one_pos, by decide, hw.keys,
    hw.selected, hround⟩

end ClusterNav
