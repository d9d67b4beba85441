import ClusterNav.View.Browser
import ClusterNav.View.List

/-!
# What a table answers to a key

The list of a kind and the table of kinds read many keys, but there are only so many
things they do with them.  Whatever is to be shown of their answers is shown once for
each of these.

**Results.**
* `ListView.keyAnswer_key`: all that a list may answer to a key.
* `BrowserView.keyAnswer_key`: all that the table of kinds may answer.
-/

namespace ClusterNav

/-! ## Lists -/

namespace ListView

variable (v : ListView)

/-- What a list may answer to a key. -/
inductive KeyAnswer (session : Session) (k : Key) : Response ListView → Prop
  | edits (filtering : v.list.isFiltering = true) :
      KeyAnswer session k { view := { v with list := v.list.editKey k } }
  | finds (finding : v.findArmed = true) :
      KeyAnswer session k { view := v.find k }
  | opensFilter : KeyAnswer session k { view := { v with list := v.list.startFilter } }
  | armsFind : KeyAnswer session k { view := { v with findArmed := true } }
  | sorts : KeyAnswer session k { view := v.cycleSort }
  | opensColumns : KeyAnswer session k { view := v, move := .push (.columns v.columnChoice) }
  | clearsFilter : KeyAnswer session k { view := { v with list := v.list.clearFilter } }
  | leaves : KeyAnswer session k { view := v, move := .pop }
  | opensItem (item : Item) : KeyAnswer session k { view := v, move := .push (.detail v.kind item) }
  | selects (picker : PickerKind) (item : Item) :
      KeyAnswer session k { view := v, effect := some (.emit (.selected picker item.name)) }
  | moves {list : Select.FilterList} (cursor : v.list.cursorKey? k = some list) :
      KeyAnswer session k { view := { v with list := list } }
  | follows {s : Selection} {next : Destination} (shortcut : s.keyShortcut? session k = some next) :
      KeyAnswer session k { view := v, move := .push next }
  | ignores : KeyAnswer session k { view := v }

variable (session : Session) (k : Key)

theorem keyAnswer_leave : v.KeyAnswer session k v.leave := by
  unfold leave
  split
  · exact .clearsFilter
  · exact .leaves

theorem keyAnswer_enter : v.KeyAnswer session k v.enter := by
  unfold enter
  split
  · exact .ignores
  · exact .opensItem _
  · exact .selects _ _

theorem keyAnswer_otherKey : v.KeyAnswer session k (v.otherKey session k) := by
  unfold otherKey
  split
  · rename_i hcursor
    exact .moves hcursor
  · split
    · rename_i hnext
      obtain ⟨s, -, hshortcut⟩ := Option.bind_eq_some_iff.mp hnext
      exact .follows hshortcut
    · exact .ignores

theorem keyAnswer_key : v.KeyAnswer session k (v.key session k) := by
  unfold key
  split
  · rename_i hfiltering
    exact .edits hfiltering
  split
  · rename_i hfinding
    exact .finds hfinding
  split
  · exact .opensFilter
  · exact .armsFind
  · exact .sorts
  · exact .opensColumns
  · exact v.keyAnswer_leave session k
  -- Three keys open the item under the cursor.
  iterate 3
    · exact v.keyAnswer_enter session k
  · exact v.keyAnswer_otherKey session k

end ListView

/-! ## The table of kinds -/

namespace BrowserView

variable (v : BrowserView)

/-- What the table of kinds may answer to a key. -/
inductive KeyAnswer (k : Key) : Response BrowserView → Prop
  | edits (filtering : v.list.isFiltering = true) :
      KeyAnswer k { view := { v with list := v.list.editKey k } }
  | finds (finding : v.findArmed = true) :
      KeyAnswer k { view := v.find k }
  | opensFilter : KeyAnswer k { view := { v with list := v.list.startFilter } }
  | armsFind : KeyAnswer k { view := { v with findArmed := true } }
  | clearsFilter : KeyAnswer k { view := { v with list := v.list.clearFilter } }
  | leaves : KeyAnswer k { view := v, move := .pop }
  | opensKind {kind : Kind} (listed : kind ∈ v.kinds) :
      KeyAnswer k { view := v, move := .push (.list kind) }
  | moves : KeyAnswer k { view := { v with list := v.list.cursorKey k } }
  | ignores : KeyAnswer k { view := v }

variable (k : Key)

theorem keyAnswer_leave : v.KeyAnswer k v.leave := by
  unfold leave
  split
  · exact .clearsFilter
  · exact .leaves

theorem keyAnswer_enter : v.KeyAnswer k v.enter := by
  unfold enter
  split
  · rename_i kind hkind
    obtain ⟨index, -, hindex⟩ := Option.bind_eq_some_iff.mp hkind
    exact .opensKind (List.mem_of_getElem? hindex)
  · exact .ignores

theorem keyAnswer_key : v.KeyAnswer k (v.key k) := by
  unfold key
  split
  · rename_i hfiltering
    exact .edits hfiltering
  split
  · rename_i hfinding
    exact .finds hfinding
  split
  · exact v.keyAnswer_leave k
  · exact .opensFilter
  · exact .armsFind
  -- Three keys open the kind under the cursor.
  iterate 3
    · exact v.keyAnswer_enter k
  · exact .moves

end BrowserView
end ClusterNav
