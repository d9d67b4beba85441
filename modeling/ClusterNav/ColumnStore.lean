import ClusterNav.Item

/-!
# Chosen columns

For each kind name, the ids of the columns the user chose.  A kind without a choice shows the columns
its pool shows by default.  Whatever was chosen, the name column is there and comes first.
-/

namespace ClusterNav

/-- The column choices of a session. -/
structure ColumnStore where
  choices : Dict (List String) := .empty
deriving Repr, DecidableEq

namespace ColumnStore

/-- The id of the column that cannot be removed. -/
def nameId : String := "name"

/-- No kind has a choice. -/
def empty : ColumnStore := {}

instance : Inhabited ColumnStore := ⟨empty⟩

/-- The ids without those seen before, each once, in the order of first occurrence. -/
def distinctAfter (seen : List String) : List String → List String
  | [] => []
  | id :: rest =>
    if seen.contains id then distinctAfter seen rest
    else id :: distinctAfter (id :: seen) rest

/-- Stores a choice: the name column, then the other ids, each once. -/
def set (store : ColumnStore) (kind : String) (ids : List String) : ColumnStore :=
  ⟨store.choices.insert kind (nameId :: distinctAfter [nameId] ids)⟩

def reset (store : ColumnStore) (kind : String) : ColumnStore :=
  ⟨store.choices.erase kind⟩

/-- Is there a choice for the kind? -/
def isCustom (store : ColumnStore) (kind : String) : Bool :=
  store.choices.contains kind

/-- The key of a label column, when the id is one and the key is not empty. -/
def labelKey? (id : String) : Option String :=
  let cs := id.toList
  let start := (Item.labelId "").toList
  if start.isPrefixOf cs && start.length < cs.length then
    some (String.ofList (cs.drop start.length))
  else none

/-- The column of an id: that of the pool, or a column made for a label. -/
def resolve? (pool : List Column) (id : String) : Option Column :=
  match pool.find? (·.id == id) with
  | some column => some column
  | none => (labelKey? id).map Column.label

/-- The columns with the first name column moved to the front, or with one put there. -/
def nameFirst (pool columns : List Column) : List Column :=
  match columns.find? (·.id == nameId) with
  | some name => name :: columns.eraseP (·.id == nameId)
  | none =>
    (pool.find? (·.id == nameId)).getD { id := nameId, name := "NAME", width := 32 } :: columns

/-- The columns a kind shows, out of its pool. -/
def get (store : ColumnStore) (kind : String) (pool : List Column) : List Column :=
  nameFirst pool <|
    match store.choices.get? kind with
    | none => pool.filter (·.byDefault)
    | some ids => ids.filterMap (resolve? pool)

/-- The ids of the columns shown by default. -/
def defaultIds (pool : List Column) : List String :=
  (pool.filter (·.byDefault)).map (·.id)

/-- Takes over a choice of visible columns; choosing the default columns is no choice at all. -/
def pick (store : ColumnStore) (kind : String) (pool : List Column) (ids : List String) :
    ColumnStore :=
  if ids = defaultIds pool then store.reset kind else store.set kind ids

/-- The choice stored under the name of a kind, if there is one. -/
def choice? (store : ColumnStore) (kind : String) : Option (List String) :=
  store.choices.get? kind

/-- What is stored of a choice: the name column and the other ids, and nothing for the default
columns. -/
def stored (pool : List Column) (ids : List String) : Option (List String) :=
  if ids = defaultIds pool then none else some (nameId :: distinctAfter [nameId] ids)

/-- A choice is stored under the name of its kind, and all other names keep what they had. -/
theorem choice?_pick (store : ColumnStore) (kind other : String) (pool : List Column)
    (ids : List String) :
    (store.pick kind pool ids).choice? other =
      if kind = other then stored pool ids else store.choice? other := by
  unfold pick stored
  split
  · exact Dict.get?_erase _ _ _
  · exact Dict.get?_insert _ _ _ _

/-- What a kind shows depends on its own choice alone. -/
theorem get_congr {store store' : ColumnStore} {kind : String}
    (h : store.choice? kind = store'.choice? kind) (pool : List Column) :
    store.get kind pool = store'.get kind pool := by
  unfold get
  rw [show store.choices.get? kind = store'.choices.get? kind from h]

end ColumnStore
end ClusterNav
