import ClusterNav.Proofs.CurrentLists
import ClusterNav.Proofs.LogChanges
import ClusterNav.Proofs.PickedRows
import ClusterNav.Proofs.TypedText

/-!
# The stages of the way to a log

The log of an item is reached through the choice of a pod, if it has several, and the
choice of a container, if the item or the pod has several.  Each choice is a view, and so
is the log: these are the stages of the way.  A key that does not leave a stage edits its
filter, moves its cursor or picks the row under the cursor.

An item with one pod has no choice of a pod, and its log is asked for by the item itself.

**Results.**
* `Selection.log_of_several`, `Selection.log_of_few`: where a way begins.
* `View.respond_o`: what a view does when it is asked for a log.
* `View.wayAnswer`: what a stage answers to a key that does not leave it.
-/

namespace ClusterNav

open Select

/-! ## Where a way leads -/

/-- Where the containers of an item lead: to their choice, or to the log without one. -/
def Kind.logOf (kind : Kind) (item : Item) : Destination :=
  match kind.containers item with
  | c :: d :: rest => .containers kind item (c :: d :: rest)
  | containers => .log kind item containers.head?

theorem Kind.logOf_of_several
    {kind : Kind} {item : Item}
    (h : 2 ≤ (kind.containers item).length) :
    kind.logOf item = .containers kind item (kind.containers item) := by
  unfold logOf
  match hnames : kind.containers item with
  | [] | [_] => simp [hnames] at h
  | _ :: _ :: _ => rfl

theorem Kind.logOf_of_few
    {kind : Kind} {item : Item}
    (h : (kind.containers item).length ≤ 1) :
    kind.logOf item = .log kind item (kind.containers item).head? := by
  unfold logOf
  match hnames : kind.containers item with
  | [] | [_] => rfl
  | _ :: _ :: _ => simp [hnames] at h

namespace Selection

/-- The kind whose items the pods of an item are. -/
def podKind (session : Session) (s : Selection) : Kind :=
  (session.registry.byName? "pods").getD s.kind

def pods (s : Selection) : List Item :=
  s.kind.pods s.item

variable {s : Selection}

theorem log_of_several
    (h : 2 ≤ s.pods.length)
    (session : Session) :
    s.log session = .pods (s.podKind session) s.pods := by
  unfold pods at h ⊢
  unfold log
  match hpods : s.kind.pods s.item with
  | [] | [_] => simp [hpods] at h
  | _ :: _ :: _ => rfl

theorem log_of_few
    (h : s.pods.length ≤ 1)
    (session : Session) :
    s.log session = s.kind.logOf s.item := by
  unfold pods at h
  unfold log
  match hpods : s.kind.pods s.item with
  | [] | [_] => rfl
  | _ :: _ :: _ => simp [hpods] at h

end Selection

/-- The containers of an item are there to be picked, or there is no choice and its log is
open. -/
inductive Kind.OpensLog (kind : Kind) (item : Item) : Destination → Prop
  | containers (several : 2 ≤ (kind.containers item).length) :
      OpensLog kind item (.containers kind item (kind.containers item))
  | log (few : (kind.containers item).length ≤ 1) :
      OpensLog kind item (.log kind item (kind.containers item).head?)

theorem Kind.opensLog_logOf (kind : Kind) (item : Item) : kind.OpensLog item (kind.logOf item) := by
  by_cases hfew : (kind.containers item).length ≤ 1
  · rw [kind.logOf_of_few hfew]
    exact .log hfew
  · have hseveral : 2 ≤ (kind.containers item).length := by omega
    rw [kind.logOf_of_several hseveral]
    exact .containers hseveral

/-! ## Stages -/

namespace View

/-- The stage of a way that a view is, as a destination. -/
def stage? : View → Option Destination
  | .pods v => some (.pods v.kind v.pods)
  | .containers v => some (.containers v.kind v.item v.containers)
  | .log v => some (.log v.kind v.item v.container)
  | _ => none

/-- The list of a picker holds the names of what it picks among. -/
def PicksInOrder : View → Prop
  | .pods v => v.InOrder
  | .containers v => v.InOrder
  | _ => True

/-- A pod is under the cursor. -/
def HighlightsPod (pod : Item) : View → Prop
  | .pods v => v.Highlights pod
  | _ => False

/-- A container of an item is under the cursor. -/
def HighlightsContainer (kind : Kind) (item : Item) (name : String) : View → Prop
  | .containers v => v.kind = kind ∧ v.item = item ∧ v.Highlights name
  | _ => False

/-- Where the row under the cursor leads. -/
inductive LeadsTo : View → Destination → Prop
  | pod {v : PodPicker} {pod : Item} {next : Destination}
      (highlighted : v.Highlights pod)
      (opens : v.kind.OpensLog pod next) :
      LeadsTo (.pods v) next
  | container {v : ContainerPicker} {name : String} (highlighted : v.Highlights name) :
      LeadsTo (.containers v) (.log v.kind v.item (some name))

/-- A picker has a row under the cursor. -/
def HasRow : View → Prop
  | .pods v => v.list.visible ≠ []
  | .containers v => v.list.visible ≠ []
  | _ => False

/-- What a stage of a way answers to a key that does not leave it. -/
inductive WayAnswer (v : View) (k : Key) (r : Response View) : Prop
  | stays
      (stage : r.view.stage? = v.stage?)
      (order : r.view.PicksInOrder)
      (move : r.move = .stay)
      (nothing : k.Picks → v.takesAllKeys = false → ¬ v.HasRow)
  | picks (next : Destination)
      (key : k.Picks)
      (idle : v.takesAllKeys = false)
      (leads : v.LeadsTo next)
      (move : r.move = .replace next)

end View

namespace LogView

variable {v w : LogView}

theorem stage?_of_source
    (h : w.source = v.source) :
    (View.log w).stage? = (View.log v).stage? := by
  have hkind : w.kind = v.kind := congrArg Prod.fst h
  have hitem : w.item = v.item := congrArg (·.2.1) h
  have hcontainer : w.container = v.container := congrArg (·.2.2) h
  rw [View.stage?, hkind, hitem, hcontainer]
  rfl

/-- Only `esc` leaves a log, and only without a search. -/
theorem move_key
    {k : Key}
    (h : ¬ (k.name = "esc" ∧ v.modes = [])) :
    (v.key k).move = .stay := by
  have htoggle : v.toggleFollow.move = .stay := by
    unfold toggleFollow
    dsimp only
    split <;> rfl
  unfold key
  cases hsearch : v.search with
  | typing text =>
      rfl
  | off =>
      dsimp only
      split
      case h_1 hesc => exact absurd ⟨hesc, by rw [modes, hsearch]⟩ h
      case h_2 => exact htoggle
      all_goals rfl
  | applied needle found =>
      dsimp only
      split
      case h_1 => rw [leave, hsearch]
      case h_2 => exact htoggle
      all_goals rfl

/-- A search that is typed can be ended. -/
theorem modes_ne_nil_of_takesAllKeys
    (h : v.takesAllKeys = true) :
    v.modes ≠ [] := by
  unfold takesAllKeys at h
  unfold modes
  cases hsearch : v.search with
  | typing text =>
      exact List.cons_ne_nil _ _
  | off | applied needle found =>
      simp [hsearch] at h

end LogView

namespace View

variable {v : View} {k : Key}

theorem stage?_setSize (v : View) (width height : Nat) :
    (v.setSize width height).stage? = v.stage? := by
  cases v with
  | log v =>
      exact LogView.stage?_of_source (v.change_after (.fit width height)).source
  | list v | detail v | text v | relations v | pods v | containers v | columns v | scope v
  | browser v | help v =>
      rfl

theorem PicksInOrder.setSize
    (h : v.PicksInOrder)
    (width height : Nat) :
    (v.setSize width height).PicksInOrder := by
  cases v with
  | pods v =>
      exact PodPicker.InOrder.fitList h height
  | containers v =>
      exact ContainerPicker.InOrder.fitList h height
  | list v | detail v | text v | relations v | log v | columns v | scope v | browser v | help v =>
      trivial

theorem picksInOrder_ofDestination (session : Session) (next : Destination) :
    (ofDestination session next).PicksInOrder := by
  cases next with
  | pods kind pods =>
      exact PodPicker.inOrder_ofPods kind pods
  | containers kind item names =>
      exact ContainerPicker.inOrder_ofContainers kind item names
  | _ =>
      trivial

/-- A stage that is opened is the stage that was asked for. -/
theorem stage?_of_opensLog
    {kind : Kind} {item : Item} {next : Destination}
    (h : kind.OpensLog item next)
    (session : Session) :
    (ofDestination session next).stage? = some next := by
  cases h with
  | containers several | log few =>
      rfl

theorem stage?_of_leadsTo
    {next : Destination}
    (h : v.LeadsTo next)
    (session : Session) :
    (ofDestination session next).stage? = some next := by
  cases h with
  | pod highlighted opens =>
      exact stage?_of_opensLog opens session
  | container highlighted =>
      rfl

/-- What a stage answers to a key that does not leave it. -/
theorem wayAnswer
    (hstage : v.stage?.isSome)
    (horder : v.PicksInOrder)
    (hleaves : ¬ (k.name = "esc" ∧ v.modes = []))
    (session : Session) :
    v.WayAnswer k (v.respond session (.key k)) := by
  cases v with
  | pods v =>
      have hanswer : (View.pods v).respond session (.key k) = (v.key k).map .pods := rfl
      by_cases hpicks : v.list.isFiltering = false ∧ k.Picks
      · rcases v.key_of_picks horder hpicks.1 hpicks.2 with ⟨hnone, hkey⟩ | ⟨pod, hpod, hkey⟩
        · rw [hanswer, hkey]
          exact .stays rfl horder rfl fun _ _ => not_not_intro hnone
        · rw [hanswer, hkey]
          exact .picks _ hpicks.2 hpicks.1 (.pod hpod (Kind.opensLog_logOf _ _)) rfl
      · obtain ⟨list, hkey, hkept⟩ := PodPicker.key_of_stays hpicks hleaves
        rw [hanswer, hkey]
        exact .stays rfl (hkept horder) rfl fun hkey hidle => absurd ⟨hidle, hkey⟩ hpicks
  | containers v =>
      have hanswer : (View.containers v).respond session (.key k) = (v.key k).map .containers := rfl
      by_cases hpicks : v.list.isFiltering = false ∧ k.Picks
      · rcases v.key_of_picks horder hpicks.1 hpicks.2 with ⟨hnone, hkey⟩ | ⟨name, hname, hkey⟩
        · rw [hanswer, hkey]
          exact .stays rfl horder rfl fun _ _ => not_not_intro hnone
        · rw [hanswer, hkey]
          exact .picks _ hpicks.2 hpicks.1 (.container hname) rfl
      · obtain ⟨list, hkey, hkept⟩ := ContainerPicker.key_of_stays hpicks hleaves
        rw [hanswer, hkey]
        exact .stays rfl (hkept horder) rfl fun hkey hidle => absurd ⟨hidle, hkey⟩ hpicks
  | log v =>
      exact .stays (LogView.stage?_of_source (v.change_after (.event (.key k))).source) trivial
        (LogView.move_key hleaves) fun _ _ => not_false
  | list v | detail v | text v | relations v | columns v | scope v | browser v | help v =>
      cases hstage

/-- A filter or search that is typed can be ended. -/
theorem modes_ne_nil_of_takesAllKeys
    (hstage : v.stage?.isSome)
    (hkeys : v.takesAllKeys = true) :
    v.modes ≠ [] := by
  cases v with
  | pods v | containers v =>
      intro hnil
      have hidle : v.list.isFiltering = true := hkeys
      have hnone := (FilterList.modes_eq_nil_iff.mp hnil).1
      simp [hidle] at hnone
  | log v =>
      exact LogView.modes_ne_nil_of_takesAllKeys hkeys
  | list v | detail v | text v | relations v | columns v | scope v | browser v | help v =>
      cases hstage

end View

/-! ## Asking for a log -/

/-- A view with its columns taken from a store, if it is a list. -/
def View.refreshed (store : ColumnStore) : View → View
  | .list v => .list (v.refreshColumns store)
  | v => v

theorem View.refreshed_of_upToDate
    {v : View} {store : ColumnStore}
    (h : v.UpToDate store) :
    v.refreshed store = v := by
  cases v with
  | list v =>
      exact congrArg View.list (ListView.refreshColumns_eq_self (h v rfl))
  | detail v | text v | relations v | pods v | containers v | log v | columns v | scope v
  | browser v | help v =>
      rfl

theorem Selection.keyShortcut?_o (session : Session) (s : Selection) :
    s.keyShortcut? session ⟨"o"⟩ = some (s.log session) := by
  have hrune : Key.rune? ⟨"o"⟩ = some 'o' := by
    decide +kernel
  rw [keyShortcut?, hrune]
  rfl

theorem ListView.key_o
    {v : ListView} {s : Selection}
    (hidle : v.takesAllKeys = false)
    (hselection : v.selection? = some s)
    (session : Session) :
    v.key session ⟨"o"⟩ = { view := v, move := .push (s.log session) } := by
  rw [takesAllKeys, Bool.or_eq_false_iff] at hidle
  have hcursor : v.list.cursorKey? ⟨"o"⟩ = none := rfl
  unfold key
  rw [if_neg (by simp [hidle.1]), if_neg (by simp [hidle.2])]
  show v.otherKey session ⟨"o"⟩ = _
  rw [otherKey, hcursor, hselection, Option.bind_some, s.keyShortcut?_o]

/-- A list or detail page asks for the log of its item; a list takes its columns anew, as
with every key. -/
theorem View.respond_o
    {v : View} {s : Selection} {session : Session}
    (hidle : v.takesAllKeys = false)
    (hselection : v.selection? = some s)
    (hcurrent : v.Current session) :
    v.respond session (.key ⟨"o"⟩) =
      { view := v.refreshed session.columns, move := .push (s.log session) } := by
  cases v with
  | list v =>
      have hns : v.syncNamespace session.ns = v :=
        ListView.syncNamespace_eq_self (hcurrent v rfl).ns_eq
      show (v.respond session (.key ⟨"o"⟩)).map View.list = _
      rw [ListView.respond, hns, ListView.key_o hidle hselection]
      rfl
  | detail v =>
      obtain rfl : v.selection = s := Option.some.inj hselection
      show (v.key session ⟨"o"⟩).map View.detail = _
      rw [DetailView.key, if_neg (by decide), v.selection.keyShortcut?_o]
      rfl
  | text v | relations v | pods v | containers v | log v | columns v | scope v | browser v
  | help v =>
      cases hselection

end ClusterNav
