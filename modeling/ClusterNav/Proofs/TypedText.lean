import ClusterNav.Proofs.CurrentLists
import ClusterNav.Proofs.OpenPrompts

/-!
# Typing into a prompt

While a prompt is open, a key that is one character is text, whatever the key means
elsewhere, and `backspace` takes the last character away.  The text changes, and the
rows of a filtered list are matched again from the first one.  Nothing else happens to
the host, to its other views or to the rest of the view.

**Results.**
* `View.respond_stroke`: what a view with an open prompt does with such a key.
* `Host.strokes_run`: what a host does with many of them.
* `typed_text_stays_in_prompt`: the same from the terminal on, and back again.
-/

namespace ClusterNav

/-! ## Strokes -/

/-- A key that puts a character behind a text, or takes it away again. -/
inductive Stroke : String → Key → String → Prop
  | types {text : String} {k : Key} {c : Char} (rune : k.rune? = some c) :
      Stroke text k (text.push c)
  | erases (text : String) (c : Char) : Stroke (text.push c) ⟨"backspace"⟩ text

/-- One stroke after the other. -/
inductive Strokes : String → List Key → String → Prop
  | nil (text : String) : Strokes text [] text
  | cons {before text after : String} {k : Key} {rest : List Key}
      (first : Stroke before k text) (more : Strokes text rest after) :
      Strokes before (k :: rest) after

namespace Strokes

theorem append
    {before text after : String} {keys more : List Key}
    (hkeys : Strokes before keys text)
    (hmore : Strokes text more after) :
    Strokes before (keys ++ more) after := by
  induction hkeys with
  | nil text =>
      exact hmore
  | cons first _ ih =>
      exact .cons first (ih hmore)

theorem append_ofList_cons (text : String) (c : Char) (rest : List Char) :
    text ++ String.ofList (c :: rest) = text.push c ++ String.ofList rest := by
  rw [String.ofList_cons, ← String.append_assoc, String.append_singleton]

/-- Keys that are characters append these. -/
theorem types (text : String) (keys : List Key) (typed : List Char)
    (htyped : keys.map Key.rune? = typed.map some) :
    Strokes text keys (text ++ String.ofList typed) := by
  induction keys generalizing text typed with
  | nil =>
      obtain rfl : typed = [] := by simpa using htyped.symm
      simpa using Strokes.nil text
  | cons k others ih =>
      obtain ⟨c, rest, rfl, hrune, hothers⟩ := List.map_eq_cons_iff.mp htyped.symm
      rw [append_ofList_cons]
      exact .cons (.types hrune.symm) (ih (text.push c) rest hothers.symm)

/-- As many times `backspace` take a text away again. -/
theorem erases (text : String) (typed : List Char) :
    Strokes (text ++ String.ofList typed) (List.replicate typed.length ⟨"backspace"⟩) text := by
  induction typed generalizing text with
  | nil =>
      simpa using Strokes.nil text
  | cons c rest ih =>
      rw [append_ofList_cons, List.length_cons, List.replicate_succ']
      exact (ih (text.push c)).append (.cons (.erases text c) (.nil text))

end Strokes

/-! ## Filtered lists -/

namespace Select.FilterList

/-- The list with another filter, whose rows are matched again from the first one. -/
def retyped (l : FilterList) (text : String) : FilterList :=
  refilter { l with filter := text, cursor := 0 }

/-- The text of the filter while it is typed. -/
def prompt? (l : FilterList) : Option String :=
  if l.isFiltering then some l.filter else none

variable {l : FilterList} {before after : String} {k : Key}

theorem prompt?_eq_some_iff {text : String} :
    l.prompt? = some text ↔ l.isFiltering = true ∧ l.filter = text := by
  simp [prompt?]

theorem prompt?_retyped
    (hprompt : l.prompt? = some before)
    (text : String) :
    (l.retyped text).prompt? = some text :=
  prompt?_eq_some_iff.mpr ⟨(prompt?_eq_some_iff.mp hprompt).1, rfl⟩

/-- Of a filter typed over another one only the later is left. -/
@[simp] theorem retyped_retyped (l : FilterList) (text other : String) :
    (l.retyped text).retyped other = l.retyped other := by
  simp [retyped, refilter, selectVisible, Paginator.follow, Paginator.setTotal]

theorem popChar_of_push
    {c : Char}
    (hfilter : l.filter = after.push c) :
    l.popChar = l.retyped after := by
  have hfull : l.filter.isEmpty = false := by
    simp [hfilter]
  have hshorter : String.ofList l.filter.toList.dropLast = after := by
    simp [hfilter]
  rw [popChar, hfull, hshorter]
  rfl

/-- A key that is a character is no editing key but text. -/
theorem editKey_of_rune
    {c : Char}
    (hrune : k.rune? = some c) :
    l.editKey k = l.pushChar c := by
  have hname (name : String) (hne : name.toList ≠ [c]) : k.name ≠ name :=
    Key.name_ne_of_rune? hrune hne
  unfold editKey
  split
  iterate 8
    · rename_i hkey
      exact absurd hkey (hname _ (by simp))
  rw [hrune]

theorem editKey_stroke
    (hstroke : Stroke before k after)
    (hfilter : l.filter = before) :
    l.editKey k = l.retyped after := by
  cases hstroke with
  | types rune =>
      rw [editKey_of_rune rune, pushChar, hfilter]
      rfl
  | erases text c =>
      exact popChar_of_push hfilter

end Select.FilterList

/-! ## Views -/

/-- The text of the search while it is typed. -/
def LogView.prompt? (v : LogView) : Option String :=
  match v.search with
  | .typing text => some text
  | .off | .applied _ _ => none

theorem LogView.prompt?_eq_some_iff {v : LogView} {text : String} :
    v.prompt? = some text ↔ v.search = .typing text := by
  cases hsearch : v.search <;> simp [prompt?, hsearch]

namespace View

/-- The text in the open prompt of a view. -/
def prompt? : View → Option String
  | .list v => v.list.prompt?
  | .pods v => v.list.prompt?
  | .containers v => v.list.prompt?
  | .browser v => v.list.prompt?
  | .scope v => some v.list.filter
  | .log v => v.prompt?
  | .detail _ | .text _ | .relations _ | .columns _ | .help _ => none

/-- The view with another text in its prompt. -/
def retyped (text : String) : View → View
  | .list v => .list { v with list := v.list.retyped text }
  | .pods v => .pods { v with list := v.list.retyped text }
  | .containers v => .containers { v with list := v.list.retyped text }
  | .browser v => .browser { v with list := v.list.retyped text }
  | .scope v => .scope { v with list := v.list.retyped text }
  | .log v => .log (v.withSearch (.typing text))
  | v => v

end View

variable {before after : String} {k : Key}

theorem ListView.refreshColumns_eq_self
    {v : ListView} {store : ColumnStore}
    (hv : v.UpToDate store) :
    v.refreshColumns store = v := by
  have hcolumns : (v.refreshColumns store).columns = v.columns :=
    (upToDate_refreshColumns v store).columns.trans hv.columns.symm
  unfold refreshColumns at hcolumns ⊢
  dsimp only at hcolumns ⊢
  rw [hcolumns, ← hv.custom]

theorem ListView.respond_stroke
    {v : ListView} {session : Session}
    (hcurrent : v.Current session)
    (hfresh : v.UpToDate session.columns)
    (hprompt : v.list.prompt? = some before)
    (hstroke : Stroke before k after) :
    v.respond session (.key k) = { view := { v with list := v.list.retyped after } } := by
  obtain ⟨hfiltering, hfilter⟩ := Select.FilterList.prompt?_eq_some_iff.mp hprompt
  have hkey : v.key session k = { view := { v with list := v.list.retyped after } } := by
    rw [key, if_pos hfiltering, Select.FilterList.editKey_stroke hstroke hfilter]
  have hkept : ({ v with list := v.list.retyped after } : ListView).refreshColumns
      session.columns = { v with list := v.list.retyped after } :=
    refreshColumns_eq_self ⟨hfresh.columns, hfresh.custom⟩
  unfold respond
  rw [syncNamespace_eq_self hcurrent.ns_eq]
  dsimp only
  rw [hkey, Response.map, hkept]

theorem BrowserView.key_stroke
    {v : BrowserView}
    (hprompt : v.list.prompt? = some before)
    (hstroke : Stroke before k after) :
    v.key k = { view := { v with list := v.list.retyped after } } := by
  obtain ⟨hfiltering, hfilter⟩ := Select.FilterList.prompt?_eq_some_iff.mp hprompt
  rw [key, if_pos hfiltering, Select.FilterList.editKey_stroke hstroke hfilter]

theorem LogPicker.key?_stroke
    {list : Select.FilterList}
    (hprompt : list.prompt? = some before)
    (hstroke : Stroke before k after) :
    key? list k = some (list.retyped after, .stay) := by
  obtain ⟨hfiltering, hfilter⟩ := Select.FilterList.prompt?_eq_some_iff.mp hprompt
  rw [key?, if_pos hfiltering, Select.FilterList.editKey_stroke hstroke hfilter]

theorem ScopePicker.edit_stroke
    {v : ScopePicker}
    (hstroke : Stroke v.list.filter k after) :
    v.edit k = v.list.retyped after := by
  generalize hfilter : v.list.filter = before at hstroke
  cases hstroke with
  | types rune =>
      unfold edit
      split
      iterate 10
        · rename_i hkey
          exact absurd hkey (Key.name_ne_of_rune? rune (by simp))
      rw [rune, ← hfilter]
      rfl
  | erases text c =>
      exact Select.FilterList.popChar_of_push hfilter

theorem ScopePicker.key_stroke
    {v : ScopePicker}
    (hstroke : Stroke v.list.filter k after) :
    v.key k = { view := { v with list := v.list.retyped after } } := by
  rw [← v.edit_stroke hstroke]
  generalize v.list.filter = before at hstroke
  cases hstroke with
  | types rune =>
      unfold key
      split
      iterate 2
        · rename_i hkey
          exact absurd hkey (Key.name_ne_of_rune? rune (by simp))
      rfl
  | erases text c =>
      rfl

theorem LogView.key_stroke
    {v : LogView}
    (hprompt : v.prompt? = some before)
    (hstroke : Stroke before k after) :
    v.key k = { view := v.withSearch (.typing after) } := by
  have hkey : v.key k = { view := v.searchKey before k } := by
    rw [key, prompt?_eq_some_iff.mp hprompt]
  rw [hkey]
  cases hstroke with
  | types rune =>
      unfold searchKey
      split
      iterate 4
        · rename_i hkey
          exact absurd hkey (Key.name_ne_of_rune? rune (by simp))
      rw [rune]
  | erases text c =>
      simp [searchKey]

namespace View

variable {v : View}

theorem takesAllKeys_of_prompt?
    (hprompt : v.prompt? = some before) :
    v.takesAllKeys = true := by
  cases v with
  | list v | browser v =>
      obtain ⟨hfiltering, -⟩ := Select.FilterList.prompt?_eq_some_iff.mp hprompt
      exact Bool.or_eq_true_iff.mpr (.inl hfiltering)
  | pods v | containers v =>
      exact (Select.FilterList.prompt?_eq_some_iff.mp hprompt).1
  | scope v =>
      rfl
  | log v =>
      have hsearch : v.search = .typing before := LogView.prompt?_eq_some_iff.mp hprompt
      show v.takesAllKeys = true
      rw [LogView.takesAllKeys, hsearch]
  | detail v | text v | relations v | columns v | help v =>
      cases hprompt

theorem prompt?_retyped
    (hprompt : v.prompt? = some before)
    (after : String) :
    (v.retyped after).prompt? = some after := by
  cases v with
  | list v | pods v | containers v | browser v =>
      exact Select.FilterList.prompt?_retyped hprompt after
  | scope v | log v =>
      rfl
  | detail v | text v | relations v | columns v | help v =>
      cases hprompt

@[simp] theorem retyped_retyped (v : View) (text other : String) :
    (v.retyped text).retyped other = v.retyped other := by
  cases v with
  | list v | pods v | containers v | browser v | scope v =>
      simp [retyped]
  | log v | detail v | text v | relations v | columns v | help v =>
      rfl

/-- A stroke changes the text of an open prompt, and nothing else. -/
theorem respond_stroke
    {session : Session}
    (hcurrent : v.Current session)
    (hfresh : v.UpToDate session.columns)
    (hprompt : v.prompt? = some before)
    (hstroke : Stroke before k after) :
    v.respond session (.key k) = { view := v.retyped after } := by
  cases v with
  | list v =>
      show (v.respond session (.key k)).map list = _
      rw [ListView.respond_stroke (hcurrent v rfl) (hfresh v rfl) hprompt hstroke]
      rfl
  | browser v =>
      show (v.key k).map browser = _
      rw [BrowserView.key_stroke hprompt hstroke]
      rfl
  | pods v =>
      show (v.key k).map pods = _
      rw [PodPicker.key, LogPicker.key?_stroke hprompt hstroke]
      rfl
  | containers v =>
      show (v.key k).map containers = _
      rw [ContainerPicker.key, LogPicker.key?_stroke hprompt hstroke]
      rfl
  | scope v =>
      obtain rfl : v.list.filter = before := Option.some.inj hprompt
      show (v.key k).map scope = _
      rw [ScopePicker.key_stroke hstroke]
      rfl
  | log v =>
      show (v.key k).map log = _
      rw [LogView.key_stroke hprompt hstroke]
      rfl
  | detail v | text v | relations v | columns v | help v =>
      cases hprompt

end View
/-! ## The host -/

namespace Host

/-- The effects that a host asks for in a run. -/
def effects : Host → List Event → List Effect
  | _, [] => []
  | h, event :: rest => (h.step event).2.toList ++ effects (h.step event).1 rest

/-- A prompt of the host can be typed into: only the top view has one, and all lists are
those of the session. -/
structure Typable (h : Host) : Prop where
  onTop : h.PromptOnTop
  current : ∀ u ∈ h.views, u.Current h.session

variable {h : Host} {before after : String}

theorem Typable.step
    (hi : h.Typable)
    (event : Event) :
    (h.step event).1.Typable :=
  ⟨hi.onTop.step event, current_step hi.current event⟩

theorem typable_run
    (session : Session) (kind : Kind) (events : List Event) :
    ((ofKind session kind).run events).Typable :=
  ⟨promptOnTop_run session kind events, current_run session kind events⟩

/-- A stroke changes the text in the prompt of the top view, and nothing else. -/
theorem step_stroke
    (hi : h.Typable)
    (hprompt : h.top.prompt? = some before)
    {k : Key}
    (hstroke : Stroke before k after) :
    h.step (.key k) = (h.withTop (h.top.retyped after), none) := by
  have hkeys := View.takesAllKeys_of_prompt? hprompt
  have hheard : h.heard (.key k) = h := by
    show { h with notice := "" } = h
    rw [← hi.onTop.quiet hkeys]
  have hanswer : h.answer (.key k) = { view := h.top.retyped after } := by
    rw [answer, sessionAfter_key]
    exact View.respond_stroke (hi.current h.top h.top_mem_views) (hi.onTop.fresh hkeys) hprompt
      hstroke
  rw [step_key_of_takesAllKeys hkeys, hheard, deliver_eq, answered, hanswer, sessionAfter_key]
  rfl

/-- Strokes change the text in the prompt of the top view, and nothing else. -/
theorem strokes_run
    (hi : h.Typable)
    (hprompt : h.top.prompt? = some before)
    {keys : List Key}
    (hstrokes : Strokes before keys after) :
    h.run (keys.map .key) = (if keys.isEmpty then h else h.withTop (h.top.retyped after)) ∧
    (h.run (keys.map .key)).top.prompt? = some after ∧
    h.effects (keys.map .key) = [] := by
  induction hstrokes generalizing h with
  | nil text =>
      exact ⟨rfl, hprompt, rfl⟩
  | @cons before text after k rest first more ih =>
      have hstep := step_stroke hi hprompt first
      have hnext : (h.step (.key k)).1 = h.withTop (h.top.retyped text) := by
        rw [hstep]
      have htop : (h.step (.key k)).1.top = h.top.retyped text := by
        rw [hnext, top_withTop]
      have htext : (h.step (.key k)).1.top.prompt? = some text := by
        rw [htop]
        exact View.prompt?_retyped hprompt text
      obtain ⟨hrun, hafter, heffects⟩ := ih (hi.step (.key k)) htext
      refine ⟨?_, hafter, ?_⟩
      · show (h.step (.key k)).1.run (rest.map .key) = _
        rw [hrun, htop, hnext, withTop_withTop, View.retyped_retyped]
        cases more with
        | nil =>
            rfl
        | cons =>
            rfl
      · show (h.step (.key k)).2.toList ++ _ = _
        rw [heffects, hstep]
        rfl

end Host

/-! ## From the terminal -/

/-- The character that a key press types: no control character, and neither with
control nor with alt. -/
def KeyPress.typed? (p : KeyPress) : Option Char :=
  match p.code with
  | .char c => if p.ctrl || p.alt || Text.isControl c then none else some c
  | _ => none

/-- The events of key presses at the terminal. -/
def Event.ofPresses (presses : List KeyPress) : List Event :=
  (presses.filterMap Key.ofTerminal?).map .key

/-- Any number of presses of `backspace`. -/
def KeyPress.backspaces (n : Nat) : List KeyPress :=
  List.replicate n { code := .backspace }

/-- Such a key press is the key that is this character. -/
theorem KeyPress.rune?_of_typed
    {p : KeyPress} {c : Char}
    (h : p.typed? = some c) :
    ∃ k, Key.ofTerminal? p = some k ∧ k.rune? = some c := by
  obtain ⟨code, ctrl, alt, shift⟩ := p
  cases code with
  | char d =>
      by_cases hheld : (ctrl || alt || Text.isControl d) = true
      · simp [typed?, hheld] at h
      · obtain rfl : d = c := by simpa [typed?, hheld] using h
        obtain ⟨⟨rfl, rfl⟩, hcontrol⟩ : (ctrl = false ∧ alt = false) ∧ Text.isControl d = false := by
          simpa using hheld
        exact ⟨_, Key.ofTerminal?_char d shift, Key.rune?_toString d hcontrol⟩
  | function n =>
      cases h
  | enter | tab | backTab | backspace | delete | insert | escape | left | right | up | down
  | home | last | pageUp | pageDown | unnamed =>
      cases h

/-- The keys of typed characters are these characters. -/
theorem KeyPress.map_rune?_of_typed
    {presses : List KeyPress}
    (htyped : ∀ p ∈ presses, p.typed?.isSome = true) :
    (presses.filterMap Key.ofTerminal?).map Key.rune? = presses.map typed? := by
  induction presses with
  | nil =>
      rfl
  | cons p rest ih =>
      obtain ⟨hfirst, hrest⟩ := List.forall_mem_cons.mp htyped
      obtain ⟨c, hc⟩ := Option.isSome_iff_exists.mp hfirst
      obtain ⟨k, hkey, hrune⟩ := rune?_of_typed hc
      rw [List.filterMap_cons_some hkey, List.map_cons, List.map_cons, hrune, hc, ih hrest]

theorem KeyPress.map_some_of_typed
    {presses : List KeyPress}
    (htyped : ∀ p ∈ presses, p.typed?.isSome = true) :
    (presses.filterMap typed?).map some = presses.map typed? := by
  induction presses with
  | nil =>
      rfl
  | cons p rest ih =>
      obtain ⟨hfirst, hrest⟩ := List.forall_mem_cons.mp htyped
      obtain ⟨c, hc⟩ := Option.isSome_iff_exists.mp hfirst
      rw [List.filterMap_cons_some hc, List.map_cons, List.map_cons, hc, ih hrest]

@[simp] theorem KeyPress.filterMap_backspaces (n : Nat) :
    (backspaces n).filterMap Key.ofTerminal? = List.replicate n ⟨"backspace"⟩ :=
  List.filterMap_replicate_of_some rfl

/-- A text that is typed while a prompt is open stands behind what was typed before,
character by character, and as many presses of `backspace` take it away again.  Whatever
the characters mean elsewhere, nothing is asked of the surroundings, and nothing of the
host changes but the text of the top view, whose rows are matched again. -/
theorem typed_text_stays_in_prompt
    (session : Session) (kind : Kind) (events : List Event) (text : String)
    (hprompt : ((Host.ofKind session kind).run events).top.prompt? = some text)
    (presses : List KeyPress)
    (htyped : ∀ p ∈ presses, p.typed?.isSome = true) :
    let h := (Host.ofKind session kind).run events
    let typed := String.ofList (presses.filterMap KeyPress.typed?)
    let keys := Event.ofPresses presses
    let back := Event.ofPresses (presses ++ KeyPress.backspaces presses.length)
    (h.run keys).top.prompt? = some (text ++ typed) ∧
    h.run keys = (if presses.isEmpty then h else h.withTop (h.top.retyped (text ++ typed))) ∧
    h.effects keys = [] ∧
    (h.run back).top.prompt? = some text ∧
    h.run back = (if presses.isEmpty then h else h.withTop (h.top.retyped text)) ∧
    h.effects back = [] := by
  intro h typed keys back
  have hi : h.Typable := Host.typable_run session kind events
  have hrunes := KeyPress.map_rune?_of_typed htyped
  have hsome := KeyPress.map_some_of_typed htyped
  have hkeys : (presses.filterMap Key.ofTerminal?).length = presses.length := by
    simpa using congrArg List.length hrunes
  have hlength : (presses.filterMap KeyPress.typed?).length = presses.length := by
    simpa using congrArg List.length hsome
  have htypes : Strokes text (presses.filterMap Key.ofTerminal?) (text ++ typed) :=
    .types _ _ _ (hrunes.trans hsome.symm)
  have herases := Strokes.erases text (presses.filterMap KeyPress.typed?)
  rw [hlength, ← KeyPress.filterMap_backspaces] at herases
  have hboth := htypes.append herases
  rw [← List.filterMap_append] at hboth
  obtain ⟨hrun, htext, heffects⟩ := Host.strokes_run hi hprompt htypes
  obtain ⟨hback, hrestored, hsilent⟩ := Host.strokes_run hi hprompt hboth
  refine ⟨htext, hrun.trans ?_, heffects, hrestored, hback.trans ?_, hsilent⟩
  · simp only [List.isEmpty_iff_length_eq_zero, hkeys]
  · simp only [List.isEmpty_iff_length_eq_zero, List.filterMap_append,
      KeyPress.filterMap_backspaces, List.length_append, List.length_replicate, hkeys,
      Nat.add_eq_zero_iff, and_self]

/-- In the filter prompt of a list, the keys that leave the program, turn the page, move
the cursor and open the help are text, and so is a letter with an accent. -/
theorem typed_text_stays_in_prompt_list :
    let h := (Host.ofKind (.ofRegistry .standard .empty) .configMap).run
      [.resize 100 30, .key ⟨"/"⟩, .key ⟨"g"⟩]
    let presses : List KeyPress :=
      [{ code := .char 'q' }, { code := .char ' ' }, { code := .char 'j' },
       { code := .char '?' }, { code := .char 'É', shift := true }]
    let keys := Event.ofPresses presses
    let back := Event.ofPresses (presses ++ KeyPress.backspaces 5)
    h.top.prompt? = some "g" ∧
    h.run keys = h.withTop (h.top.retyped "gq j?É") ∧
    h.effects keys = [] ∧
    h.run back = h.withTop (h.top.retyped "g") := by
  intro h presses keys back
  have hprompt : h.top.prompt? = some "g" := by
    decide +kernel
  have htyped : ∀ p ∈ presses, p.typed?.isSome = true := by
    decide +kernel
  obtain ⟨-, hrun, heffects, -, hback, -⟩ := typed_text_stays_in_prompt
    (.ofRegistry .standard .empty) .configMap [.resize 100 30, .key ⟨"/"⟩, .key ⟨"g"⟩] "g" hprompt
    presses htyped
  exact ⟨hprompt, hrun, heffects, hback⟩

end ClusterNav
