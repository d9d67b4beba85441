import ClusterNav.Proofs.LogChanges
import ClusterNav.Proofs.TickOwners

/-!
# A log and its own ticks

A log by itself gets keys and sizes, and the ticks that it sent come back to it, each at
most once, in any order and as late as they like.  Whenever it begins to be followed or
stops, it takes a new number, so all the ticks that are still on their way are void but
one: that of the number it has, as long as it is followed.

**Results.**
* `LoneLog.Chain`: how many ticks with the number of the log are on their way.
* `LoneLog.chain_run`: just one while the log is followed, and else none.
* `LoneLog.lined_run`: the lines that ticks have added.
* `one_tick_one_line`: both, for every run.
-/

namespace ClusterNav

/-- A log with the messages that it has sent and that have not come back. -/
structure LoneLog where
  log : LogView
  pending : List Message

namespace LoneLog

/-- The log of an item, which has sent nothing. -/
def ofItem (kind : Kind) (item : Item) (container : Option String) : LoneLog where
  log := .ofItem kind item container
  pending := []

variable (s : LoneLog)

/-- The log answers an event; the message of its effect is then on its way. -/
def handle (event : Event) : LoneLog where
  log := (s.log.respond event).view
  pending := s.pending ++ ((s.log.respond event).effect.bind Effect.message?).toList

/-- A message that has come back is not on its way any more. -/
def act : Input → LoneLog
  | .key k => s.handle (.key k)
  | .resize width height => { s with log := s.log.setSize width height }
  | .deliver n =>
      match s.pending[n]? with
      | some m => handle { s with pending := s.pending.eraseIdx n } (.message m)
      | none => s

def run (s : LoneLog) (inputs : List Input) : LoneLog :=
  inputs.foldl act s

theorem run_concat (past : List Input) (input : Input) :
    s.run (past ++ [input]) = (s.run past).act input := by
  simp [run]

/-- Does an input bring the tick that the log waits for? -/
def accepts : Input → Bool
  | .key _ | .resize _ _ => false
  | .deliver n => s.log.following && s.pending[n]? == some (.logTick s.log.request)

/-- The lines that a message puts behind those of the log. -/
def gain : Input → List String
  | .key _ | .resize _ _ => []
  | .deliver n => (s.act (.deliver n)).log.raw.drop s.log.raw.length

/-- The lines that the messages of a run put behind those of the log. -/
def gains (s : LoneLog) : List Input → List String
  | [] => []
  | input :: rest => s.gain input ++ (s.act input).gains rest

theorem gains_concat (past : List Input) (input : Input) :
    s.gains (past ++ [input]) = s.gains past ++ (s.run past).gain input := by
  induction past generalizing s with
  | nil =>
      simp [gains, run]
  | cons first rest ih =>
      simp only [List.cons_append, gains, ih, List.append_assoc]
      rfl

/-! ## The chain of ticks -/

/-- Of the messages on their way, one is the tick of the number that a log has, when it
is followed, and else none is; all others are ticks of earlier numbers. -/
structure Chain (ticking : Bool × Nat) (pending : List Message) : Prop where
  counted : pending.count (.logTick ticking.2) = if ticking.1 then 1 else 0
  numbered : ∀ m ∈ pending, ∃ k, m = .logTick k ∧ k ≤ ticking.2

namespace Chain

variable {following : Bool} {k j n : Nat} {pending : List Message}

/-- The next number is used by no tick. -/
theorem count_next
    (hc : Chain (following, k) pending) :
    pending.count (.logTick (k + 1)) = 0 := by
  rw [List.count_eq_zero]
  intro hmem
  obtain ⟨j, hj, hle⟩ := hc.numbered _ hmem
  cases hj
  exact Nat.not_succ_le_self k hle

theorem numbered_succ
    (hc : Chain (following, k) pending) :
    ∀ m ∈ pending, ∃ j, m = .logTick j ∧ j ≤ k + 1 := by
  intro m hm
  obtain ⟨j, hj, hle⟩ := hc.numbered m hm
  exact ⟨j, hj, Nat.le_succ_of_le hle⟩

/-- A log that begins to be followed sends the first tick of its new number. -/
theorem start
    (hc : Chain (following, k) pending) :
    Chain (true, k + 1) (pending ++ [.logTick (k + 1)]) where
  counted := by
    simp [hc.count_next]
  numbered := by
    intro m hm
    rcases List.mem_append.mp hm with hm | hm
    · exact hc.numbered_succ m hm
    · exact ⟨k + 1, List.mem_singleton.mp hm, Nat.le_refl _⟩

/-- A log that is no longer followed has a number without a tick. -/
theorem stop
    (hc : Chain (following, k) pending) :
    Chain (false, k + 1) pending where
  counted := hc.count_next
  numbered := hc.numbered_succ

/-- The messages that are left once one has come back. -/
theorem count_eraseIdx
    {m : Message}
    (hget : pending[n]? = some m)
    (x : Message) :
    pending.count x = (pending.eraseIdx n).count x + if m = x then 1 else 0 := by
  obtain ⟨hn, hm⟩ := List.getElem?_eq_some_iff.mp hget
  have hcount := (List.getElem_cons_eraseIdx_perm hn).count_eq x
  rw [hm, List.count_cons] at hcount
  simpa using hcount.symm

/-- A tick that the log does not wait for is lost. -/
theorem lose
    (hc : Chain (following, k) pending)
    (hget : pending[n]? = some (.logTick j))
    (hvoid : ¬ (following = true ∧ j = k)) :
    Chain (following, k) (pending.eraseIdx n) where
  counted := by
    have hcount := count_eraseIdx hget (.logTick k)
    have hbefore := hc.counted
    dsimp only at hbefore ⊢
    rw [hcount] at hbefore
    cases following with
    | false =>
        simp only [Bool.false_eq_true, if_false] at hbefore ⊢
        omega
    | true =>
        have hj : ¬ Message.logTick j = .logTick k := by
          intro heq
          cases heq
          exact hvoid ⟨rfl, rfl⟩
        simpa [hj] using hbefore
  numbered := fun m hm => hc.numbered m (List.mem_of_mem_eraseIdx hm)

/-- The tick that the log waits for is followed by the next one. -/
theorem renew
    (hc : Chain (true, k) pending)
    (hget : pending[n]? = some (.logTick k)) :
    Chain (true, k) (pending.eraseIdx n ++ [.logTick k]) where
  counted := by
    have hcount := count_eraseIdx hget (.logTick k)
    have hbefore := hc.counted
    dsimp only at hbefore ⊢
    rw [hcount, if_pos rfl] at hbefore
    rw [List.count_append, List.count_singleton_self]
    exact hbefore
  numbered := by
    intro m hm
    rcases List.mem_append.mp hm with hm | hm
    · exact hc.numbered m (List.mem_of_mem_eraseIdx hm)
    · exact ⟨k, List.mem_singleton.mp hm, Nat.le_refl _⟩

end Chain

/-- The ticks on their way are those of one chain. -/
def Chained : Prop :=
  Chain s.log.ticking s.pending

variable {s}

theorem chained_key
    (hc : s.Chained)
    (k : Key) :
    (s.act (.key k)).Chained ∧ s.log.request ≤ (s.act (.key k)).log.request := by
  have hturn := s.log.turn_respond (.key k)
  show Chain (s.log.respond (.key k)).view.ticking
      (s.pending ++ ((s.log.respond (.key k)).effect.bind Effect.message?).toList) ∧
    s.log.ticking.2 ≤ (s.log.respond (.key k)).view.ticking.2
  cases hturn with
  | keeps ticking effect =>
      rw [ticking, effect]
      simpa [Chained] using hc
  | starts before ticking effect move =>
      rw [ticking, effect]
      exact ⟨Chain.start hc, Nat.le_succ _⟩
  | stops before ticking effect move =>
      rw [ticking, effect]
      refine ⟨?_, Nat.le_succ _⟩
      simpa using Chain.stop hc
  | answers before event_eq ticking effect move =>
      cases event_eq

theorem act_deliver_of_none
    {n : Nat}
    (hget : s.pending[n]? = none) :
    s.act (.deliver n) = s := by
  simp [act, hget]

/-- What comes back is a tick. -/
theorem Chained.deliver
    (hc : s.Chained)
    (n : Nat) :
    s.act (.deliver n) = s ∨
    ∃ k, s.pending[n]? = some (.logTick k) ∧
      s.act (.deliver n) =
        { log := (s.log.onTick k).view
          pending := s.pending.eraseIdx n ++
            ((s.log.onTick k).effect.bind Effect.message?).toList } := by
  cases hget : s.pending[n]? with
  | none =>
      exact Or.inl (act_deliver_of_none hget)
  | some m =>
      obtain ⟨k, rfl, -⟩ := hc.numbered m (List.mem_of_getElem? hget)
      exact Or.inr ⟨k, rfl, by simp [act, hget, handle, LogView.respond]⟩

theorem chained_deliver
    (hc : s.Chained)
    (n : Nat) :
    (s.act (.deliver n)).Chained ∧ (s.act (.deliver n)).log.ticking = s.log.ticking := by
  rcases hc.deliver n with hsame | ⟨k, hget, hact⟩
  · rw [hsame]
    exact ⟨hc, rfl⟩
  · rw [Chained, hact]
    by_cases hlive : s.log.live? = some k
    · obtain ⟨hticking, heffect, -⟩ := s.log.onTick_of_live hlive
      have hnumber := (s.log.live?_eq_some_iff k).mp hlive
      rw [Chained, hnumber] at hc
      refine ⟨?_, hticking⟩
      rw [hticking, heffect, hnumber]
      exact hc.renew hget
    · rw [s.log.onTick_of_ne hlive]
      refine ⟨?_, rfl⟩
      rw [Option.bind_none, Option.toList_none, List.append_nil]
      apply Chain.lose hc hget
      rintro ⟨hfollowing, rfl⟩
      apply hlive
      rw [LogView.live?, if_pos hfollowing]

/-- An input keeps the chain, and takes no number back. -/
theorem Chained.act
    (hc : s.Chained)
    (input : Input) :
    (s.act input).Chained ∧ s.log.request ≤ (s.act input).log.request := by
  cases input with
  | key k =>
      exact chained_key hc k
  | resize width height =>
      have hticking := s.log.ticking_setSize width height
      refine ⟨?_, Nat.le_of_eq (congrArg Prod.snd hticking).symm⟩
      show Chain (s.log.setSize width height).ticking s.pending
      rw [hticking]
      exact hc
  | deliver n =>
      obtain ⟨hchained, hticking⟩ := chained_deliver hc n
      exact ⟨hchained, Nat.le_of_eq (congrArg Prod.snd hticking).symm⟩

theorem chain_run
    (hc : s.Chained)
    (inputs : List Input) :
    (s.run inputs).Chained ∧ s.log.request ≤ (s.run inputs).log.request := by
  induction inputs generalizing s with
  | nil =>
      exact ⟨hc, Nat.le_refl _⟩
  | cons input rest ih =>
      obtain ⟨hnext, hle⟩ := hc.act input
      obtain ⟨hlast, hle'⟩ := ih hnext
      exact ⟨hlast, Nat.le_trans hle hle'⟩

theorem run_append (past more : List Input) :
    s.run (past ++ more) = (s.run past).run more := by
  simp [run]

end LoneLog

/-! ## The lines -/

namespace LogView

variable {v w : LogView}

/-- The line that a log adds next, if there is one. -/
def nextLine? (v : LogView) : Option String :=
  v.kind.followLine? v.item v.containerName v.followed

/-- Only a tick adds lines; all else leaves the lines or asks the kind for others. -/
theorem Change.lines
    {input : LogInput}
    (hchange : v.Change input w)
    (hinput : input ≠ .event (.message (.logTick v.request))) :
    (w.raw = v.raw ∨ w.raw = w.kind.logs w.item w.logRequest) ∧ w.followed = v.followed := by
  cases hchange with
  | reads previous window =>
      obtain ⟨search, -, -, hlines⟩ :=
        withLines_eq { v with previous := previous, window := window } _
      rw [reload, hlines]
      exact ⟨Or.inr rfl, rfl⟩
  | toggles =>
      obtain ⟨-, hraw, hfollowed⟩ := lines_of_content_eq v.content_toggleFollow
      exact ⟨Or.inl hraw, hfollowed⟩
  | scrolls k input_eq outside =>
      obtain ⟨-, hraw, hfollowed⟩ := lines_of_content_eq (v.content_scroll k)
      exact ⟨Or.inl hraw, hfollowed⟩
  | ticks input_eq following =>
      exact absurd input_eq hinput
  | fits width height input_eq =>
      obtain ⟨-, hraw, hfollowed⟩ := lines_of_content_eq (v.content_setSize width height)
      exact ⟨Or.inl hraw, hfollowed⟩
  | stays | types text | searches search counts | wraps =>
      exact ⟨Or.inl rfl, rfl⟩

/-- A tick that is accepted adds the next line, if there is one. -/
theorem ticked_lines (v : LogView) :
    v.ticked.raw = v.raw ++ v.nextLine?.toList ∧
      v.ticked.followed = v.followed + v.nextLine?.toList.length := by
  unfold ticked advance
  rw [← nextLine?]
  cases hline : v.nextLine? with
  | none =>
      simp
  | some line =>
      obtain ⟨search, -, -, hlines⟩ :=
        withLines_eq { v with followed := v.followed + 1 } (v.raw ++ [line])
      simp only [hlines]
      exact ⟨rfl, rfl⟩

/-- The next line goes by what the log is the log of, and by the number of lines added. -/
theorem nextLine?_eq
    (hsource : w.source = v.source) :
    w.nextLine? = v.kind.followLine? v.item v.containerName w.followed := by
  have hkind : w.kind = v.kind := congrArg Prod.fst hsource
  have hrest := congrArg Prod.snd hsource
  have hitem : w.item = v.item := congrArg Prod.fst hrest
  have hcontainer : w.container = v.container := congrArg Prod.snd hrest
  rw [nextLine?, containerName, containerName, hkind, hitem, hcontainer]

theorem view_onTick (v : LogView) (k : Nat) :
    (v.onTick k).view = if v.following && k == v.request then v.ticked else v := by
  unfold onTick
  split <;> rfl

end LogView

namespace LoneLog

variable {s : LoneLog}

/-- The log takes the tick that it waits for, and nothing else that comes back. -/
theorem log_act_deliver
    (hc : s.Chained)
    (n : Nat) :
    (s.act (.deliver n)).log = if s.accepts (.deliver n) then s.log.ticked else s.log := by
  cases hget : s.pending[n]? with
  | none =>
      rw [act_deliver_of_none hget]
      simp [accepts, hget]
  | some m =>
      obtain ⟨k, rfl, -⟩ := hc.numbered m (List.mem_of_getElem? hget)
      simp only [act, hget, handle, LogView.respond, LogView.view_onTick, accepts]
      simp

theorem source_act (s : LoneLog) (input : Input) :
    (s.act input).log.source = s.log.source := by
  cases input with
  | key k =>
      exact (s.log.change_after (.event (.key k))).source
  | resize width height =>
      exact (s.log.change_after (.fit width height)).source
  | deliver n =>
      cases hget : s.pending[n]? with
      | none =>
          rw [act_deliver_of_none hget]
      | some m =>
          have hchange := s.log.change_after (.event (.message m))
          simp only [act, hget, handle]
          exact hchange.source

/-- What an input does to the lines: the tick that the log waits for adds the next line,
if there is one, and all else adds none. -/
structure Adds (s : LoneLog) (input : Input) (next : Option String) : Prop where
  gain : s.gain input = if s.accepts input then next.toList else []
  followed : (s.act input).log.followed = s.log.followed + (s.gain input).length
  accepted : s.accepts input = true → (s.act input).log.raw = s.log.raw ++ next.toList
  other : s.accepts input = false →
    (s.act input).log.raw = s.log.raw ∨
    (∀ n, input ≠ .deliver n) ∧
      (s.act input).log.raw =
        (s.act input).log.kind.logs (s.act input).log.item (s.act input).log.logRequest

/-- Keys and sizes add no lines. -/
theorem adds_of_change
    {input : Input} {change : LogInput}
    (hchange : s.log.Change change (s.act input).log)
    (hticks : change ≠ .event (.message (.logTick s.log.request)))
    (hgain : s.gain input = [])
    (haccepts : s.accepts input = false)
    (hinput : ∀ n, input ≠ .deliver n)
    (next : Option String) :
    s.Adds input next := by
  obtain ⟨hraw, hfollowed⟩ := hchange.lines hticks
  constructor
  · rw [hgain, haccepts]
    rfl
  · rw [hgain, hfollowed]
    rfl
  · intro h
    rw [haccepts] at h
    cases h
  · intro _
    exact hraw.imp_right fun h => ⟨hinput, h⟩

theorem adds_deliver
    (hc : s.Chained)
    (n : Nat) :
    s.Adds (.deliver n) s.log.nextLine? := by
  have hlog := log_act_deliver hc n
  obtain ⟨hraw, hfollowed⟩ := s.log.ticked_lines
  cases haccepts : s.accepts (.deliver n) with
  | true =>
      rw [haccepts, if_pos rfl] at hlog
      have hgain : s.gain (.deliver n) = s.log.nextLine?.toList := by
        rw [gain, hlog, hraw, List.drop_left]
      constructor
      · rw [haccepts, hgain]
        rfl
      · rw [hgain, hlog, hfollowed]
      · intro _
        rw [hlog, hraw]
      · intro h
        rw [haccepts] at h
        cases h
  | false =>
      rw [haccepts, if_neg (by simp)] at hlog
      have hgain : s.gain (.deliver n) = [] := by
        rw [gain, hlog, List.drop_length]
      constructor
      · rw [haccepts, hgain]
        rfl
      · rw [hgain, hlog]
        rfl
      · intro h
        rw [haccepts] at h
        cases h
      · intro _
        exact Or.inl (congrArg LogView.raw hlog)

theorem adds_act
    (hc : s.Chained)
    (input : Input) :
    s.Adds input s.log.nextLine? := by
  cases input with
  | key k =>
      exact adds_of_change (s.log.change_after (.event (.key k))) (by simp) rfl rfl (by simp) _
  | resize width height =>
      exact adds_of_change (s.log.change_after (.fit width height)) (by simp) rfl rfl (by simp) _
  | deliver n =>
      exact adds_deliver hc n

/-- The lines that were added so far are the first ones of a kind, in their order. -/
structure Lined (start s : LoneLog) (lines : List String) : Prop where
  source : s.log.source = start.log.source
  followed : s.log.followed = lines.length
  numbered :
    lines.map some =
      (List.range lines.length).map
        (start.log.kind.followLine? start.log.item start.log.containerName)

theorem Lined.act
    {start : LoneLog} {lines : List String}
    (hl : Lined start s lines)
    (hc : s.Chained)
    (input : Input) :
    Lined start (s.act input) (lines ++ s.gain input) := by
  have hadds := adds_act hc input
  refine ⟨(s.source_act input).trans hl.source, ?_, ?_⟩
  · rw [hadds.followed, hl.followed, List.length_append]
  · have hgain := hadds.gain
    have hnext := LogView.nextLine?_eq hl.source
    rw [hl.followed] at hnext
    rw [hnext] at hgain
    cases hline :
        start.log.kind.followLine? start.log.item start.log.containerName lines.length with
    | none =>
        rw [hline] at hgain
        have hnone : s.gain input = [] := by
          simpa using hgain
        rw [hnone, List.append_nil]
        exact hl.numbered
    | some line =>
        rw [hline] at hgain
        rw [hgain]
        split
        · simp [List.range_succ, hl.numbered, hline]
        · simpa using hl.numbered

theorem lined_run
    {start : LoneLog}
    (hc : start.Chained)
    (hfresh : start.log.followed = 0)
    (inputs : List Input) :
    Lined start (start.run inputs) (start.gains inputs) := by
  induction inputs using List.reverseRecOn with
  | nil =>
      exact ⟨rfl, hfresh, rfl⟩
  | append_singleton past input ih =>
      rw [run_concat, gains_concat]
      exact ih.act (chain_run hc past).1 input

theorem chained_ofItem (kind : Kind) (item : Item) (container : Option String) :
    (ofItem kind item container).Chained := by
  have hticking : (LogView.ofItem kind item container).ticking = (false, 0) :=
    LogView.ticking_reload _
  show Chain (LogView.ofItem kind item container).ticking []
  rw [hticking]
  exact ⟨rfl, by simp⟩

end LoneLog

open LoneLog in
/-- After any keys, sizes and ticks that came back, in any order and with any delay: just
one tick of the current number is on its way when the log is followed, and else none;
all ticks on their way have numbers up to the current one, and no number was taken back.
The lines that ticks have added are the first ones that the kind has for a followed log,
in their order, without gaps and repetitions.  Each tick that was accepted added the next
one, if the kind has it; no other tick changed the lines, and no key or size did, unless
they were read anew. -/
theorem one_tick_one_line
    (kind : Kind) (item : Item) (container : Option String) (inputs : List Input) :
    let start := LoneLog.ofItem kind item container
    let now := start.run inputs
    let line? := kind.followLine? item start.log.containerName
    now.pending.count (.logTick now.log.request) = (if now.log.following then 1 else 0) ∧
    (∀ m ∈ now.pending, ∃ k, m = .logTick k ∧ k ≤ now.log.request) ∧
    (∀ past, past <+: inputs → (start.run past).log.request ≤ now.log.request) ∧
    (start.gains inputs).map some = (List.range (start.gains inputs).length).map line? ∧
    ∀ past input, past ++ [input] <+: inputs →
      let before := (start.run past).log
      let after := (start.run (past ++ [input])).log
      if (start.run past).accepts input then
        after.raw = before.raw ++ (line? (start.gains past).length).toList
      else
        after.raw = before.raw ∨
        (∀ n, input ≠ .deliver n) ∧ after.raw = kind.logs item after.logRequest := by
  intro start now line?
  have hstart : start.Chained := chained_ofItem kind item container
  have hnow : now.Chained := (chain_run hstart inputs).1
  have hlined := lined_run hstart rfl
  refine ⟨hnow.counted, hnow.numbered, ?_, (hlined inputs).numbered, ?_⟩
  · rintro past ⟨more, rfl⟩
    have hlater := (chain_run (chain_run hstart past).1 more).2
    rw [← run_append] at hlater
    exact hlater
  · intro past input _ before after
    have hafter : after = ((start.run past).act input).log :=
      congrArg LoneLog.log (start.run_concat past input)
    have hnext : (start.run past).log.nextLine? = line? (start.gains past).length := by
      rw [LogView.nextLine?_eq (hlined past).source, (hlined past).followed]
      rfl
    have hadds := adds_act (chain_run hstart past).1 input
    rw [hnext] at hadds
    split
    · rename_i haccepts
      rw [hafter]
      exact hadds.accepted haccepts
    · rename_i haccepts
      have hsource := (hlined (past ++ [input])).source
      have hkind : after.kind = kind := congrArg Prod.fst hsource
      have hitem : after.item = item := congrArg Prod.fst (congrArg Prod.snd hsource)
      have hother := hadds.other (by simpa using haccepts)
      rw [← hafter, hkind, hitem] at hother
      exact hother

end ClusterNav
