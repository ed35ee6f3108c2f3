import Playback.Proofs.Handling.Reporting
import Playback.Proofs.Lock.Receiver

set_option autoImplicit false

namespace Playback

/-- An action for a message is no look at another one. -/
theorem Deed.looked?_of_isFor {deed : Deed} {message : Message} {style : HostStyle}
    (mine : deed.action.isFor message style = true) : deed.looked? = none := by
  obtain ⟨context, thread, action, outcome⟩ := deed
  cases action <;> first | rfl | cases mine

theorem Strand.take?_of_isFor {world : World} {disk : Disk} {strand : Strand} {context : Context}
    {action : Action} {outcome : Outcome} {message : Message} {style : HostStyle}
    (mine : action.isFor message style = true)
    (taken : strand.take? world disk context action = some outcome) :
    context.step strand.main strand.value disk action = some outcome := by
  unfold Strand.take? at taken
  split at taken
  · cases mine
  · exact taken

namespace Receiver

/-- Where a receiver stands: it has looked at some messages, what it does next it does for the last
of these, and the others are left. -/
structure AtWork (style : HostStyle) (messages : List Message) (waits credit : Nat)
    (own : List Deed) (program : Program) (passed left : List Message) (inner : Program) :
    Prop where
  split : messages = passed ++ left
  looked : own.filterMap Deed.looked? = passed
  todo : program = inner ++ left.map .handle
  serves : ∀ action ∈ inner, ∃ seen last, passed = seen ++ [last] ∧
    action.isFor last style = true
  /-- Eight actions for each message, and five for each manifest that waited or came in. -/
  cost : own.length + effort inner + waits ≤ 8 * passed.length + credit
  halts : .halt ∈ inner → ∃ deed ∈ own, deed.reports
  fetches : ∀ early deed late, own = early ++ deed :: late → deed.reports →
    ∃ seen last, early.filterMap Deed.looked? = seen ++ [last] ∧ last.kind = .fetchRecording

namespace AtWork

variable {style : HostStyle} {messages passed left : List Message} {waits credit : Nat}
  {own : List Deed} {program inner rest : Program} {deed : Deed}

/-- What others do changes nothing for the receiver but the manifests that wait. -/
theorem rests (work : AtWork style messages waits credit own program passed left inner)
    {later further : Nat} (few : later + credit ≤ waits + further) :
    AtWork style messages later further own program passed left inner :=
  { work with cost := by have cost := work.cost; omega }

/-- The first look at the next message. -/
theorem looks {message : Message} (mine : message.fork = deed.context.fork)
    (work : AtWork style messages deed.context.manifests.effort credit own program passed
      (message :: left) [])
    (same : deed.context.host.style = style) (looks : deed.action = .handle message)
    (taken : deed.outcome = deed.context.handle message) :
    AtWork style messages deed.outcome.context.manifests.effort (credit + 5 * deed.action.brings)
      (own ++ [deed]) (deed.outcome.next ++ left.map .handle) (passed ++ [message]) left
      deed.outcome.next := by
  have serves := Context.handle_serves mine
  rw [← taken, ← looks] at serves
  refine ⟨by simp [work.split], ?_, rfl, ?_, ?_, ?_, ?_⟩
  · rw [filterMap_snoc, work.looked, Deed.looked?, looks]
    rfl
  · exact fun action member =>
      ⟨passed, message, rfl, same ▸ List.all_eq_true.mp serves.next action member⟩
  · have before := work.cost
    have cost := serves.cost
    have first : deed.action.effort = 8 := by rw [looks]; rfl
    have nothing : effort [] = 0 := rfl
    rw [List.length_append, List.length_append, List.length_singleton, List.length_singleton]
    omega
  · intro halts
    obtain ⟨⟨text, reports⟩, -⟩ := serves.halts halts
    rw [looks] at reports
    cases reports
  · intro early other late split reports
    rcases snoc_eq_middle split with ⟨-, rfl, -⟩ | ⟨others, before, -⟩
    · obtain ⟨⟨text, report⟩, -⟩ := reports
      rw [looks] at report
      cases report
    · exact work.fetches early other others before reports

/-- An action for the message that was looked at last. -/
theorem acts (work : AtWork style messages deed.context.manifests.effort credit own program passed
      left (deed.action :: inner))
    (same : deed.context.host.style = style) {main : Bool} {value : Reply} {disk : Disk}
    (taken : deed.context.step main value disk deed.action = some deed.outcome) :
    AtWork style messages deed.outcome.context.manifests.effort (credit + 5 * deed.action.brings)
      (own ++ [deed]) (deed.outcome.next ++ (inner ++ left.map .handle)) passed left
      (deed.outcome.next ++ inner) := by
  obtain ⟨first, others⟩ := List.forall_mem_cons.mp work.serves
  obtain ⟨seen, last, whole, mine⟩ := first
  rw [← same] at mine
  have serves := Context.step_serves mine taken
  refine ⟨work.split, ?_, by rw [List.append_assoc], ?_, ?_, ?_, ?_⟩
  · rw [filterMap_snoc, work.looked, Deed.looked?_of_isFor mine]
    exact List.append_nil passed
  · intro action member
    rcases List.mem_append.mp member with new | old
    · exact ⟨seen, last, whole, same ▸ List.all_eq_true.mp serves.next action new⟩
    · exact others action old
  · have before := work.cost
    have cost := serves.cost
    rw [effort_cons] at before
    rw [List.length_append, List.length_singleton, effort_append]
    omega
  · intro halts
    rcases List.mem_append.mp halts with new | old
    · exact ⟨deed, List.mem_append_right _ (List.mem_singleton_self deed), serves.halts new⟩
    · obtain ⟨other, member, reports⟩ := work.halts (List.mem_cons_of_mem _ old)
      exact ⟨other, List.mem_append_left _ member, reports⟩
  · intro early other late split reports
    rcases snoc_eq_middle split with ⟨rfl, rfl, -⟩ | ⟨before, there, -⟩
    · obtain ⟨⟨text, report⟩, -⟩ := reports
      rw [report] at mine
      exact ⟨seen, last, work.looked.trans whole, of_decide_eq_true mine⟩
    · exact work.fetches early other before there reports

end AtWork

/-- A thread has reported a fatal error before it came to look at a message behind others. -/
def Stops (own : List Deed) (front : List Message) : Prop :=
  ∃ early deed late, own = early ++ deed :: late ∧ deed.reports ∧
    (early.filterMap Deed.looked?).length ≤ front.length

theorem Stops.append {own : List Deed} {front : List Message} (stops : Stops own front)
    (more : List Deed) : Stops (own ++ more) front := by
  obtain ⟨early, deed, late, rfl, reports, few⟩ := stops
  exact ⟨early, deed, late ++ more, by rw [List.append_assoc, List.cons_append], reports, few⟩

end Receiver

namespace History

open Receiver Threads

/-- Threads that use the lock in order, in a world that leaves it and the manifests to them. -/
abbrev FreeMoves : History → History → Prop :=
  Moves (fun world => world.Lawful ∧ world.Calm) Threads.Admits

/-- All that was done was done while the write side of the lock was free, and nobody has come back
from a halt. -/
structure Free (history : History) : Prop where
  now : history.threads.state.lock.isWriteLocked = false
  before : ∀ deed ∈ history.deeds,
    deed.context.lock.isWriteLocked = false ∧ deed.action.isHalt = false

instance (history : History) : Decidable history.Free :=
  decidable_of_iff
    (history.threads.state.lock.isWriteLocked = false ∧ ∀ deed ∈ history.deeds,
      deed.context.lock.isWriteLocked = false ∧ deed.action.isHalt = false)
    ⟨fun ⟨now, before⟩ => ⟨now, before⟩, fun free => ⟨free.now, free.before⟩⟩

variable {first history next : History} {number : Nat}

theorem FreeMoves.lock (moves : FreeMoves history next) : LockMoves history next :=
  moves.mono (fun _ law => law.1) fun _ _ admits => admits

/-- What is free was so all the time. -/
theorem Free.of_moves (free : next.Free) (moves : FreeMoves history next) : history.Free := by
  cases moves with
  | begins main allowed => exact ⟨free.now, free.before⟩
  | ends done => exact ⟨free.now, free.before⟩
  | acts law todo taken =>
    obtain ⟨earlier, last⟩ := List.forall_mem_append.mp free.before
    exact ⟨(last _ (List.mem_singleton_self _)).1, earlier⟩

/-- What stays the same for a child and its threads. -/
structure Steady (first next : History) : Prop where
  sound : next.Sound
  fork : next.threads.state.fork = first.threads.state.fork
  style : next.threads.state.host.style = first.threads.state.host.style
  begun : first.begun ≤ next.begun

theorem Steady.start (sound : first.Sound) : Steady first first := ⟨sound, rfl, rfl, le_rfl⟩

theorem Steady.moves (steady : Steady first history) (moves : LockMoves history next) :
    Steady first next where
  sound := steady.sound.moves moves
  fork := (moves.threads.fork steady.sound.counted).trans steady.fork
  style := (moves.threads.style steady.sound.counted).trans steady.style
  begun := by
    refine steady.begun.trans ?_
    cases moves with
    | begins main allowed => exact Nat.le_succ _
    | acts law todo taken => exact Nat.le_refl _
    | ends done => exact Nat.le_refl _

theorem Steady.run (sound : first.Sound) (run : Relation.ReflTransGen FreeMoves first next) :
    Steady first next := by
  induction run with
  | refl => exact .start sound
  | tail _ moves ih => exact ih.moves moves.lock

/-- Manifests wait only if they came in. -/
theorem Moves.pending {may : Threads → Program → Prop}
    (moves : Moves (fun world => world.Lawful ∧ world.Calm) may history next) :
    next.threads.state.manifests.effort + 5 * history.received.length ≤
      history.threads.state.manifests.effort + 5 * next.received.length := by
  cases moves with
  | begins main allowed => exact Nat.le_refl _
  | ends done => exact Nat.le_refl _
  | @acts world law disk context before after one action rest outcome deeds begun todo taken =>
    have waits := Strand.take?_pending law.2 taken
    rw [received, received, filterMap_snoc, List.length_append]
    unfold Manifests.effort
    unfold Action.brings at waits
    dsimp only
    omega

/-- A thread that has reported a fatal error is on its way into a halt, and looks at nothing. -/
theorem silent (sound : first.Sound) (known : number < first.begun) (nothing : first.deeds = [])
    (run : Relation.ReflTransGen FreeMoves first next) (free : next.Free) {early late : List Deed}
    {deed : Deed} (split : Deed.own next.deeds number = early ++ deed :: late)
    (reports : deed.reports) :
    late.filterMap Deed.looked? = [] ∧
      ∃ rest, (late = [] ∧ ∃ text, next.programOf number = .sendFatal text :: .halt :: rest) ∨
        next.programOf number = .halt :: rest := by
  induction run generalizing late with
  | refl =>
    rw [nothing] at split
    cases early <;> cases split
  | @tail middle next front moves ih =>
    have steady := Steady.run sound front
    have before := free.of_moves moves
    cases moves.track steady.sound.numbered (known.trans_le steady.begun) with
    | rests own program =>
      rw [own] at split
      rw [program]
      exact ih before split
    | @acts last rest moment made state own program after =>
      rw [own] at split
      obtain ⟨world, disk, _, law, _, taken⟩ := moment.taken
      have stays : last.action.isHalt = false :=
        (free.before last (made ▸ List.mem_append_right _ (List.mem_singleton_self last))).2
      rcases snoc_eq_middle split with ⟨-, rfl, rfl⟩ | ⟨others, there, rfl⟩
      · obtain ⟨⟨text, report⟩, exiting⟩ := reports
        rw [report] at taken
        have outcome : last.context.reportFatal text = last.outcome := Option.some.inj taken
        have next : last.outcome.next = [.sendFatal text, .halt] := by
          rw [← outcome, Context.reportFatal, exiting]
          rfl
        rw [after, next]
        exact ⟨rfl, rest, Or.inl ⟨rfl, text, rfl⟩⟩
      · obtain ⟨quiet, further, ⟨rfl, text, sends⟩ | halts⟩ := ih before there
        · rw [program] at sends
          obtain ⟨sending, rfl⟩ := List.cons.inj sends
          rw [sending] at taken
          have outcome : last.context.sendFatal last.thread.call.main text = last.outcome :=
            Option.some.inj taken
          have next : last.outcome.next = [] := by
            rw [← outcome]
            rfl
          refine ⟨?_, further, Or.inr (by rw [after, next]; rfl)⟩
          simp [Deed.looked?, sending]
        · rw [program] at halts
          rw [(List.cons.inj halts).1] at stays
          cases stays

/-- Where the receiver stands at every moment. -/
theorem atWork_of_run (sound : first.Sound) (nothing : first.deeds = [])
    {receiver : Waiting Strand} (there : receiver ∈ first.threads.waiting)
    {messages : List Message} (arrive : receiver.call.todo = messages.map .handle)
    (mine : ∀ message ∈ messages, message.fork = first.threads.state.fork)
    (run : Relation.ReflTransGen FreeMoves first next) :
    ∃ passed left inner, AtWork first.threads.state.host.style messages
      next.threads.state.manifests.effort
      (first.threads.state.manifests.effort + 5 * next.received.length)
      (Deed.own next.deeds receiver.ticket) (next.programOf receiver.ticket) passed left inner := by
  induction run with
  | refl =>
    refine ⟨[], messages, [], rfl, ?_, ?_, List.forall_mem_nil _, ?_, nofun, ?_⟩
    · rw [nothing]
      rfl
    · exact (programOf_of_mem sound.numbered there).trans arrive
    · rw [received, nothing]
      change 0 + 0 + _ ≤ 8 * 0 + (_ + 5 * 0)
      omega
    · rw [nothing]
      intro early deed late split
      cases early <;> cases split
  | @tail middle next front moves ih =>
    have steady := Steady.run sound front
    have known : receiver.ticket < middle.begun :=
      (sound.numbered.given receiver there).trans_le steady.begun
    obtain ⟨passed, left, inner, work⟩ := ih
    cases moves.track steady.sound.numbered known with
    | rests own program =>
      rw [own, program]
      have waits := moves.pending
      exact ⟨passed, left, inner, work.rests (by omega)⟩
    | @acts deed rest moment made state own before after =>
      have fork := steady.fork
      have style := steady.style
      rw [moment.state] at work fork style
      obtain ⟨world, disk, _, law, _, taken⟩ := moment.taken
      have further : next.received.length = middle.received.length + deed.action.brings := by
        rw [received, made, filterMap_snoc, List.length_append]
        rfl
      rw [own, after, state, further, Nat.mul_add, ← Nat.add_assoc]
      have todo := before.symm.trans work.todo
      cases inner with
      | nil =>
        cases left with
        | nil => cases todo
        | cons message left =>
          obtain ⟨action, rfl⟩ := List.cons.inj todo
          rw [action] at taken
          have member : message ∈ messages := by
            rw [work.split]
            exact List.mem_append_right _ List.mem_cons_self
          exact ⟨_, _, _, work.looks ((mine message member).trans fork.symm) style action
            (Option.some.inj taken).symm⟩
      | cons action inner =>
        obtain ⟨rfl, rfl⟩ := List.cons.inj todo
        obtain ⟨seen, last, -, served⟩ := work.serves _ List.mem_cons_self
        exact ⟨_, _, _, work.acts style (Strand.take?_of_isFor served taken)⟩

/-- A message that ends the child is handled with the first look at it. -/
theorem handled_of_looked (sound : first.Sound) (nothing : first.deeds = [])
    (run : Relation.ReflTransGen FreeMoves first next) {front back : List Message}
    {message : Message} (mine : message.fork = first.threads.state.fork)
    (kind : message.kind = .terminate)
    (looked : (Deed.own next.deeds number).filterMap Deed.looked? = front ++ message :: back) :
    Handled (Deed.own next.deeds number) front message := by
  obtain ⟨before, behind, split, first, others⟩ := List.filterMap_eq_append_iff.mp looked
  obtain ⟨between, deed, rest, rfl, quiet, looks, -⟩ := List.filterMap_eq_cons_iff.mp others
  have action : deed.action = .handle message := by
    unfold Deed.looked? at looks
    split at looks <;> cases looks
    assumption
  have member : deed ∈ next.deeds := by
    refine List.mem_of_mem_filter (p := fun deed => deed.thread.ticket = number) ?_
    rw [← Deed.own, split]
    simp
  obtain ⟨early, late, whole⟩ := List.append_of_mem member
  obtain ⟨middle, come, -, moment⟩ := moment_of_run run nothing whole
  have fork := (Steady.run sound come).fork
  rw [moment.state] at fork
  obtain ⟨world, disk, _, -, -, taken⟩ := moment.taken
  rw [action] at taken
  have outcome : deed.context.handle message = deed.outcome := Option.some.inj taken
  refine ⟨before ++ between, [deed], rest, by simp [split], ?_, ?_⟩
  · rw [List.filterMap_append, first, List.filterMap_eq_nil_iff.mpr quiet, List.append_nil]
  · rcases handle_cases deed.context message with
      ⟨-, -, -, effects, exits⟩ | ⟨-, crash, -⟩ | ⟨needs, -⟩
    · exact .terminates kind action (outcome ▸ effects) (outcome ▸ exits)
    · rw [kind] at crash
      cases crash
    · exact absurd ⟨mine.trans fork.symm, by simp [ForkTable.endsProcess, kind]⟩ needs

/-- What becomes of a message that ends the child, behind others before its receiver. -/
structure Ending (first next : History) (number : Nat) (front : List Message)
    (message : Message) : Prop where
  /-- The message is handled, or the receiver is free to go on. -/
  goesOn : ¬ Stops (Deed.own next.deeds number) front →
    Handled (Deed.own next.deeds number) front message ∨
      ∃ one ∈ next.threads.waiting, one.ticket = number ∧
        ∀ world disk, (one.call.move world disk next.threads.state).isSome = true
  /-- It goes on for eight actions for each message and five for each manifest, at most. -/
  soon :
    8 * front.length + 5 * (first.threads.state.manifests.pending.length + next.received.length) <
      (Deed.own next.deeds number).length →
    Handled (Deed.own next.deeds number) front message
  /-- Behind the report of a fatal error the message is never handled. -/
  never : Stops (Deed.own next.deeds number) front →
    ∀ later, Relation.ReflTransGen FreeMoves next later → later.Free →
      ¬ Handled (Deed.own later.deeds number) front message
  /-- The recording could not be read when a message in front asked for it. -/
  fetches : Stops (Deed.own next.deeds number) front →
    ∃ one ∈ front, one.kind = .fetchRecording

/-- Behind a report there are no further looks. -/
theorem not_handled_of_stops (sound : first.Sound) (known : number < first.begun)
    (nothing : first.deeds = []) (run : Relation.ReflTransGen FreeMoves first next)
    (free : next.Free) {front : List Message} {message : Message}
    (stops : Stops (Deed.own next.deeds number) front) :
    ¬ Handled (Deed.own next.deeds number) front message := by
  obtain ⟨early, deed, late, split, reports, few⟩ := stops
  rintro ⟨before, handling, rest, same, looked, handles⟩
  obtain ⟨quiet, -⟩ := silent sound known nothing run free split reports
  have report : deed.looked? = none := by
    obtain ⟨⟨text, report⟩, -⟩ := reports
    rw [Deed.looked?, report]
  have looks : (Deed.own next.deeds number).filterMap Deed.looked? =
      early.filterMap Deed.looked? := by
    rw [split, filterMap_middle, report, quiet]
    exact List.append_nil _
  rw [same, List.filterMap_append, List.filterMap_append, looked, handles.looked] at looks
  have lengths := congrArg List.length looks
  simp only [List.length_append, List.length_singleton] at lengths
  omega

/-- What was reported stays so. -/
theorem never_handled_of_stops (sound : first.Sound) (known : number < first.begun)
    (nothing : first.deeds = []) (run : Relation.ReflTransGen FreeMoves first next)
    {front : List Message} {message : Message}
    (stops : Stops (Deed.own next.deeds number) front) :
    ∀ later, Relation.ReflTransGen FreeMoves next later → later.Free →
      ¬ Handled (Deed.own later.deeds number) front message := by
  intro later further free
  obtain ⟨more, same⟩ :=
    (deeds_of_run further).filter (fun deed => deed.thread.ticket = number)
  have still : Stops (Deed.own later.deeds number) front := by
    rw [Deed.own, ← same]
    exact stops.append more
  exact not_handled_of_stops sound known nothing (run.trans further) free still

section Sequence

variable {receiver : Waiting Strand} {messages front back passed left : List Message}
  {message : Message} {style : HostStyle} {waits credit : Nat} {own : List Deed}
  {program inner : Program}

/-- Until a message is handled, what was reported was so in front of it. -/
theorem stops_of_reports
    (work : AtWork style messages waits credit own program passed left inner)
    (few : passed.length ≤ front.length) {deed : Deed} (there : deed ∈ own)
    (reports : deed.reports) : Stops own front := by
  obtain ⟨early, late, split⟩ := List.append_of_mem there
  refine ⟨early, deed, late, split, reports, le_trans ?_ few⟩
  rw [← work.looked, split, List.filterMap_append, List.length_append]
  exact Nat.le_add_right _ _

/-- A message that ends the child has been handled, or so far no more than the messages in front of
it have been looked at. -/
theorem handled_or_le (sound : first.Sound) (nothing : first.deeds = [])
    (run : Relation.ReflTransGen FreeMoves first next)
    (mine : message.fork = first.threads.state.fork) (kind : message.kind = .terminate)
    (work : AtWork style (front ++ message :: back) waits credit (Deed.own next.deeds number)
      program passed left inner) :
    Handled (Deed.own next.deeds number) front message ∨ passed.length ≤ front.length := by
  by_cases past : front.length < passed.length
  · have whole : front ++ [message] <+: front ++ message :: back := ⟨back, by simp⟩
    have part : passed <+: front ++ message :: back := ⟨left, work.split.symm⟩
    obtain ⟨more, same⟩ := List.prefix_of_prefix_length_le whole part
      (by rw [List.length_append]; exact past)
    have looked := work.looked
    rw [← same, List.append_assoc, List.singleton_append] at looked
    exact Or.inl (handled_of_looked sound nothing run mine kind looked)
  · exact Or.inr (Nat.le_of_not_lt past)

/-- In front of a message that ends the child the receiver always goes on if it has reported
nothing. -/
theorem goesOn_of_work (free : next.Free)
    (work : AtWork next.threads.state.host.style (front ++ message :: back) waits credit
      (Deed.own next.deeds number) (next.programOf number) passed left inner)
    (few : passed.length ≤ front.length) (goes : ¬ Stops (Deed.own next.deeds number) front) :
    ∃ one ∈ next.threads.waiting, one.ticket = number ∧
      ∀ world disk, (one.call.move world disk next.threads.state).isSome = true := by
  have todo := work.todo
  cases inner with
  | nil =>
    cases left with
    | nil =>
      have lengths := congrArg List.length work.split
      simp only [List.length_append, List.length_cons, List.length_nil] at lengths
      omega
    | cons other left =>
      obtain ⟨one, member, ticket, program⟩ := exists_of_programOf todo
      refine ⟨one, member, ticket, fun world disk => ?_⟩
      rw [Strand.move, program]
      rfl
  | cons action inner =>
    obtain ⟨one, member, ticket, program⟩ := exists_of_programOf todo
    obtain ⟨seen, last, -, served⟩ := work.serves action List.mem_cons_self
    have stays : action ≠ .halt := by
      rintro rfl
      obtain ⟨deed, inside, reports⟩ := work.halts List.mem_cons_self
      exact goes (stops_of_reports work few inside reports)
    refine ⟨one, member, ticket, fun world disk => ?_⟩
    have steps := Context.step_isSome served stays free.now one.call.main one.call.value disk
    rw [Strand.move, program]
    dsimp only
    rw [Option.isSome_map]
    unfold Strand.take?
    split
    · cases served
    · exact steps

/-- Only a message that asks for the recording leads to a report. -/
theorem fetches_of_stops
    (work : AtWork style (front ++ message :: back) waits credit own program passed left inner)
    (stops : Stops own front) : ∃ one ∈ front, one.kind = .fetchRecording := by
  obtain ⟨early, deed, late, split, reports, few⟩ := stops
  obtain ⟨seen, last, looked, asks⟩ := work.fetches early deed late split reports
  have seenHere : seen ++ [last] <+: passed := by
    rw [← work.looked, split, List.filterMap_append, looked]
    exact List.prefix_append _ _
  have inside : seen ++ [last] <+: front :=
    List.prefix_of_prefix_length_le (seenHere.trans ⟨left, work.split.symm⟩)
      (List.prefix_append _ _) (looked ▸ few)
  exact ⟨last, inside.subset (List.mem_append_right _ (List.mem_singleton_self last)), asks⟩

/-- While the lock is never write-held, a message that ends the child is handled behind other
messages for it, unless its receiver has reported a fatal error for one of those: then it halts, and
the message is never handled. -/
theorem ends_unless_stopped {history next : History} (reachable : history.Reachable)
    (there : receiver ∈ history.threads.waiting)
    (arrive : receiver.call.todo = (front ++ message :: back).map .handle)
    (mine : ∀ one ∈ front ++ message :: back, one.fork = history.threads.state.fork)
    (kind : message.kind = .terminate)
    (run : Relation.ReflTransGen FreeMoves history.watch next) (free : next.Free) :
    Ending history next receiver.ticket front message := by
  have sound : history.watch.Sound := reachable.sound.watch
  have known : receiver.ticket < history.watch.begun := sound.numbered.given receiver there
  have style := (Steady.run sound run).style
  obtain ⟨passed, left, inner, work⟩ := atWork_of_run sound rfl there arrive mine run
  have own : message.fork = history.threads.state.fork :=
    mine message (List.mem_append_right _ List.mem_cons_self)
  have place := handled_or_le sound rfl run own kind work
  refine ⟨fun goes => place.imp_right fun few => goesOn_of_work free (style ▸ work) few goes,
    fun many => place.resolve_right fun few => ?_, never_handled_of_stops sound known rfl run,
    fetches_of_stops work⟩
  have cost := work.cost
  unfold Manifests.effort at cost
  dsimp only [watch] at cost
  omega

end Sequence

/-- A plain root that knows no recording, before messages that have arrived. -/
def reading (messages : List Message) : History where
  threads :=
    { state := { config := {}, channel := some 0 }
      waiting := [{ ticket := 0, call := { todo := messages.map .handle } }] }
  begun := 1

theorem reading_reachable (messages : List Message) : (reading messages).Reachable := by
  refine ⟨{ state := { config := {}, channel := some 0 } }, ⟨rfl, nofun, rfl⟩, .single ?_⟩
  exact .begins false ⟨orderly_handles .plain messages, by decide⟩

/-- What a root comes to when its receiver takes some actions. -/
theorem reading_run {messages : List Message} {count : Nat} {next : History}
    (played : (reading messages).watch.play (List.replicate count (.acts 0)) = some next) :
    Relation.ReflTransGen FreeMoves (reading messages).watch next := by
  refine moves_of_play ⟨World.still_lawful, World.still_calm⟩ ?_ played
  intro main program begins
  cases List.eq_of_mem_replicate begins

/-- A root that is asked for a checkpoint and then told to end is through with both. -/
theorem checkpoint_leaves_end : ∃ next,
    Relation.ReflTransGen FreeMoves (reading [.createCheckpoint 0, .terminate 0]).watch next ∧
    next.Free ∧ next.threads.waiting = [] ∧
    Handled (Deed.own next.deeds 0) [.createCheckpoint 0] (.terminate 0) := by
  have played : ((reading [.createCheckpoint 0, .terminate 0]).watch.play
      (List.replicate 5 (.acts 0))).map
      (fun next => (decide next.Free, next.threads.waiting.map fun one => one.call.todo.isEmpty)) =
      some (true, [true]) := by
    decide +kernel
  obtain ⟨⟨⟨state, waiting⟩, deeds, begun⟩, ran, same⟩ := Option.map_eq_some_iff.mp played
  obtain ⟨free, left⟩ := Prod.mk.inj same
  obtain ⟨one, rfl, done⟩ := List.map_eq_singleton_iff.mp left
  have free := of_decide_eq_true free
  have ends : FreeMoves _ { threads := { state, waiting := [] }, deeds, begun } :=
    @Moves.ends _ _ state [] [] one deeds begun (List.isEmpty_iff.mp done)
  have run := (reading_run ran).tail ends
  have ending : Ending (reading [.createCheckpoint 0, .terminate 0]) _ 0 [.createCheckpoint 0]
      (.terminate 0) :=
    ends_unless_stopped (reading_reachable _) List.mem_cons_self rfl (by decide) rfl run
      ⟨free.now, free.before⟩
  have goes : ¬ Stops (Deed.own deeds 0) [.createCheckpoint 0] := by
    intro stops
    obtain ⟨other, member, asks⟩ := ending.fetches stops
    rw [List.mem_singleton.mp member] at asks
    cases asks
  refine ⟨_, run, ⟨free.now, free.before⟩, rfl, (ending.goesOn goes).resolve_right ?_⟩
  rintro ⟨other, nobody, -⟩
  cases nobody

/-- A message that ends the child is never handled behind one that asks for a recording that nobody
has named. -/
theorem report_hides_end : (reading [.fetchRecording 0, .terminate 0]).Reachable ∧ ∃ next,
    Relation.ReflTransGen FreeMoves (reading [.fetchRecording 0, .terminate 0]).watch next ∧
    next.Free ∧ Stops (Deed.own next.deeds 0) [.fetchRecording 0] ∧
    ∀ later, Relation.ReflTransGen FreeMoves next later → later.Free →
      ¬ Handled (Deed.own later.deeds 0) [.fetchRecording 0] (.terminate 0) := by
  obtain ⟨text, played⟩ : ∃ text,
      ((reading [.fetchRecording 0, .terminate 0]).watch.play (List.replicate 6 (.acts 0))).map
        (fun next => (decide next.Free,
          (Deed.own next.deeds 0)[4]?.map fun deed => (deed.action, deed.context.exiting),
          (((Deed.own next.deeds 0).take 4).filterMap Deed.looked?).length)) =
        some (true, some (.reportFatal text, false), 1) := ⟨_, rfl⟩
  obtain ⟨next, ran, same⟩ := Option.map_eq_some_iff.mp played
  simp only [Prod.mk.injEq, Option.map_eq_some_iff] at same
  obtain ⟨free, ⟨deed, there, action, exiting⟩, few⟩ := same
  have run := reading_run ran
  have free := of_decide_eq_true free
  have stops : Stops (Deed.own next.deeds 0) [.fetchRecording 0] := by
    obtain ⟨inside, rfl⟩ := List.getElem?_eq_some_iff.mp there
    refine ⟨_, _, (Deed.own next.deeds 0).drop 5, ?_, ⟨⟨text, action⟩, exiting⟩, few.le⟩
    rw [List.getElem_cons_drop, List.take_append_drop]
  exact ⟨reading_reachable _, next, run, free, stops,
    never_handled_of_stops (reading_reachable _).sound.watch Nat.one_pos rfl run stops⟩

end History

end Playback
