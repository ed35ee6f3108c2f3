import Playback.Proofs.Lock.History

set_option autoImplicit false

namespace Playback

/-- A program that uses the lock in order may begin while there is room for one thread more. -/
def Threads.Admits (threads : Threads) (program : Program) : Prop :=
  Orderly threads.state.host.style program ∧ threads.waiting.length + 1 < LockWord.limit

instance (threads : Threads) (program : Program) : Decidable (threads.Admits program) :=
  inferInstanceAs (Decidable (_ ∧ _))

namespace History

/-- Threads that use the lock in order, in a world that leaves it to them. -/
abbrev LockMoves : History → History → Prop := Moves World.Lawful Threads.Admits

/-- The histories of a child whose lock nobody has taken at first. -/
def Reachable (history : History) : Prop :=
  ∃ fresh : Threads, fresh.Fresh ∧ Relation.ReflTransGen LockMoves { threads := fresh } history

/-- Some thread holds the write side of the lock. -/
def Held (history : History) : Prop :=
  ∃ one ∈ history.threads.waiting,
    Threads.stance? history.threads.state.host.style one = some .writing

/-- What may happen while some thread holds the write side at every moment. -/
abbrev HeldRun : History → History → Prop :=
  Relation.ReflTransGen fun history next => LockMoves history next ∧ next.Held

/-- A history that begins now. -/
def watch (history : History) : History := { history with deeds := [] }

variable {history next : History}

theorem Moves.threads (moves : LockMoves history next) :
    Threads.Moves history.threads next.threads := by
  cases moves with
  | begins main allowed => exact .begins _ allowed.1 allowed.2
  | @acts world law disk context before after one action rest outcome deeds begun todo taken =>
    have moved : one.call.move world disk context =
        some { state := outcome.context, records := outcome.records,
               next := .inl (one.call.after outcome rest) } := by
      rw [Strand.move, todo]
      dsimp only
      rw [taken]
      rfl
    exact .acts law (.goesOn moved rfl)
  | @ends context before after one deeds begun done =>
    have moved : one.call.move World.still {} context =
        some { state := context, next := .inr one.call.value } := by
      rw [Strand.move, done]
    exact .acts World.still_lawful (.answers moved rfl)

/-- The word of the lock agrees with the threads, and their numbers are their own. -/
structure Sound (history : History) : Prop where
  counted : Threads.Counted history.threads
  numbered : history.Numbered

theorem Sound.moves (sound : history.Sound) (moves : LockMoves history next) : next.Sound :=
  ⟨sound.counted.run (Relation.ReflTransGen.single moves.threads), sound.numbered.moves moves⟩

theorem Sound.run (sound : history.Sound) (run : HeldRun history next) : next.Sound := by
  induction run with
  | refl => exact sound
  | tail _ moves ih => exact ih.moves moves.1

theorem Reachable.sound (reachable : history.Reachable) : history.Sound := by
  obtain ⟨fresh, origin, run⟩ := reachable
  induction run with
  | refl =>
    refine ⟨.of_fresh origin, ?_, ?_⟩ <;> rw [origin.2.2]
    · exact List.nodup_nil
    · exact fun _ there => absurd there List.not_mem_nil
  | tail _ moves ih => exact ih.moves moves

theorem Sound.watch (sound : history.Sound) : history.watch.Sound :=
  ⟨sound.counted, sound.numbered.apart, sound.numbered.given⟩

/-- The word of the lock shows that somebody holds it. -/
theorem Held.locked (held : history.Held) (counted : Threads.Counted history.threads) :
    history.threads.state.lock.isWriteLocked = true := by
  obtain ⟨one, there, writes⟩ := held
  obtain ⟨stances, stand, tally⟩ := counted.tallied
  have member := List.mem_map_of_mem (f := Threads.stance? history.threads.state.host.style) there
  rw [stand, writes] at member
  have writing : Stance.writing ∈ stances := by simpa using member
  have some : 0 < stances.count .writing := List.count_pos_iff.mpr writing
  have single : writers stances = 1 := by
    have most := tally.single
    have least : stances.count .writing ≤ writers stances := Nat.le_add_left _ _
    omega
  rw [tally.counts.isWriteLocked_eq, single]
  rfl

theorem orderly_handles (style : HostStyle) (messages : List Message) :
    Orderly style (messages.map .handle) := by
  induction messages with
  | nil => rfl
  | cons message messages ih =>
    have first : Orderly style [.handle message] := rfl
    exact first.append ih

end History

/-! What a receiver does -/

/-- The message that a thread begins with. -/
def Deed.looked? (deed : Deed) : Option Message :=
  match deed.action with
  | .handle message => some message
  | _ => none

/-- What a child reports when it is told that it hangs. -/
def hungText : String := "Hung replaying process"

namespace Receiver

/-- A message of the kinds that the lock does not concern. -/
def Passes (fork : UInt32) (message : Message) : Prop :=
  message.fork = fork ∧ ForkTable.endsProcess message = true

/-- What a thread does to handle an urgent message: the end of the child reaches its host, a child
that hangs sends its fatal error, and a probe is answered. -/
inductive Handles (message : Message) : List Deed → Prop where
  | terminates {deed : Deed} (kind : message.kind = .terminate)
      (looks : deed.action = .handle message) (reaches : deed.outcome.effects = [.terminate])
      (exits : deed.outcome.context.exiting = true) : Handles message [deed]
  | reports {look report : Deed} (kind : message.kind = .crash)
      (looks : look.action = .handle message) (fails : report.action = .sendFatal hungText)
      (sends : report.outcome.effects =
        report.context.sendEffects (.fatalError message.fork hungText)) :
      Handles message [look, report]
  | answers {look enter answer leave : Deed} {id : UInt32} (probe : message.payload = .ping id)
      (looks : look.action = .handle message) (enters : enter.action = .enterRead)
      (dispatches : answer.action = .dispatch message)
      (sends : answer.outcome.effects = answer.context.sendEffects
        (.pingResponse message.fork id answer.context.host.progress))
      (leaves : leave.action = .leaveRead) : Handles message [look, enter, answer, leave]

/-- A thread has handled a message that arrived behind others. -/
def Handled (own : List Deed) (front : List Message) (message : Message) : Prop :=
  ∃ early handling rest, own = early ++ handling ++ rest ∧
    early.filterMap Deed.looked? = front ∧ Handles message handling

theorem Handled.append {own : List Deed} {front : List Message} {message : Message}
    (handled : Handled own front message) (more : List Deed) :
    Handled (own ++ more) front message := by
  obtain ⟨early, handling, rest, rfl, looked, handles⟩ := handled
  exact ⟨early, handling, rest ++ more, by rw [List.append_assoc], looked, handles⟩

theorem Handles.looked {message : Message} {deeds : List Deed} (handles : Handles message deeds) :
    deeds.filterMap Deed.looked? = [message] := by
  cases handles with
  | terminates _ looks => simp [Deed.looked?, looks]
  | reports _ looks fails => simp [Deed.looked?, looks, fails]
  | answers _ looks enters dispatches _ leaves =>
    simp [Deed.looked?, looks, enters, dispatches, leaves]

/-- Without the lock a thread takes two actions at most for a message. -/
theorem Handles.of_passes {fork : UInt32} {message : Message} {deeds : List Deed}
    (handles : Handles message deeds) (passes : Passes fork message) :
    deeds.length ≤ 2 ∧ ∀ deed ∈ deeds, ∀ other, deed.action ≠ .dispatch other := by
  cases handles with
  | terminates _ looks => simp [looks]
  | reports _ looks fails => simp [looks, fails]
  | answers probe _ _ _ _ _ =>
    obtain ⟨-, ends⟩ := passes
    have fits := message.fits
    rw [probe] at fits
    rcases Bool.or_eq_true_iff.mp ends with kind | kind <;>
    · rw [of_decide_eq_true kind] at fits
      cases fits

/-- A thread has handled messages that the lock does not concern, one after the other. -/
inductive HandlesAll (fork : UInt32) : List Message → List Deed → Prop where
  | nil : HandlesAll fork [] []
  | cons {message : Message} {rest : List Message} {first deeds : List Deed}
      (passes : Passes fork message) (handles : Handles message first)
      (others : HandlesAll fork rest deeds) : HandlesAll fork (message :: rest) (first ++ deeds)

namespace HandlesAll

variable {fork : UInt32} {messages : List Message} {deeds : List Deed}

theorem snoc (all : HandlesAll fork messages deeds) {message : Message} {last : List Deed}
    (passes : Passes fork message) (handles : Handles message last) :
    HandlesAll fork (messages ++ [message]) (deeds ++ last) := by
  induction all with
  | nil =>
    have one := HandlesAll.cons passes handles .nil
    rwa [List.append_nil] at one
  | cons first handling _ ih =>
    rw [List.cons_append, List.append_assoc]
    exact .cons first handling ih

theorem looked (all : HandlesAll fork messages deeds) :
    deeds.filterMap Deed.looked? = messages := by
  induction all with
  | nil => rfl
  | cons _ handles _ ih => rw [List.filterMap_append, handles.looked, ih, List.singleton_append]

theorem length_le (all : HandlesAll fork messages deeds) :
    deeds.length ≤ 2 * messages.length := by
  induction all with
  | nil => exact Nat.zero_le _
  | cons passes handles _ ih =>
    have few := (handles.of_passes passes).1
    rw [List.length_append, List.length_cons]
    omega

theorem not_dispatch (all : HandlesAll fork messages deeds) :
    ∀ deed ∈ deeds, ∀ other, deed.action ≠ .dispatch other := by
  induction all with
  | nil => exact fun _ there => absurd there List.not_mem_nil
  | cons passes handles _ ih =>
    intro deed there
    rcases List.mem_append.mp there with first | later
    · exact (handles.of_passes passes).2 deed first
    · exact ih deed later

theorem passes (all : HandlesAll fork messages deeds) :
    ∀ message ∈ messages, Passes fork message := by
  induction all with
  | nil => exact fun _ there => absurd there List.not_mem_nil
  | cons passes _ _ ih => exact List.forall_mem_cons.mpr ⟨passes, ih⟩

theorem handled {front back : List Message} {message : Message}
    (all : HandlesAll fork (front ++ message :: back) deeds) : Handled deeds front message := by
  induction front generalizing deeds with
  | nil =>
    cases all with
    | @cons _ _ first later _ handles _ => exact ⟨[], first, later, rfl, rfl, handles⟩
  | cons earlier front ih =>
    cases all with
    | @cons _ _ first later _ handles others =>
      obtain ⟨early, handling, rest, rfl, looked, handled⟩ := ih others
      refine ⟨first ++ early, handling, rest, by simp only [List.append_assoc], ?_, handled⟩
      rw [List.filterMap_append, handles.looked, looked, List.singleton_append]

end HandlesAll

/-- Where a receiver stands while the lock is not let go: before the messages that are left, in the
middle of a report, or at the lock with a message that needs it. -/
inductive Place (fork : UInt32) (messages : List Message) (own : List Deed) : Program → Prop where
  | ready {passed left : List Message} (split : messages = passed ++ left)
      (handled : HandlesAll fork passed own) : Place fork messages own (left.map .handle)
  | reporting {passed left : List Message} {message : Message} {early : List Deed} {look : Deed}
      (split : messages = passed ++ message :: left) (handled : HandlesAll fork passed early)
      (passes : Passes fork message) (kind : message.kind = .crash)
      (looks : look.action = .handle message) (same : own = early ++ [look]) :
      Place fork messages own (.sendFatal hungText :: left.map .handle)
  | waiting {passed left : List Message} {message : Message} {early : List Deed} {look : Deed}
      {inner : Action} (split : messages = passed ++ message :: left)
      (handled : HandlesAll fork passed early) (needs : ¬ Passes fork message)
      (looks : look.action = .handle message) (same : own = early ++ [look]) :
      Place fork messages own (.enterRead :: inner :: .leaveRead :: left.map .handle)

/-- What the first look at a message leads to. -/
theorem handle_cases (context : Context) (message : Message) :
    (Passes context.fork message ∧ message.kind = .terminate ∧
      (context.handle message).next = [] ∧
      (context.handle message).effects = [.terminate] ∧
      (context.handle message).context.exiting = true) ∨
    (Passes context.fork message ∧ message.kind = .crash ∧
      (context.handle message).next = [.sendFatal hungText]) ∨
    (¬ Passes context.fork message ∧
      ∃ inner, (context.handle message).next = [.enterRead, inner, .leaveRead]) := by
  by_cases own : message.fork = context.fork
  · rw [Context.handle, if_pos own]
    cases kind : message.kind with
    | terminate => exact Or.inl ⟨⟨own, by simp [ForkTable.endsProcess, kind]⟩, rfl, rfl, rfl, rfl⟩
    | crash => exact Or.inr (Or.inl ⟨⟨own, by simp [ForkTable.endsProcess, kind]⟩, rfl, rfl⟩)
    | _ =>
      refine Or.inr (Or.inr ⟨?_, _, rfl⟩)
      rintro ⟨-, ends⟩
      simp [ForkTable.endsProcess, kind] at ends
  · rw [Context.handle, if_neg own]
    exact Or.inr (Or.inr ⟨fun passes => own passes.1, _, rfl⟩)

namespace Place

variable {fork : UInt32} {messages : List Message} {own : List Deed}

/-- One action of a receiver while the lock is not let go. -/
theorem acts {one : Waiting Strand} {action : Action} {rest : Program} {context : Context}
    {world : World} {disk : Disk} {outcome : Outcome}
    (place : Place fork messages own one.call.todo) (todo : one.call.todo = action :: rest)
    (same : context.fork = fork) (locked : context.lock.isWriteLocked = true)
    (taken : one.call.take? world disk context action = some outcome) :
    Place fork messages (own ++ [{ context, thread := one, action, outcome }])
      (outcome.next ++ rest) := by
  subst same
  generalize start : one.call.todo = program at place todo
  subst todo
  generalize first : action :: rest = program at place
  cases place with
  | @ready passed left split handled =>
    cases left with
    | nil => cases first
    | cons message left =>
      cases first
      cases taken
      rcases handle_cases context message with
        ⟨passes, kind, next, effects, exits⟩ | ⟨passes, kind, next⟩ | ⟨needs, inner, next⟩
      · have further : messages = (passed ++ [message]) ++ left := by simp [split]
        rw [next]
        exact .ready further (handled.snoc passes (.terminates kind rfl effects exits))
      · rw [next]
        exact .reporting split handled passes kind rfl rfl
      · rw [next]
        exact .waiting split handled needs rfl rfl
  | @reporting passed left message early look split handled passes kind looks shape =>
    cases first
    cases taken
    subst shape
    have further : messages = (passed ++ [message]) ++ left := by simp [split]
    refine .ready further ?_
    rw [List.append_assoc]
    refine handled.snoc passes (.reports kind looks rfl ?_)
    rw [passes.1]
    rfl
  | waiting =>
    cases first
    have shut : context.lock.enter? = none := by rw [LockWord.enter?, locked]; rfl
    have stuck : one.call.take? world disk context .enterRead = none := by
      change context.lock.enter?.map _ = none
      rw [shut]
      rfl
    rw [stuck] at taken
    cases taken

/-- So many messages a receiver has handled without the lock, and what it has done for them. -/
theorem progress {program : Program} (place : Place fork messages own program) :
    ∃ passed early later, HandlesAll fork passed early ∧ own = early ++ later ∧
      later.length ≤ 1 ∧ passed <+: messages := by
  cases place with
  | ready split handled =>
    exact ⟨_, own, [], handled, (List.append_nil own).symm, Nat.zero_le _,
      split ▸ List.prefix_append _ _⟩
  | reporting split handled _ _ _ same =>
    exact ⟨_, _, _, handled, same, Nat.le_refl _, split ▸ List.prefix_append _ _⟩
  | waiting split handled _ _ same =>
    exact ⟨_, _, _, handled, same, Nat.le_refl _, split ▸ List.prefix_append _ _⟩

end Place

/-- A message has been handled, or so far no more than the messages in front of it. -/
theorem HandlesAll.handled_or_le {fork : UInt32} {passed front back : List Message}
    {message : Message} {early : List Deed} (all : HandlesAll fork passed early)
    (part : passed <+: front ++ message :: back) :
    Handled early front message ∨ passed.length ≤ front.length := by
  by_cases past : front.length < passed.length
  · have whole : front ++ [message] <+: front ++ message :: back := ⟨back, by simp⟩
    have inside : front ++ [message] <+: passed :=
      List.prefix_of_prefix_length_le whole part (by rw [List.length_append]; exact past)
    obtain ⟨more, rfl⟩ := inside
    rw [List.append_assoc, List.singleton_append] at all
    exact Or.inl all.handled
  · exact Or.inr (Nat.le_of_not_lt past)

namespace Place

variable {fork : UInt32} {messages front back : List Message} {message : Message}
  {own : List Deed} {program : Program}

/-- With nothing left to do a receiver has handled all messages. -/
theorem handled_of_done (place : Place fork messages own program) (done : program = []) :
    HandlesAll fork messages own := by
  cases place with
  | @ready passed left split handled =>
    rw [split, List.map_eq_nil_iff.mp done, List.append_nil]
    exact handled
  | reporting => cases done
  | waiting => cases done

/-- In front of a message a receiver always goes on if nothing up to it needs the lock. -/
theorem goes_on {strand : Strand} (place : Place fork messages own strand.todo)
    (split : messages = front ++ message :: back)
    (passes : ∀ one ∈ front ++ [message], Passes fork one) :
    Handled own front message ∨
      ∀ world disk context, (strand.move world disk context).isSome = true := by
  generalize same : strand.todo = program at place
  cases place with
  | @ready passed left whole handled =>
    rcases handled.handled_or_le (split ▸ whole ▸ List.prefix_append _ _) with done | few
    · exact Or.inl done
    · refine Or.inr fun world disk context => ?_
      cases left with
      | nil =>
        have lengths := congrArg List.length (split.symm.trans whole)
        simp only [List.length_append, List.length_cons, List.length_nil] at lengths
        omega
      | cons first left =>
        rw [Strand.move, same]
        rfl
  | reporting _ _ _ _ _ _ =>
    refine Or.inr fun world disk context => ?_
    rw [Strand.move, same]
    rfl
  | @waiting passed left first early look inner whole handled needs looks shape =>
    have part : passed <+: front ++ message :: back := split ▸ whole ▸ List.prefix_append _ _
    rcases handled.handled_or_le part with done | few
    · exact Or.inl (shape ▸ done.append _)
    · have next : passed ++ [first] <+: messages := ⟨left, by rw [whole]; simp⟩
      have upTo : front ++ [message] <+: messages := ⟨back, by rw [split]; simp⟩
      have inside : passed ++ [first] <+: front ++ [message] :=
        List.prefix_of_prefix_length_le next upTo (by simpa using few)
      have member : first ∈ front ++ [message] :=
        inside.subset (List.mem_append_right _ List.mem_cons_self)
      exact absurd (passes first member) needs

/-- After two actions for each message up to some message that one is handled, if the receiver has
not stopped at the lock before. -/
theorem soon (place : Place fork messages own program)
    (split : messages = front ++ message :: back) (many : 2 * (front.length + 1) ≤ own.length) :
    Handled own front message := by
  obtain ⟨passed, early, later, handled, rfl, few, part⟩ := place.progress
  rcases handled.handled_or_le (split ▸ part) with done | le
  · exact done.append later
  · have most := handled.length_le
    rw [List.length_append] at many
    omega

/-- What is handled before a receiver stops at the lock does not need the lock. -/
theorem passes_of_handled {inner : Action} {rest : Program}
    (place : Place fork messages own (.enterRead :: inner :: rest)) (mine : message.fork = fork)
    (done : Handled own front message) : ∀ one ∈ front ++ [message], Passes fork one := by
  generalize stop : Action.enterRead :: inner :: rest = program at place
  cases place with
  | @ready passed left _ _ => cases left <;> cases stop
  | reporting => cases stop
  | @waiting passed left first early look _ whole handled needs looks shape =>
    obtain ⟨before, handling, behind, same, looked, handles⟩ := done
    have seen : own.filterMap Deed.looked? = passed ++ [first] := by
      rw [shape, List.filterMap_append, handled.looked]
      simp [Deed.looked?, looks]
    rw [same, List.filterMap_append, List.filterMap_append, looked, handles.looked] at seen
    rcases List.prefix_concat_iff.mp ⟨_, seen⟩ with equal | inside
    · obtain ⟨-, last⟩ := List.append_inj' equal rfl
      cases last
      -- The message at the lock is of a kind that is handled there, and was not.
      cases handles with
      | terminates kind | reports kind =>
        exact absurd ⟨mine, by simp [ForkTable.endsProcess, kind]⟩ needs
      | @answers _ _ answer _ _ _ _ _ dispatches =>
        have member : answer ∈ early ++ [look] := by
          rw [← shape, same]
          simp
        rcases List.mem_append.mp member with before | last
        · exact absurd dispatches (handled.not_dispatch answer before _)
        · rw [List.mem_singleton.mp last, looks] at dispatches
          cases dispatches
    · exact fun one there => handled.passes one (inside.subset there)

end Place

end Receiver

end Playback
