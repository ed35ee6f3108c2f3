import Playback.Proofs.ForkTable.Conservation
import Playback.Proofs.Lists

set_option autoImplicit false

namespace Playback

namespace Exchange

/-- The number of the channel that a registration after these calls brings. -/
def nextChannel (past : List Call) : Nat := (run past).channels.length

/-- What was handed to a channel. -/
def handedTo (exchange : Exchange) (number : Nat) : List Message :=
  (exchange.channels[number]?.map ForkChannel.handed).getD []

/-- The calls around a registration. -/
def around (past : List Call) (fork pid : UInt32) (later : List Call) : List Call :=
  past ++ .register fork pid :: later

theorem run_around_snoc (past : List Call) (fork pid : UInt32) (later : List Call) (last : Call) :
    run (around past fork pid (later ++ [last])) =
      (run (around past fork pid later)).call last := by
  rw [← run_snoc, around, around, List.append_assoc, List.cons_append]

/-- What holds behind a registration for its process, if the process leaves when it is told to. -/
structure Leaves (past : List Call) (fork pid : UInt32) (later : List Call) : Prop where
  /-- A process that was told to end is off the table until its fork registers again. -/
  gone : (∃ message ∈ (run (around past fork pid later)).handedTo (nextChannel past),
      ForkTable.endsProcess message = true) →
    (∀ again, .register fork again ∉ later) →
    (run (around past fork pid later)).table.contains fork = false
  /-- Nothing is handed to a process behind what tells it to end. -/
  last : ∀ front message behind,
    (run (around past fork pid later)).handedTo (nextChannel past) = front ++ message :: behind →
    ForkTable.endsProcess message = true → behind = []

theorem handedTo_modify (table : ForkTable Nat) (channels : List ForkChannel)
    (changed number : Nat) (message : Message) (inside : number < channels.length) :
    handedTo { table, channels := channels.modify changed (ForkChannel.hand message) } number =
      handedTo { table, channels } number ++ if changed = number then [message] else [] := by
  unfold handedTo
  rw [List.getElem?_modify, List.getElem?_eq_getElem inside]
  by_cases same : changed = number <;> simp [same, ForkChannel.hand]

theorem handedTo_snoc (table : ForkTable Nat) (channels : List ForkChannel) (channel : ForkChannel)
    (number : Nat) (inside : number < channels.length) :
    handedTo { table, channels := channels ++ [channel] } number =
      handedTo { table, channels } number := by
  unfold handedTo
  rw [List.getElem?_append_left inside]

/-- A registration hands over what was held, whatever it is, and its process is on the table. -/
theorem handedTo_around_nil (past : List Call) (fork pid : UInt32) :
    (run (around past fork pid [])).handedTo (nextChannel past) =
      (run past).table.pendingFor fork := by
  rw [around, run_snoc, nextChannel]
  simp [call, ForkTable.register_eq, handedTo]

theorem process?_around_nil (past : List Call) (fork pid : UInt32) :
    (run (around past fork pid [])).table.process? fork =
      some { pid, handle := nextChannel past } := by
  have found := ForkTable.process?_register (run past).table fork fork
    { pid, handle := nextChannel past }
  rw [if_pos rfl] at found
  rw [around, run_snoc]
  exact found

/-- A message for a fork that is on the table goes to its process, and may take it off. -/
theorem call_route_of_some {exchange : Exchange} {message : Message}
    {process : ForkedProcess Nat}
    (present : exchange.table.process? message.fork = some process) :
    exchange.call (.route message) =
      { table := if ForkTable.endsProcess message then exchange.table.remove message.fork
          else exchange.table,
        channels := exchange.channels.modify process.handle (ForkChannel.hand message) } := by
  simp only [call, ForkTable.route_of_some present]

/-- What is on the table behind a message that was sent was on it before, and was not told to end. -/
theorem process?_of_route {exchange : Exchange} {message : Message}
    {process one : ForkedProcess Nat}
    (present : exchange.table.process? message.fork = some process) {fork : UInt32}
    (found : (exchange.call (.route message)).table.process? fork = some one) :
    exchange.table.process? fork = some one ∧
      (message.fork = fork → ForkTable.endsProcess message = false) := by
  rw [call_route_of_some present] at found
  dsimp only at found
  by_cases ends : ForkTable.endsProcess message = true
  · rw [if_pos ends, ForkTable.process?_remove] at found
    split at found
    · cases found
    · rename_i apart
      exact ⟨found, fun same => absurd same.symm apart⟩
  · rw [if_neg ends] at found
    exact ⟨found, fun _ => Bool.eq_false_iff.mpr ends⟩

/-- Nothing that was handed over ends a process, so only the message behind it can. -/
theorem behind_eq_nil {handed front behind : List Message} {message told : Message}
    (quiet : ∀ one ∈ handed, ForkTable.endsProcess one = false)
    (split : handed ++ [message] = front ++ told :: behind)
    (ends : ForkTable.endsProcess told = true) : behind = [] := by
  rcases snoc_eq_middle split with ⟨-, -, nothing⟩ | ⟨between, before, -⟩
  · exact nothing
  · have member : told ∈ handed := by
      rw [before]
      exact List.mem_append_right _ List.mem_cons_self
    rw [quiet told member] at ends
    cases ends

/-- What every call behind a registration keeps, if nothing that ends a process was held then. -/
structure Watches (past : List Call) (fork pid : UInt32) (later : List Call)
    (exchange : Exchange) : Prop where
  brought : exchange.channels[nextChannel past]?.map ForkChannel.fork = some fork
  own : (∀ again, .register fork again ∉ later) → ∀ process,
    exchange.table.process? fork = some process → process.handle = nextChannel past
  /-- As long as the process is on the table it was not told to end. -/
  running : ∀ process, exchange.table.process? fork = some process →
    process.handle = nextChannel past →
    ∀ message ∈ exchange.handedTo (nextChannel past), ForkTable.endsProcess message = false
  last : ∀ front message behind,
    exchange.handedTo (nextChannel past) = front ++ message :: behind →
    ForkTable.endsProcess message = true → behind = []

namespace Watches

variable {past later : List Call} {fork pid : UInt32} {exchange : Exchange}

theorem inside (watches : Watches past fork pid later exchange) :
    nextChannel past < exchange.channels.length := by
  obtain ⟨channel, found, -⟩ := Option.map_eq_some_iff.mp watches.brought
  exact (List.getElem?_eq_some_iff.mp found).1

/-- At the registration. -/
theorem start (past : List Call) (fork pid : UInt32)
    (alive : ∀ message ∈ (run past).table.pendingFor fork,
      ForkTable.endsProcess message = false) :
    Watches past fork pid [] (run (around past fork pid [])) := by
  have process := process?_around_nil past fork pid
  have handed := handedTo_around_nil past fork pid
  refine ⟨?_, ?_, ?_, ?_⟩
  · rw [around, run_snoc, nextChannel]
    simp [call, ForkTable.register_eq]
  · intro _ found there
    rw [process] at there
    cases there
    rfl
  · intro _ _ _
    rw [handed]
    exact alive
  · intro front message behind split ends
    have member : message ∈ (run past).table.pendingFor fork := by
      rw [← handed, split]
      exact List.mem_append_right _ List.mem_cons_self
    rw [alive message member] at ends
    cases ends

theorem registers (watches : Watches past fork pid later exchange) (other again : UInt32) :
    Watches past fork pid (later ++ [.register other again])
      (exchange.call (.register other again)) := by
  have inside := watches.inside
  have registered : exchange.call (.register other again) =
      { table :=
          (exchange.table.register other { pid := again, handle := exchange.channels.length }).2
        channels := exchange.channels ++
          [{ fork := other, handed := exchange.table.pendingFor other }] } := by
    simp only [call, ForkTable.register_eq]
  have handed : (exchange.call (.register other again)).handedTo (nextChannel past) =
      exchange.handedTo (nextChannel past) := by
    rw [registered, handedTo_snoc _ _ _ _ inside]
    rfl
  have known : ∀ process,
      (exchange.call (.register other again)).table.process? fork = some process →
      (fork = other ∧ process.handle = exchange.channels.length) ∨
        (fork ≠ other ∧ exchange.table.process? fork = some process) := by
    intro process found
    rw [registered, ForkTable.process?_register] at found
    split at found
    · rename_i same
      cases found
      exact Or.inl ⟨same, rfl⟩
    · rename_i apart
      exact Or.inr ⟨apart, found⟩
  refine ⟨?_, ?_, ?_, ?_⟩
  · rw [registered, List.getElem?_append_left inside]
    exact watches.brought
  · intro still process found
    rcases known process found with ⟨same, -⟩ | ⟨-, before⟩
    · subst same
      exact absurd (List.mem_append_right _ List.mem_cons_self) (still again)
    · exact watches.own (fun one there => still one (List.mem_append_left _ there)) process before
  · intro process found here
    rw [handed]
    rcases known process found with ⟨-, new⟩ | ⟨-, before⟩
    · omega
    · exact watches.running process before here
  · rw [handed]
    exact watches.last

theorem routes_held (watches : Watches past fork pid later exchange) {message : Message}
    (absent : exchange.table.process? message.fork = none) :
    Watches past fork pid (later ++ [.route message]) (exchange.call (.route message)) := by
  have held : exchange.call (.route message) =
      { exchange with table.pending := exchange.table.pending ++ [message] } := by
    simp only [call, ForkTable.route_of_none absent]
  rw [held]
  refine ⟨watches.brought, ?_, watches.running, watches.last⟩
  intro still process found
  exact watches.own (fun again there => still again (List.mem_append_left _ there)) process found

/-- A message is routed to a process. Only the last registered process of a fork gets it. -/
theorem routes_sent (watches : Watches past fork pid later exchange) {message : Message}
    {process : ForkedProcess Nat}
    (present : exchange.table.process? message.fork = some process)
    (latest : Latest exchange.channels message.fork process.handle) :
    Watches past fork pid (later ++ [.route message]) (exchange.call (.route message)) := by
  have inside := watches.inside
  have sent := call_route_of_some present
  have handed : (exchange.call (.route message)).handedTo (nextChannel past) =
      exchange.handedTo (nextChannel past) ++
        if process.handle = nextChannel past then [message] else [] := by
    rw [sent, handedTo_modify _ _ _ _ _ inside]
    rfl
  have ours : process.handle = nextChannel past → message.fork = fork := by
    intro same
    have brought := watches.brought
    rw [← same, latest.1] at brought
    exact Option.some.inj brought
  refine ⟨?_, ?_, ?_, ?_⟩
  · rw [sent, List.getElem?_modify]
    have brought := watches.brought
    cases found : exchange.channels[nextChannel past]? with
    | none =>
      rw [found] at brought
      cases brought
    | some channel =>
      rw [found] at brought
      by_cases same : process.handle = nextChannel past <;>
        simpa [same, ForkChannel.hand] using brought
  · intro still one found
    exact watches.own (fun again there => still again (List.mem_append_left _ there)) one
      (process?_of_route present found).1
  · intro one found here told there
    obtain ⟨before, quiet⟩ := process?_of_route present found
    rw [handed, List.mem_append] at there
    rcases there with old | new
    · exact watches.running one before here told old
    · by_cases same : process.handle = nextChannel past
      · rw [if_pos same, List.mem_singleton] at new
        subst new
        exact quiet (ours same)
      · rw [if_neg same] at new
        cases new
  · intro front told behind split ends
    rw [handed] at split
    by_cases same : process.handle = nextChannel past
    · have there := present
      rw [ours same] at there
      have quiet := watches.running process there same
      rw [if_pos same] at split
      exact behind_eq_nil quiet split ends
    · rw [if_neg same, List.append_nil] at split
      exact watches.last front told behind split ends

theorem calls (watches : Watches past fork pid later exchange)
    {before : List Call} (conserved : Conserved before exchange) (last : Call) :
    Watches past fork pid (later ++ [last]) (exchange.call last) := by
  cases last with
  | register other again => exact watches.registers other again
  | route message =>
    cases found : exchange.table.process? message.fork with
    | none => exact watches.routes_held found
    | some process => exact watches.routes_sent found (conserved.current _ process found)

theorem run (past later : List Call) (fork pid : UInt32)
    (alive : ∀ message ∈ (Exchange.run past).table.pendingFor fork,
      ForkTable.endsProcess message = false) :
    Watches past fork pid later (Exchange.run (around past fork pid later)) := by
  induction later using List.reverseRecOn with
  | nil => exact start past fork pid alive
  | append_singleton later last ih =>
    rw [run_around_snoc]
    exact ih.calls (run_conserved _) last

theorem leaves (watches : Watches past fork pid later (Exchange.run (around past fork pid later))) :
    Leaves past fork pid later := by
  refine ⟨?_, watches.last⟩
  rintro ⟨message, handed, ends⟩ still
  by_cases registered : (Exchange.run (around past fork pid later)).table.contains fork = true
  · obtain ⟨process, found⟩ := Option.isSome_iff_exists.mp registered
    have here := watches.own still process found
    rw [watches.running process found here message handed] at ends
    cases ends
  · exact Bool.eq_false_iff.mpr registered

end Watches

/-- A process that registers after any calls leaves when it is told to, whatever is called later,
exactly if nothing that ends a process was held for its fork when it registered. -/
theorem leaves_iff_no_end_held (past : List Call) (fork pid : UInt32) :
    (∀ later, Leaves past fork pid later) ↔
      ∀ message ∈ (run past).table.pendingFor fork, ForkTable.endsProcess message = false := by
  constructor
  · intro leaves message held
    by_cases ends : ForkTable.endsProcess message = true
    · have told : ∃ message ∈ (run (around past fork pid [])).handedTo (nextChannel past),
          ForkTable.endsProcess message = true :=
        ⟨message, by rw [handedTo_around_nil]; exact held, ends⟩
      have absent := (leaves []).gone told fun _ => List.not_mem_nil
      rw [ForkTable.contains, process?_around_nil] at absent
      cases absent
    · exact Bool.eq_false_iff.mpr ends
  · intro alive later
    exact (Watches.run past later fork pid alive).leaves

/-- A message that was held ends the third fork as it registers. The fork stays on the table, and
what is routed to it next is handed to the process that was told to end. -/
theorem told_to_end_and_kept :
    let past : List Call := [.route (.terminate 3)]
    let exchange := run (around past 3 11 [.route (.ping 3 1)])
    exchange.handedTo (nextChannel past) = [.terminate 3, .ping 3 1] ∧
      exchange.table.contains 3 = true ∧ ¬ Leaves past 3 11 [.route (.ping 3 1)] := by
  have handed : (run (around [.route (.terminate 3)] 3 11 [.route (.ping 3 1)])).handedTo
      (nextChannel [.route (.terminate 3)]) = [.terminate 3, .ping 3 1] := by decide +kernel
  have kept : (run (around [.route (.terminate 3)] 3 11 [.route (.ping 3 1)])).table.contains 3 =
      true := by decide +kernel
  refine ⟨handed, kept, ?_⟩
  intro leaves
  have nothing := leaves.last [] (.terminate 3) [.ping 3 1] handed rfl
  cases nothing

end Exchange

end Playback
