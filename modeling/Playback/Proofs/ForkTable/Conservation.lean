import Playback.Proofs.ForkTable.Lookup
import Mathlib.Data.List.Induction

set_option autoImplicit false

namespace Playback

/-- A channel brought by a registration, and the messages handed to it, oldest first. -/
structure ForkChannel where
  fork : UInt32
  handed : List Message
  deriving DecidableEq, Repr

def ForkChannel.hand (message : Message) (channel : ForkChannel) : ForkChannel :=
  { channel with handed := channel.handed ++ [message] }

/-- A fork table with the channels of all registrations so far. The handle of a process is the
number of its channel. -/
structure Exchange where
  table : ForkTable Nat := {}
  channels : List ForkChannel := []
  deriving DecidableEq, Repr

namespace Exchange

/-- What is asked of a fork table. Every registration brings a channel of its own. -/
inductive Call where
  | route (message : Message)
  | register (fork pid : UInt32)
  deriving DecidableEq, Repr

def call (exchange : Exchange) : Call → Exchange
  | .route message =>
    match exchange.table.route message with
    | (.held, table) => { exchange with table }
    | (.sent number _, table) =>
      { table, channels := exchange.channels.modify number (ForkChannel.hand message) }
  | .register fork pid =>
    let (held, table) :=
      exchange.table.register fork { pid, handle := exchange.channels.length }
    { table, channels := exchange.channels ++ [{ fork, handed := held }] }

def run (calls : List Call) : Exchange := calls.foldl call {}

theorem run_snoc (calls : List Call) (last : Call) :
    run (calls ++ [last]) = (run calls).call last := by
  simp only [run, List.foldl_append, List.foldl_cons, List.foldl_nil]

/-- What the channels of a fork got, channel by channel in the order of registration. -/
def handed (exchange : Exchange) (fork : UInt32) : List Message :=
  (exchange.channels.filter (fun channel => channel.fork = fork)).flatMap ForkChannel.handed

def Call.message? : Call → Option Message
  | route message => some message
  | register _ _ => none

def routed (calls : List Call) : List Message := calls.filterMap Call.message?

def routedTo (fork : UInt32) (calls : List Call) : List Message :=
  (routed calls).filter (fun message => message.fork = fork)

theorem routed_snoc_route (calls : List Call) (message : Message) :
    routed (calls ++ [.route message]) = routed calls ++ [message] := by
  simp [routed, Call.message?]

theorem routed_snoc_register (calls : List Call) (fork pid : UInt32) :
    routed (calls ++ [.register fork pid]) = routed calls := by
  simp [routed, Call.message?]

theorem routedTo_snoc_route (fork : UInt32) (calls : List Call) (message : Message) :
    routedTo fork (calls ++ [.route message]) =
      routedTo fork calls ++ if message.fork = fork then [message] else [] := by
  rw [routedTo, routed_snoc_route, List.filter_append]
  by_cases own : message.fork = fork <;> simp [routedTo, own]

/-- The channel with this number is the last one that a fork brought. -/
def Latest (channels : List ForkChannel) (fork : UInt32) (number : Nat) : Prop :=
  channels[number]?.map ForkChannel.fork = some fork ∧
    ∀ later, number < later → channels[later]?.map ForkChannel.fork ≠ some fork

theorem Latest.snoc_own (channels : List ForkChannel) (channel : ForkChannel) :
    Latest (channels ++ [channel]) channel.fork channels.length := by
  refine ⟨by simp, ?_⟩
  intro later past
  rw [List.getElem?_eq_none (by simp; omega)]
  simp

theorem Latest.snoc_other {channels : List ForkChannel} {fork : UInt32} {number : Nat}
    (latest : Latest channels fork number) (channel : ForkChannel) (apart : channel.fork ≠ fork) :
    Latest (channels ++ [channel]) fork number := by
  obtain ⟨here, after⟩ := latest
  have inside : number < channels.length := by
    by_cases inside : number < channels.length
    · exact inside
    · rw [List.getElem?_eq_none (by omega)] at here
      cases here
  refine ⟨by rw [List.getElem?_append_left inside]; exact here, ?_⟩
  intro later past
  rcases Nat.lt_trichotomy later channels.length with old | new | outside
  · rw [List.getElem?_append_left old]
    exact after later past
  · subst new
    simpa using apart
  · rw [List.getElem?_eq_none (by simp; omega)]
    simp

/-- Handing over a message changes neither the number of channels nor the forks they belong to. -/
theorem Latest.modify {channels : List ForkChannel} {fork : UInt32} {number : Nat}
    (latest : Latest channels fork number) (changed : Nat) (message : Message) :
    Latest (channels.modify changed (ForkChannel.hand message)) fork number := by
  have same : ∀ index : Nat,
      (channels.modify changed (ForkChannel.hand message))[index]?.map ForkChannel.fork =
        channels[index]?.map ForkChannel.fork := by
    intro index
    rw [List.getElem?_modify]
    cases channels[index]? with
    | none => rfl
    | some channel => by_cases here : changed = index <;> simp [here, ForkChannel.hand]
  unfold Latest
  simp only [same]
  exact latest

/-- The channels around the last one of a fork. -/
theorem Latest.split {channels : List ForkChannel} {fork : UInt32} {number : Nat}
    (latest : Latest channels fork number) :
    ∃ before channel after, channels = before ++ channel :: after ∧ before.length = number ∧
      channel.fork = fork ∧ ∀ later ∈ after, later.fork ≠ fork := by
  obtain ⟨here, behind⟩ := latest
  obtain ⟨channel, found, own⟩ := Option.map_eq_some_iff.mp here
  obtain ⟨inside, same⟩ := List.getElem?_eq_some_iff.mp found
  refine ⟨channels.take number, channel, channels.drop (number + 1), ?_, ?_, own, ?_⟩
  · rw [← same, ← List.drop_eq_getElem_cons inside, List.take_append_drop]
  · exact List.length_take_of_le (Nat.le_of_lt inside)
  · intro later member
    obtain ⟨offset, bound, rfl⟩ := List.mem_iff_getElem.mp member
    have apart := behind (number + 1 + offset) (by omega)
    rw [List.length_drop] at bound
    rw [List.getElem?_eq_getElem (by omega)] at apart
    simpa using apart

theorem modify_append_cons (before after : List ForkChannel) (channel : ForkChannel)
    (change : ForkChannel → ForkChannel) :
    (before ++ channel :: after).modify before.length change =
      before ++ change channel :: after := by
  rw [List.modify_eq_take_drop, List.take_left, List.drop_left, List.modifyHead_cons]

/-- A message handed to the last channel of a fork is the last one that the fork got, and no other
fork got it. -/
theorem handed_modify (table : ForkTable Nat) {channels : List ForkChannel} {fork : UInt32}
    {number : Nat} (latest : Latest channels fork number) (message : Message) (other : UInt32) :
    handed { table, channels := channels.modify number (ForkChannel.hand message) } other =
      handed { table, channels } other ++ if fork = other then [message] else [] := by
  obtain ⟨before, channel, after, rfl, rfl, own, behind⟩ := latest.split
  rw [modify_append_cons]
  unfold handed
  dsimp only
  rw [List.filter_append, List.filter_append, List.flatMap_append, List.flatMap_append]
  by_cases asked : fork = other
  · subst asked
    have none_behind : after.filter (fun channel => channel.fork = fork) = [] := by
      rw [List.filter_eq_nil_iff]
      intro later member
      simpa using behind later member
    rw [List.filter_cons_of_pos (by simp [ForkChannel.hand, own]),
      List.filter_cons_of_pos (by simp [own]), none_behind]
    simp [ForkChannel.hand]
  · have apart : channel.fork ≠ other := by rw [own]; exact asked
    rw [List.filter_cons_of_neg (by simp [ForkChannel.hand, apart]),
      List.filter_cons_of_neg (by simp [apart]), if_neg asked, List.append_nil]

theorem handed_snoc (table : ForkTable Nat) (channels : List ForkChannel) (channel : ForkChannel)
    (fork : UInt32) :
    handed { table, channels := channels ++ [channel] } fork =
      handed { table, channels } fork ++ if channel.fork = fork then channel.handed else [] := by
  unfold handed
  by_cases own : channel.fork = fork <;> simp [own]

/-- What holds after these calls. -/
structure Conserved (calls : List Call) (exchange : Exchange) : Prop where
  balanced : ∀ fork, exchange.handed fork ++ exchange.table.pendingFor fork = routedTo fork calls
  /-- For a registered fork nothing is held. -/
  quiet : ∀ fork process, exchange.table.process? fork = some process →
    exchange.table.pendingFor fork = []
  /-- A process is reached over the channel that its fork brought last. -/
  current : ∀ fork process, exchange.table.process? fork = some process →
    Latest exchange.channels fork process.handle
  ordered : exchange.table.pending.Sublist (routed calls)

theorem conserved_nil : Conserved [] {} := by
  refine ⟨?_, ?_, ?_, List.Sublist.refl []⟩
  · intro fork
    rfl
  · intro fork process absent
    cases absent
  · intro fork process absent
    cases absent

theorem Conserved.route_held {calls : List Call} {exchange : Exchange}
    (conserved : Conserved calls exchange) {message : Message}
    (absent : exchange.table.process? message.fork = none) :
    Conserved (calls ++ [.route message]) (exchange.call (.route message)) := by
  have held : exchange.call (.route message) =
      { exchange with table.pending := exchange.table.pending ++ [message] } := by
    simp only [call, ForkTable.route_of_none absent]
  have pending : ∀ fork, (exchange.call (.route message)).table.pendingFor fork =
      exchange.table.pendingFor fork ++ if message.fork = fork then [message] else [] := by
    intro fork
    rw [held]
    by_cases own : message.fork = fork <;> simp [ForkTable.pendingFor, own]
  refine ⟨?_, ?_, ?_, ?_⟩
  · intro fork
    rw [pending, routedTo_snoc_route, ← conserved.balanced fork, ← List.append_assoc, held]
    rfl
  · intro fork process present
    rw [held] at present
    have registered : exchange.table.process? fork = some process := present
    have apart : message.fork ≠ fork := by
      rintro rfl
      rw [absent] at registered
      cases registered
    rw [pending, conserved.quiet fork process registered, if_neg apart, List.append_nil]
  · intro fork process present
    rw [held] at present ⊢
    exact conserved.current fork process present
  · rw [held, routed_snoc_route]
    exact conserved.ordered.append (List.Sublist.refl [message])

theorem Conserved.route_sent {calls : List Call} {exchange : Exchange}
    (conserved : Conserved calls exchange) {message : Message} {process : ForkedProcess Nat}
    (present : exchange.table.process? message.fork = some process) :
    Conserved (calls ++ [.route message]) (exchange.call (.route message)) := by
  have sent : exchange.call (.route message) =
      { table := if ForkTable.endsProcess message then exchange.table.remove message.fork
          else exchange.table,
        channels := exchange.channels.modify process.handle (ForkChannel.hand message) } := by
    simp only [call, ForkTable.route_of_some present]
  have latest := conserved.current message.fork process present
  have pending : (exchange.call (.route message)).table.pending = exchange.table.pending := by
    rw [sent]
    dsimp only
    split <;> rfl
  have pendingFor : ∀ fork, (exchange.call (.route message)).table.pendingFor fork =
      exchange.table.pendingFor fork := by
    intro fork
    rw [ForkTable.pendingFor, pending, ForkTable.pendingFor]
  have known : ∀ fork other, (exchange.call (.route message)).table.process? fork = some other →
      exchange.table.process? fork = some other := by
    intro fork other found
    rw [sent] at found
    dsimp only at found
    split at found
    · rw [ForkTable.process?_remove] at found
      split at found
      · cases found
      · exact found
    · exact found
  refine ⟨?_, ?_, ?_, ?_⟩
  · intro fork
    rw [pendingFor, routedTo_snoc_route, ← conserved.balanced fork, sent,
      handed_modify _ latest message fork]
    by_cases own : message.fork = fork
    · subst own
      simp [conserved.quiet message.fork process present, handed]
    · simp [own, handed]
  · intro fork other found
    rw [pendingFor]
    exact conserved.quiet fork other (known fork other found)
  · intro fork other found
    have before := conserved.current fork other (known fork other found)
    rw [sent]
    exact before.modify process.handle message
  · rw [pending, routed_snoc_route]
    exact conserved.ordered.trans (List.sublist_append_left _ _)

theorem Conserved.register {calls : List Call} {exchange : Exchange}
    (conserved : Conserved calls exchange) (fork pid : UInt32) :
    Conserved (calls ++ [.register fork pid]) (exchange.call (.register fork pid)) := by
  have registered : exchange.call (.register fork pid) =
      { table := (exchange.table.register fork { pid, handle := exchange.channels.length }).2,
        channels := exchange.channels ++
          [{ fork, handed := exchange.table.pendingFor fork }] } := by
    simp only [call, ForkTable.register_eq]
  rw [registered]
  refine ⟨?_, ?_, ?_, ?_⟩
  · intro other
    rw [handed_snoc, ForkTable.pendingFor_register, routedTo, routed_snoc_register, ← routedTo,
      ← conserved.balanced other]
    by_cases own : other = fork
    · subst own
      simp [handed]
    · simp [own, Ne.symm own, handed]
  · intro other process found
    rw [ForkTable.process?_register] at found
    rw [ForkTable.pendingFor_register]
    split at found
    · rename_i own
      rw [if_pos own]
    · rename_i apart
      rw [if_neg apart]
      exact conserved.quiet other process found
  · intro other process found
    rw [ForkTable.process?_register] at found
    split at found
    · rename_i own
      subst own
      cases found
      exact Latest.snoc_own exchange.channels _
    · rename_i apart
      exact (conserved.current other process found).snoc_other _ (Ne.symm apart)
  · rw [routed_snoc_register, ForkTable.register_eq]
    exact List.filter_sublist.trans conserved.ordered

theorem run_conserved (calls : List Call) : Conserved calls (run calls) := by
  induction calls using List.reverseRecOn with
  | nil => exact conserved_nil
  | append_singleton calls last ih =>
    rw [run_snoc]
    cases last with
    | register fork pid => exact ih.register fork pid
    | route message =>
      cases found : (run calls).table.process? message.fork with
      | none => exact ih.route_held found
      | some process => exact ih.route_sent found

/-- After any calls the channels of a fork, in the order in which it registered them, and the
messages held for it make up exactly what was routed to it, in order. Nothing is held for a
registered fork, all held messages stand in the order in which they were routed, and a registration
takes out those for its fork alone. -/
theorem routing_conserves (calls : List Call) (fork : UInt32) :
    (run calls).handed fork ++ (run calls).table.pendingFor fork = routedTo fork calls ∧
    ((run calls).table.contains fork = true → (run calls).table.pendingFor fork = []) ∧
    (run calls).table.pending.Sublist (routed calls) ∧
    (∀ pid, (run (calls ++ [.register fork pid])).table.pending =
      (run calls).table.pending.filter (fun message => message.fork ≠ fork)) := by
  have conserved := run_conserved calls
  refine ⟨conserved.balanced fork, ?_, conserved.ordered, ?_⟩
  · intro registered
    obtain ⟨process, found⟩ := Option.isSome_iff_exists.mp registered
    exact conserved.quiet fork process found
  · intro pid
    rw [run_snoc]
    simp only [call, ForkTable.register_eq]

end Exchange

end Playback
