import Playback.Proofs.Machine.Apart
import Playback.Proofs.Machine.Listening

set_option autoImplicit false

namespace Playback

namespace Machine

/-- What a duplication leaves: all children that there were, and behind them the new one with its
main thread and the one that receives from its channel. -/
structure Duplicated (machine next : Machine) (thread moved : Thread) (fork : UInt32)
    (awaited : Bool) (context : Context) (leader : Nat) (pid : UInt32) : Prop where
  new : machine.members.length ≤ leader
  others : ∀ member < machine.members.length, next.context? member = machine.context? member
  child : next.context? leader = some (forked context fork machine.network.endpoints.length)
  threads : next.threads = machine.threads ++
    [{ member := leader, main := true, todo := thread.todo ++ [.serve] },
      { member := leader, todo := [.outside (.receive machine.network.endpoints.length)] }]
  goesOn : moved = thread.push
    [.releaseWrite, if awaited then .awaitRegistration fork pid else .answer .parent]

section
variable (machine : Machine) (leader : Nat) (observer : Observer)

theorem members_restartObserver :
    (machine.restartObserver leader observer).members = machine.members := by
  cases observer <;> rfl

theorem threads_restartObserver :
    (machine.restartObserver leader observer).threads = machine.threads := by
  cases observer <;> rfl

theorem network_restartObserver :
    (machine.restartObserver leader observer).network = machine.network := by
  cases observer <;> rfl

end

variable {machine next : Machine} {thread moved : Thread} {fork : UInt32} {awaited : Bool}
  {context : Context}

/-- The copy that bears the number of a child is that of the child. -/
theorem Apart.copies (apart : machine.Apart) {member position : Nat} {child : Context → Context}
    (here : machine.context? member = some context)
    (found : (machine.copies member child).findIdx?
      (fun one => one.number = machine.number member) = some position) :
    ((machine.copies member child)[position]?).map Member.context = some (child context) := by
  obtain ⟨own, there, rfl⟩ := Option.map_eq_some_iff.mp here
  have process : machine.processOf member = own.process := by rw [processOf, there]; rfl
  have number : machine.number member = own.number := by rw [Machine.number, there]; rfl
  obtain ⟨inside, bears, -⟩ := List.findIdx?_eq_some_iff_getElem.mp found
  rw [List.getElem?_eq_getElem inside]
  obtain ⟨⟨one, index⟩, chosen, same⟩ := List.mem_map.mp (List.getElem_mem inside)
  obtain ⟨source, close⟩ := List.mem_filter.mp chosen
  have place : machine.members[index]? = some one := List.mem_zipIdx_iff_getElem?.mp source
  rw [← same] at bears ⊢
  dsimp only at close bears ⊢
  rw [decide_eq_true_iff] at close bears
  have calling : index = member :=
    apart.index_eq place there (close.trans process) (bears.trans number)
  subst calling
  rw [place] at there
  cases there
  exact congrArg some (if_pos rfl)

theorem Apart.split_contexts (apart : machine.Apart) {member leader : Nat} {pid : UInt32}
    {child : Context → Context} (here : machine.context? member = some context)
    (made : machine.split member pid child = some (leader, next)) :
    machine.members.length ≤ leader ∧ next.context? leader = some (child context) ∧
      ∀ other < machine.members.length, next.context? other = machine.context? other := by
  obtain ⟨position, twin, found, rfl, rfl⟩ := split_eq_some made
  refine ⟨Nat.le_add_right _ _, ?_, ?_⟩
  · rw [context?, ← apart.copies here found]
    refine congrArg (Option.map Member.context) ?_
    refine (List.getElem?_append_right (Nat.le_add_right _ _)).trans ?_
    rw [Nat.add_sub_cancel_left]
  · intro other there
    exact congrArg (Option.map Member.context) (List.getElem?_append_left there)

/-- A process is split whenever it is there. -/
theorem split_of_runs (here : machine.context? thread.member = some context) {process : Process}
    (runs : machine.processes[machine.processOf thread.member]? = some process) (pid : UInt32)
    (child : Context → Context) :
    ∃ leader next, machine.split thread.member pid child = some (leader, next) ∧
      next.network = machine.network := by
  obtain ⟨own, there, rfl⟩ := Option.map_eq_some_iff.mp here
  have calling : machine.processOf thread.member = own.process := by rw [processOf, there]; rfl
  have number : machine.number thread.member = own.number := by rw [Machine.number, there]; rfl
  have copied : ((machine.copies thread.member child).findIdx?
      fun one => one.number = machine.number thread.member).isSome = true := by
    rw [List.findIdx?_isSome, Machine.copies, List.any_map, List.any_eq_true]
    refine ⟨(own, thread.member), List.mem_filter.mpr ⟨?_, ?_⟩, ?_⟩
    · exact List.mem_zipIdx_iff_getElem?.mpr there
    · exact decide_eq_true calling.symm
    · exact decide_eq_true number.symm
  obtain ⟨position, found⟩ := Option.isSome_iff_exists.mp copied
  unfold split
  simp only [runs, found, Option.bind_eq_bind, Option.bind_some]
  exact ⟨_, _, rfl, rfl⟩

/-- A duplication that opens a channel for the new child. -/
theorem duplicate_opened (apart : machine.Apart)
    (here : machine.context? thread.member = some context)
    (taken : machine.duplicate thread fork awaited = some (next, moved))
    (opened : machine.network.endpoints.length < next.network.endpoints.length) :
    ∃ leader pid, Duplicated machine next thread moved fork awaited context leader pid := by
  obtain ⟨same, pid, network, leader, made, known, goesOn, ⟨fault, fails, parted, rfl⟩ |
    ⟨endpoint, pipes, opens, parted, rfl⟩⟩ := duplicate_cases taken
  all_goals
    rw [here] at known
    cases known
    obtain ⟨position, twin, -, -, added⟩ := split_eq_some parted
  · subst added
    have unchanged := congrArg List.length (Network.endpoints_of_unopened fails)
    exact absurd opened (Nat.not_lt_of_le (Nat.le_of_eq unchanged))
  · have others : ({ machine with network } : Machine).Apart := apart.keeps ⟨rfl, rfl⟩
    obtain ⟨new, child, old⟩ := others.split_contexts here parted
    have again := members_restartObserver made leader context.observer
    have started : made.threads = machine.threads := by
      rw [added]
    have same (member : Nat) :
        (made.restartObserver leader context.observer).context? member = made.context? member := by
      rw [context?, again, context?]
    refine ⟨leader, pid, new, ?_, ?_, ?_, goesOn⟩
    · exact fun member there => (same member).trans (old member there)
    · rw [← Network.endpoint_openListening opens]
      exact (same leader).trans child
    · rw [← Network.endpoint_openListening opens, ← started]
      change ((made.restartObserver leader context.observer).threads ++ [_]) ++ [_] = _
      rw [threads_restartObserver, List.append_assoc]
      rfl

/-- A process is duplicated if the socket file of the duplicate can be made. -/
theorem duplicate_of_opens (here : machine.context? thread.member = some context)
    {process : Process}
    (runs : machine.processes[machine.processOf thread.member]? = some process)
    {endpoint : Nat} {opened : Network}
    (opens : machine.network.openListening 0 .replayForked
      (socketPath context.config.socketFolder
        (UInt32.ofNat (firstPid + machine.processes.length)) 0) = (.ok endpoint, opened))
    (fork : UInt32) (awaited : Bool) :
    ∃ next moved, machine.duplicate thread fork awaited = some (next, moved) ∧
      machine.network.endpoints.length < next.network.endpoints.length := by
  obtain ⟨leader, made, parted, network⟩ :=
    @split_of_runs { machine with network := opened } thread context here process runs
      (UInt32.ofNat (firstPid + machine.processes.length)) (forked · fork endpoint)
  unfold duplicate
  simp only [here, opens, parted, Option.bind_eq_bind, Option.bind_some]
  refine ⟨_, _, rfl, ?_⟩
  change _ < (made.restartObserver leader context.observer).network.endpoints.length
  rw [network_restartObserver, network, Network.length_of_opened opens]
  exact Nat.lt_succ_self _

end Machine

end Playback
