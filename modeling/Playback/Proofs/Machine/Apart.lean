import Playback.Machine.Run
import Mathlib.Data.List.Nodup
import Mathlib.Logic.Relation

set_option autoImplicit false

namespace Playback.Machine

/-- The process and the number of every child. -/
def plan (machine : Machine) : List (Nat × Nat) :=
  machine.members.map fun one => (one.process, one.number)

/-- Children of one process bear different numbers, and every process is known. -/
structure Apart (machine : Machine) : Prop where
  numbers : machine.plan.Nodup
  known : ∀ place ∈ machine.plan, place.1 < machine.processes.length

theorem Apart.index_eq {machine : Machine} (apart : machine.Apart) {i j : Nat}
    {one other : Member} (here : machine.members[i]? = some one)
    (there : machine.members[j]? = some other) (process : one.process = other.process)
    (number : one.number = other.number) : i = j := by
  have first : machine.plan[i]? = some (one.process, one.number) := by
    rw [plan, List.getElem?_map, here]
    rfl
  have second : machine.plan[j]? = some (other.process, other.number) := by
    rw [plan, List.getElem?_map, there]
    rfl
  have inside : i < machine.plan.length := (List.getElem?_eq_some_iff.mp first).1
  exact (List.getElem?_inj inside apart.numbers).mp (by rw [first, second, process, number])

/-- Nobody comes or goes. -/
structure Keeps (machine next : Machine) : Prop where
  plan : next.plan = machine.plan
  processes : next.processes.length = machine.processes.length

variable {machine next last : Machine}

theorem Keeps.refl (machine : Machine) : Keeps machine machine := ⟨rfl, rfl⟩

theorem Keeps.trans (first : Keeps machine next) (second : Keeps next last) : Keeps machine last :=
  ⟨second.plan.trans first.plan, second.processes.trans first.processes⟩

theorem Keeps.behind (keeps : Keeps next last) (members : next.members = machine.members)
    (processes : next.processes = machine.processes) : Keeps machine last := by
  refine Keeps.trans ⟨?_, ?_⟩ keeps
  · rw [Machine.plan, Machine.plan, members]
  · rw [processes]

theorem Apart.keeps (apart : machine.Apart) (keeps : Keeps machine next) : next.Apart := by
  refine ⟨?_, ?_⟩
  · rw [keeps.plan]
    exact apart.numbers
  · rw [keeps.plan, keeps.processes]
    exact apart.known

theorem keeps_mapContext (machine : Machine) (member : Nat) (change : Context → Context) :
    Keeps machine (machine.mapContext member change) := by
  refine ⟨List.ext_getElem? fun index => ?_, rfl⟩
  rw [plan, plan, List.getElem?_map, List.getElem?_map, mapContext, List.getElem?_modify]
  cases machine.members[index]? with
  | none => rfl
  | some one =>
    dsimp only [Option.map_eq_map, Option.map_some]
    split <;> rfl

theorem keeps_mapProcess (machine : Machine) (process : Nat) (change : Process → Process) :
    Keeps machine (machine.mapProcess process change) := ⟨rfl, List.length_modify _ _ _⟩

theorem keeps_restartObserver (machine : Machine) (leader : Nat) (observer : Observer) :
    Keeps machine (machine.restartObserver leader observer) := by
  unfold restartObserver
  split
  · exact keeps_mapProcess machine _ _
  all_goals exact .refl machine

theorem keeps_post (machine : Machine) (member endpoint : Nat) (change : Channel → Channel) :
    Keeps machine (machine.post member endpoint change) := by
  unfold post
  split <;> exact ⟨rfl, rfl⟩

theorem keeps_endProcess (machine : Machine) (process : Nat) (exit : Exit) :
    Keeps machine (machine.endProcess process exit) :=
  ⟨rfl, List.length_modify _ _ _⟩

theorem keeps_terminate (machine : Machine) (member : Nat) :
    Keeps machine (machine.terminate member) := by
  unfold terminate
  split
  · exact .refl machine
  · exact keeps_endProcess machine _ _

theorem keeps_perform (machine : Machine) (member : Nat) (effect : Effect) :
    Keeps machine (machine.perform member effect) := by
  cases effect with
  | send endpoint message => exact keeps_post machine member endpoint _
  | sendEncoded endpoint frame => exact keeps_post machine member endpoint _
  | write path contents =>
    unfold perform
    dsimp only
    split <;> exact ⟨rfl, rfl⟩
  | terminate => exact keeps_terminate machine member

theorem keeps_apply (machine : Machine) (member : Nat) (outcome : Outcome) :
    Keeps machine (machine.apply member outcome) := by
  have performs (effects : List Effect) (machine : Machine) :
      Keeps machine (effects.foldl (fun machine effect => machine.perform member effect)
        machine) := by
    induction effects generalizing machine with
    | nil => exact .refl machine
    | cons effect effects ih => exact (keeps_perform machine member effect).trans (ih _)
  exact (keeps_mapContext machine member _).trans (performs _ _)

theorem keeps_kill (machine : Machine) (process : Nat) (signal : Int) :
    Keeps machine (machine.kill process signal) := by
  unfold kill
  split
  · exact ⟨rfl, rfl⟩
  · exact keeps_endProcess machine _ _

theorem keeps_fault (machine : Machine) (process : Nat) (fault : Fault) :
    Keeps machine (machine.fault process fault) := by
  unfold Machine.fault
  dsimp only
  split
  · exact .refl machine
  · split
    · split
      · exact .refl machine
      · split
        · exact .refl machine
        · exact keeps_apply machine _ _
    · exact keeps_kill machine _ _

theorem keeps_attach (machine : Machine) (member : Nat) (kind : ChannelKind) :
    Keeps machine (machine.attach member kind) := by
  unfold attach
  split
  · exact .refl machine
  · exact (keeps_mapContext _ _ _).behind rfl rfl

section
variable {thread moved : Thread}

theorem keeps_link {number : Nat} {pid : UInt32}
    (taken : machine.link thread number pid = some (next, moved)) : Keeps machine next := by
  unfold link at taken
  split at taken <;> cases taken
  · exact .refl machine
  · exact (keeps_mapContext _ _ _).behind rfl rfl

theorem keeps_listen {pid id : UInt32} {peer : String}
    (taken : machine.listen thread pid id peer = some (next, moved)) : Keeps machine next := by
  unfold listen at taken
  dsimp only at taken
  split at taken <;> cases taken <;> exact ⟨rfl, rfl⟩

theorem keeps_connect {id : UInt32} {kind : ChannelKind} {path : String}
    {connected : Machine → Nat → Machine × Thread}
    (keeps : ∀ machine endpoint, Keeps machine (connected machine endpoint).1)
    (taken : machine.connect thread id kind path connected = some (next, moved)) :
    Keeps machine next := by
  unfold connect at taken
  split at taken
  · rename_i endpoint network _
    have behind := keeps { machine with network := network.pumpAll } endpoint
    rw [Option.some.inj taken] at behind
    exact behind.behind rfl rfl
  · split at taken <;> cases taken
    exact .refl machine

theorem keeps_reap (taken : machine.reap thread = some (next, moved)) : Keeps machine next := by
  simp only [reap, Option.bind_eq_bind, Option.bind_eq_some_iff] at taken
  obtain ⟨index, -, one, -, taken⟩ := taken
  split at taken
  · cases taken
    exact keeps_mapProcess machine _ _
  · split at taken <;> cases taken
    exact (keeps_endProcess machine _ _).trans (keeps_mapProcess _ _ _)

theorem keeps_receive {endpoint : Nat}
    (taken : machine.receive thread endpoint = some (next, moved)) : Keeps machine next := by
  simp only [receive, Option.bind_eq_bind, Option.bind_eq_some_iff] at taken
  obtain ⟨channel, -, context, -, taken⟩ := taken
  split at taken
  · cases taken
  · cases taken
    exact ⟨rfl, rfl⟩
  · split at taken <;> cases taken
    · exact (keeps_apply _ _ _).behind rfl rfl
    · exact ⟨rfl, rfl⟩
  · cases taken
    exact keeps_fault machine _ _

theorem keeps_deliver {peer : String} {bytes : Bytes}
    (taken : machine.deliver thread peer bytes = some (next, moved)) : Keeps machine next := by
  unfold deliver at taken
  split at taken
  · cases taken
    exact .refl machine
  · split at taken
    · cases taken
    · split at taken <;> cases taken <;> exact ⟨rfl, rfl⟩

theorem keeps_pour {index : Nat} {bytes : Bytes}
    (taken : machine.pour thread index bytes = some (next, moved)) : Keeps machine next := by
  unfold pour at taken
  dsimp only at taken
  split at taken
  · cases taken
    exact ⟨rfl, rfl⟩
  · cases taken
    exact ⟨rfl, rfl⟩
  · cases taken
    exact ⟨rfl, rfl⟩
  · split at taken <;> cases taken
    exact ⟨rfl, rfl⟩
  · cases taken
    exact ⟨rfl, rfl⟩

theorem keeps_observeSignals {signals : List Int}
    (taken : machine.observeSignals thread signals = some (next, moved)) :
    Keeps machine next := by
  simp only [observeSignals, Option.bind_eq_bind, Option.bind_eq_some_iff] at taken
  obtain ⟨process, -, taken⟩ := taken
  split at taken
  · cases taken
    exact .refl machine
  · split at taken <;> cases taken
    · exact (keeps_mapProcess machine _ _).trans (keeps_mapContext _ _ _)
    · exact keeps_mapProcess machine _ _

theorem keeps_operate {operation : Operation}
    (other : ∀ fork awaited, operation ≠ .duplicate fork awaited)
    (taken : machine.operate thread operation = some (next, moved)) : Keeps machine next := by
  cases operation with
  | duplicate fork awaited => exact absurd rfl (other fork awaited)
  | attach kind =>
    cases taken
    exact keeps_attach machine _ _
  | link child pid => exact keeps_link taken
  | listen pid id peer => exact keeps_listen taken
  | connectMiddleman introduced =>
    dsimp only [operate, connectMiddleman] at taken
    split at taken
    · cases taken
    · refine keeps_connect ?_ taken
      intro machine endpoint
      dsimp only
      exact (keeps_mapContext _ _ _).behind rfl rfl
  | connectFork pid fork =>
    dsimp only [operate, connectFork] at taken
    refine keeps_connect ?_ taken
    exact fun _ _ => ⟨rfl, rfl⟩
  | startForkListener =>
    dsimp only [operate, startForkListener] at taken
    split at taken <;> cases taken <;> exact ⟨rfl, rfl⟩
  | awaitAnnouncement =>
    dsimp only [operate, awaitAnnouncement] at taken
    split at taken
    · cases taken
    · split at taken <;> cases taken
      exact ⟨rfl, rfl⟩
  | reap => exact keeps_reap taken
  | receive endpoint => exact keeps_receive taken
  | deliver peer bytes => exact keeps_deliver taken
  | pour peer bytes => exact keeps_pour taken
  | hangUp peer =>
    dsimp only [operate, hangUp] at taken
    split at taken <;> cases taken <;> exact ⟨rfl, rfl⟩
  | describe =>
    obtain ⟨context, -, same⟩ := Option.map_eq_some_iff.mp taken
    cases same
    exact .refl machine
  | observeSignals signals => exact keeps_observeSignals taken
  | raise signal =>
    cases taken
    exact keeps_fault machine _ _
  | touch address =>
    cases taken
    exact keeps_fault machine _ _
  | enter child =>
    dsimp only [operate, enter] at taken
    split at taken <;> cases taken <;> exact .refl machine
  | install | uninstall =>
    cases taken
    exact keeps_mapProcess machine _ _
  | reportInstalled text | noteInstalled text =>
    dsimp only [operate, onInstalled] at taken
    split at taken <;> cases taken <;> exact .refl machine
  | openForkStream | installedForkId | installedFork =>
    cases taken
    exact ⟨rfl, rfl⟩

/-- The copies bear the numbers of what they were copied from, in a process that was not there. -/
theorem Apart.copied (apart : machine.Apart) (member : Nat) (child : Context → Context) :
    (machine.plan ++
      (machine.copies member child).map fun one => (one.process, one.number)).Nodup := by
  rw [List.nodup_append]
  refine ⟨apart.numbers, ?_, ?_⟩
  · have numbers := apart.numbers
    rw [plan, ← List.zipIdx_map_fst 0 machine.members, List.map_map, List.Nodup,
      List.pairwise_map] at numbers
    rw [copies, List.map_map, List.Nodup, List.pairwise_map, List.pairwise_filter]
    refine numbers.imp ?_
    rintro ⟨one, index⟩ ⟨other, position⟩ differ here there same
    rw [decide_eq_true_iff] at here there
    have number : one.number = other.number := congrArg Prod.snd same
    exact differ (Prod.ext (here.trans there.symm) number)
  · intro place old copy new same
    obtain ⟨one, chosen, rfl⟩ := List.mem_map.mp new
    obtain ⟨source, -, rfl⟩ := List.mem_map.mp chosen
    have known := apart.known place old
    rw [same] at known
    exact Nat.lt_irrefl _ known

theorem split_eq_some {member leader : Nat} {pid : UInt32} {child : Context → Context}
    (made : machine.split member pid child = some (leader, next)) :
    ∃ position twin,
      (machine.copies member child).findIdx? (fun one => one.number = machine.number member) =
        some position ∧
      leader = machine.members.length + position ∧
      next = { machine with
        members := machine.members ++ machine.copies member child
        processes := machine.processes ++ [twin] } := by
  simp only [split, Option.bind_eq_bind, Option.bind_eq_some_iff] at made
  obtain ⟨process, -, position, found, made⟩ := made
  cases made
  exact ⟨position, _, found, rfl, rfl⟩

theorem Apart.split (apart : machine.Apart) {member leader : Nat} {pid : UInt32}
    {child : Context → Context} (made : machine.split member pid child = some (leader, next)) :
    next.Apart := by
  obtain ⟨position, twin, -, -, rfl⟩ := split_eq_some made
  have copied := apart.copied member child
  rw [plan, ← List.map_append] at copied
  refine ⟨copied, ?_⟩
  intro place there
  dsimp only [plan] at there ⊢
  rw [List.length_append, List.length_singleton]
  rw [List.map_append, List.mem_append] at there
  rcases there with old | new
  · exact Nat.lt_succ_of_lt (apart.known place old)
  · obtain ⟨one, chosen, rfl⟩ := List.mem_map.mp new
    obtain ⟨source, -, rfl⟩ := List.mem_map.mp chosen
    exact Nat.lt_succ_self _

/-- A duplication splits its process, whether the new child can listen or not. -/
theorem duplicate_cases {fork : UInt32} {awaited : Bool}
    (taken : machine.duplicate thread fork awaited = some (next, moved)) :
    ∃ context pid network leader made, machine.context? thread.member = some context ∧
      moved = thread.push
        [.releaseWrite, if awaited then .awaitRegistration fork pid else .answer .parent] ∧
      ((∃ fault, machine.network.openListening 0 .replayForked
            (socketPath context.config.socketFolder pid 0) = (.error fault, network) ∧
          ({ machine with network } : Machine).split thread.member pid (adrift · fork) =
            some (leader, made) ∧
          next = made.start (heir leader (.answer (.failed (.io fault)) :: thread.todo))) ∨
        ∃ endpoint pipes, machine.network.openListening 0 .replayForked
            (socketPath context.config.socketFolder pid 0) = (.ok endpoint, network) ∧
          ({ machine with network } : Machine).split thread.member pid (forked · fork endpoint) =
            some (leader, made) ∧
          next = (({ made.restartObserver leader context.observer with pipes } : Machine).start
            (heir leader thread.todo)).own endpoint leader false) := by
  simp only [Machine.duplicate, Option.bind_eq_bind, Option.bind_eq_some_iff] at taken
  obtain ⟨context, here, taken⟩ := taken
  split at taken
  · rename_i fault network fails
    obtain ⟨⟨leader, made⟩, parted, same⟩ := Option.bind_eq_some_iff.mp taken
    cases same
    exact ⟨context, _, network, leader, made, here, rfl, .inl ⟨fault, fails, parted, rfl⟩⟩
  · rename_i endpoint network opens
    obtain ⟨⟨leader, made⟩, parted, same⟩ := Option.bind_eq_some_iff.mp taken
    cases same
    exact ⟨context, _, network, leader, made, here, rfl, .inr ⟨endpoint, _, opens, parted, rfl⟩⟩

theorem Apart.duplicate (apart : machine.Apart) {fork : UInt32} {awaited : Bool}
    (taken : machine.duplicate thread fork awaited = some (next, moved)) : next.Apart := by
  obtain ⟨context, pid, network, leader, made, -, -, ⟨fault, -, parted, rfl⟩ |
    ⟨endpoint, pipes, -, parted, rfl⟩⟩ := duplicate_cases taken
  all_goals
    have others : ({ machine with network } : Machine).Apart := apart.keeps ⟨rfl, rfl⟩
  · exact (others.split parted).keeps ⟨rfl, rfl⟩
  · exact ((others.split parted).keeps
      (keeps_restartObserver made leader context.observer)).keeps ⟨rfl, rfl⟩

theorem Apart.moves (apart : machine.Apart)
    (taken : machine.move? thread = some (next, moved)) : next.Apart := by
  unfold move? at taken
  split at taken
  · cases taken
  · rename_i operation rest _
    by_cases copies : ∃ fork awaited, operation = .duplicate fork awaited
    · obtain ⟨fork, awaited, rfl⟩ := copies
      exact apart.duplicate taken
    · push Not at copies
      exact apart.keeps (keeps_operate copies taken)
  · simp only [Option.bind_eq_bind, Option.bind_eq_some_iff] at taken
    obtain ⟨context, -, outcome, -, taken⟩ := taken
    cases taken
    exact apart.keeps (keeps_apply machine _ _)

end

theorem keeps_settleThread (machine : Machine) (thread : Thread) :
    Keeps machine (machine.settleThread thread).1 := by
  unfold settleThread
  split
  · exact .refl machine
  · split
    · exact .refl machine
    · exact ⟨rfl, rfl⟩

/-- A thread begins, or one of them takes an action. -/
inductive Goes (machine : Machine) : Machine → Prop where
  | starts (thread : Thread) : Goes machine (machine.start thread)
  | steps {next : Machine} (step : Step machine next) : Goes machine next

theorem Apart.goes (apart : machine.Apart) (goes : Goes machine next) : next.Apart := by
  cases goes with
  | starts thread => exact apart.keeps ⟨rfl, rfl⟩
  | steps step =>
    cases step with
    | @move taken before after thread moved there takes =>
      have others : ({ machine with threads := before ++ after } : Machine).Apart :=
        apart.keeps ⟨rfl, rfl⟩
      exact (others.moves takes).keeps (keeps_settleThread _ _)

/-- In the first process children are numbered as they are seated. -/
structure Seated (machine : Machine) : Prop where
  plan : machine.plan = (List.range machine.members.length).map (Prod.mk 0)
  processes : machine.processes.length = 1

theorem plan_seat (machine : Machine) (one : Seat) :
    (machine.seat one).plan = machine.plan ++ [(0, machine.members.length)] ∧
      (machine.seat one).processes.length = machine.processes.length := by
  unfold Machine.seat
  dsimp only
  split
  · obtain ⟨plan, processes⟩ := keeps_attach { machine with
      members := machine.members ++
        [{ number := machine.members.length
           context :=
            { config := one.config, host := one.host
              pipe := if Context.wantsPipe one.config then some machine.pipes.length else none } }]
      pipes := if Context.wantsPipe one.config then machine.pipes ++ [[]] else machine.pipes }
      machine.members.length _
    exact ⟨plan.trans List.map_append, processes⟩
  · exact ⟨List.map_append, rfl⟩

theorem Seated.seat (seated : machine.Seated) (one : Seat) : (machine.seat one).Seated := by
  obtain ⟨plan, processes⟩ := plan_seat machine one
  have lengths := congrArg List.length plan
  rw [Machine.plan, List.length_map, List.length_append, Machine.plan, List.length_map,
    List.length_singleton] at lengths
  refine ⟨?_, processes.trans seated.processes⟩
  rw [plan, lengths, List.range_succ, List.map_append, seated.plan]
  rfl

theorem Seated.apart (seated : machine.Seated) : machine.Apart := by
  refine ⟨?_, ?_⟩
  · rw [seated.plan]
    exact List.nodup_range.map fun _ _ same => congrArg Prod.snd same
  · rw [seated.plan, seated.processes]
    intro place there
    obtain ⟨number, -, rfl⟩ := List.mem_map.mp there
    exact Nat.one_pos

theorem apart_ofSeats (network : Network) (seats : List Seat) :
    (ofSeats network seats).Apart := by
  have all (machine : Machine) (seated : machine.Seated) : (seats.foldl seat machine).Seated := by
    induction seats generalizing machine with
    | nil => exact seated
    | cons one seats ih => exact ih _ (seated.seat one)
  exact (all { network } ⟨rfl, rfl⟩).apart

/-- The children of every process keep apart, whatever the threads do. -/
theorem apart_of_run {network : Network} {seats : List Seat}
    (run : Relation.ReflTransGen Goes (ofSeats network seats) machine) : machine.Apart := by
  induction run with
  | refl => exact apart_ofSeats network seats
  | tail _ goes ih => exact ih.goes goes

/-! Runs that can be played -/

/-- What happens next: a thread begins, or the one at a position takes an action. -/
inductive Turn where
  | starts (thread : Thread)
  | acts (position : Nat)

def take? (machine : Machine) : Turn → Option Machine
  | .starts thread => some (machine.start thread)
  | .acts position => do
    let thread ← machine.threads[position]?
    let others := { machine with threads := machine.threads.eraseIdx position }
    let (taken, moved) ← others.move? thread
    return (taken.settleThread moved).1

def play (machine : Machine) (turns : List Turn) : Option Machine := turns.foldlM take? machine

theorem Goes.of_take? {turn : Turn} (taken : machine.take? turn = some next) :
    Goes machine next := by
  cases turn with
  | starts thread =>
    cases taken
    exact .starts thread
  | acts position =>
    simp only [take?, Option.bind_eq_bind, Option.bind_eq_some_iff] at taken
    obtain ⟨thread, there, ⟨after, moved⟩, moves, same⟩ := taken
    cases same
    obtain ⟨inside, rfl⟩ := List.getElem?_eq_some_iff.mp there
    rw [List.eraseIdx_eq_take_drop_succ] at moves
    refine .steps (.move ?_ moves)
    rw [← List.drop_eq_getElem_cons inside, List.take_append_drop]

theorem goes_of_play {turns : List Turn} (played : machine.play turns = some next) :
    Relation.ReflTransGen Goes machine next := by
  induction turns generalizing machine with
  | nil =>
    cases played
    exact .refl
  | cons turn turns ih =>
    obtain ⟨middle, taken, rest⟩ := Option.bind_eq_some_iff.mp played
    exact .head (.of_take? taken) (ih rest)

end Playback.Machine
