import Playback.Proofs.Outputs.Legs
import Mathlib.Logic.Relation

set_option autoImplicit false

namespace Playback

namespace Tree

/-! What may happen -/

/-- What threads begin with. Forks are registered at any time, and the root is told outputs at any
time, whether it has asked for them or not. -/
inductive OutputUse : UInt32 → Program → Prop where
  | call (fork : UInt32) {program : Program} (use : CallUse program) : OutputUse fork program
  | register {fork : UInt32} (pid : UInt32) (other : fork ≠ rootFork) :
      OutputUse rootFork (Machine.registering fork pid fork.toNat)
  | told {message : Message} (down : CallDown rootFork message) :
      OutputUse rootFork (Program.handle message)

/-- What may happen while processes are used for external calls. The middleman takes what the root
sends, and processes are duplicated at any time. -/
inductive OutputTurn : Turn → Prop where
  | begin {fork : UInt32} (main : Bool) {program : Program} (use : OutputUse fork program) :
      OutputTurn (.begin fork main program)
  | act (thread : Nat) : OutputTurn (.act thread)
  | hear (fork : UInt32) : OutputTurn (.hear fork)
  | attend (fork : UInt32) : OutputTurn (.attend fork)
  | take : OutputTurn (.reply none)
  | duplicate (parent fork : UInt32) : OutputTurn (.duplicate parent fork)

/-- A root and forks between which nothing is on its way. Whatever they know they may know. -/
structure AtRest (tree : Tree) : Prop where
  root : ∃ root, tree.members rootFork = some root ∧ root.forks.pending = [] ∧
    ∀ fork process, root.forks.process? fork = some process → process.handle = fork.toNat
  own : ∀ fork context, tree.members fork = some context →
    context.fork = fork ∧ context.channel = some upstream
  slots : ∀ fork context, fork ≠ rootFork → tree.members fork = some context →
    context.calls.slot.waiting = false
  still : tree.threads = []
  ups : ∀ fork, tree.up fork = []
  downs : ∀ fork, tree.down fork = []

/-- One story is the next behind another. -/
def Story.Follows (story next : Story) : Prop :=
  ∃ turn, OutputTurn turn ∧ story.take? turn = some next

/-- The stories of a root and forks that are used for external calls. -/
inductive Story.Uses : Story → Prop where
  | begins {tree : Tree} (atRest : tree.AtRest) : Uses { tree }
  | turn {story next : Story} (uses : Uses story) (follows : story.Follows next) : Uses next

/-! What was done -/

/-- What a thread has done. -/
def did (thread : Nat) (acts : List Act) : Program :=
  acts.filterMap fun act => if act.thread = thread then some act.action else none

/-- The request that a fork sends with an action, and the thread that sends it. One without a frame
is never sent. -/
def Act.requests? (fork : UInt32) (act : Act) : Option (Nat × Message) :=
  if act.fork = fork then
    match act.action with
    | .claimCall request => if request.Framed then some (act.thread, request) else none
    | _ => none
  else none

/-- The request of a fork that the root answers with an action. -/
def Act.answers? (fork : UInt32) (act : Act) : Option Message :=
  if act.fork = rootFork then
    match act.action with
    | .dispatchFork message =>
      if message.fork = fork ∧ isRequest message = true then some message else none
    | _ => none
  else none

def requests (fork : UInt32) (acts : List Act) : List (Nat × Message) :=
  acts.filterMap (Act.requests? fork)

def answered (fork : UInt32) (acts : List Act) : List Message :=
  acts.filterMap (Act.answers? fork)

theorem did_snoc (thread : Nat) (acts : List Act) (act : Act) :
    did thread (acts ++ [act]) =
      did thread acts ++ if act.thread = thread then [act.action] else [] := by
  rw [did, filterMap_snoc]
  split <;> rfl

theorem did_other {thread : Nat} {act : Act} (other : act.thread ≠ thread) (acts : List Act) :
    did thread (acts ++ [act]) = did thread acts := by
  rw [did_snoc, if_neg other, List.append_nil]

theorem did_own {thread : Nat} {act : Act} (own : act.thread = thread) (acts : List Act) :
    did thread (acts ++ [act]) = did thread acts ++ [act.action] := by
  rw [did_snoc, if_pos own]

/-! Where threads stand -/

/-- What comes to a process about outputs. To a fork it comes over a channel. -/
structure Arrives (fork : UInt32) (message : Message) : Prop where
  down : CallDown fork message
  framed : fork ≠ rootFork → message.Framed

/-- An action of a thread that neither awaits an output nor handles a message of a fork. -/
inductive Proper (owner : UInt32) : Action → Prop where
  | performUnlessKnown (id : CallId) (input output : Bytes) :
      Proper owner (.performUnlessKnown id input output)
  | publishCall (id : CallId) (output : Bytes) : Proper owner (.publishCall id output)
  | keepCall (id : CallId) (output : Bytes) : Proper owner (.keepCall id output)
  | send (id : CallId) (output : Bytes) :
      Proper owner (.send (.externalCallResponse owner id.number output))
  | answer (reply : Reply) : Proper owner (.answer reply)
  | enterRead : Proper owner .enterRead
  | leaveRead : Proper owner .leaveRead
  | handle {message : Message} (arrives : Arrives owner message) : Proper owner (.handle message)
  | dispatch {message : Message} (arrives : Arrives owner message) :
      Proper owner (.dispatch message)
  | register {fork : UInt32} (pid : UInt32) (root : owner = rootFork) (other : fork ≠ rootFork) :
      Proper owner (.register fork pid fork.toNat)

/-- What is left of an external call once its output is looked up. -/
inductive Performs : Action → Prop where
  | unlessKnown (id : CallId) (input output : Bytes) :
      Performs (.performUnlessKnown id input output)

theorem proper_of_performs {rest : Program} (performs : ∀ action ∈ rest, Performs action)
    (owner : UInt32) : ∀ action ∈ rest, Proper owner action := by
  intro action there
  cases performs action there with
  | unlessKnown id input output => exact .performUnlessKnown id input output

/-- What a thread has done and has still to do that began with a program. A message of a fork is
handled by a thread of its own. -/
inductive Stance (owner : UInt32) (program : Program) : Program → Program → Prop where
  | plain {done todo : Program} (proper : ∀ action ∈ todo, Proper owner action) :
      Stance owner program done todo
  | looks {id : CallId} {input : Bytes} {rest : Program}
      (began : program = .lookupCall id input :: rest)
      (performs : ∀ action ∈ rest, Performs action) :
      Stance owner program [] (.lookupCall id input :: rest)
  | claims {id : CallId} {input : Bytes} {rest : Program}
      (began : program = .lookupCall id input :: rest)
      (performs : ∀ action ∈ rest, Performs action) :
      Stance owner program [.lookupCall id input]
        (.claimCall (.externalCallRequest owner id.number input) :: .takeCall id :: rest)
  | takes {id : CallId} {input : Bytes} {rest : Program}
      (began : program = .lookupCall id input :: rest)
      (performs : ∀ action ∈ rest, Performs action) :
      Stance owner program
        [.lookupCall id input, .claimCall (.externalCallRequest owner id.number input)]
        (.takeCall id :: rest)
  | attends {fork : UInt32} {message : Message} (root : owner = rootFork) (other : fork ≠ rootFork)
      (up : CallUp fork message) (began : program = Program.handleFork message) :
      Stance owner program [] [.handleFork message, .answer .done]
  | enters {fork : UInt32} {message : Message} (root : owner = rootFork) (other : fork ≠ rootFork)
      (up : CallUp fork message) (began : program = Program.handleFork message) :
      Stance owner program [.handleFork message]
        [.enterRead, .dispatchFork message, .leaveRead, .answer .done]
  | serves {fork : UInt32} {message : Message} (root : owner = rootFork) (other : fork ≠ rootFork)
      (up : CallUp fork message) (began : program = Program.handleFork message) :
      Stance owner program [.handleFork message, .enterRead]
        [.dispatchFork message, .leaveRead, .answer .done]
  | routes {fork : UInt32} {message answer : Message} (root : owner = rootFork)
      (other : fork ≠ rootFork) (down : CallDown fork answer)
      (began : program = Program.handleFork message) :
      Stance owner program [.handleFork message, .enterRead, .dispatchFork message]
        [.route answer, .leaveRead, .answer .done]

/-! Errands -/

/-- The errand of a thread of a fork is on one leg. -/
structure Out (story : Story) (fork : UInt32) (thread : Nat) (id : CallId) (leg : Leg) : Prop where
  legs : story.tree.legs fork = [leg]
  claimed : (story.tree.slot fork).waiting = true
  awaits : ∀ other call,
    story.tree.AwaitsOutput fork other call ↔ other = thread ∧ call = id
  last : ∃ input, (requests fork story.acts).getLast? =
    some (thread, .externalCallRequest fork id.number input)

/-- The errand of a thread of a fork was too large for a channel. Nothing that it waits for is on
its way. -/
structure LeftWaiting (story : Story) (fork : UInt32) (thread : Nat) (id : CallId) : Prop where
  legs : story.tree.legs fork = []
  claimed : (story.tree.slot fork).waiting = true
  awaits : story.tree.AwaitsOutput fork thread id

/-- A fork has no errand out. If its process was duplicated while another thread had one, its slot
may still be claimed. -/
structure Home (story : Story) (fork : UInt32) : Prop where
  legs : ∀ leg ∈ story.tree.legs fork, leg.isResponse = true
  nobody : ∀ thread id, ¬story.tree.AwaitsOutput fork thread id

/-- A fork has at most one errand out, and the root has answered all requests but the one that is
on its way. -/
structure Line (story : Story) (fork : UInt32) : Prop where
  order : (requests fork story.acts).map Prod.snd =
    answered fork story.acts ++ (story.tree.legs fork).filterMap Leg.request?
  single : Home story fork ∨ (∃ thread id leg, Out story fork thread id leg) ∨
    ∃ thread id, LeftWaiting story fork thread id

/-- What one turn does to the errand of a fork. -/
inductive Change (story next : Story) (fork : UInt32) : Prop where
  | calm (legs : (next.tree.legs fork).Perm (story.tree.legs fork))
      (slot : (next.tree.slot fork).waiting = (story.tree.slot fork).waiting)
      (awaits : ∀ thread id,
        next.tree.AwaitsOutput fork thread id ↔ story.tree.AwaitsOutput fork thread id)
      (asked : requests fork next.acts = requests fork story.acts)
      (handled : answered fork next.acts = answered fork story.acts)
  | asks {thread : Nat} {id : CallId} {input : Bytes}
      (free : (story.tree.slot fork).waiting = false)
      (legs : (next.tree.legs fork).Perm
        (.request (.externalCallRequest fork id.number input) :: story.tree.legs fork))
      (claimed : (next.tree.slot fork).waiting = true)
      (awaits : ∀ other call, next.tree.AwaitsOutput fork other call ↔
        story.tree.AwaitsOutput fork other call ∨ other = thread ∧ call = id)
      (asked : requests fork next.acts =
        requests fork story.acts ++ [(thread, .externalCallRequest fork id.number input)])
      (handled : answered fork next.acts = answered fork story.acts)
  | strands {thread : Nat} {id : CallId}
      (free : (story.tree.slot fork).waiting = false)
      (legs : (next.tree.legs fork).Perm (story.tree.legs fork))
      (claimed : (next.tree.slot fork).waiting = true)
      (awaits : next.tree.AwaitsOutput fork thread id)
      (asked : requests fork next.acts = requests fork story.acts)
      (handled : answered fork next.acts = answered fork story.acts)
  | serves {request answer : Message} {others : List Leg}
      (before : (story.tree.legs fork).Perm (.request request :: others))
      (after : (next.tree.legs fork).Perm (.answer answer :: others))
      (slot : (next.tree.slot fork).waiting = (story.tree.slot fork).waiting)
      (awaits : ∀ thread id,
        next.tree.AwaitsOutput fork thread id ↔ story.tree.AwaitsOutput fork thread id)
      (asked : requests fork next.acts = requests fork story.acts)
      (handled : answered fork next.acts = answered fork story.acts ++ [request])
  | drops {answer : Message} (large : ¬answer.Framed)
      (before : (story.tree.legs fork).Perm [.answer answer]) (after : next.tree.legs fork = [])
      (slot : (next.tree.slot fork).waiting = (story.tree.slot fork).waiting)
      (awaits : ∀ thread id,
        next.tree.AwaitsOutput fork thread id ↔ story.tree.AwaitsOutput fork thread id)
      (asked : requests fork next.acts = requests fork story.acts)
      (handled : answered fork next.acts = answered fork story.acts)
  | delivers {answer : Message} {tag : Option CallId} {output : Bytes} {others : List Leg}
      (conveys : Conveys fork answer tag output) (framed : answer.Framed)
      (before : (story.tree.legs fork).Perm (.answer answer :: others))
      (after : (next.tree.legs fork).Perm (.response tag output :: others))
      (slot : (next.tree.slot fork).waiting = (story.tree.slot fork).waiting)
      (awaits : ∀ thread id,
        next.tree.AwaitsOutput fork thread id ↔ story.tree.AwaitsOutput fork thread id)
      (asked : requests fork next.acts = requests fork story.acts)
      (handled : answered fork next.acts = answered fork story.acts)
  | takes {thread : Nat} {id : CallId} {tag : Option CallId} {output : Bytes} {others : List Leg}
      (awaited : story.tree.AwaitsOutput fork thread id)
      (before : (story.tree.legs fork).Perm (.response tag output :: others))
      (after : (next.tree.legs fork).Perm others)
      (awaits : ∀ other call, next.tree.AwaitsOutput fork other call →
        story.tree.AwaitsOutput fork other call ∧ other ≠ thread)
      (asked : requests fork next.acts = requests fork story.acts)
      (handled : answered fork next.acts = answered fork story.acts)
  | joins (free : (story.tree.slot fork).waiting = false)
      (legs : ∀ leg ∈ next.tree.legs fork,
        leg ∈ story.tree.legs fork ∨ leg.isResponse = true)
      (nobody : ∀ thread id, ¬next.tree.AwaitsOutput fork thread id)
      (asked : requests fork next.acts = requests fork story.acts)
      (handled : answered fork next.acts = answered fork story.acts)

/-- A response stands for an errand only while the slot is claimed. -/
theorem claimed_of_isResponse {tree : Tree} {fork : UInt32} {leg : Leg}
    (there : leg ∈ tree.legs fork) (response : leg.isResponse = true) :
    (tree.slot fork).waiting = true := by
  rw [legs, lines] at there
  simp only [List.mem_append] at there
  rcases there with thread | up | down | own
  · obtain ⟨one, -, inside⟩ := List.mem_flatMap.mp thread
    obtain ⟨action, -, same⟩ := List.mem_filterMap.mp inside
    unfold leg? at same
    split at same
    case h_1 | h_2 | h_3 | h_4 | h_5 =>
      obtain ⟨-, same⟩ := Option.ite_none_right_eq_some.mp same
      rw [← Option.some.inj same] at response
      cases response
    case h_6 => cases same
  · obtain ⟨message, -, same⟩ := List.mem_filterMap.mp up
    obtain ⟨-, same⟩ := Option.ite_none_right_eq_some.mp same
    rw [← Option.some.inj same] at response
    cases response
  · obtain ⟨message, -, same⟩ := List.mem_map.mp down
    rw [← same] at response
    cases response
  · exact (isResponse_of_slotLegs own).2

theorem Home.requests {story : Story} {fork : UInt32} (home : Home story fork) :
    (story.tree.legs fork).filterMap Leg.request? = [] := by
  rw [List.filterMap_eq_nil_iff]
  intro leg there
  have response := home.legs leg there
  cases leg with
  | request => cases response
  | answer => cases response
  | response => rfl

section
variable {story next : Story} {fork : UInt32}

/-- Of a fork with a free slot no errand is out. -/
theorem Line.free (line : Line story fork) (free : (story.tree.slot fork).waiting = false) :
    story.tree.legs fork = [] ∧ ∀ thread id, ¬story.tree.AwaitsOutput fork thread id := by
  rcases line.single with home | ⟨thread, id, leg, out⟩ | ⟨thread, id, stuck⟩
  · refine ⟨?_, home.nobody⟩
    rw [List.eq_nil_iff_forall_not_mem]
    intro leg there
    have claimed := claimed_of_isResponse there (home.legs leg there)
    rw [free] at claimed
    cases claimed
  · have claimed := out.claimed
    rw [free] at claimed
    cases claimed
  · have claimed := stuck.claimed
    rw [free] at claimed
    cases claimed

/-- Whatever is on its way and is no response belongs to the errand that is out. -/
theorem Line.out_of_leg (line : Line story fork) {leg : Leg} {others : List Leg}
    (there : (story.tree.legs fork).Perm (leg :: others)) (under : leg.isResponse = false) :
    others = [] ∧ ∃ thread id, Out story fork thread id leg := by
  have member : leg ∈ story.tree.legs fork := there.mem_iff.mpr List.mem_cons_self
  rcases line.single with home | ⟨thread, id, one, out⟩ | ⟨thread, id, stuck⟩
  · have response := home.legs leg member
    rw [under] at response
    cases response
  · have same := out.legs
    rw [same] at there
    obtain ⟨equal, nothing⟩ := List.cons_eq_cons.mp there.symm.eq_singleton
    exact ⟨nothing, thread, id, equal ▸ out⟩
  · rw [stuck.legs] at member
    cases member

/-- Who awaits an output has claimed the slot. -/
theorem Line.claimed_of_awaits (line : Line story fork) {thread : Nat} {id : CallId}
    (awaits : story.tree.AwaitsOutput fork thread id) : (story.tree.slot fork).waiting = true := by
  rcases line.single with home | ⟨other, call, leg, out⟩ | ⟨other, call, stuck⟩
  · exact absurd awaits (home.nobody thread id)
  · exact out.claimed
  · exact stuck.claimed

/-- Who awaits an output while something is on its way to its process has its errand out. -/
theorem Line.out_of_awaits (line : Line story fork) {thread : Nat} {id : CallId} {leg : Leg}
    {others : List Leg} (there : (story.tree.legs fork).Perm (leg :: others))
    (awaits : story.tree.AwaitsOutput fork thread id) : Out story fork thread id leg := by
  have member : leg ∈ story.tree.legs fork := there.mem_iff.mpr List.mem_cons_self
  rcases line.single with home | ⟨other, call, one, out⟩ | ⟨other, call, stuck⟩
  · exact absurd awaits (home.nobody thread id)
  · obtain ⟨rfl, rfl⟩ := (out.awaits thread id).mp awaits
    rw [out.legs] at member
    rw [List.mem_singleton.mp member]
    exact out
  · rw [stuck.legs] at member
    cases member

/-- The errand of a thread goes on to a leg. -/
theorem Out.goesOn {thread : Nat} {id : CallId} {leg other : Leg}
    (out : Out story fork thread id leg) (legs : (next.tree.legs fork).Perm [other])
    (slot : (next.tree.slot fork).waiting = (story.tree.slot fork).waiting)
    (awaits : ∀ thread id,
      next.tree.AwaitsOutput fork thread id ↔ story.tree.AwaitsOutput fork thread id)
    (asked : requests fork next.acts = requests fork story.acts) :
    Out next fork thread id other where
  legs := legs.eq_singleton
  claimed := slot.trans out.claimed
  awaits := fun one call => (awaits one call).trans (out.awaits one call)
  last := by
    rw [asked]
    exact out.last

/-- Who waits in vain does so for ever. -/
theorem LeftWaiting.change {thread : Nat} {id : CallId} (stuck : LeftWaiting story fork thread id)
    (change : Change story next fork) : LeftWaiting next fork thread id := by
  have claimed := stuck.claimed
  cases change with
  | calm legs slot awaits =>
    exact ⟨(stuck.legs ▸ legs).eq_nil, slot.trans claimed, (awaits thread id).mpr stuck.awaits⟩
  | asks free | strands free | joins free =>
    rw [free] at claimed
    cases claimed
  | drops _ before | serves before | delivers _ _ before | takes _ before =>
    rw [stuck.legs] at before
    cases before.nil_eq

theorem Line.change (line : Line story fork) (change : Change story next fork) :
    Line next fork := by
  cases change with
  | calm legs slot awaits asked handled =>
    rcases line.single with home | ⟨thread, id, leg, out⟩ | ⟨thread, id, stuck⟩
    · have still : Home next fork :=
        ⟨fun leg there => home.legs leg (legs.mem_iff.mp there),
          fun thread id awaiting => home.nobody thread id ((awaits thread id).mp awaiting)⟩
      refine ⟨?_, Or.inl still⟩
      rw [asked, handled, still.requests, line.order, home.requests]
    · have still := out.goesOn (out.legs ▸ legs) slot awaits asked
      refine ⟨?_, Or.inr (Or.inl ⟨thread, id, leg, still⟩)⟩
      rw [asked, handled, still.legs, line.order, out.legs]
    · have still := stuck.change (.calm legs slot awaits asked handled)
      refine ⟨?_, Or.inr (Or.inr ⟨thread, id, still⟩)⟩
      rw [asked, handled, still.legs, line.order, stuck.legs]
  | @asks thread id input free legs claimed awaits asked handled =>
    obtain ⟨nothing, nobody⟩ := line.free free
    rw [nothing] at legs
    have out : Out next fork thread id (.request (.externalCallRequest fork id.number input)) := by
      refine ⟨legs.eq_singleton, claimed, fun other call => ?_, input, ?_⟩
      · rw [awaits]
        exact or_iff_right (nobody other call)
      · rw [asked, List.getLast?_concat]
    refine ⟨?_, Or.inr (Or.inl ⟨thread, id, _, out⟩)⟩
    rw [asked, handled, out.legs, List.map_append, line.order, nothing, List.filterMap_nil,
      List.append_nil]
    rfl
  | @strands thread id free legs claimed awaits asked handled =>
    obtain ⟨nothing, -⟩ := line.free free
    rw [nothing] at legs
    refine ⟨?_, Or.inr (Or.inr ⟨thread, id, legs.eq_nil, claimed, awaits⟩)⟩
    rw [asked, handled, line.order, nothing, legs.eq_nil]
  | serves before after slot awaits asked handled =>
    obtain ⟨rfl, thread, id, out⟩ := line.out_of_leg before rfl
    have later := out.goesOn after slot awaits asked
    refine ⟨?_, Or.inr (Or.inl ⟨thread, id, _, later⟩)⟩
    rw [asked, handled, later.legs, line.order, out.legs]
    exact (List.append_nil _).symm
  | drops _ before after slot awaits asked handled =>
    obtain ⟨-, thread, id, out⟩ := line.out_of_leg before rfl
    have waits := (awaits thread id).mpr ((out.awaits thread id).mpr ⟨rfl, rfl⟩)
    refine ⟨?_, Or.inr (Or.inr ⟨thread, id, after, slot.trans out.claimed, waits⟩)⟩
    rw [asked, handled, line.order, out.legs, after]
    rfl
  | delivers _ _ before after slot awaits asked handled =>
    obtain ⟨rfl, thread, id, out⟩ := line.out_of_leg before rfl
    have later := out.goesOn after slot awaits asked
    refine ⟨?_, Or.inr (Or.inl ⟨thread, id, _, later⟩)⟩
    rw [asked, handled, later.legs, line.order, out.legs]
    rfl
  | takes awaited before after awaits asked handled =>
    have out := line.out_of_awaits before awaited
    have same := out.legs
    rw [same] at before
    obtain ⟨-, rfl⟩ := List.cons_eq_cons.mp before.symm.eq_singleton
    have home : Home next fork := by
      refine ⟨?_, fun other call awaiting => ?_⟩
      · rw [after.eq_nil]
        exact List.forall_mem_nil _
      · obtain ⟨old, apart⟩ := awaits other call awaiting
        obtain ⟨rfl, -⟩ := (out.awaits other call).mp old
        exact apart ((out.awaits _ _).mp awaited).1.symm
    refine ⟨?_, Or.inl home⟩
    rw [asked, handled, home.requests, line.order, same]
    rfl
  | joins free legs nobody asked handled =>
    obtain ⟨nothing, -⟩ := line.free free
    have home : Home next fork := by
      refine ⟨fun leg there => (legs leg there).resolve_left ?_, nobody⟩
      rw [nothing]
      exact List.not_mem_nil
    refine ⟨?_, Or.inl home⟩
    rw [asked, handled, home.requests, line.order, nothing]
    rfl

end

/-- Of the messages that the root sends to a fork, the channel carries all, or the only one is too
large. -/
theorem Line.posts {story next : Story} {fork : UInt32} (line : Line story fork)
    {sent : List Message} {others : List Leg}
    (before : (story.tree.legs fork).Perm (sent.map .answer ++ others))
    (after : (next.tree.legs fork).Perm ((carried sent).map .answer ++ others))
    (slot : (next.tree.slot fork).waiting = (story.tree.slot fork).waiting)
    (awaits : ∀ thread id,
      next.tree.AwaitsOutput fork thread id ↔ story.tree.AwaitsOutput fork thread id)
    (asked : requests fork next.acts = requests fork story.acts)
    (handled : answered fork next.acts = answered fork story.acts) : Change story next fork := by
  by_cases framed : ∀ message ∈ sent, message.Framed
  · rw [carried_of_framed framed] at after
    exact .calm (after.trans before.symm) slot awaits asked handled
  · simp only [not_forall] at framed
    obtain ⟨message, there, large⟩ := framed
    obtain ⟨front, back, rfl⟩ := List.append_of_mem there
    have first : (story.tree.legs fork).Perm
        (.answer message :: ((front ++ back).map .answer ++ others)) := by
      refine before.trans ?_
      rw [← List.cons_append, ← List.map_cons]
      exact (List.perm_middle.map _).append_right _
    obtain ⟨nothing, -⟩ := line.out_of_leg first rfl
    simp only [List.append_eq_nil_iff, List.map_eq_nil_iff] at nothing
    obtain ⟨⟨rfl, rfl⟩, rfl⟩ := nothing
    rw [List.nil_append, carried_singleton, if_neg large] at after
    exact .drops large first after.eq_nil slot awaits asked handled

/-! Stories -/

/-- A root and forks that are used for external calls, with all that is on its way. -/
structure Asking (story : Story) : Prop where
  root : ∃ root, story.tree.members rootFork = some root ∧ Holds CallDown root.forks
  own : ∀ fork context, story.tree.members fork = some context →
    context.fork = fork ∧ context.channel = some upstream
  size : story.begun.length = story.tree.threads.length
  past : ∀ act ∈ story.acts, act.thread < story.tree.threads.length
  homes : ∀ (thread : Nat) (fork : UInt32) (strand : Strand),
    story.tree.threads[thread]? = some (fork, strand) →
    ∃ context, story.tree.members fork = some context
  stances : ∀ (thread : Nat) (fork : UInt32) (strand : Strand),
    story.tree.threads[thread]? = some (fork, strand) →
    ∃ program, story.begun[thread]? = some program ∧
      Stance fork program (did thread story.acts) strand.todo
  ups : ∀ fork, ∀ message ∈ story.tree.up fork, CallUp fork message
  downs : ∀ fork, ∀ message ∈ story.tree.down fork, fork ≠ rootFork ∧ Arrives fork message
  lines : ∀ fork, fork ≠ rootFork → Line story fork

theorem Asking.did_new {story : Story} (asking : Asking story) :
    did story.tree.threads.length story.acts = [] := by
  rw [did, List.filterMap_eq_nil_iff]
  intro act there
  exact if_neg (Nat.ne_of_lt (asking.past act there))

theorem Asking.of_root {story : Story} (asking : Asking story) {root : Context}
    (here : story.tree.members rootFork = some root) : Holds CallDown root.forks := by
  obtain ⟨one, there, holds⟩ := asking.root
  rw [here] at there
  cases there
  exact holds

end Tree

end Playback
