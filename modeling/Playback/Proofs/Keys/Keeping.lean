import Playback.Proofs.Keys.Sharing

set_option autoImplicit false

/- How a tree keeps its shared keys. The root has what the actions tell, what is on its way can be
read as it was written, every thread stands at a known place of its program, and what is on its way
for a fork fits the errand of the moment. -/
namespace Playback

namespace Tree

/-- The table of the root leads to its forks, and holds responses for those that it does not
know. -/
structure Shelf (table : ForkTable Nat) : Prop where
  handles : ∀ fork process, table.process? fork = some process → process.handle = fork.toNat
  pending : ∀ message ∈ table.pending, message.fork ≠ rootFork ∧ KeyDown message.fork message
  clear : ∀ fork process, table.process? fork = some process → table.pendingFor fork = []

/-- The processes of a tree and the messages between them. -/
structure Kept (tree : Tree) (acts : List Act) : Prop where
  root : ∃ root, tree.members rootFork = some root ∧ Shelf root.forks ∧
    ∀ key, root.keys.get key = latest key acts
  own : ∀ fork context, tree.members fork = some context →
    context.fork = fork ∧ (fork ≠ rootFork → context.channel = some upstream)
  ups : ∀ fork, ∀ message ∈ tree.up fork, fork ≠ rootFork ∧ KeyUp fork message
  downs : ∀ fork, ∀ message ∈ tree.down fork, fork ≠ rootFork ∧ KeyDown fork message
  framed : ∀ key fork, (Message.sharedKeyResponse fork (latest key acts)).Framed

/-- Where a thread stands that began with a program, and what it has come to. -/
inductive KeyPlace (acts : List Act) (thread : Nat) (owner : UInt32) :
    Program → Program → Reply → Prop where
  | sets {key value : String} (framed : (Message.sharedKeySet owner key value).Framed)
      (reply : Reply) : KeyPlace acts thread owner [.setKey key value] [.setKey key value] reply
  | gets {key : String} (framed : (Message.sharedKeyRequest owner key).Framed) (reply : Reply) :
      KeyPlace acts thread owner [.getKey key] [.getKey key] reply
  | claims {key : String} (other : owner ≠ rootFork)
      (framed : (Message.sharedKeyRequest owner key).Framed) (reply : Reply) :
      KeyPlace acts thread owner [.getKey key]
        [.claimKey (.sharedKeyRequest owner key), .takeKey] reply
  | takes {key : String} (other : owner ≠ rootFork) (reply : Reply) :
      KeyPlace acts thread owner [.getKey key] [.takeKey] reply
  | got {key value : String} (other : owner ≠ rootFork) (got : Got owner thread key value acts) :
      KeyPlace acts thread owner [.getKey key] [] (.text value)
  | read {key value : String} (root : owner = rootFork) (read : ReadAtRoot thread key value acts) :
      KeyPlace acts thread owner [.getKey key] [] (.text value)
  | hears {message : Message} (other : owner ≠ rootFork) (down : KeyDown owner message)
      {rest : Program} (quiet : ∀ action ∈ rest, idle action = true) (reply : Reply) :
      KeyPlace acts thread owner (Program.handle message) (.handle message :: rest) reply
  | takesIn {message : Message} (other : owner ≠ rootFork) (down : KeyDown owner message)
      {rest : Program} (quiet : ∀ action ∈ rest, idle action = true) (reply : Reply) :
      KeyPlace acts thread owner (Program.handle message) (.dispatch message :: rest) reply
  | attends {fork : UInt32} {message : Message} (root : owner = rootFork) (other : fork ≠ rootFork)
      (up : KeyUp fork message) {rest : Program} (quiet : ∀ action ∈ rest, idle action = true)
      (reply : Reply) :
      KeyPlace acts thread owner (Program.handleFork message) (.handleFork message :: rest) reply
  | serves {fork : UInt32} {message : Message} (root : owner = rootFork) (other : fork ≠ rootFork)
      (up : KeyUp fork message) {rest : Program} (quiet : ∀ action ∈ rest, idle action = true)
      (reply : Reply) :
      KeyPlace acts thread owner (Program.handleFork message) (.dispatchFork message :: rest) reply
  | answers {fork : UInt32} {message answer : Message} (root : owner = rootFork)
      (other : fork ≠ rootFork) (down : KeyDown fork answer) {rest : Program}
      (quiet : ∀ action ∈ rest, idle action = true) (reply : Reply) :
      KeyPlace acts thread owner (Program.handleFork message) (.route answer :: rest) reply
  | enrolls {fork pid : UInt32} (root : owner = rootFork) (other : fork ≠ rootFork)
      {rest : Program} (quiet : ∀ action ∈ rest, idle action = true) (reply : Reply) :
      KeyPlace acts thread owner (Machine.registering fork pid fork.toNat)
        (.register fork pid fork.toNat :: rest) reply
  | enters {program todo : Program} {reply : Reply} (apart : ∀ key, program ≠ [.getKey key])
      (place : KeyPlace acts thread owner program todo reply) :
      KeyPlace acts thread owner program (.enterRead :: todo) reply
  | ends {program todo : Program} (apart : ∀ key, program ≠ [.getKey key])
      (quiet : ∀ action ∈ todo, idle action = true) (reply : Reply) :
      KeyPlace acts thread owner program todo reply

/-- What a thread has sent with an action. -/
inductive KeySaid (act : Act) : Message → Prop where
  | set {key value : String} (sets : act.action = .setKey key value)
      (framed : (Message.sharedKeySet act.fork key value).Framed) :
      KeySaid act (.sharedKeySet act.fork key value)
  | request {key : String} (asks : act.action = .claimKey (.sharedKeyRequest act.fork key))
      (framed : (Message.sharedKeyRequest act.fork key).Framed) :
      KeySaid act (.sharedKeyRequest act.fork key)

/-- A story of a root and forks that share keys. -/
structure Keeping (story : Story) : Prop where
  kept : Kept story.tree story.acts
  size : story.begun.length = story.tree.threads.length
  homes : ∀ (thread : Nat) (fork : UInt32) (strand : Strand),
    story.tree.threads[thread]? = some (fork, strand) →
    ∃ context, story.tree.members fork = some context
  places : ∀ (thread : Nat) (fork : UInt32) (strand : Strand),
    story.tree.threads[thread]? = some (fork, strand) →
    ∃ program, story.begun[thread]? = some program ∧
      KeyPlace story.acts thread fork program strand.todo strand.value
  lines : ∀ fork, fork ≠ rootFork →
    ∃ errand : Errand, errand.Fits fork story.acts (story.ways fork)
  causal : ∀ fork, fork ≠ rootFork → Causal fork story.acts
  said : ∀ act ∈ story.acts, ∀ message, act.sends? act.fork = some message → KeySaid act message

/-! What stays -/

theorem latest_of_none {act : Act} (nothing : act.setting? = none) (key : String)
    (acts : List Act) : latest key (acts ++ [act]) = latest key acts := by
  rw [latest_snoc, update_of_none nothing]

theorem KeyPlace.later {acts : List Act} {thread : Nat} {owner : UInt32} {program todo : Program}
    {reply : Reply} (place : KeyPlace acts thread owner program todo reply) (more : List Act) :
    KeyPlace (acts ++ more) thread owner program todo reply := by
  induction place with
  | sets framed reply => exact .sets framed reply
  | gets framed reply => exact .gets framed reply
  | claims other framed reply => exact .claims other framed reply
  | takes other reply => exact .takes other reply
  | got other got => exact .got other (got.append more)
  | read root read => exact .read root (read.append more)
  | hears other down quiet reply => exact .hears other down quiet reply
  | takesIn other down quiet reply => exact .takesIn other down quiet reply
  | attends root other up quiet reply => exact .attends root other up quiet reply
  | serves root other up quiet reply => exact .serves root other up quiet reply
  | answers root other down quiet reply => exact .answers root other down quiet reply
  | enrolls root other quiet reply => exact .enrolls root other quiet reply
  | enters apart _ ih => exact .enters apart ih
  | ends apart quiet reply => exact .ends apart quiet reply

/-- Only who asks for a value takes one. -/
theorem KeyPlace.ne_takeKey {acts : List Act} {thread : Nat} {owner : UInt32}
    {program todo : Program} {reply : Reply}
    (place : KeyPlace acts thread owner program todo reply)
    (apart : ∀ key, program ≠ [.getKey key]) : todo ≠ [.takeKey] := by
  rintro rfl
  cases place with
  | takes other reply => exact apart _ rfl
  | ends _ quiet => cases quiet .takeKey (List.mem_singleton_self _)

/-- Actions that have nothing to do with keys. -/
def stirs : Action → Bool
  | .setKey _ _ | .dispatchFork _ | .claimKey _ | .takeKey => true
  | _ => false

theorem Act.aside {act : Act} (still : stirs act.action = false) :
    act.setting? = none ∧ (∀ fork, act.sends? fork = none) ∧ (∀ fork, act.handles? fork = none) ∧
      ∀ fork, act.deals fork = false := by
  refine ⟨?_, fun fork => ?_, fun fork => ?_, fun fork => ?_⟩
  · unfold Act.setting?
    split <;> try split
    all_goals simp_all [stirs]
  · unfold Act.sends?
    split <;> try split
    all_goals simp_all [stirs]
  · unfold Act.handles?
    split <;> simp_all [stirs]
  · unfold Act.deals
    split <;> simp_all [stirs]

/-- What a thread sends can be read. -/
theorem KeyPlace.said {acts : List Act} {act : Act} {program todo : Program} {reply : Reply}
    (place : KeyPlace acts act.thread act.fork program todo reply)
    (first : todo.head? = some act.action) {message : Message}
    (sends : act.sends? act.fork = some message) : KeySaid act message := by
  rw [Act.sends?, if_pos rfl] at sends
  cases place with
  | sets framed reply =>
    rw [← Option.some.inj first] at sends
    cases sends
    exact .set (Option.some.inj first).symm framed
  | claims other framed reply =>
    rw [← Option.some.inj first] at sends
    cases sends
    exact .request (Option.some.inj first).symm framed
  | gets | takes | hears | takesIn | attends | serves | answers | enrolls | enters =>
    rw [← Option.some.inj first] at sends
    cases sends
  | got | read => cases first
  | ends _ quiet =>
    have idles := quiet act.action (List.mem_of_head? first)
    split at sends <;> simp_all [idle]

/-- A process that keeps its keys, its forks and its channel, and sends nothing. -/
structure Bare (context : Context) (outcome : Outcome) : Prop where
  own : outcome.context.fork = context.fork
  channel : outcome.context.channel = context.channel
  forks : outcome.context.forks = context.forks
  keys : outcome.context.keys = context.keys
  nothing : outcome.effects = []

theorem Errand.Fits.inOrder_prefix {fork : UInt32} {acts : List Act} {ways : Ways}
    {errand : Errand} (fits : errand.Fits fork acts ways) :
    handled fork acts <+: sent fork acts := by
  rw [fits.inOrder]
  exact List.prefix_append _ _

section
variable {story next : Story} {act : Act} {strand later : Strand} {outcome : Outcome}

theorem Goes.kept (goes : Goes story next act strand later outcome)
    (kept : Kept story.tree story.acts)
    (own : outcome.context.fork = act.context.fork)
    (channel : outcome.context.channel = act.context.channel)
    (ups : ∀ message ∈ outcome.effects.filterMap upward?,
      act.fork ≠ rootFork ∧ KeyUp act.fork message)
    (downs : act.fork = rootFork → ∀ fork, ∀ message ∈ outcome.effects.filterMap (downward? fork),
      fork ≠ rootFork ∧ KeyDown fork message)
    (root : act.fork = rootFork → Shelf outcome.context.forks ∧
      ∀ key, outcome.context.keys.get key = latest key next.acts)
    (apart : act.fork ≠ rootFork → act.setting? = none)
    (framed : ∀ key fork, (Message.sharedKeyResponse fork (latest key next.acts)).Framed) :
    Kept next.tree next.acts where
  root := by
    by_cases top : act.fork = rootFork
    · refine ⟨outcome.context, ?_, root top⟩
      rw [goes.members, if_pos top.symm]
    · obtain ⟨one, there, shelf, keys⟩ := kept.root
      refine ⟨one, ?_, shelf, fun key => ?_⟩
      · rw [goes.members, if_neg (Ne.symm top)]
        exact there
      · rw [goes.acts, latest_of_none (apart top)]
        exact keys key
  own := by
    intro fork context there
    rw [goes.members] at there
    split at there
    case isTrue same =>
      cases there
      rw [own, channel, same]
      exact kept.own act.fork act.context goes.here
    case isFalse _ => exact kept.own fork context there
  ups := by
    intro fork message there
    rw [goes.up] at there
    rcases List.mem_append.mp there with old | new
    · exact kept.ups fork message old
    · obtain ⟨same, new⟩ := List.mem_ite_nil_right.mp new
      rw [same]
      exact ups message new
  downs := by
    intro fork message there
    rw [goes.down] at there
    rcases List.mem_append.mp there with old | new
    · exact kept.downs fork message old
    · obtain ⟨same, new⟩ := List.mem_ite_nil_right.mp new
      exact downs same fork message new
  framed := framed

theorem Goes.kept_of_still (goes : Goes story next act strand later outcome)
    (kept : Kept story.tree story.acts) (still : act.setting? = none)
    (bare : Bare act.context outcome) : Kept next.tree next.acts := by
  refine goes.kept kept bare.own bare.channel ?_ ?_ ?_ (fun _ => still) ?_
  · rw [bare.nothing]
    exact List.forall_mem_nil _
  · rw [bare.nothing]
    exact fun _ _ => List.forall_mem_nil _
  · intro top
    obtain ⟨one, there, shelf, entries⟩ := kept.root
    have here := goes.here
    rw [top, there] at here
    cases here
    rw [bare.forks, bare.keys, goes.acts]
    refine ⟨shelf, fun key => ?_⟩
    rw [latest_of_none still]
    exact entries key
  · intro key fork
    rw [goes.acts, latest_of_none still]
    exact kept.framed key fork

theorem Keeping.goes (keeping : Keeping story)
    (goes : Goes story next act strand later outcome) (kept : Kept next.tree next.acts)
    {program : Program} (began : story.begun[act.thread]? = some program)
    (place : KeyPlace next.acts act.thread act.fork program later.todo later.value)
    (lines : ∀ fork, fork ≠ rootFork →
      ∃ errand : Errand, errand.Fits fork next.acts (next.ways fork)) : Keeping next where
  kept := kept
  size := by
    rw [goes.begun, goes.threads, List.length_set]
    exact keeping.size
  homes := goes.homes keeping.homes
  places := by
    intro thread fork one there
    rw [goes.begun]
    rcases goes.thread_cases there with ⟨rfl, rfl, rfl⟩ | ⟨-, there⟩
    · exact ⟨program, began, place⟩
    · obtain ⟨first, before, stands⟩ := keeping.places thread fork one there
      refine ⟨first, before, ?_⟩
      rw [goes.acts]
      exact stands.later [act]
  lines := lines
  causal := by
    intro fork other
    obtain ⟨errand, fits⟩ := lines fork other
    have now := fits.inOrder_prefix
    rw [goes.acts] at now ⊢
    exact (keeping.causal fork other).snoc now
  said := by
    intro one there message sends
    rw [goes.acts] at there
    rcases List.mem_append.mp there with old | new
    · exact keeping.said one old message sends
    · rw [List.mem_singleton.mp new] at sends ⊢
      obtain ⟨first, -, stands⟩ := keeping.places act.thread act.fork strand goes.there
      exact stands.said goes.first sends

end

end Tree

end Playback
