import Playback.Proofs.Lists
import Playback.Proofs.Tree.Story

set_option autoImplicit false

namespace Playback

namespace Tree

variable {tree : Tree}

/-! Lists -/

/-- The actions of a message that is handled under the lock. -/
theorem filterMap_underLock {Image : Type} {image? : Action → Option Image}
    (enter : image? .enterRead = none) (leave : image? .leaveRead = none) (action : Action) :
    [.enterRead, action, .leaveRead].filterMap image? = (image? action).toList := by
  rw [List.filterMap_cons_none enter, filterMap_cons_toList, List.filterMap_cons_none leave,
    List.filterMap_nil, List.append_nil]

theorem flatMap_set {Item Other : Type} {items : List Item} {index : Nat} {old : Item}
    (there : items[index]? = some old) (new : Item) (images : Item → List Other) :
    ∃ front behind, items.flatMap images = front ++ (images old ++ behind) ∧
      (items.set index new).flatMap images = front ++ (images new ++ behind) := by
  obtain ⟨inside, same⟩ := List.getElem?_eq_some_iff.mp there
  have whole : items = items.take index ++ old :: items.drop (index + 1) := by
    rw [← same, List.getElem_cons_drop inside, List.take_append_drop]
  refine ⟨(items.take index).flatMap images, (items.drop (index + 1)).flatMap images, ?_, ?_⟩
  · conv_lhs => rw [whole]
    rw [List.flatMap_append, List.flatMap_cons]
  · rw [List.set_eq_take_append_cons_drop, if_pos inside, List.flatMap_append, List.flatMap_cons]

/-! What an action does beyond its process -/

/-- The message that comes on its way up. -/
def upward? : Effect → Option Message
  | .send endpoint message =>
    if message.Framed ∧ endpoint = upstream then some message else none
  | _ => none

/-- The message that comes on its way from the root down to a fork. -/
def downward? (fork : UInt32) : Effect → Option Message
  | .send endpoint message =>
    if message.Framed ∧ endpoint ≠ upstream ∧ fork.toNat = endpoint then some message else none
  | _ => none

theorem up_post (fork : UInt32) (effect : Effect) (other : UInt32) :
    (tree.post fork effect).up other =
      tree.up other ++ if other = fork then (upward? effect).toList else [] := by
  cases effect with
  | send endpoint message =>
    unfold post upward?
    by_cases framed : message.Framed
    · by_cases up : endpoint = upstream
      · simp only [framed, up, if_true, and_self, Option.toList_some, sendUp, up_setUp]
        split
        case isTrue same => rw [same]
        case isFalse _ => rw [List.append_nil]
      · simp only [framed, up, if_true, if_false, and_false]
        split <;> simp [sendDown]
    · simp [framed]
  | sendEncoded endpoint frame => simp [post, upward?]
  | write path contents => simp [post, upward?]
  | terminate => simp [post, upward?]

theorem down_post (fork : UInt32) (effect : Effect) (other : UInt32) :
    (tree.post fork effect).down other =
      tree.down other ++ if fork = rootFork then (downward? other effect).toList else [] := by
  cases effect with
  | send endpoint message =>
    unfold post downward?
    by_cases framed : message.Framed
    · by_cases up : endpoint = upstream
      · simp [framed, up, sendUp, setUp]
      · simp only [framed, up, if_true, if_false, ne_eq, not_false_eq_true, true_and]
        split
        case isTrue _ =>
          unfold sendDown
          dsimp only
          split <;> simp
        case isFalse _ => rw [List.append_nil]
    · simp [framed]
  | sendEncoded endpoint frame => simp [post, downward?]
  | write path contents => simp [post, downward?]
  | terminate => simp [post, downward?]

theorem up_foldl_post (fork : UInt32) (effects : List Effect) (tree : Tree) (other : UInt32) :
    (effects.foldl (fun tree effect => tree.post fork effect) tree).up other =
      tree.up other ++ if other = fork then effects.filterMap upward? else [] := by
  induction effects generalizing tree with
  | nil => simp
  | cons effect effects ih =>
    rw [List.foldl_cons, ih, up_post, List.append_assoc]
    congr 1
    split
    case isTrue _ => cases same : upward? effect <;> simp [same]
    case isFalse _ => rfl

theorem down_foldl_post (fork : UInt32) (effects : List Effect) (tree : Tree) (other : UInt32) :
    (effects.foldl (fun tree effect => tree.post fork effect) tree).down other =
      tree.down other ++ if fork = rootFork then effects.filterMap (downward? other) else [] := by
  induction effects generalizing tree with
  | nil => simp
  | cons effect effects ih =>
    rw [List.foldl_cons, ih, down_post, List.append_assoc]
    congr 1
    split
    case isTrue _ => cases same : downward? other effect <;> simp [same]
    case isFalse _ => rfl

theorem upward?_sends {target : UInt32} (other : target ≠ rootFork) (messages : List Message) :
    (messages.map (Effect.send target.toNat)).filterMap upward? = [] := by
  rw [List.filterMap_map, List.filterMap_eq_nil_iff]
  intro message _
  exact if_neg fun both => toNat_ne_upstream other both.2

theorem upward?_upstream (message : Message) :
    [Effect.send upstream message].filterMap upward? = carried [message] := by
  rw [carried_singleton, filterMap_cons_toList, List.filterMap_nil, List.append_nil]
  unfold upward?
  dsimp only
  split_ifs <;> simp_all

theorem upward?_framed {message : Message} (framed : message.Framed) :
    [Effect.send upstream message].filterMap upward? = [message] := by
  rw [upward?_upstream, carried_of_framed (List.forall_mem_singleton.mpr framed)]

theorem framed_of_downward {fork : UInt32} {effects : List Effect} {message : Message}
    (there : message ∈ effects.filterMap (downward? fork)) : message.Framed := by
  obtain ⟨effect, -, same⟩ := List.mem_filterMap.mp there
  unfold downward? at same
  split at same
  case h_1 =>
    obtain ⟨⟨framed, -⟩, same⟩ := Option.ite_none_right_eq_some.mp same
    rw [← Option.some.inj same]
    exact framed
  case h_2 => cases same

theorem downward?_upstream (fork : UInt32) (message : Message) :
    [Effect.send upstream message].filterMap (downward? fork) = [] := by
  simp [downward?]

theorem downward?_sends {target : UInt32} (other : target ≠ rootFork) (messages : List Message)
    (fork : UInt32) :
    (messages.map (Effect.send target.toNat)).filterMap (downward? fork) =
      if fork = target then carried messages else [] := by
  rw [List.filterMap_map]
  split
  case isTrue same =>
    have images : downward? fork ∘ Effect.send target.toNat =
        Option.guard fun message => decide message.Framed := by
      funext message
      have away := toNat_ne_upstream other
      simp [downward?, Option.guard, away, same]
    rw [images, List.filterMap_eq_filter]
    rfl
  case isFalse apart =>
    rw [List.filterMap_eq_nil_iff]
    exact fun message _ => if_neg fun both => apart (UInt32.toNat_inj.mp both.2.2)

/-! Actions that send -/

section
variable {context : Context}

theorem sendEffects_upstream (channel : context.channel = some upstream) (message : Message) :
    context.sendEffects message = [.send upstream message] := by
  rw [Context.sendEffects, channel]

/-- A response for a fork that is not registered is held. -/
theorem route_held {message : Message} (absent : context.forks.process? message.fork = none) :
    context.route message =
      { context := { context with forks := { context.forks with
          pending := context.forks.pending ++ [message] } }
        records := ForkTable.routeRecords message (.held : Routed Nat) } := by
  rw [Context.route, ForkTable.route_of_none absent]

/-- Whoever is registered gets what was held. -/
theorem register_effects (context : Context) (fork pid : UInt32) :
    (context.register fork pid fork.toNat).effects =
      (context.forks.pendingFor fork).map (Effect.send fork.toNat) := by
  rw [Context.register, ForkTable.register_eq]

theorem pendingFor_snoc (table : ForkTable Nat) (message : Message) (fork : UInt32) :
    ({ table with pending := table.pending ++ [message] } : ForkTable Nat).pendingFor fork =
      table.pendingFor fork ++ if message.fork = fork then [message] else [] := by
  rw [ForkTable.pendingFor, List.filter_append, List.filter_singleton]
  simp [ForkTable.pendingFor]

/-- A message that ends no process is sent to whoever is registered. -/
theorem route_delivers {message : Message} (stays : ForkTable.endsProcess message = false)
    {process : ForkedProcess Nat} (present : context.forks.process? message.fork = some process)
    (leads : process.handle = message.fork.toNat) :
    context.route message =
      { context
        effects := [message].map (Effect.send message.fork.toNat)
        records := ForkTable.routeRecords message (.sent process.handle false) } := by
  rw [Context.route, ForkTable.route_of_some present, stays, leads]
  rfl

end

/-! The table of a root -/

/-- The table of a root leads to its forks, and holds messages of one kind for those that it does
not know. -/
structure Holds (fits : UInt32 → Message → Prop) (table : ForkTable Nat) : Prop where
  handles : ∀ fork process, table.process? fork = some process → process.handle = fork.toNat
  pending : ∀ message ∈ table.pending, message.fork ≠ rootFork ∧ fits message.fork message
  clear : ∀ fork process, table.process? fork = some process → table.pendingFor fork = []

section
variable {fits : UInt32 → Message → Prop} {table : ForkTable Nat}

/-- A message is held for a fork that is not registered. -/
theorem Holds.hold (holds : Holds fits table) {message : Message}
    (other : message.fork ≠ rootFork) (fit : fits message.fork message)
    (absent : table.process? message.fork = none) :
    Holds fits { table with pending := table.pending ++ [message] } where
  handles := holds.handles
  pending := by
    intro one there
    rcases List.mem_append.mp there with old | new
    · exact holds.pending one old
    · rw [List.mem_singleton.mp new]
      exact ⟨other, fit⟩
  clear := by
    intro fork process present
    rw [pendingFor_snoc, holds.clear fork process present, List.nil_append]
    refine if_neg ?_
    rintro rfl
    change table.process? message.fork = some process at present
    rw [absent] at present
    cases present

theorem Holds.register (holds : Holds fits table) (target pid : UInt32) :
    Holds fits (table.register target { pid, handle := target.toNat }).2 where
  handles := by
    intro fork process present
    rw [ForkTable.process?_register] at present
    split at present
    case isTrue same =>
      cases present
      rw [same]
    case isFalse _ => exact holds.handles fork process present
  pending := by
    intro message there
    rw [ForkTable.register_eq] at there
    exact holds.pending message (List.mem_of_mem_filter there)
  clear := by
    intro fork process present
    rw [ForkTable.pendingFor_register]
    rw [ForkTable.process?_register] at present
    split
    case isTrue _ => rfl
    case isFalse apart =>
      rw [if_neg apart] at present
      exact holds.clear fork process present

/-- What is held for a fork fits it. -/
theorem Holds.held (holds : Holds fits table) {target : UInt32} {message : Message}
    (there : message ∈ table.pendingFor target) : fits target message := by
  obtain ⟨pending, own⟩ := List.mem_filter.mp there
  have fit := (holds.pending message pending).2
  rw [of_decide_eq_true own] at fit
  exact fit

end

/-! What becomes of a story -/

/-- What becomes of a story with an action of a thread. -/
structure Goes (story next : Story) (act : Act) (strand later : Strand) (outcome : Outcome) :
    Prop where
  there : story.tree.threads[act.thread]? = some (act.fork, strand)
  first : strand.todo.head? = some act.action
  here : story.tree.members act.fork = some act.context
  threads : next.tree.threads = story.tree.threads.set act.thread (act.fork, later)
  members : ∀ other, next.tree.members other =
    if other = act.fork then some outcome.context else story.tree.members other
  up : ∀ other, next.tree.up other =
    story.tree.up other ++ if other = act.fork then outcome.effects.filterMap upward? else []
  down : ∀ other, next.tree.down other = story.tree.down other ++
    if act.fork = rootFork then outcome.effects.filterMap (downward? other) else []
  begun : next.begun = story.begun
  acts : next.acts = story.acts ++ [act]

theorem goes_of_act {story next : Story} {index : Nat}
    (taken : story.take? (.act index) = some next) :
    ∃ act strand rest outcome, act.thread = index ∧ strand.todo = act.action :: rest ∧
      act.context.step strand.main strand.value {} act.action = some outcome ∧
      Goes story next act strand
        { strand with todo := outcome.next ++ rest, value := outcome.value.getD strand.value }
        outcome := by
  obtain ⟨fork, strand, context, action, rest, outcome, there, here, todo, step, follows, begun,
    acts⟩ := act_eq_some taken
  refine ⟨{ thread := index, fork, context, action }, strand, rest, outcome, rfl, todo, step, ?_⟩
  refine ⟨there, ?_, here, ?_, ?_, ?_, ?_, begun, acts⟩
  · rw [todo]
    rfl
  · rw [follows, threads_follow]
    rfl
  · intro other
    rw [follows, follow, (foldl_post_inside _ _ _).2]
    exact members_setMember fork outcome.context other
  · intro other
    rw [follows, follow, up_foldl_post]
    rfl
  · intro other
    rw [follows, follow, down_foldl_post]
    rfl

/-- What the root holds for a fork. -/
def held (tree : Tree) (fork : UInt32) : List Message :=
  ((tree.members rootFork).map fun root => root.forks.pendingFor fork).getD []

theorem held_of_root {root : Context} (here : tree.members rootFork = some root)
    (fork : UInt32) : tree.held fork = root.forks.pendingFor fork := by
  rw [held, here]
  rfl

section
variable {story next : Story} {act : Act} {strand later : Strand} {outcome : Outcome}

theorem Goes.here_root (goes : Goes story next act strand later outcome)
    (root : act.fork = rootFork) : story.tree.members rootFork = some act.context := by
  rw [← root]
  exact goes.here

/-- The thread that has acted. -/
theorem Goes.there_later (goes : Goes story next act strand later outcome) :
    next.tree.threads[act.thread]? = some (act.fork, later) := by
  rw [goes.threads, List.getElem?_set_self (List.getElem?_eq_some_iff.mp goes.there).1]

/-- A thread has acted or is where it was. -/
theorem Goes.thread_cases (goes : Goes story next act strand later outcome) {thread : Nat}
    {fork : UInt32} {one : Strand} (there : next.tree.threads[thread]? = some (fork, one)) :
    thread = act.thread ∧ fork = act.fork ∧ one = later ∨
      thread ≠ act.thread ∧ story.tree.threads[thread]? = some (fork, one) := by
  by_cases same : thread = act.thread
  · subst same
    rw [goes.there_later] at there
    cases there
    exact Or.inl ⟨rfl, rfl, rfl⟩
  · rw [goes.threads, List.getElem?_set_ne (Ne.symm same)] at there
    exact Or.inr ⟨same, there⟩

/-- All threads are at home in some process. -/
theorem Goes.homes (goes : Goes story next act strand later outcome)
    (homes : ∀ (thread : Nat) (fork : UInt32) (strand : Strand),
      story.tree.threads[thread]? = some (fork, strand) →
      ∃ context, story.tree.members fork = some context)
    (thread : Nat) (fork : UInt32) (one : Strand)
    (there : next.tree.threads[thread]? = some (fork, one)) :
    ∃ context, next.tree.members fork = some context := by
  rw [goes.members]
  split
  case isTrue _ => exact ⟨_, rfl⟩
  case isFalse other =>
    rcases goes.thread_cases there with ⟨-, same, -⟩ | ⟨-, there⟩
    · exact absurd same other
    · exact homes thread fork one there

theorem Goes.held (goes : Goes story next act strand later outcome) (fork : UInt32) :
    next.tree.held fork =
      if act.fork = rootFork then outcome.context.forks.pendingFor fork
      else story.tree.held fork := by
  rw [Tree.held, goes.members]
  by_cases top : act.fork = rootFork
  · rw [if_pos top.symm, if_pos top]
    rfl
  · rw [if_neg (Ne.symm top), if_neg top]
    rfl

theorem Goes.held_same (goes : Goes story next act strand later outcome)
    (forks : act.fork = rootFork → outcome.context.forks = act.context.forks) (fork : UInt32) :
    next.tree.held fork = story.tree.held fork := by
  rw [goes.held]
  split
  case isTrue top =>
    have here := goes.here
    rw [top] at here
    rw [forks top, held_of_root here]
  case isFalse _ => rfl

theorem Goes.down_same (goes : Goes story next act strand later outcome)
    (nothing : act.fork = rootFork → outcome.effects = []) (fork : UInt32) :
    next.tree.down fork = story.tree.down fork := by
  rw [goes.down]
  split
  case isTrue top => rw [nothing top, List.filterMap_nil, List.append_nil]
  case isFalse _ => rw [List.append_nil]

end

theorem quiet_leave {rest : Program} (quiet : ∀ action ∈ rest, idle action = true) :
    ∀ action ∈ .leaveRead :: rest, idle action = true := List.forall_mem_cons.mpr ⟨rfl, quiet⟩

theorem quiet_answer (reply : Reply) : ∀ action ∈ [Action.answer reply], idle action = true :=
  List.forall_mem_singleton.mpr rfl

section
variable {story next : Story}

/-- What becomes of a story in which a thread begins. -/
structure Begins (story next : Story) (fork : UInt32) (strand : Strand) : Prop where
  home : ∃ context, story.tree.members fork = some context
  threads : next.tree.threads = story.tree.threads ++ [(fork, strand)]
  members : next.tree.members = story.tree.members
  begun : next.begun = story.begun ++ [strand.todo]
  acts : next.acts = story.acts

theorem begins_of_start {changed : Tree} {fork : UInt32} {strand : Strand}
    (home : ∃ context, story.tree.members fork = some context)
    (threads : changed.threads = story.tree.threads)
    (members : changed.members = story.tree.members) :
    Begins story
      { tree := changed.start fork strand
        begun := story.begun ++
          ((changed.start fork strand).threads.drop story.tree.threads.length).map
            fun one => one.2.todo
        acts := story.acts ++ [] } fork strand := by
  have all : (changed.start fork strand).threads = story.tree.threads ++ [(fork, strand)] := by
    rw [← threads]
    rfl
  refine ⟨home, all, members, ?_, List.append_nil _⟩
  dsimp only
  rw [all, List.drop_left]
  rfl

section
variable {fork : UInt32} {strand : Strand}

/-- A thread has begun or is where it was. -/
theorem Begins.thread_cases (begins : Begins story next fork strand) {thread : Nat}
    {owner : UInt32} {one : Strand} (there : next.tree.threads[thread]? = some (owner, one)) :
    thread = story.tree.threads.length ∧ owner = fork ∧ one = strand ∨
      story.tree.threads[thread]? = some (owner, one) := by
  rw [begins.threads] at there
  by_cases old : thread < story.tree.threads.length
  · rw [List.getElem?_append_left old] at there
    exact Or.inr there
  · have last : thread = story.tree.threads.length := by
      have inside := (List.getElem?_eq_some_iff.mp there).1
      rw [List.length_append, List.length_singleton] at inside
      omega
    subst last
    rw [List.getElem?_concat_length] at there
    cases there
    exact Or.inl ⟨rfl, rfl, rfl⟩

theorem Begins.homes (begins : Begins story next fork strand)
    (homes : ∀ (thread : Nat) (fork : UInt32) (strand : Strand),
      story.tree.threads[thread]? = some (fork, strand) →
      ∃ context, story.tree.members fork = some context)
    (thread : Nat) (owner : UInt32) (one : Strand)
    (there : next.tree.threads[thread]? = some (owner, one)) :
    ∃ context, next.tree.members owner = some context := by
  rw [begins.members]
  rcases begins.thread_cases there with ⟨-, rfl, -⟩ | there
  · exact begins.home
  · exact homes thread owner one there

theorem Begins.size (begins : Begins story next fork strand)
    (size : story.begun.length = story.tree.threads.length) :
    next.begun.length = next.tree.threads.length := by
  rw [begins.begun, begins.threads, List.length_append, List.length_append, size]
  rfl

/-- What the thread has begun with, and what the others have. -/
theorem Begins.began (begins : Begins story next fork strand)
    (size : story.begun.length = story.tree.threads.length) :
    next.begun[story.tree.threads.length]? = some strand.todo := by
  rw [begins.begun, ← size]
  exact List.getElem?_concat_length

theorem Begins.began_of (begins : Begins story next fork strand) {thread : Nat}
    {program : Program} (began : story.begun[thread]? = some program) :
    next.begun[thread]? = some program := by
  rw [begins.begun, List.getElem?_append_left (List.getElem?_eq_some_iff.mp began).1]
  exact began

theorem Begins.held (begins : Begins story next fork strand) (other : UInt32) :
    next.tree.held other = story.tree.held other := by
  rw [Tree.held, begins.members]
  rfl

/-- A line from which the first message is taken holds nothing new. -/
theorem subset_of_rest {line after : UInt32 → List Message} {message : Message}
    {rest : List Message} (first : line fork = message :: rest)
    (takes : ∀ other, after other = if other = fork then rest else line other) (other : UInt32) :
    after other ⊆ line other := by
  rw [takes]
  split
  case isTrue same =>
    rw [same, first]
    exact List.subset_cons_self message rest
  case isFalse _ => exact List.Subset.refl _

end

/-! Turns with which nothing new is begun -/

/-- A turn with which nothing new is asked for. -/
inductive Onward : Turn → Prop where
  | act (thread : Nat) : Onward (.act thread)
  | hear (fork : UInt32) : Onward (.hear fork)
  | attend (fork : UInt32) : Onward (.attend fork)

/-- All forks are registered, and no process is about to be duplicated. -/
structure Connected (tree : Tree) : Prop where
  registered : ∀ root, tree.members rootFork = some root → ∀ fork context, fork ≠ rootFork →
    tree.members fork = some context → root.forks.contains fork = true
  unlocked : ∀ fork context, tree.members fork = some context → context.lock.isWriteLocked = false

theorem take_act {index : Nat} {fork : UInt32} {strand : Strand} {context : Context}
    {action : Action} {rest : Program} {outcome : Outcome}
    (there : story.tree.threads[index]? = some (fork, strand))
    (here : story.tree.members fork = some context) (todo : strand.todo = action :: rest)
    (step : context.step strand.main strand.value {} action = some outcome) :
    story.take? (.act index) ≠ none := by
  simp [Story.take?, Tree.take?, act?, there, here, todo, step]

end

end Tree

end Playback
