import Playback.Proofs.Tree.Sane

set_option autoImplicit false

namespace Playback

namespace Tree

variable {tree : Tree} {asked : UInt32 → Option CallId}

/-! Weights -/

theorem load_append (threads : List (UInt32 × Strand)) (fork : UInt32) (strand : Strand)
    (weight : UInt32 → Program → Nat) :
    load (threads ++ [(fork, strand)]) weight = load threads weight + weight fork strand.todo := by
  simp [load]

theorem load_split (before after : List (UInt32 × Strand)) (fork : UInt32) (strand : Strand)
    (weight : UInt32 → Program → Nat) :
    load (before ++ (fork, strand) :: after) weight =
      load (before ++ after) weight + weight fork strand.todo := by
  simp only [load, List.map_append, List.map_cons, List.sum_append, List.sum_cons]
  omega

theorem errands_cons (owner fork : UInt32) (action : Action) (todo : Program) :
    errands owner fork (action :: todo) = errand owner fork action + errands owner fork todo := by
  simp [errands]

theorem errands_append (owner fork : UInt32) (first rest : Program) :
    errands owner fork (first ++ rest) = errands owner fork first + errands owner fork rest := by
  simp [errands]

/-! Threads -/

theorem threads_setThread {before after : List (UInt32 × Strand)} {fork : UInt32} {strand : Strand}
    (there : tree.threads = before ++ (fork, strand) :: after) (later : Strand) :
    (tree.setThread before.length fork later).threads = before ++ (fork, later) :: after := by
  rw [setThread]
  dsimp only
  rw [there, List.set_append_right _ _ (Nat.le_refl _), Nat.sub_self]
  rfl

theorem load_setThread {before after : List (UInt32 × Strand)} {fork : UInt32} {strand : Strand}
    (there : tree.threads = before ++ (fork, strand) :: after) (later : Strand)
    (weight : UInt32 → Program → Nat) :
    load (tree.setThread before.length fork later).threads weight + weight fork strand.todo =
      load tree.threads weight + weight fork later.todo := by
  rw [threads_setThread there, there, load_split, load_split]
  omega

theorem inFlight_setThread {before after : List (UInt32 × Strand)} {fork : UInt32}
    {strand : Strand} (there : tree.threads = before ++ (fork, strand) :: after) (later : Strand)
    (other : UInt32) :
    (tree.setThread before.length fork later).inFlight other + errands fork other strand.todo =
      tree.inFlight other + errands fork other later.todo := by
  have moved := load_setThread there later (errands · other)
  have held : (tree.setThread before.length fork later).heldFor other = tree.heldFor other := rfl
  have ups : (tree.setThread before.length fork later).up other = tree.up other := rfl
  have downs : (tree.setThread before.length fork later).down other = tree.down other := rfl
  simp only [inFlight, held, ups, downs]
  omega

theorem takers_setThread {before after : List (UInt32 × Strand)} {fork : UInt32}
    {strand : Strand} (there : tree.threads = before ++ (fork, strand) :: after) (later : Strand)
    (other : UInt32) :
    (tree.setThread before.length fork later).takers other + taking fork other strand.todo =
      tree.takers other + taking fork other later.todo :=
  load_setThread there later (taking · other)

/-- A thread goes on. If more threads await a response than before, there is none yet. -/
theorem Sane.setThread (sane : Sane tree asked) {before after : List (UInt32 × Strand)}
    {fork : UInt32} {strand later : Strand}
    (there : tree.threads = before ++ (fork, strand) :: after)
    (shape : Shape tree.knowledge asked fork later.todo)
    (fits : ∀ other, Fits ((tree.setThread before.length fork later).inFlight other)
      ((tree.setThread before.length fork later).takers other) (tree.slot other))
    (awaits : ∀ other,
      tree.takers other < (tree.setThread before.length fork later).takers other →
        (tree.slot other).response = none) :
    Sane (tree.setThread before.length fork later) asked where
  root := sane.root
  own := sane.own
  cached := sane.cached
  shapes := by
    have others := sane.shapes
    rw [threads_setThread there]
    rw [there] at others
    intro one member
    rw [List.mem_append, List.mem_cons] at member
    rcases member with front | rfl | back
    · exact others one (List.mem_append_left _ front)
    · exact shape
    · exact others one (List.mem_append_right _ (List.mem_cons_of_mem _ back))
  ups := sane.ups
  downs := sane.downs
  responses := by
    intro other tag output filled some
    refine sane.responses other tag output filled ?_
    by_contra none
    have empty := awaits other (by omega)
    rw [show (tree.setThread before.length fork later).slot other = tree.slot other from rfl, empty]
      at filled
    cases filled
  fits := fits

/-- A thread goes on with no more errands than before, and awaits no response. -/
theorem Sane.goesOn (sane : Sane tree asked) {before after : List (UInt32 × Strand)}
    {fork : UInt32} {strand later : Strand}
    (there : tree.threads = before ++ (fork, strand) :: after)
    (shape : Shape tree.knowledge asked fork later.todo)
    (idle : ∀ other, taking fork other later.todo = 0)
    (less : ∀ other, errands fork other later.todo ≤ errands fork other strand.todo) :
    Sane (tree.setThread before.length fork later) asked := by
  refine sane.setThread there shape ?_ ?_
  · intro other
    have moved := inFlight_setThread there later other
    have taken := takers_setThread there later other
    obtain ⟨errands, takers⟩ := sane.fits other
    constructor
    · have := less other
      omega
    · have := idle other
      omega
  · intro other more
    have taken := takers_setThread there later other
    have := idle other
    omega

theorem inFlight_start (fork : UInt32) (strand : Strand) (other : UInt32) :
    (tree.start fork strand).inFlight other =
      tree.inFlight other + errands fork other strand.todo := by
  have more := load_append tree.threads fork strand (errands · other)
  have held : (tree.start fork strand).heldFor other = tree.heldFor other := rfl
  have ups : (tree.start fork strand).up other = tree.up other := rfl
  have downs : (tree.start fork strand).down other = tree.down other := rfl
  have threads : (tree.start fork strand).threads = tree.threads ++ [(fork, strand)] := rfl
  simp only [inFlight, held, ups, downs, threads]
  omega

theorem takers_start (fork : UInt32) (strand : Strand) (other : UInt32) :
    (tree.start fork strand).takers other = tree.takers other + taking fork other strand.todo :=
  load_append tree.threads fork strand (taking · other)

/-- A thread begins that awaits no response. -/
theorem Sane.start (sane : Sane tree asked) {fork : UInt32} {strand : Strand}
    (sound : ∀ action ∈ strand.todo, Sound tree.knowledge asked fork action)
    (fits : ∀ other, tree.inFlight other + errands fork other strand.todo +
      filled (tree.slot other) ≤ (tree.slot other).waiting.toNat)
    (idle : ∀ other, taking fork other strand.todo = 0) : Sane (tree.start fork strand) asked where
  root := sane.root
  own := sane.own
  cached := sane.cached
  shapes := by
    intro one member
    rcases List.mem_append.mp member with before | new
    · exact sane.shapes one before
    · rw [List.mem_singleton.mp new]
      exact .plain sound
  ups := sane.ups
  downs := sane.downs
  responses := by
    intro other tag output filled some
    rw [takers_start, idle other] at some
    exact sane.responses other tag output filled some
  fits := by
    intro other
    rw [inFlight_start, takers_start, idle other]
    exact ⟨fits other, (sane.fits other).takers⟩

/-! The lines between processes -/

theorem up_setUp (fork : UInt32) (messages : List Message) (other : UInt32) :
    (tree.setUp fork messages).up other = if other = fork then messages else tree.up other :=
  Function.update_apply ..

theorem down_setDown (fork : UInt32) (messages : List Message) (other : UInt32) :
    (tree.setDown fork messages).down other =
      if other = fork then messages else tree.down other :=
  Function.update_apply ..

theorem inFlight_setUp (tree : Tree) (fork : UInt32) (messages : List Message) (other : UInt32) :
    (tree.setUp fork messages).inFlight other +
        (if other = fork then (tree.up fork).countP isRequest else 0) =
      tree.inFlight other + (if other = fork then messages.countP isRequest else 0) := by
  have threads : (tree.setUp fork messages).threads = tree.threads := rfl
  have held : (tree.setUp fork messages).heldFor other = tree.heldFor other := rfl
  have downs : (tree.setUp fork messages).down other = tree.down other := rfl
  simp only [inFlight, threads, held, downs, up_setUp]
  split
  case isTrue same =>
    subst same
    omega
  case isFalse _ => rfl

theorem inFlight_setDown (tree : Tree) (fork : UInt32) (messages : List Message) (other : UInt32) :
    (tree.setDown fork messages).inFlight other +
        (if other = fork then (tree.down fork).length else 0) =
      tree.inFlight other + (if other = fork then messages.length else 0) := by
  have threads : (tree.setDown fork messages).threads = tree.threads := rfl
  have held : (tree.setDown fork messages).heldFor other = tree.heldFor other := rfl
  have ups : (tree.setDown fork messages).up other = tree.up other := rfl
  simp only [inFlight, threads, held, ups, down_setDown]
  split
  case isTrue same =>
    subst same
    omega
  case isFalse _ => rfl

/-- What is on its way up from a process is another. -/
theorem Sane.setUp (sane : Sane tree asked) {fork : UInt32} {messages : List Message}
    (upward : ∀ message ∈ messages, Upward tree.knowledge (asked fork) fork message)
    (fits : ∀ other, (tree.setUp fork messages).inFlight other + filled (tree.slot other) ≤
      (tree.slot other).waiting.toNat) : Sane (tree.setUp fork messages) asked where
  root := sane.root
  own := sane.own
  cached := sane.cached
  shapes := sane.shapes
  ups := by
    intro other message there
    rw [up_setUp] at there
    split at there
    case isTrue same =>
      subst same
      exact upward message there
    case isFalse _ => exact sane.ups other message there
  downs := sane.downs
  responses := sane.responses
  fits := fun other => ⟨fits other, (sane.fits other).takers⟩

/-- What is on its way down to a process is another. -/
theorem Sane.setDown (sane : Sane tree asked) {fork : UInt32} {messages : List Message}
    (downward : ∀ message ∈ messages, Downward tree.knowledge (asked fork) fork message)
    (fits : ∀ other, (tree.setDown fork messages).inFlight other + filled (tree.slot other) ≤
      (tree.slot other).waiting.toNat) : Sane (tree.setDown fork messages) asked where
  root := sane.root
  own := sane.own
  cached := sane.cached
  shapes := sane.shapes
  ups := sane.ups
  downs := by
    intro other message there
    rw [down_setDown] at there
    split at there
    case isTrue same =>
      subst same
      exact downward message there
    case isFalse _ => exact sane.downs other message there
  responses := sane.responses
  fits := fun other => ⟨fits other, (sane.fits other).takers⟩

/-- Less is on its way up from a process. -/
theorem Sane.fewerUp (sane : Sane tree asked) {fork : UInt32} {messages : List Message}
    (fewer : messages.Sublist (tree.up fork)) : Sane (tree.setUp fork messages) asked := by
  refine sane.setUp (fun message there => sane.ups fork message (fewer.subset there)) ?_
  intro other
  have flight := inFlight_setUp tree fork messages other
  have requests : messages.countP isRequest ≤ (tree.up fork).countP isRequest := fewer.countP_le
  have := (sane.fits other).errands
  split at flight <;> omega

/-- Less is on its way down to a process. -/
theorem Sane.fewerDown (sane : Sane tree asked) {fork : UInt32} {messages : List Message}
    (fewer : messages.Sublist (tree.down fork)) : Sane (tree.setDown fork messages) asked := by
  refine sane.setDown (fun message there => sane.downs fork message (fewer.subset there)) ?_
  intro other
  have flight := inFlight_setDown tree fork messages other
  have messages := fewer.length_le
  have := (sane.fits other).errands
  split at flight <;> omega

/-- What a process sends up that is no request. -/
theorem Sane.report (sane : Sane tree asked) {fork : UInt32} {message : Message}
    (upward : Upward tree.knowledge (asked fork) fork message) (idle : isRequest message = false) :
    Sane (tree.sendUp fork message) asked := by
  refine sane.setUp ?_ ?_
  · intro other there
    rcases List.mem_append.mp there with before | new
    · exact sane.ups fork other before
    · rw [List.mem_singleton.mp new]
      exact upward
  · intro other
    have flight := inFlight_setUp tree fork (tree.up fork ++ [message]) other
    rw [List.countP_append, List.countP_singleton, idle, if_neg Bool.false_ne_true] at flight
    have := (sane.fits other).errands
    split at flight <;> omega

/-- A process without errands sends a request for what it asks for. -/
theorem Sane.request (sane : Sane tree asked) {fork : UInt32} {id : CallId}
    (same : asked fork = some id)
    (room : tree.inFlight fork + 1 + filled (tree.slot fork) ≤ (tree.slot fork).waiting.toNat)
    (input : Bytes) :
    Sane (tree.sendUp fork (.externalCallRequest fork id.number input)) asked := by
  refine sane.setUp ?_ ?_
  · intro message there
    rcases List.mem_append.mp there with before | new
    · exact sane.ups fork message before
    · rw [List.mem_singleton.mp new]
      exact .request input same
  · intro other
    have flight := inFlight_setUp tree fork
      (tree.up fork ++ [.externalCallRequest fork id.number input]) other
    rw [List.countP_append, List.countP_singleton] at flight
    have := (sane.fits other).errands
    split at flight
    case isTrue own =>
      subst own
      have : isRequest (.externalCallRequest other id.number input) = true := rfl
      rw [if_pos this] at flight
      omega
    case isFalse _ => omega

theorem sendDown_toNat (target : UInt32) (message : Message) :
    tree.sendDown target.toNat message =
      tree.setDown target (tree.down target ++ [message]) := by
  unfold sendDown setDown
  congr 1
  funext other
  rw [Function.update_apply]
  by_cases same : other = target
  · rw [if_pos same, if_pos (congrArg UInt32.toNat same), same]
  · rw [if_neg same, if_neg fun equal => same (UInt32.toNat_inj.mp equal)]

/-- No fork is reached through the endpoint that leads towards the root. -/
theorem toNat_ne_upstream {target : UInt32} (other : target ≠ rootFork) :
    target.toNat ≠ upstream := fun equal => other (UInt32.toNat_inj.mp equal)

theorem post_upstream (fork : UInt32) (message : Message) :
    tree.post fork (.send upstream message) =
      if message.Framed then tree.sendUp fork message else tree := rfl

theorem carried_subset (messages : List Message) : carried messages ⊆ messages :=
  List.filter_subset_self messages

theorem carried_append (messages more : List Message) :
    carried (messages ++ more) = carried messages ++ carried more := List.filter_append ..

theorem carried_of_framed {messages : List Message}
    (framed : ∀ message ∈ messages, message.Framed) : carried messages = messages :=
  List.filter_eq_self.mpr fun message there => decide_eq_true (framed message there)

theorem carried_singleton (message : Message) :
    carried [message] = if message.Framed then [message] else [] := by
  rw [carried, List.filter_singleton]
  split <;> simp_all

theorem post_toNat {target : UInt32} (other : target ≠ rootFork) (message : Message) :
    tree.post rootFork (.send target.toNat message) =
      tree.setDown target (tree.down target ++ carried [message]) := by
  rw [post, if_neg (toNat_ne_upstream other), if_pos rfl, sendDown_toNat, carried_singleton]
  split
  case isTrue _ => rfl
  case isFalse _ => rw [List.append_nil, setDown, Function.update_eq_self]

theorem foldl_post_toNat {target : UInt32} (other : target ≠ rootFork) (messages : List Message)
    (tree : Tree) :
    (messages.map (Effect.send target.toNat)).foldl (fun tree effect => tree.post rootFork effect)
        tree =
      tree.setDown target (tree.down target ++ carried messages) := by
  induction messages generalizing tree with
  | nil =>
    change tree = tree.setDown target (tree.down target ++ [])
    rw [List.append_nil, setDown, Function.update_eq_self]
  | cons message messages ih =>
    rw [List.map_cons, List.foldl_cons, ih, post_toNat other, down_setDown, if_pos rfl,
      List.append_assoc, ← carried_append, List.singleton_append, setDown, setDown, setDown]
    dsimp only
    rw [Function.update_idem]

/-- Answers are sent on to a process. -/
theorem Sane.sendsDown (sane : Sane tree asked) {target : UInt32} {messages : List Message}
    (downward : ∀ message ∈ messages, Downward tree.knowledge (asked target) target message)
    (room : tree.inFlight target + messages.length + filled (tree.slot target) ≤
      (tree.slot target).waiting.toNat) :
    Sane (tree.setDown target (tree.down target ++ messages)) asked := by
  refine sane.setDown ?_ ?_
  · intro message there
    rcases List.mem_append.mp there with before | new
    · exact sane.downs target message before
    · exact downward message new
  · intro other
    have flight := inFlight_setDown tree target (tree.down target ++ messages) other
    rw [List.length_append] at flight
    split at flight
    case isTrue same =>
      subst same
      omega
    case isFalse _ =>
      have := (sane.fits other).errands
      omega

/-- Answers are sent on to a process as far as channels carry them. -/
theorem Sane.postsDown (sane : Sane tree asked) {target : UInt32} {messages : List Message}
    (downward : ∀ message ∈ messages, Downward tree.knowledge (asked target) target message)
    (room : tree.inFlight target + messages.length + filled (tree.slot target) ≤
      (tree.slot target).waiting.toNat) :
    Sane (tree.setDown target (tree.down target ++ carried messages)) asked := by
  have fewer : (carried messages).length ≤ messages.length := List.length_filter_le ..
  exact sane.sendsDown (fun message there => downward message (carried_subset messages there))
    (by omega)

/-! Processes -/

theorem slot_of_member {fork : UInt32} {context : Context}
    (here : tree.members fork = some context) : tree.slot fork = context.calls.slot := by
  rw [slot, here]
  rfl

theorem output?_of_member {fork : UInt32} {context : Context}
    (here : tree.members fork = some context) (id : CallId) :
    tree.output? fork id = context.calls.output? id := by
  rw [output?, here]
  rfl

theorem heldFor_of_root {root : Context} (here : tree.members rootFork = some root)
    (other : UInt32) : tree.heldFor other = (root.forks.pendingFor other).length := by
  rw [heldFor, here]
  rfl

theorem setMember_self {fork : UInt32} {context : Context}
    (here : tree.members fork = some context) : tree.setMember fork context = tree := by
  rw [setMember, ← here, Function.update_eq_self]

theorem members_setMember (fork : UInt32) (context : Context) (other : UInt32) :
    (tree.setMember fork context).members other =
      if other = fork then some context else tree.members other :=
  Function.update_apply ..

theorem output?_setMember (fork : UInt32) (context : Context) (other : UInt32) (id : CallId) :
    (tree.setMember fork context).output? other id =
      if other = fork then context.calls.output? id else tree.output? other id := by
  unfold output?
  rw [members_setMember]
  split <;> rfl

theorem slot_setMember (fork : UInt32) (context : Context) (other : UInt32) :
    (tree.setMember fork context).slot other =
      if other = fork then context.calls.slot else tree.slot other := by
  unfold slot
  rw [members_setMember]
  split <;> rfl

theorem heldFor_setMember (fork : UInt32) (context : Context) (other : UInt32) :
    (tree.setMember fork context).heldFor other =
      if rootFork = fork then (context.forks.pendingFor other).length else tree.heldFor other := by
  unfold heldFor
  rw [members_setMember]
  split <;> rfl

theorem inFlight_setMember (tree : Tree) (fork : UInt32) (context : Context) (other : UInt32) :
    (tree.setMember fork context).inFlight other + tree.heldFor other =
      tree.inFlight other + (tree.setMember fork context).heldFor other := by
  have threads : (tree.setMember fork context).threads = tree.threads := rfl
  have ups : (tree.setMember fork context).up other = tree.up other := rfl
  have downs : (tree.setMember fork context).down other = tree.down other := rfl
  simp only [inFlight, threads, ups, downs]
  omega

/-- Errands are as before if the table of forks is. -/
theorem inFlight_setMember_of_forks {fork : UInt32} {context changed : Context}
    (here : tree.members fork = some context) (forks : changed.forks = context.forks)
    (other : UInt32) : (tree.setMember fork changed).inFlight other = tree.inFlight other := by
  have flight := inFlight_setMember tree fork changed other
  have held : (tree.setMember fork changed).heldFor other = tree.heldFor other := by
    rw [heldFor_setMember]
    split
    case isTrue same =>
      subst same
      rw [forks, heldFor_of_root here]
    case isFalse _ => rfl
  rw [held] at flight
  exact Nat.add_right_cancel flight

theorem inFlight_setTable {root : Context} (here : tree.members rootFork = some root)
    (table : ForkTable Nat) (other : UInt32) :
    (tree.setMember rootFork { root with forks := table }).inFlight other +
        (root.forks.pendingFor other).length =
      tree.inFlight other + (table.pendingFor other).length := by
  have flight := inFlight_setMember tree rootFork { root with forks := table } other
  rw [heldFor_setMember, if_pos rfl, heldFor_of_root here] at flight
  exact flight

/-- Outputs that are known stay known. -/
theorem knowledge_setMember {fork : UInt32} {context : Context}
    (keeps : ∀ id output, tree.output? fork id = some output →
      context.calls.output? id = some output) :
    tree.knowledge.Grows (tree.setMember fork context).knowledge where
  outputs := List.Subset.refl _
  atRoot := by
    intro id output there
    change (tree.setMember fork context).output? rootFork id = some output
    rw [output?_setMember]
    split
    case isTrue same => exact keeps id output (same ▸ there)
    case isFalse _ => exact there

/-- A process is another, or a new one. -/
theorem Sane.setMember (sane : Sane tree asked) {fork : UInt32} {context : Context}
    (own : context.fork = fork ∧ context.channel = some upstream)
    (keeps : ∀ id output, tree.output? fork id = some output →
      context.calls.output? id = some output)
    (sourced : ∀ id output, context.calls.output? id = some output →
      Sourced tree.knowledge fork id output)
    (leads : fork = rootFork → Leads tree.knowledge asked context.forks)
    (responses : ∀ tag output, context.calls.slot.response = some (tag, output) →
      0 < tree.takers fork → Response tree.knowledge (asked fork) fork tag output)
    (fits : ∀ other, Fits ((tree.setMember fork context).inFlight other) (tree.takers other)
      ((tree.setMember fork context).slot other)) :
    Sane (tree.setMember fork context) asked where
  root := by
    have grows := knowledge_setMember keeps
    by_cases same : rootFork = fork
    · refine ⟨context, ?_, (leads same.symm).grows grows⟩
      rw [members_setMember, if_pos same]
    · obtain ⟨root, there, before⟩ := sane.root
      refine ⟨root, ?_, before.grows grows⟩
      rw [members_setMember, if_neg same, there]
  own := by
    intro other changed there
    rw [members_setMember] at there
    split at there
    case isTrue same =>
      cases there
      rw [same]
      exact own
    case isFalse _ => exact sane.own other changed there
  cached := by
    intro other id output there
    have grows := knowledge_setMember keeps
    rw [output?_setMember] at there
    split at there
    case isTrue same =>
      rw [same]
      exact (sourced id output there).grows grows
    case isFalse _ => exact (sane.cached other id output there).grows grows
  shapes := fun one there => (sane.shapes one there).grows (knowledge_setMember keeps)
  ups := fun other message there =>
    (sane.ups other message there).grows (knowledge_setMember keeps)
  downs := fun other message there =>
    (sane.downs other message there).grows (knowledge_setMember keeps)
  responses := by
    intro other tag output filled some
    have grows := knowledge_setMember keeps
    rw [slot_setMember] at filled
    split at filled
    case isTrue same =>
      subst same
      exact (responses tag output filled some).grows grows
    case isFalse _ => exact (sane.responses other tag output filled some).grows grows
  fits := fits

/-- A process is as before, but for what it does not need for external calls, for its outputs and
for its slot. -/
theorem Sane.setCalls (sane : Sane tree asked) {fork : UInt32} {context changed : Context}
    (here : tree.members fork = some context) (own : changed.fork = context.fork)
    (channel : changed.channel = context.channel) (forks : changed.forks = context.forks)
    (keeps : ∀ id output, context.calls.output? id = some output →
      changed.calls.output? id = some output)
    (sourced : ∀ id output, changed.calls.output? id = some output →
      context.calls.output? id = some output ∨ Sourced tree.knowledge fork id output)
    (responses : ∀ tag output, changed.calls.slot.response = some (tag, output) →
      0 < tree.takers fork → Response tree.knowledge (asked fork) fork tag output)
    (fits : Fits (tree.inFlight fork) (tree.takers fork) changed.calls.slot) :
    Sane (tree.setMember fork changed) asked := by
  have known := output?_of_member here
  refine sane.setMember ?_ ?_ ?_ ?_ responses ?_
  · rw [own, channel]
    exact sane.own fork context here
  · intro id output there
    rw [known] at there
    exact keeps id output there
  · intro id output there
    rcases sourced id output there with before | new
    · rw [← known] at before
      exact sane.cached fork id output before
    · exact new
  · rintro rfl
    rw [forks]
    exact sane.leads here
  · intro other
    rw [slot_setMember, inFlight_setMember_of_forks here forks]
    split
    case isTrue same =>
      subst same
      exact fits
    case isFalse _ => exact sane.fits other

/-- An output is remembered, unless one is known. -/
theorem Sane.insert (sane : Sane tree asked) {fork : UInt32} {context : Context}
    (here : tree.members fork = some context) {id : CallId} {output : Bytes}
    (sourced : Sourced tree.knowledge fork id output) :
    Sane (tree.setMember fork { context with calls := context.calls.insert id output })
      asked := by
  have same : (context.calls.insert id output).slot = tree.slot fork := by
    rw [ExternalCalls.slot_insert, slot_of_member here]
  refine sane.setCalls here rfl rfl rfl ?_ ?_ ?_ ?_
  · intro other known there
    exact ExternalCalls.output?_insert_of_some output there
  · intro other known there
    rcases ExternalCalls.output?_of_insert there with before | ⟨rfl, rfl⟩
    · exact Or.inl before
    · exact Or.inr sourced
  · intro tag known there
    dsimp only at there
    rw [same] at there
    exact sane.responses fork tag known there
  · dsimp only
    rw [same]
    exact sane.fits fork

/-- The response to a request arrives at the slot. -/
theorem Sane.deliver (sane : Sane tree asked) {fork : UInt32} {context : Context}
    (here : tree.members fork = some context)
    {tag : Option CallId} {output : Bytes}
    (response : Response tree.knowledge (asked fork) fork tag output)
    (room : tree.inFlight fork + 1 + filled (tree.slot fork) ≤ (tree.slot fork).waiting.toNat) :
    Sane (tree.setMember fork
      { context with calls := (context.calls.deliver tag output).2 }) asked := by
  have same := (slot_of_member here).symm
  rw [← same] at room
  have fits := sane.fits fork
  rw [← same] at fits
  refine sane.setCalls here rfl rfl rfl (fun _ _ known => known)
    (fun _ _ known => Or.inl known) ?_ ?_
  · intro other bytes there some
    change ((context.calls.slot.deliver (tag, output)).2).response = _ at there
    unfold Slot.deliver at there
    split at there
    case isTrue _ =>
      cases there
      exact response
    case isFalse _ =>
      rw [same] at there
      exact sane.responses fork other bytes there some
  · change Fits _ _ (context.calls.slot.deliver (tag, output)).2
    unfold Slot.deliver
    split
    case isTrue _ =>
      refine ⟨?_, fits.takers⟩
      change tree.inFlight fork + 1 ≤ context.calls.slot.waiting.toNat
      omega
    case isFalse _ => exact fits

/-- A process is as before, but for what has nothing to do with external calls. -/
theorem Sane.setOther (sane : Sane tree asked) {fork : UInt32} {context changed : Context}
    (here : tree.members fork = some context) (own : changed.fork = context.fork)
    (channel : changed.channel = context.channel) (forks : changed.forks = context.forks)
    (calls : changed.calls = context.calls) : Sane (tree.setMember fork changed) asked := by
  have same : changed.calls.slot = tree.slot fork := by
    rw [calls, slot_of_member here]
  refine sane.setCalls here own channel forks ?_ ?_ ?_ ?_
  · intro id output there
    rw [calls]
    exact there
  · intro id output there
    rw [calls] at there
    exact Or.inl there
  · intro tag output there
    rw [same] at there
    exact sane.responses fork tag output there
  · rw [same]
    exact sane.fits fork

/-- The root has another table of forks. -/
theorem Sane.setTable (sane : Sane tree asked) {root : Context}
    (here : tree.members rootFork = some root) {table : ForkTable Nat}
    (leads : Leads tree.knowledge asked table)
    (fits : ∀ other, tree.inFlight other + (table.pendingFor other).length +
      filled (tree.slot other) ≤
        (tree.slot other).waiting.toNat + (root.forks.pendingFor other).length) :
    Sane (tree.setMember rootFork { root with forks := table }) asked := by
  have known := output?_of_member here
  have same := slot_of_member here
  refine sane.setMember (sane.own rootFork root here) ?_ ?_ (fun _ => leads) ?_ ?_
  · intro id output there
    rw [known] at there
    exact there
  · intro id output there
    refine sane.cached rootFork id output ?_
    rw [known]
    exact there
  · intro tag output there
    dsimp only at there
    rw [← same] at there
    exact sane.responses rootFork tag output there
  · intro other
    have flight := inFlight_setTable here table other
    have slots : (tree.setMember rootFork { root with forks := table }).slot other =
        tree.slot other := by
      rw [slot_setMember]
      split
      case isTrue own => rw [own, same]
      case isFalse _ => rfl
    rw [slots]
    refine ⟨?_, (sane.fits other).takers⟩
    have := fits other
    omega

/-- The root holds an answer for a fork that is not in its table. -/
theorem Sane.hold (sane : Sane tree asked) {root : Context}
    (here : tree.members rootFork = some root) {target : UInt32} (other : target ≠ rootFork)
    {message : Message} (down : Downward tree.knowledge (asked target) target message)
    (room : tree.inFlight target + 1 + filled (tree.slot target) ≤
      (tree.slot target).waiting.toNat) :
    Sane (tree.setMember rootFork
      { root with forks := { root.forks with pending := root.forks.pending ++ [message] } })
        asked := by
  have leads := sane.leads here
  refine sane.setTable here ⟨leads.handles, ?_⟩ ?_
  · intro one there
    rcases List.mem_append.mp there with before | new
    · exact leads.pending one before
    · rw [List.mem_singleton.mp new]
      exact ⟨target, other, down⟩
  · intro one
    have fits := (sane.fits one).errands
    rw [ForkTable.length_pendingFor_snoc, down.fork]
    split
    case isTrue same =>
      subst same
      omega
    case isFalse _ => omega

theorem Leads.held {known : Knowledge} {table : ForkTable Nat} (leads : Leads known asked table)
    {target : UInt32} {message : Message} (there : message ∈ table.pendingFor target) :
    Downward known (asked target) target message := by
  obtain ⟨pending, own⟩ := List.mem_filter.mp there
  obtain ⟨one, -, down⟩ := leads.pending message pending
  have same : one = target := down.fork.symm.trans (of_decide_eq_true own)
  exact same ▸ down

theorem Leads.register {known : Knowledge} {table : ForkTable Nat}
    (leads : Leads known asked table) (target pid : UInt32) :
    Leads known asked (table.register target { pid, handle := target.toNat }).2 where
  handles := by
    intro one process present
    rw [ForkTable.process?_register] at present
    split at present
    case isTrue same =>
      cases present
      rw [same]
    case isFalse _ => exact leads.handles one process present
  pending := by
    intro message there
    rw [ForkTable.register_eq] at there
    exact leads.pending message (List.mem_of_mem_filter there)

/-- A fork is entered into the table, and gets what was held for it. -/
theorem Sane.flush (sane : Sane tree asked) {root : Context}
    (here : tree.members rootFork = some root) {target : UInt32} (other : target ≠ rootFork)
    (pid : UInt32) :
    Sane ((tree.setMember rootFork { root with
        forks := (root.forks.register target { pid, handle := target.toNat }).2 }).setDown target
          (tree.down target ++ carried (root.forks.pendingFor target))) asked := by
  have leads := sane.leads here
  obtain ⟨table, given⟩ : ∃ table, table =
    (root.forks.register target { pid, handle := target.toNat }).2 := ⟨_, rfl⟩
  have entered := leads.register target pid
  have fewer : ∀ one, (table.pendingFor one).length =
      if one = target then 0 else (root.forks.pendingFor one).length := by
    intro one
    rw [given, ForkTable.pendingFor_register]
    split <;> rfl
  rw [← given] at entered ⊢
  have set : Sane (tree.setMember rootFork { root with forks := table }) asked := by
    refine sane.setTable here entered fun one => ?_
    have fits := (sane.fits one).errands
    rw [fewer]
    split <;> omega
  have grows : tree.knowledge.Grows
      (tree.setMember rootFork { root with forks := table }).knowledge := by
    refine knowledge_setMember fun id output known => ?_
    rw [output?_of_member here] at known
    exact known
  refine set.postsDown (fun message there => (leads.held there).grows grows) ?_
  have flight := inFlight_setTable here table target
  have fits := (sane.fits target).errands
  rw [fewer, if_pos rfl] at flight
  rw [slot_setMember, if_neg other]
  omega

/-- A new fork begins as a copy of a process. -/
theorem Sane.join (sane : Sane tree asked) {parent fork : UInt32} {context : Context}
    (there : tree.members parent = some context) (new : tree.members fork = none) :
    Sane (tree.setMember fork (Machine.forked context fork upstream)) asked := by
  have free : tree.slot fork = {} := by
    rw [slot, new]
    rfl
  have idle := sane.fits fork
  rw [free] at idle
  have other : fork ≠ rootFork := by
    rintro rfl
    obtain ⟨root, here, -⟩ := sane.root
    rw [new] at here
    cases here
  refine sane.setMember ⟨rfl, rfl⟩ ?_ ?_ (fun root => absurd root other) ?_ ?_
  · intro id output known
    rw [output?, new] at known
    cases known
  · intro id output known
    have remembered : tree.output? parent id = some output := by
      rw [output?_of_member there]
      exact known
    have copied := sane.cached parent id output remembered
    refine ⟨copied.performed, Or.inr ?_⟩
    rcases copied.shared with root | elsewhere
    · rw [root] at remembered
      exact Or.inl remembered
    · exact elsewhere
  · intro tag output _ some
    exact absurd idle.takers (Nat.not_le_of_gt some)
  · intro one
    have flight := inFlight_setMember tree fork (Machine.forked context fork upstream) one
    rw [heldFor_setMember, if_neg (Ne.symm other)] at flight
    rw [Nat.add_right_cancel flight, slot_setMember]
    split
    case isTrue same =>
      subst same
      have parents := (sane.fits parent).errands
      rw [slot_of_member there] at parents
      have errands : tree.inFlight one + 0 ≤ 0 := idle.errands
      have takers : tree.takers one ≤ 0 := idle.takers
      change Fits (tree.inFlight one) (tree.takers one) context.calls.slot
      constructor <;> omega
    case isFalse _ => exact sane.fits one

/-! Performed outputs and requested calls -/

theorem Sane.perform (sane : Sane tree asked) (outputs : List Performed) :
    Sane (tree.perform outputs) asked := by
  have grows : tree.knowledge.Grows (tree.perform outputs).knowledge :=
    ⟨List.subset_append_left _ _, fun _ _ there => there⟩
  exact
    { root := sane.root.imp fun _ ⟨here, leads⟩ => ⟨here, leads.grows grows⟩
      own := sane.own
      cached := fun fork id output there => (sane.cached fork id output there).grows grows
      shapes := fun one there => (sane.shapes one there).grows grows
      ups := fun fork message there => (sane.ups fork message there).grows grows
      downs := fun fork message there => (sane.downs fork message there).grows grows
      responses := fun fork tag output filled some =>
        (sane.responses fork tag output filled some).grows grows
      fits := sane.fits }

theorem Upward.relabel {known : Knowledge} {fork other : UInt32} {message : Message}
    (upward : Upward known (asked other) other message) (next : Option CallId)
    (idle : other = fork → isRequest message = false) :
    Upward known (Function.update asked fork next other) other message := by
  by_cases same : other = fork
  · exact upward.ask (idle same) _
  · rw [Function.update_of_ne same]
    exact upward

theorem Sound.relabel {known : Knowledge} {fork owner : UInt32} {action : Action}
    (sound : Sound known asked owner action) (next : Option CallId)
    (idle : errand owner fork action = 0) :
    Sound known (Function.update asked fork next) owner action := by
  cases sound with
  | lookupCall id input => exact .lookupCall id input
  | performUnlessKnown id input output => exact .performUnlessKnown id input output
  | publishCall id output => exact .publishCall id output
  | keepCall sourced => exact .keepCall sourced
  | send sourced => exact .send sourced
  | answer reply => exact .answer reply
  | enterRead => exact .enterRead
  | leaveRead => exact .leaveRead
  | handle down =>
    have apart : owner ≠ fork := by simpa [errand] using idle
    refine .handle ?_
    rw [Function.update_of_ne apart]
    exact down
  | dispatch down =>
    have apart : owner ≠ fork := by simpa [errand] using idle
    refine .dispatch ?_
    rw [Function.update_of_ne apart]
    exact down
  | handleFork root other up =>
    refine .handleFork root other (up.relabel next ?_)
    rintro rfl
    simpa [errand, up.fork] using idle
  | dispatchFork root other up =>
    refine .dispatchFork root other (up.relabel next ?_)
    rintro rfl
    simpa [errand, up.fork] using idle
  | @route target message root other down =>
    have apart : target ≠ fork := by
      have elsewhere : message.fork ≠ fork := by simpa [errand] using idle
      rwa [down.fork] at elsewhere
    refine .route root other ?_
    rw [Function.update_of_ne apart]
    exact down
  | register pid root other => exact .register pid root other

theorem errand_eq_zero {owner fork : UInt32} {todo : Program} (idle : errands owner fork todo = 0)
    {action : Action} (there : action ∈ todo) : errand owner fork action = 0 :=
  List.sum_eq_zero_iff_forall_eq_nat.mp idle _ (List.mem_map_of_mem there)

theorem Shape.relabel {known : Knowledge} {fork owner : UInt32} {todo : Program}
    (shape : Shape known asked owner todo) (next : Option CallId)
    (idle : errands owner fork todo = 0) (none : taking owner fork todo = 0) :
    Shape known (Function.update asked fork next) owner todo := by
  cases shape with
  | plain sound =>
    exact .plain fun action there => (sound action there).relabel next (errand_eq_zero idle there)
  | claims input sound =>
    refine .claims input fun action there => (sound action there).relabel next ?_
    exact errand_eq_zero idle (List.mem_cons_of_mem _ (List.mem_cons_of_mem _ there))
  | takes same sound =>
    have apart : owner ≠ fork := by simpa [taking] using none
    refine .takes ?_ fun action there => (sound action there).relabel next ?_
    · rw [Function.update_of_ne apart]
      exact same
    · exact errand_eq_zero idle (List.mem_cons_of_mem _ there)

theorem load_eq_zero {threads : List (UInt32 × Strand)} {weight : UInt32 → Program → Nat}
    (nothing : load threads weight = 0) {one : UInt32 × Strand} (there : one ∈ threads) :
    weight one.1 one.2.todo = 0 :=
  List.sum_eq_zero_iff_forall_eq_nat.mp nothing _ (List.mem_map_of_mem there)

/-- A process whose slot is free has no errands out. -/
theorem Sane.idle (sane : Sane tree asked) {fork : UInt32}
    (free : (tree.slot fork).waiting = false) : tree.inFlight fork = 0 ∧ tree.takers fork = 0 := by
  obtain ⟨errands, takers⟩ := sane.fits fork
  rw [free, Bool.toNat_false] at errands takers
  omega

/-- A process whose slot is free may ask for any call. -/
theorem Sane.ask (sane : Sane tree asked) {fork : UInt32}
    (free : (tree.slot fork).waiting = false) (next : Option CallId) :
    Sane tree (Function.update asked fork next) := by
  obtain ⟨nothing, takers⟩ := sane.idle free
  obtain ⟨root, here, leads⟩ := sane.root
  rw [inFlight, heldFor_of_root here] at nothing
  have ups : (tree.up fork).countP isRequest = 0 := by omega
  have threads : load tree.threads (errands · fork) = 0 := by omega
  have pending : (root.forks.pendingFor fork).length = 0 := by omega
  have downs : (tree.down fork).length = 0 := by omega
  refine ⟨⟨root, here, leads.handles, ?_⟩, sane.own, sane.cached, ?_, ?_, ?_, ?_, sane.fits⟩
  · intro message there
    obtain ⟨target, other, down⟩ := leads.pending message there
    refine ⟨target, other, ?_⟩
    rw [Function.update_of_ne]
    · exact down
    · rintro rfl
      have own : message ∈ root.forks.pendingFor target :=
        List.mem_filter.mpr ⟨there, decide_eq_true down.fork⟩
      rw [List.eq_nil_of_length_eq_zero pending] at own
      cases own
  · intro one there
    exact (sane.shapes one there).relabel next (load_eq_zero threads there)
      (load_eq_zero takers there)
  · intro other message there
    refine (sane.ups other message there).relabel next ?_
    rintro rfl
    have none := List.countP_eq_zero.mp ups message there
    simpa using none
  · intro other message there
    rw [Function.update_of_ne]
    · exact sane.downs other message there
    · rintro rfl
      rw [List.eq_nil_of_length_eq_zero downs] at there
      cases there
  · intro other tag output filled some
    rw [Function.update_of_ne]
    · exact sane.responses other tag output filled some
    · rintro rfl
      omega

/-- The slot of a process is claimed. -/
theorem Sane.claimSlot (sane : Sane tree asked) {fork : UInt32} {context : Context}
    (here : tree.members fork = some context)
    (free : (tree.slot fork).waiting = false) :
    Sane (tree.setMember fork
      { context with calls := { context.calls with slot := { waiting := true } } }) asked := by
  obtain ⟨nothing, nobody⟩ := sane.idle free
  refine sane.setCalls here rfl rfl rfl (fun _ _ known => known)
    (fun _ _ known => Or.inl known) ?_ ?_
  · intro tag output there
    cases there
  · rw [nothing, nobody]
    exact ⟨Nat.zero_le 1, Nat.zero_le 1⟩

end Tree

end Playback
