import Playback.Proofs.Keys.Effort

set_option autoImplicit false

namespace Playback

namespace Tree

variable {tree : Tree} {story : Story}

theorem Keyless.held (keyless : tree.Keyless) (fork : UInt32) : tree.held fork = [] := by
  obtain ⟨root, here, -, -, pending, -⟩ := keyless.root
  rw [held_of_root here, ForkTable.pendingFor, pending, List.filter_nil]

theorem Keyless.kept (keyless : tree.Keyless) : Kept tree [] := by
  obtain ⟨root, here, own, entries, pending, handles⟩ := keyless.root
  refine ⟨⟨root, here, ⟨handles, ?_, ?_⟩, ?_⟩, ?_, ?_, ?_, ?_⟩
  · rw [pending]
    exact List.forall_mem_nil _
  · intro fork process _
    rw [ForkTable.pendingFor, pending, List.filter_nil]
  · intro key
    rw [SharedKeys.get, entries]
    rfl
  · intro fork context there
    by_cases top : fork = rootFork
    · subst top
      rw [here] at there
      cases there
      exact ⟨own, absurd rfl⟩
    · obtain ⟨same, channel, -⟩ := keyless.forks fork context top there
      exact ⟨same, fun _ => channel⟩
  · intro fork
    rw [keyless.ups]
    exact List.forall_mem_nil _
  · intro fork
    rw [keyless.downs]
    exact List.forall_mem_nil _
  · exact fun _ fork => Message.framed_empty_response fork

/-- No value is asked for. -/
theorem Keyless.fits (keyless : tree.Keyless) {fork : UInt32} (other : fork ≠ rootFork) :
    Errand.idle.Fits fork [] (({ tree } : Story).ways fork) := by
  have inHand : tree.inHand fork = [] := by
    rw [Tree.inHand, keyless.still]
    rfl
  have nothing : tree.inHand fork ++ tree.up fork = [] := by
    rw [inHand, keyless.ups]
    rfl
  constructor
  case inOrder => exact nothing.symm
  case single => exact (congrArg List.length inHand).trans_le (Nat.zero_le 1)
  case requests => exact congrArg (List.filter isKeyRequest) nothing
  case back =>
    change tree.back fork = []
    rw [Tree.back, keyless.still, keyless.held, keyless.downs]
    rfl
  case slot =>
    change tree.keySlot fork = {}
    rw [keySlot]
    cases there : tree.members fork with
    | none => rfl
    | some context => exact (keyless.forks fork context other there).2.2
  case awaits =>
    intro thread key
    refine iff_of_false ?_ (Option.some_ne_none _).symm
    rintro ⟨began, -⟩
    cases began
  case told => trivial

theorem Keyless.keeping (keyless : tree.Keyless) : Keeping { tree } := by
  have nobody {thread : Nat} {fork : UInt32} {strand : Strand} :
      tree.threads[thread]? ≠ some (fork, strand) := by
    rw [keyless.still]
    exact (Option.some_ne_none _).symm
  constructor
  case kept => exact keyless.kept
  case size =>
    rw [keyless.still]
    rfl
  case homes => exact fun _ _ _ there => absurd there nobody
  case places => exact fun _ _ _ there => absurd there nobody
  case lines => exact fun fork other => ⟨.idle, keyless.fits other⟩
  case causal =>
    intro fork _ before part
    rw [List.prefix_nil.mp part]
    exact List.prefix_rfl
  case said => exact List.forall_mem_nil _

theorem Story.Shares.keeping (shares : story.Shares) : Keeping story := by
  induction shares with
  | begins keyless => exact keyless.keeping
  | turn _ allowed taken ih => exact ih.turn allowed taken

/-! What is read -/

/-- Who has asked for a key and has returned has got its value. -/
theorem Keeping.returned (keeping : Keeping story) {thread : Nat} {key : String} {fork : UInt32}
    {strand : Strand} (began : story.begun[thread]? = some [.getKey key])
    (there : story.tree.threads[thread]? = some (fork, strand)) (done : strand.todo = []) :
    ∃ value, strand.value = .text value ∧
      (fork = rootFork → ReadAtRoot thread key value story.acts) ∧
      (fork ≠ rootFork → Got fork thread key value story.acts) := by
  obtain ⟨program, first, place⟩ := keeping.places thread fork strand there
  rw [began] at first
  cases first
  rw [done] at place
  generalize strand.value = reply at place ⊢
  cases place with
  | got other got => exact ⟨_, rfl, fun root => absurd root other, fun _ => got⟩
  | read root read => exact ⟨_, rfl, fun _ => read, absurd root⟩
  | ends apart _ => exact absurd rfl (apart key)

/-- A fork that has set a key and then asks for it gets that value, or a later one. -/
theorem Keeping.sees (keeping : Keeping story) {fork : UInt32} (other : fork ≠ rootFork)
    {thread : Nat} {key value : String} {front middle rest : List Act} {ask serve : Act}
    (told : story.acts = front ++ ask :: (middle ++ serve :: rest))
    (served : Served fork thread key value front ask middle serve) {early late : List Act}
    {own : Act} (split : front = early ++ own :: late) (home : own.fork = fork) {new : String}
    (sets : own.action = .setKey key new) :
    Seen fork key new value early own (front ++ ask :: middle) := by
  have there : own ∈ story.acts := by
    rw [told, split]
    simp
  have sends : own.sends? own.fork = some (.sharedKeySet own.fork key new) := by
    rw [Act.sends?, if_pos rfl, sets]
  have framed : (Message.sharedKeySet own.fork key new).Framed := by
    generalize same : Message.sharedKeySet own.fork key new = message at sends
    cases keeping.said own there message sends with
    | set _ framed => exact framed
    | request _ framed => exact framed
  rw [home] at framed
  have causal := keeping.causal fork other
  rw [told] at causal
  exact served.sees causal split home sets framed

/-- What takes effect at the root for a fork is what this fork has set, with the same key and the
same value, in the same place of the order. -/
theorem Keeping.carried (keeping : Keeping story) {fork : UInt32} (other : fork ≠ rootFork)
    {before behind : List Act} {effect : Act} (told : story.acts = before ++ effect :: behind)
    {message : Message} (handles : effect.handles? fork = some message) {key value : String}
    (sets : effect.setting? = some (key, value)) :
    ∃ early own late, before = early ++ own :: late ∧ own.fork = fork ∧
      own.action = .setKey key value ∧ sent fork early = handled fork before := by
  have upTo : before ++ [effect] <+: story.acts := by
    rw [told, List.append_cons before effect behind]
    exact List.prefix_append _ _
  have silent : effect.sends? fork = none := by
    cases sends : effect.sends? fork with
    | none => rfl
    | some one =>
      rw [handles?_of_sends sends] at handles
      cases handles
  obtain ⟨others, order⟩ := keeping.causal fork other _ upTo
  rw [handled_snoc, sent_snoc, handles, silent, Option.toList_some, Option.toList_none,
    List.append_nil, List.append_assoc, List.singleton_append] at order
  obtain ⟨first, back, rfl, same, next⟩ := List.filterMap_eq_append_iff.mp order.symm
  obtain ⟨between, own, late, rfl, idle, sends, -⟩ := List.filterMap_eq_cons_iff.mp next
  have there : own ∈ story.acts := by
    rw [told]
    simp
  have home : own.fork = fork := (Option.ite_none_right_eq_some.mp sends).1
  refine ⟨first ++ between, own, late, (List.append_assoc ..).symm, home, ?_, ?_⟩
  · subst home
    cases keeping.said own there message sends with
    | set does framed =>
      rw [setting?_of_set handles framed] at sets
      cases sets
      exact does
    | request =>
      rw [setting?_of_handles handles] at sets
      cases sets
  · rw [← same, sent, List.filterMap_append, List.filterMap_eq_nil_iff.mpr idle, List.append_nil]

/-- What is on its way between the root and a fork is brought over as it is. -/
theorem Keeping.decodes (keeping : Keeping story) (fork : UInt32) {message : Message}
    (there : message ∈ story.tree.up fork ++ story.tree.down fork) :
    ∃ frame, message.encode = .ok frame ∧ Message.decode frame = .ok message := by
  rcases List.mem_append.mp there with up | down
  · exact (keeping.kept.ups fork message up).2.decodes
  · exact (keeping.kept.downs fork message down).2.decodes

/-- The keys are one store for a whole tree. -/
structure OneStore (story : Story) : Prop where
  /-- The root has of every key the last setting that took effect there. -/
  root : ∀ root, story.tree.members rootFork = some root →
    ∀ key, root.keys.get key = latest key story.acts
  /-- Who asked for a key and has returned has got the value of the moment at which the root handled
  that very request. -/
  gets : ∀ (thread : Nat) (key : String) (fork : UInt32) (strand : Strand),
    story.begun[thread]? = some [.getKey key] →
    story.tree.threads[thread]? = some (fork, strand) → strand.todo = [] →
    ∃ value, strand.value = .text value ∧
      (fork = rootFork → ReadAtRoot thread key value story.acts) ∧
      (fork ≠ rootFork → Got fork thread key value story.acts)
  /-- Whatever the root has handled for a fork the fork had sent, in that order. -/
  inOrder : ∀ fork, fork ≠ rootFork → Causal fork story.acts
  /-- What takes effect at the root for a fork is what it has set, key and value as they were. -/
  carried : ∀ (fork : UInt32) (before behind : List Act) (effect : Act) (message : Message)
    (key value : String), fork ≠ rootFork → story.acts = before ++ effect :: behind →
    effect.handles? fork = some message → effect.setting? = some (key, value) →
    ∃ early own late, before = early ++ own :: late ∧ own.fork = fork ∧
      own.action = .setKey key value ∧ sent fork early = handled fork before
  /-- Who asks behind a setting of its own fork gets that value, or one that was set later. -/
  own : ∀ (fork : UInt32) (thread : Nat) (key value : String) (front middle rest : List Act)
    (ask serve : Act), fork ≠ rootFork →
    story.acts = front ++ ask :: (middle ++ serve :: rest) →
    Served fork thread key value front ask middle serve →
    ∀ (early late : List Act) (own : Act) (new : String), front = early ++ own :: late →
    own.fork = fork → own.action = .setKey key new →
    Seen fork key new value early own (front ++ ask :: middle)
  wire : ∀ fork, ∀ message ∈ story.tree.up fork ++ story.tree.down fork,
    ∃ frame, message.encode = .ok frame ∧ Message.decode frame = .ok message
  /-- Without new calls the tree comes to rest, and then everybody has returned. -/
  rests : (∃ count last, Runs count story last ∧ last.Still) ∧
    ∀ count last, Runs count story last → count ≤ story.tree.effort ∧
      (last.tree.Connected → last.Still → ∀ (thread : Nat) (fork : UInt32) (strand : Strand),
        last.tree.threads[thread]? = some (fork, strand) → strand.todo = [])

/-- Whatever a root and its forks do to shared keys, they share one store. -/
theorem shared_keys_are_one_store (shares : story.Shares) : OneStore story := by
  have keeping := shares.keeping
  constructor
  case root => exact fun root here => (keeping.kept.of_root here).2
  case gets => exact fun _ _ _ _ began there done => keeping.returned began there done
  case inOrder => exact keeping.causal
  case carried =>
    exact fun _ _ _ _ _ _ _ other told handles sets => keeping.carried other told handles sets
  case own =>
    exact fun _ _ _ _ _ _ _ _ _ other told served _ _ _ _ split home sets =>
      keeping.sees other told served split home sets
  case wire => exact fun fork _ there => keeping.decodes fork there
  case rests =>
    refine ⟨keeping.rests, fun count last runs => ?_⟩
    obtain ⟨kept, enough⟩ := keeping.runs runs
    refine ⟨(Nat.le_add_right _ _).trans enough, ?_⟩
    exact fun connected still _ _ _ there => kept.returned_of_still connected still there

/-! A story that can be played -/

/-- The root is done with all messages of forks that it has begun with. -/
def Story.served (story : Story) : Bool :=
  (story.begun.zip story.tree.threads).all fun one =>
    match one.1 with
    | .handleFork _ :: _ => one.2.2.todo.isEmpty
    | _ => true

theorem Keeping.returned_of_served (keeping : Keeping story) (served : story.served = true)
    {thread : Nat} {message : Message}
    (began : story.begun[thread]? = some (Program.handleFork message)) :
    story.tree.Returned thread := by
  have inside := (List.getElem?_eq_some_iff.mp began).1
  rw [keeping.size] at inside
  have there := List.getElem?_eq_getElem inside
  have both : (story.begun.zip story.tree.threads)[thread]? =
      some (Program.handleFork message, story.tree.threads[thread]) :=
    List.getElem?_zip_eq_some.mpr ⟨began, there⟩
  have done := List.all_eq_true.mp served _ (List.mem_of_getElem? both)
  exact ⟨_, there, List.isEmpty_iff.mp done⟩

/-- The root takes the message of a fork only when it is done with those before. -/
def Story.share? (story : Story) : Turn → Option Story
  | .attend fork => if story.served then story.take? (.attend fork) else none
  | turn => story.take? turn

/-- A turn that may come at any time, as far as the root is done with what it has begun with. -/
inductive Sharing : Turn → Prop where
  | attend (fork : UInt32) : Sharing (.attend fork)
  | free {turn : Turn} (allowed : ∀ story, KeyTurn story turn) : Sharing turn

theorem Story.Shares.share (shares : story.Shares) {next : Story} {turn : Turn}
    (sharing : Sharing turn) (taken : story.share? turn = some next) : next.Shares := by
  cases sharing with
  | attend fork =>
    obtain ⟨served, taken⟩ := Option.ite_none_right_eq_some.mp taken
    refine .turn shares (.attend fun thread message began _ => ?_) taken
    exact shares.keeping.returned_of_served served began
  | free allowed =>
    refine .turn shares (allowed story) ?_
    unfold share? at taken
    split at taken
    · exact (Option.ite_none_right_eq_some.mp taken).2
    · exact taken

theorem Story.Shares.play (shares : story.Shares) {next : Story} {turns : List Turn}
    (sharing : ∀ turn ∈ turns, Sharing turn) (played : turns.foldlM share? story = some next) :
    next.Shares := by
  induction turns generalizing story with
  | nil =>
    cases played
    exact shares
  | cons turn turns ih =>
    obtain ⟨middle, taken, rest⟩ := Option.bind_eq_some_iff.mp played
    obtain ⟨now, later⟩ := List.forall_mem_cons.mp sharing
    exact ih (shares.share now taken) later rest

/-- A root and a fork that it does not know yet. -/
def strangers : Tree where
  members fork :=
    if fork = rootFork then some { config := {} }
    else if fork = 1 then some { config := {}, fork := 1, channel := some upstream }
    else none

theorem strangers_keyless : strangers.Keyless := by
  refine ⟨⟨_, rfl, rfl, rfl, rfl, ?_⟩, ?_, rfl, fun _ => rfl, fun _ => rfl⟩
  · intro fork process present
    cases present
  · intro fork own other there
    by_cases one : fork = 1
    · subst one
      cases there
      exact ⟨rfl, rfl, rfl⟩
    · have nobody : strangers.members fork = none := by
        simp only [strangers, if_neg other, if_neg one]
      rw [nobody] at there
      cases there

/-- The fork sets a key and asks for it. The root handles both messages and only then comes to know
the fork, which then gets the value. -/
def settingAndGetting : List Turn :=
  (.begin 1 false [.setKey "k" "v\x00"] :: acts 0 1) ++
    (.begin 1 false [.getKey "k"] :: acts 1 2) ++ (.attend 1 :: acts 2 5) ++
    (.attend 1 :: acts 3 6) ++ (.begin rootFork false (Machine.registering 1 11 1) :: acts 4 3) ++
    (.hear 1 :: acts 5 5) ++ acts 1 1

theorem settingAndGetting_sharing : ∀ turn ∈ settingAndGetting, Sharing turn := by
  have acting (thread count : Nat) : ∀ turn ∈ acts thread count, Sharing turn := by
    intro turn there
    rw [List.eq_of_mem_replicate there]
    exact .free fun _ => .act thread
  have sets : (Message.sharedKeySet 1 "k" "v\x00").Framed := by decide +kernel
  have asks : (Message.sharedKeyRequest 1 "k").Framed := by decide +kernel
  have other : (1 : UInt32) ≠ rootFork := by decide
  simp only [settingAndGetting, List.forall_mem_append, List.forall_mem_cons]
  exact ⟨⟨⟨⟨⟨⟨⟨.free fun _ => .set 1 false sets, acting 0 1⟩,
    .free fun _ => .get 1 false asks, acting 1 2⟩, .attend 1, acting 2 5⟩, .attend 1, acting 3 6⟩,
    .free fun _ => .register 11 other, acting 4 3⟩, .free fun _ => .hear 1, acting 5 5⟩,
    acting 1 1⟩

theorem settingAndGetting_plays :
    (settingAndGetting.foldlM Story.share? { tree := strangers }).isSome = true := by
  decide +kernel

def got : Story :=
  (settingAndGetting.foldlM Story.share? { tree := strangers }).get settingAndGetting_plays

theorem got_shares : got.Shares :=
  Story.Shares.play (.begins strangers_keyless) settingAndGetting_sharing
    (Option.some_get settingAndGetting_plays).symm

/-- The key that a program asks for. -/
def asked? : Program → Option String
  | [.getKey key] => some key
  | _ => none

theorem eq_getKey {program : Program} {key : String} (asks : asked? program = some key) :
    program = [.getKey key] := by
  unfold asked? at asks
  split at asks
  · cases asks
    rfl
  · cases asks

theorem fork_gets_what_it_set : got.Shares ∧ Got 1 1 "k" "v\x00" got.acts := by
  have asks : (got.begun[1]?).bind asked? = some "k" := by decide +kernel
  obtain ⟨program, began, same⟩ := Option.bind_eq_some_iff.mp asks
  rw [eq_getKey same] at began
  have there : (got.tree.threads[1]?).map (fun one => (one.1, one.2.todo.length, one.2.value)) =
      some (1, 0, .text "v\x00") := by
    decide +kernel
  obtain ⟨⟨fork, strand⟩, there, same⟩ := Option.map_eq_some_iff.mp there
  simp only [Prod.mk.injEq, List.length_eq_zero_iff] at same
  obtain ⟨rfl, done, value⟩ := same
  obtain ⟨text, reads, -, gets⟩ :=
    (shared_keys_are_one_store got_shares).gets 1 "k" 1 strand began there done
  rw [value] at reads
  cases reads
  exact ⟨got_shares, gets (by decide)⟩

end Tree

end Playback
