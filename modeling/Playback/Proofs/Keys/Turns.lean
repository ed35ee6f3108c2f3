import Playback.Proofs.Keys.Serving

set_option autoImplicit false

namespace Playback

namespace Tree

variable {story next : Story}

/-- A thread takes an action. -/
theorem Keeping.act (keeping : Keeping story) {index : Nat}
    (taken : story.take? (.act index) = some next) : Keeping next := by
  obtain ⟨act, strand, rest, outcome, -, todo, step, goes⟩ := goes_of_act taken
  obtain ⟨own, channel⟩ := keeping.kept.own act.fork act.context goes.here
  obtain ⟨program, began, place⟩ := keeping.places act.thread act.fork strand goes.there
  rw [todo] at place
  generalize action : act.action = one at todo place step
  generalize reply : strand.value = value at place
  cases place with
  | @sets key text framed =>
    cases Option.some.inj step
    by_cases root : act.fork = rootFork
    · rw [setKey_of_root own root] at goes
      exact keeping.setsAtRoot goes began root framed action todo rfl rfl rfl rfl rfl rfl
    · rw [setKey_of_fork own root] at goes
      exact keeping.sends goes began root framed action todo rfl rfl
        (sendEffects_upstream (channel root) _)
  | @gets key framed =>
    cases Option.some.inj step
    by_cases root : act.fork = rootFork
    · rw [getKey_of_root own root] at goes
      have read : ReadAtRoot act.thread key (act.context.keys.get key) (story.acts ++ [act]) := by
        rw [(keeping.kept.of_root (goes.here_root root)).2]
        exact .read root rfl action
      exact keeping.still goes began (.read root read) action rfl todo rfl ⟨rfl, rfl, rfl, rfl, rfl⟩
        (fun _ => rfl) (fun _ => rfl) nofun
    · rw [getKey_of_fork own root] at goes
      exact keeping.still goes began (.claims root framed _) action rfl todo rfl
        ⟨rfl, rfl, rfl, rfl, rfl⟩ (fun _ => rfl) (fun _ => rfl) nofun
  | claims other framed =>
    obtain ⟨slot, claimed, same⟩ := Option.map_eq_some_iff.mp step
    obtain ⟨free, claimed⟩ := Option.ite_none_left_eq_some.mp claimed
    cases claimed
    cases same
    exact keeping.claims goes began other framed action todo rfl
      (Bool.eq_false_of_not_eq_true free) rfl rfl rfl (sendEffects_upstream (channel other) _)
  | takes other =>
    obtain ⟨⟨text, slot⟩, taken, same⟩ := Option.map_eq_some_iff.mp step
    obtain ⟨response, there, pair⟩ := Option.map_eq_some_iff.mp taken
    cases pair
    cases same
    exact keeping.takes goes began other action todo rfl there rfl rfl rfl rfl rfl
  | hears other down quiet =>
    cases Option.some.inj step
    rw [handle_of_keyDown own down] at goes
    refine keeping.still goes began (.enters (fun _ same => by cases same) ?_) action rfl todo rfl
      ⟨rfl, rfl, rfl, rfl, rfl⟩ (fun _ => filterMap_underLock rfl rfl _)
      (fun _ => filterMap_underLock rfl rfl _) nofun
    exact .takesIn other down (quiet_leave quiet) _
  | takesIn other down quiet =>
    cases down with
    | @response text framed =>
      cases Option.some.inj step
      rw [dispatch_response] at goes
      exact keeping.takesIn goes began other action todo rfl quiet rfl rfl rfl rfl
  | attends root other up quiet =>
    cases Option.some.inj step
    refine keeping.still goes began (.enters (fun _ same => by cases same) ?_) action rfl todo rfl
      ⟨rfl, rfl, rfl, rfl, rfl⟩ (fun _ => filterMap_underLock rfl rfl _)
      (fun _ => filterMap_underLock rfl rfl _) nofun
    exact .serves root other up (quiet_leave quiet) _
  | serves root other up quiet =>
    cases up with
    | set framed =>
      cases Option.some.inj step
      rw [dispatchFork_set framed] at goes
      exact keeping.handlesSetting goes began root other framed action todo rfl quiet rfl rfl rfl
        rfl rfl
    | request framed =>
      cases Option.some.inj step
      rw [dispatchFork_request] at goes
      exact keeping.servesRequest goes began root other action todo rfl quiet rfl rfl
  | answers root other down quiet =>
    cases Option.some.inj step
    exact keeping.answers goes began root other down action todo rfl quiet
  | enrolls root other quiet =>
    cases Option.some.inj step
    exact keeping.enrolls goes began root other action todo rfl quiet
  | enters apart place =>
    obtain ⟨lock, -, same⟩ := Option.map_eq_some_iff.mp step
    cases same
    have awaits := place.ne_takeKey apart
    rw [← reply] at place
    exact keeping.still goes began (place.later [act]) action rfl todo rfl ⟨rfl, rfl, rfl, rfl, rfl⟩
      (fun _ => rfl) (fun _ => rfl) awaits
  | ends apart quiet =>
    obtain ⟨first, others⟩ := List.forall_mem_cons.mp quiet
    have awaits := (carries_of_quiet others rootFork).2.2
    cases one <;> cases first <;>
    · cases Option.some.inj step
      exact keeping.still goes began (.ends apart others _) action rfl todo rfl
        ⟨rfl, rfl, rfl, rfl, rfl⟩ (fun _ => rfl) (fun _ => rfl) awaits

/-! Threads that begin -/

section
variable {fork : UInt32} {strand : Strand}

theorem Begins.inHand (begins : Begins story next fork strand) (other : UInt32) :
    next.tree.inHand other =
      story.tree.inHand other ++ strand.todo.filterMap (carries? other) := by
  rw [Tree.inHand, begins.threads, List.flatMap_append, List.flatMap_singleton]
  rfl

theorem Begins.back (begins : Begins story next fork strand) {other : UInt32}
    (moves : (strand.todo.filterMap (returns? other) ++ next.tree.down other).Perm
      (story.tree.down other)) : (next.tree.back other).Perm (story.tree.back other) := by
  rw [Tree.back, Tree.back, begins.threads, begins.held, List.flatMap_append,
    List.flatMap_singleton, List.perm_iff_count]
  intro message
  have same := moves.count_eq message
  simp only [List.count_append] at same ⊢
  omega

theorem Begins.keySlot (begins : Begins story next fork strand) (other : UInt32) :
    next.tree.keySlot other = story.tree.keySlot other := by
  rw [Tree.keySlot, begins.members]
  rfl

theorem Begins.awaits (begins : Begins story next fork strand)
    (size : story.begun.length = story.tree.threads.length) (waits : strand.todo ≠ [.takeKey])
    (other : UInt32) (thread : Nat) (key : String) :
    next.Awaits other thread key ↔ story.Awaits other thread key := by
  unfold Story.Awaits
  rw [begins.begun, begins.threads]
  rcases Nat.lt_trichotomy thread story.tree.threads.length with old | last | none
  · rw [List.getElem?_append_left old, List.getElem?_append_left (size ▸ old)]
  · subst last
    constructor
    · rintro ⟨-, one, same, todo⟩
      rw [List.getElem?_concat_length] at same
      cases same
      exact absurd todo waits
    · rintro ⟨-, one, same, -⟩
      rw [List.getElem?_eq_none (Nat.le_refl _)] at same
      cases same
  · have many : (story.tree.threads ++ [(fork, strand)]).length ≤ thread := by
      rw [List.length_append, List.length_singleton]
      exact none
    rw [List.getElem?_eq_none many, List.getElem?_eq_none (Nat.le_of_lt none)]
    constructor <;>
    · rintro ⟨-, one, same, -⟩
      cases same

/-- Nothing of what is on its way for a fork is touched, but a response may be taken up. -/
theorem Begins.alike (begins : Begins story next fork strand)
    (size : story.begun.length = story.tree.threads.length) (waits : strand.todo ≠ [.takeKey])
    {other : UInt32} (carried : strand.todo.filterMap (carries? other) = [])
    (up : next.tree.up other = story.tree.up other)
    (moves : (strand.todo.filterMap (returns? other) ++ next.tree.down other).Perm
      (story.tree.down other)) : (story.ways other).Alike (next.ways other) where
  inHand := by
    change next.tree.inHand other = story.tree.inHand other
    rw [begins.inHand, carried, List.append_nil]
  up := up
  back := begins.back moves
  slot := begins.keySlot other
  awaits := begins.awaits size waits other

theorem Keeping.starts (keeping : Keeping story) (begins : Begins story next fork strand)
    (ups : ∀ other, next.tree.up other ⊆ story.tree.up other)
    (downs : ∀ other, next.tree.down other ⊆ story.tree.down other)
    (place : KeyPlace story.acts story.tree.threads.length fork strand.todo strand.todo
      strand.value)
    (lines : ∀ other, other ≠ rootFork →
      ∃ errand : Errand, errand.Fits other story.acts (next.ways other)) : Keeping next where
  kept := by
    rw [begins.acts]
    have kept := keeping.kept
    refine ⟨?_, ?_, ?_, ?_, kept.framed⟩
    · rw [begins.members]
      exact kept.root
    · rw [begins.members]
      exact kept.own
    · exact fun other message there => kept.ups other message (ups other there)
    · exact fun other message there => kept.downs other message (downs other there)
  size := begins.size keeping.size
  homes := begins.homes keeping.homes
  places := by
    intro thread owner one there
    rw [begins.acts]
    rcases begins.thread_cases there with ⟨rfl, rfl, rfl⟩ | there
    · exact ⟨one.todo, begins.began keeping.size, place⟩
    · obtain ⟨program, first, stands⟩ := keeping.places thread owner one there
      exact ⟨program, begins.began_of first, stands⟩
  lines := by
    rw [begins.acts]
    exact lines
  causal := by
    rw [begins.acts]
    exact keeping.causal
  said := by
    rw [begins.acts]
    exact keeping.said

/-- A thread begins that has to do with no message yet. -/
theorem Keeping.startsFresh (keeping : Keeping story) (begins : Begins story next fork strand)
    (up : next.tree.up = story.tree.up) (down : next.tree.down = story.tree.down)
    (place : KeyPlace story.acts story.tree.threads.length fork strand.todo strand.todo
      strand.value)
    (waits : strand.todo ≠ [.takeKey])
    (carried : ∀ other, strand.todo.filterMap (carries? other) = [])
    (returned : ∀ other, strand.todo.filterMap (returns? other) = []) : Keeping next := by
  refine keeping.starts begins (fun other => ?_) (fun other => ?_) place ?_
  · rw [up]
    exact List.Subset.refl _
  · rw [down]
    exact List.Subset.refl _
  · intro other apart
    obtain ⟨errand, fits⟩ := keeping.lines other apart
    refine ⟨errand, fits.alike (begins.alike keeping.size waits (carried other) ?_ ?_)⟩
    · rw [up]
    · rw [returned, down]
      exact List.Perm.refl _

theorem returns_handle (message : Message) (other : UInt32) :
    (Program.handle message).filterMap (returns? other) =
      if message.fork = other then [message] else [] := by
  change [Action.handle message, .answer .done].filterMap (returns? other) = _
  rw [filterMap_cons_toList]
  simp only [returns?]
  split <;> rfl

theorem carries_handleFork (message : Message) (other : UInt32) :
    (Program.handleFork message).filterMap (carries? other) =
      if message.fork = other then [message] else [] := by
  change [Action.handleFork message, .answer .done].filterMap (carries? other) = _
  rw [filterMap_cons_toList]
  simp only [carries?]
  split <;> rfl

/-- A fork begins with the first message that is on its way to it. -/
theorem Keeping.hears (keeping : Keeping story) {message : Message} {rest : List Message}
    (begins : Begins story next fork { todo := Program.handle message })
    (first : story.tree.down fork = message :: rest)
    (up : next.tree.up = story.tree.up)
    (down : ∀ other, next.tree.down other = if other = fork then rest else story.tree.down other) :
    Keeping next := by
  obtain ⟨apart, fits⟩ := keeping.kept.downs fork message (first ▸ List.mem_cons_self)
  have waits : Program.handle message ≠ [.takeKey] := by
    intro same
    cases same
  refine keeping.starts begins ?_ (subset_of_rest first down)
    (.hears apart fits (quiet_answer _) _) ?_
  · intro other
    rw [up]
    exact List.Subset.refl _
  · intro other foreign
    obtain ⟨errand, line⟩ := keeping.lines other foreign
    refine ⟨errand, line.alike (begins.alike keeping.size waits rfl (by rw [up]) ?_)⟩
    rw [returns_handle, fits.fork, down]
    by_cases same : other = fork
    · rw [if_pos same, if_pos same.symm, same, first]
      exact List.Perm.refl _
    · rw [if_neg same, if_neg (Ne.symm same)]
      exact List.Perm.refl _

/-- Who still carries a message of a fork began with that message. -/
theorem KeyPlace.carried {acts : List Act} {thread : Nat} {owner : UInt32}
    {program todo : Program} {reply : Reply}
    (place : KeyPlace acts thread owner program todo reply) {other : UInt32} {message : Message}
    (there : message ∈ todo.filterMap (carries? other)) :
    program = Program.handleFork message ∧ message.fork = other ∧ todo ≠ [] := by
  have nothing {rest : Program} (quiet : ∀ action ∈ rest, idle action = true) :
      message ∉ rest.filterMap (carries? other) := by
    rw [(carries_of_quiet quiet other).1]
    exact List.not_mem_nil
  have only {action : Action} {handled : Message} {rest : Program}
      (quiet : ∀ action ∈ rest, idle action = true)
      (same : carries? other action = if handled.fork = other then some handled else none)
      (there : message ∈ (action :: rest).filterMap (carries? other)) :
      message = handled ∧ handled.fork = other := by
    rw [filterMap_cons_toList, (carries_of_quiet quiet other).1, List.append_nil, same,
      Option.mem_toList] at there
    obtain ⟨own, equal⟩ := Option.ite_none_right_eq_some.mp there
    exact ⟨(Option.some.inj equal).symm, own⟩
  induction place with
  | attends _ _ _ quiet =>
    obtain ⟨rfl, own⟩ := only quiet rfl there
    exact ⟨rfl, own, nofun⟩
  | serves _ _ _ quiet =>
    obtain ⟨rfl, own⟩ := only quiet rfl there
    exact ⟨rfl, own, nofun⟩
  | enters _ _ ih =>
    obtain ⟨began, own, -⟩ := ih there
    exact ⟨began, own, nofun⟩
  | hears _ _ quiet => exact (nothing quiet there).elim
  | takesIn _ _ quiet => exact (nothing quiet there).elim
  | answers _ _ _ quiet => exact (nothing quiet there).elim
  | enrolls _ _ quiet => exact (nothing quiet there).elim
  | ends _ quiet => exact (nothing quiet there).elim
  | sets | gets | claims | takes | got | read => exact absurd there List.not_mem_nil

/-- The root has no message of a fork in hand when it is done with those that it began with. -/
theorem Keeping.inHand_of_done (keeping : Keeping story)
    (done : ∀ thread message, story.begun[thread]? = some (Program.handleFork message) →
      message.fork = fork → story.tree.Returned thread) : story.tree.inHand fork = [] := by
  rw [Tree.inHand, List.flatMap_eq_nil_iff]
  intro one there
  rw [List.eq_nil_iff_forall_not_mem]
  intro held member
  obtain ⟨thread, at_⟩ := List.mem_iff_getElem?.mp there
  obtain ⟨program, began, place⟩ := keeping.places thread one.1 one.2 at_
  obtain ⟨rfl, own, busy⟩ := place.carried member
  obtain ⟨same, there', returned⟩ := done thread held began own
  rw [at_] at there'
  cases there'
  exact busy returned

/-- The root begins with the first message of a fork when it is done with those before. -/
theorem Keeping.attends (keeping : Keeping story) {message : Message} {rest : List Message}
    (begins : Begins story next rootFork { todo := Program.handleFork message })
    (other : fork ≠ rootFork) (first : story.tree.up fork = message :: rest)
    (up : ∀ other, next.tree.up other = if other = fork then rest else story.tree.up other)
    (down : next.tree.down = story.tree.down)
    (done : ∀ thread message, story.begun[thread]? = some (Program.handleFork message) →
      message.fork = fork → story.tree.Returned thread) : Keeping next := by
  obtain ⟨-, fits⟩ := keeping.kept.ups fork message (first ▸ List.mem_cons_self)
  have free := keeping.inHand_of_done done
  have waits : Program.handleFork message ≠ [.takeKey] := by
    intro same
    cases same
  refine keeping.starts begins (subset_of_rest first up) ?_
    (.attends rfl other fits (quiet_answer _) _) ?_
  · intro one
    rw [down]
    exact List.Subset.refl _
  · intro one foreign
    obtain ⟨errand, line⟩ := keeping.lines one foreign
    by_cases same : one = fork
    · subst same
      refine ⟨errand, (line.attends free first).alike ?_⟩
      constructor
      case inHand =>
        change next.tree.inHand one = [message]
        rw [begins.inHand, free, carries_handleFork, if_pos fits.fork, List.nil_append]
      case up =>
        change next.tree.up one = rest
        rw [up, if_pos rfl]
      case back =>
        refine begins.back ?_
        rw [down]
        exact List.Perm.refl _
      case slot => exact begins.keySlot one
      case awaits => exact begins.awaits keeping.size waits one
    · refine ⟨errand, line.alike (begins.alike keeping.size waits ?_ ?_ ?_)⟩
      · rw [carries_handleFork, fits.fork, if_neg (Ne.symm same)]
      · rw [up, if_neg same]
      · rw [down]
        exact List.Perm.refl _

end

theorem Keeping.turn (keeping : Keeping story) {turn : Turn} (allowed : KeyTurn story turn)
    (taken : story.take? turn = some next) : Keeping next := by
  cases allowed with
  | act thread => exact keeping.act taken
  | set fork main framed =>
    obtain ⟨changed, began, rfl⟩ := Option.map_eq_some_iff.mp taken
    obtain ⟨context, here, rfl⟩ := Option.map_eq_some_iff.mp began
    exact keeping.startsFresh (begins_of_start ⟨context, here⟩ rfl rfl) rfl rfl
      (.sets framed _) nofun (fun _ => rfl) (fun _ => rfl)
  | get fork main framed =>
    obtain ⟨changed, began, rfl⟩ := Option.map_eq_some_iff.mp taken
    obtain ⟨context, here, rfl⟩ := Option.map_eq_some_iff.mp began
    exact keeping.startsFresh (begins_of_start ⟨context, here⟩ rfl rfl) rfl rfl
      (.gets framed _) nofun (fun _ => rfl) (fun _ => rfl)
  | register pid other =>
    obtain ⟨changed, began, rfl⟩ := Option.map_eq_some_iff.mp taken
    obtain ⟨context, here, rfl⟩ := Option.map_eq_some_iff.mp began
    exact keeping.startsFresh (begins_of_start ⟨context, here⟩ rfl rfl) rfl rfl
      (.enters (fun _ same => by cases same)
        (.enrolls rfl other (List.forall_mem_singleton.mpr rfl) _)) nofun (fun _ => rfl)
      (fun _ => rfl)
  | hear fork =>
    obtain ⟨changed, heard, rfl⟩ := Option.map_eq_some_iff.mp taken
    simp only [Tree.take?] at heard
    split at heard
    case h_1 context message rest here first =>
      cases heard
      exact keeping.hears (begins_of_start ⟨context, here⟩ rfl rfl) first rfl
        (down_setDown fork rest)
    case h_2 => cases heard
  | @attend fork done =>
    obtain ⟨changed, attended, rfl⟩ := Option.map_eq_some_iff.mp taken
    simp only [Tree.take?] at attended
    split at attended
    case h_1 message rest first =>
      split at attended
      case isTrue _ => cases attended
      case isFalse other =>
        cases attended
        obtain ⟨root, here, -⟩ := keeping.kept.root
        exact keeping.attends (begins_of_start ⟨root, here⟩ rfl rfl) other first
          (up_setUp fork rest) rfl done
    case h_2 => cases attended

end Tree

end Playback
