import Playback.Proofs.Tree.Following

set_option autoImplicit false

namespace Playback

namespace Tree

variable {tree : Tree}

/-- A story of a root and forks that follow its recording. -/
structure Coherent (story : Story) : Prop where
  fed : Fed story.tree
  size : story.begun.length = story.tree.threads.length
  places : ∀ (thread : Nat) (fork : UInt32) (strand : Strand),
    story.tree.threads[thread]? = some (fork, strand) →
    ∃ program, story.begun[thread]? = some program ∧
      Place story.tree.recorded fork program strand.todo
  said : ∀ act ∈ story.acts, ∀ message, act.message? = some message →
    ∃ program, story.begun[act.thread]? = some program ∧ Said program message
  /-- A thread that has sent a request waits for the length or has returned. -/
  sent : ∀ act ∈ story.acts, ∀ request, act.action = .send request →
    ∃ (fork : UInt32) (strand : Strand),
      story.tree.threads[act.thread]? = some (fork, strand) ∧ Waits strand.todo
  heard : ∀ act ∈ story.acts, act.fork ≠ rootFork → ∀ target start data,
    takenIn? act.action = some (.recordingData target start data) →
    start.toNat + data.length ≤ (story.tree.recorded act.fork).length

/-- A thread begins. -/
theorem Coherent.start {story : Story} (coherent : Coherent story) {changed : Tree}
    (fed : Fed changed) (threads : changed.threads = story.tree.threads)
    (members : changed.members = story.tree.members) {fork : UInt32} {strand : Strand}
    (place : Place changed.recorded fork strand.todo strand.todo) :
    Coherent
      { tree := changed.start fork strand
        begun := story.begun ++
          ((changed.start fork strand).threads.drop story.tree.threads.length).map
            fun one => one.2.todo
        acts := story.acts ++ [] } := by
  have known : changed.recorded = story.tree.recorded := by
    funext other
    rw [recorded, recorded, members]
  have news : (changed.start fork strand).threads.drop story.tree.threads.length =
      [(fork, strand)] := by
    change (changed.threads ++ [(fork, strand)]).drop _ = _
    rw [threads, List.drop_left]
  have all : (changed.start fork strand).threads = story.tree.threads ++ [(fork, strand)] := by
    rw [← threads]
    rfl
  have earlier : ∀ (thread : Nat) (program : Program), story.begun[thread]? = some program →
      (story.begun ++ [strand.todo])[thread]? = some program := by
    intro thread program there
    rw [List.getElem?_append_left (List.getElem?_eq_some_iff.mp there).1]
    exact there
  rw [news, List.append_nil]
  constructor
  case fed =>
    exact fed.setThreads _
  case size =>
    rw [all, List.map_singleton, List.length_append, List.length_append, coherent.size]
    rfl
  case places =>
    intro thread owner one there
    rw [all] at there
    by_cases old : thread < story.tree.threads.length
    · rw [List.getElem?_append_left old] at there
      obtain ⟨program, first, place⟩ := coherent.places thread owner one there
      refine ⟨program, earlier thread program first, ?_⟩
      change Place changed.recorded owner program one.todo
      rw [known]
      exact place
    · have last : thread = story.tree.threads.length := by
        have inside := (List.getElem?_eq_some_iff.mp there).1
        rw [List.length_append, List.length_singleton] at inside
        omega
      subst last
      rw [List.getElem?_concat_length] at there
      cases there
      refine ⟨strand.todo, ?_, place⟩
      rw [← coherent.size]
      exact List.getElem?_concat_length
  case said =>
    intro act there message passes
    obtain ⟨program, first, said⟩ := coherent.said act there message passes
    exact ⟨program, earlier act.thread program first, said⟩
  case sent =>
    intro act there request sends
    obtain ⟨owner, one, place, stands⟩ := coherent.sent act there request sends
    refine ⟨owner, one, ?_, stands⟩
    rw [all, List.getElem?_append_left (List.getElem?_eq_some_iff.mp place).1]
    exact place
  case heard =>
    intro act there other target begin data dispatch
    change _ ≤ (changed.recorded act.fork).length
    rw [known]
    exact coherent.heard act there other target begin data dispatch

theorem recorded_follow (index : Nat) (fork : UInt32) (strand : Strand) (rest : Program)
    (outcome : Outcome) :
    (tree.follow index fork strand rest outcome).recorded =
      (tree.setMember fork outcome.context).recorded := by
  have members := (foldl_post_inside fork outcome.effects
    ((tree.setMember fork outcome.context).setThread index fork
      { strand with todo := outcome.next ++ rest, value := outcome.value.getD strand.value })).2
  funext other
  rw [recorded, follow, members]
  rfl

/-- A thread takes an action. -/
theorem Coherent.act {story next : Story} (coherent : Coherent story) {index : Nat}
    (taken : story.take? (.act index) = some next) : Coherent next := by
  obtain ⟨fork, strand, context, action, rest, outcome, there, here, todo, step, tree, begun,
    acts⟩ := act_eq_some taken
  obtain ⟨program, began, place⟩ := coherent.places index fork strand there
  rw [todo] at place
  have steps := coherent.fed.steps here place step
  have quiet : story.tree.perform (performed fork action) = story.tree := by
    rw [place.silent, perform, List.append_nil]
  rw [quiet] at tree
  have threads := @threads_follow story.tree index fork strand rest outcome
  have known := @recorded_follow story.tree index fork strand rest outcome
  rw [← tree] at threads known
  have grows : Grows story.tree.recorded next.tree.recorded := by
    rw [known]
    refine grows_setMember here ?_
    rw [← recorded_of_member here]
    exact steps.longer
  obtain ⟨later, goesOn⟩ : ∃ later : Strand, later =
    { strand with todo := outcome.next ++ rest, value := outcome.value.getD strand.value } :=
      ⟨_, rfl⟩
  have own : next.tree.threads[index]? = some (fork, later) := by
    rw [threads, List.getElem?_set_self (List.getElem?_eq_some_iff.mp there).1, goesOn]
  have others : ∀ thread : Nat, thread ≠ index →
      next.tree.threads[thread]? = story.tree.threads[thread]? := by
    intro thread apart
    rw [threads, List.getElem?_set_ne (Ne.symm apart)]
  constructor
  case fed =>
    rw [tree]
    exact steps.fed index strand
  case size =>
    rw [begun, threads, List.length_set]
    exact coherent.size
  case places =>
    intro thread owner one at_
    rw [begun]
    by_cases same : thread = index
    · rw [same, own] at at_
      cases at_
      refine ⟨program, same ▸ began, ?_⟩
      rw [known, goesOn]
      exact steps.place
    · rw [others thread same] at at_
      obtain ⟨first, began, stands⟩ := coherent.places thread owner one at_
      exact ⟨first, began, stands.grows grows⟩
  case said =>
    intro act member message passes
    rw [acts] at member
    rw [begun]
    rcases List.mem_append.mp member with old | new
    · exact coherent.said act old message passes
    · rw [List.mem_singleton.mp new] at passes ⊢
      exact ⟨program, began, place.said (recorded_of_member here) passes⟩
  case sent =>
    intro act member request sends
    rw [acts] at member
    rcases List.mem_append.mp member with old | new
    · obtain ⟨owner, one, at_, waits⟩ := coherent.sent act old request sends
      by_cases same : act.thread = index
      · rw [same, there] at at_
        cases at_
        rw [todo] at waits
        rw [same]
        exact ⟨fork, later, own, goesOn ▸ waits.step step⟩
      · refine ⟨owner, one, ?_, waits⟩
        rw [others act.thread same]
        exact at_
    · rw [List.mem_singleton.mp new] at sends ⊢
      cases sends
      cases Option.some.inj step
      exact ⟨fork, later, own, goesOn ▸ place.waits_behind⟩
  case heard =>
    intro act member other target start data dispatch
    rw [acts] at member
    rcases List.mem_append.mp member with old | new
    · exact (coherent.heard act old other target start data dispatch).trans
        (grows act.fork).length_le
    · rw [List.mem_singleton.mp new] at other dispatch ⊢
      dsimp only
      rw [known, recorded_setMember, if_pos rfl]
      exact steps.heard other target start data dispatch

theorem idle_answer (reply : Reply) : ∀ action ∈ [Action.answer reply], idle action = true :=
  List.forall_mem_singleton.mpr rfl

theorem Coherent.turn {story next : Story} (coherent : Coherent story) {turn : Turn}
    (allowed : PullTurn turn) (taken : story.take? turn = some next) : Coherent next := by
  have fed := coherent.fed
  cases allowed with
  | act thread => exact coherent.act taken
  | ensure fork main length =>
    obtain ⟨changed, began, rfl⟩ := Option.map_eq_some_iff.mp taken
    obtain ⟨context, -, rfl⟩ := Option.map_eq_some_iff.mp began
    exact coherent.start fed rfl rfl (.asks length)
  | append main data =>
    obtain ⟨changed, began, rfl⟩ := Option.map_eq_some_iff.mp taken
    obtain ⟨context, -, rfl⟩ := Option.map_eq_some_iff.mp began
    exact coherent.start fed rfl rfl (.appends rfl data)
  | chunk offset data =>
    obtain ⟨changed, began, rfl⟩ := Option.map_eq_some_iff.mp taken
    obtain ⟨context, -, rfl⟩ := Option.map_eq_some_iff.mp began
    exact coherent.start fed rfl rfl (.hears (.news rfl offset data) (idle_answer _))
  | register pid other =>
    obtain ⟨changed, began, rfl⟩ := Option.map_eq_some_iff.mp taken
    obtain ⟨context, -, rfl⟩ := Option.map_eq_some_iff.mp began
    exact coherent.start fed rfl rfl
      (.enters (.enrolls rfl other (List.forall_mem_singleton.mpr rfl)))
  | hear fork =>
    obtain ⟨changed, heard, rfl⟩ := Option.map_eq_some_iff.mp taken
    simp only [Tree.take?] at heard
    split at heard
    case h_1 context message rest there first =>
      cases heard
      have feeds := first ▸ fed.downs fork
      obtain ⟨feed, later⟩ := List.forall_mem_cons.mp feeds
      exact coherent.start (fed.setDown later) rfl rfl (.hears feed (idle_answer _))
    case h_2 => cases heard
  | attend fork =>
    obtain ⟨changed, attended, rfl⟩ := Option.map_eq_some_iff.mp taken
    simp only [Tree.take?] at attended
    split at attended
    case h_1 message rest first =>
      split at attended
      case isTrue _ => cases attended
      case isFalse other =>
        cases attended
        have requests := first ▸ fed.ups fork
        obtain ⟨⟨-, request⟩, later⟩ := List.forall_mem_cons.mp requests
        exact coherent.start (fed.setUp later) rfl rfl
          (.attends rfl other request (idle_answer _))
    case h_2 => cases attended

theorem Aligned.fed (aligned : tree.Aligned) : Fed tree := by
  obtain ⟨root, here, own, nothing, handles⟩ := aligned.root
  refine ⟨⟨root, here, handles, ?_⟩, ?_, ?_, ?_, ?_⟩
  · rw [nothing]
    exact List.forall_mem_nil _
  · intro fork context there
    by_cases top : fork = rootFork
    · rw [top] at there ⊢
      rw [here] at there
      cases there
      exact ⟨own, absurd rfl⟩
    · obtain ⟨same, channel, -⟩ := aligned.forks fork context top there
      exact ⟨same, fun _ => channel⟩
  · intro fork context other there
    exact (aligned.forks fork context other there).2.2
  · intro fork
    rw [aligned.ups]
    exact List.forall_mem_nil _
  · intro fork
    rw [aligned.downs]
    exact List.forall_mem_nil _

theorem Story.Told.coherent {story : Story} (told : story.Told) : Coherent story := by
  induction told with
  | begins aligned =>
    refine ⟨aligned.fed, ?_, ?_, ?_, ?_, ?_⟩
    · rw [aligned.still]
      rfl
    · intro thread fork strand there
      rw [aligned.still] at there
      cases there
    all_goals exact fun _ there => absurd there List.not_mem_nil
  | turn _ allowed taken ih => exact ih.turn allowed taken

/-! What a fork gets -/

/-- Whoever calls for a length returns when the fork has it. -/
theorem Coherent.length_le {story : Story} (coherent : Coherent story) {thread : Nat}
    {fork : UInt32} {length : UInt64} (calls : story.Calls thread fork length)
    (returned : story.tree.Returned thread) :
    length.toNat ≤ (story.tree.recorded fork).length := by
  obtain ⟨began, strand, there⟩ := calls
  obtain ⟨one, same, done⟩ := returned
  rw [there] at same
  cases same
  obtain ⟨program, first, place⟩ := coherent.places thread fork strand there
  rw [began] at first
  cases first
  generalize strand.todo = todo at done place
  subst done
  cases place with
  | returned enough => exact enough
  | ends apart _ => exact absurd rfl (apart length)

theorem Said.request_eq {length : UInt64} {message : Message}
    (said : Said [.ensureLength length] message) :
    ∃ owner start, message = .updateRecording owner start length := by
  cases said with
  | request owner start => exact ⟨owner, start, rfl⟩

theorem Said.answer_eq {fork : UInt32} {start stop : UInt64} {message : Message}
    (said : Said (Program.handleFork (.updateRecording fork start stop)) message) :
    ∃ data, message = .recordingData fork start data ∧
      start.toNat + data.length = stop.toNat := by
  generalize same : Program.handleFork (.updateRecording fork start stop) = program at said
  cases said with
  | request => cases same
  | answer reaches =>
    cases same
    exact ⟨_, rfl, reaches⟩

/-- A thread that waits for a length which its process has reached can return. -/
theorem canReturn_of_waits {thread : Nat} {fork : UInt32} {strand : Strand} {context : Context}
    {length : UInt64} (there : tree.threads[thread]? = some (fork, strand))
    (here : tree.members fork = some context) (todo : strand.todo = [.awaitLength length])
    (enough : length.toNat ≤ context.recording.contents.length) : tree.CanReturn thread := by
  have step : context.step strand.main strand.value {} (.awaitLength length) = some { context } :=
    if_pos enough
  have acts : tree.take? (.act thread) =
      some (((tree.perform []).setMember fork context).setThread thread fork
        { strand with todo := [] }) := by
    simp [take?, act?, there, here, todo, step, performed]
  refine Or.inr ⟨_, acts, (fork, { strand with todo := [] }), ?_, rfl⟩
  exact List.getElem?_set_self (List.getElem?_eq_some_iff.mp there).1

/-- The recording of a fork is always a beginning of that of its root, and no answer of the root has
ever been deferred. A call for a length returns only when the fork has it, and it can return once the
root's answer to its request has been taken in. -/
theorem fork_follows_root {story : Story} (told : story.Told) {fork : UInt32}
    (other : fork ≠ rootFork) {root own : Context}
    (above : story.tree.members rootFork = some root)
    (here : story.tree.members fork = some own) :
    own.recording.contents <+: root.recording.contents ∧ own.recording.deferred = [] ∧
      (∀ thread length, story.Calls thread fork length → story.tree.Returned thread →
        length.toNat ≤ own.recording.contents.length) ∧
      ∀ thread length request server answer, story.Calls thread fork length →
        story.Asked thread request → story.Answered server request answer →
        story.Delivered fork answer → story.tree.CanReturn thread := by
  have coherent := told.coherent
  have known := recorded_of_member here
  obtain ⟨before, nothing⟩ := coherent.fed.follows fork own other here
  rw [recorded_of_member above] at before
  refine ⟨before, nothing, ?_, ?_⟩
  · intro thread length calls returned
    rw [← known]
    exact coherent.length_le calls returned
  · intro thread length request server answer calls asked answered delivered
    obtain ⟨began, strand, there⟩ := calls
    obtain ⟨asks, askedBefore, rfl, sends⟩ := asked
    obtain ⟨handles, answers, answeredBefore, rfl, passes⟩ := answered
    obtain ⟨hears, heardBefore, rfl, dispatches⟩ := delivered
    -- The request and its answer end at the length that was called for.
    have sent : asks.message? = some request := by rw [Act.message?, sends]
    obtain ⟨program, first, said⟩ := coherent.said asks askedBefore request sent
    rw [began] at first
    cases first
    obtain ⟨owner, start, rfl⟩ := said.request_eq
    obtain ⟨program, first, said⟩ := coherent.said answers answeredBefore answer passes
    rw [handles] at first
    cases first
    obtain ⟨data, rfl, reaches⟩ := said.answer_eq
    have enough := coherent.heard hears heardBefore other owner start data dispatches
    rw [reaches, known] at enough
    -- The thread has nothing to do but to wait for that length.
    obtain ⟨process, one, same, waits⟩ := coherent.sent asks askedBefore _ sends
    rw [there] at same
    cases same
    obtain ⟨program, first, place⟩ := coherent.places asks.thread hears.fork strand there
    rw [began] at first
    cases first
    rcases waits with done | ⟨awaited, todo⟩
    · exact Or.inl ⟨_, there, done⟩
    · rw [todo] at place
      cases place with
      | waits => exact canReturn_of_waits there here todo enough
      | ends apart _ => exact absurd rfl (apart length)

theorem Story.Told.play {story next : Story} (told : story.Told) {turns : List Turn}
    (allowed : ∀ turn ∈ turns, PullTurn turn) (played : story.play turns = some next) :
    next.Told := by
  induction turns generalizing story with
  | nil =>
    cases played
    exact told
  | cons turn turns ih =>
    obtain ⟨middle, taken, rest⟩ := Option.bind_eq_some_iff.mp played
    obtain ⟨now, later⟩ := List.forall_mem_cons.mp allowed
    exact ih (.turn told now taken) later rest

/-- A root that has three bytes, and a fork that has none of them. -/
def behind : Tree where
  members fork :=
    if fork = rootFork then
      some { config := {}, recording := { contents := [1, 2, 3] }
             forks := { processes := [(1, { pid := 11, handle := 1 })] } }
    else if fork = 1 then some { config := {}, fork := 1, channel := some upstream }
    else none

theorem behind_aligned : behind.Aligned := by
  refine ⟨⟨_, rfl, rfl, rfl, ?_⟩, ?_, rfl, fun _ => rfl, fun _ => rfl⟩
  · intro fork process present
    simp only [ForkTable.process?, List.lookup_cons, List.lookup_nil] at present
    split at present
    case h_1 same =>
      cases present
      rw [beq_iff_eq.mp same]
      rfl
    case h_2 => cases present
  · intro fork own other there
    by_cases one : fork = 1
    · subst one
      cases there
      exact ⟨rfl, rfl, List.nil_prefix, rfl⟩
    · have nobody : behind.members fork = none := by
        simp only [behind, if_neg other, if_neg one]
      rw [nobody] at there
      cases there

/-- The fork asks for two bytes, the root answers, and the fork takes the answer in. -/
def pulling : List Turn :=
  (.begin 1 false [.ensureLength 2] :: acts 0 2) ++ (.attend 1 :: acts 1 6) ++
    (.hear 1 :: acts 2 3)

theorem pulling_allowed : ∀ turn ∈ pulling, PullTurn turn := by
  have acting (thread count : Nat) : ∀ turn ∈ acts thread count, PullTurn turn := by
    intro turn there
    rw [List.eq_of_mem_replicate there]
    exact .act thread
  simp only [pulling, List.forall_mem_append, List.forall_mem_cons]
  exact ⟨⟨⟨.ensure 1 false 2, acting 0 2⟩, .attend 1, acting 1 6⟩, .hear 1, acting 2 3⟩

theorem pulling_plays : (({ tree := behind } : Story).play pulling).isSome = true := by
  decide +kernel

def pulled : Story := (({ tree := behind } : Story).play pulling).get pulling_plays

theorem pulled_told : pulled.Told :=
  Story.Told.play (.begins behind_aligned) pulling_allowed (Option.some_get pulling_plays).symm

theorem fork_pulls_two_bytes : pulled.Told ∧ pulled.Calls 0 1 2 ∧
    pulled.Asked 0 (.updateRecording 1 0 2) ∧
    pulled.Answered 1 (.updateRecording 1 0 2) (.recordingData 1 0 [1, 2]) ∧
    pulled.Delivered 1 (.recordingData 1 0 [1, 2]) ∧ pulled.tree.CanReturn 0 ∧
    pulled.tree.recorded 1 = [1, 2] := by
  have calls : pulled.Calls 0 1 2 := ⟨rfl, _, rfl⟩
  have asked : pulled.Asked 0 (.updateRecording 1 0 2) :=
    ⟨_, List.mem_of_getElem? (i := 1) rfl, rfl, rfl⟩
  have answered : pulled.Answered 1 (.updateRecording 1 0 2) (.recordingData 1 0 [1, 2]) :=
    ⟨rfl, _, List.mem_of_getElem? (i := 7) rfl, rfl, rfl⟩
  have delivered : pulled.Delivered 1 (.recordingData 1 0 [1, 2]) :=
    ⟨_, List.mem_of_getElem? (i := 10) rfl, rfl, rfl⟩
  have other : (1 : UInt32) ≠ rootFork := by decide
  obtain ⟨-, -, -, returns⟩ := fork_follows_root pulled_told other rfl rfl
  exact ⟨pulled_told, calls, asked, answered, delivered,
    returns 0 2 _ 1 _ calls asked answered delivered, by decide +kernel⟩

end Tree

end Playback
