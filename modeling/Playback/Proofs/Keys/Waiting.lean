import Playback.Proofs.Keys.Turns

set_option autoImplicit false

namespace Playback

namespace Tree

variable {story : Story}

/-- Nothing goes on. -/
def Story.Still (story : Story) : Prop :=
  ∀ turn, Onward turn → KeyTurn story turn → story.take? turn = none

/-- What is left for a thread to do that cannot go on. -/
inductive Stuck (owner : UInt32) (slot : Slot String) : Program → Program → Prop where
  | returned (program : Program) : Stuck owner slot program []
  | claims {key : String} (other : owner ≠ rootFork) (request : Message)
      (taken : slot.waiting = true) :
      Stuck owner slot [.getKey key] [.claimKey request, .takeKey]
  | takes {key : String} (other : owner ≠ rootFork) (lacks : slot.response = none) :
      Stuck owner slot [.getKey key] [.takeKey]

/-- A thread can go on, or it waits for the slot or for the response in it. -/
theorem KeyPlace.goes_or_stuck {acts : List Act} {thread : Nat} {owner : UInt32}
    {program rest : Program} {action : Action} {reply : Reply}
    (place : KeyPlace acts thread owner program (action :: rest) reply) {context : Context}
    (unlocked : context.lock.isWriteLocked = false) (main : Bool) (value : Reply) :
    (∃ outcome, context.step main value {} action = some outcome) ∨
      Stuck owner context.keys.slot program (action :: rest) := by
  cases place with
  | @claims key other framed =>
    cases taken : context.keys.slot.waiting with
    | true => exact Or.inr (.claims other _ taken)
    | false =>
      have claimed : context.keys.slot.claim? = some { waiting := true } :=
        if_neg (by rw [taken]; exact Bool.false_ne_true)
      refine Or.inl (Option.isSome_iff_exists.mp ?_)
      change (context.claimKey main _).isSome = true
      rw [Context.claimKey, claimed]
      rfl
  | takes other =>
    cases there : context.keys.slot.response with
    | none => exact Or.inr (.takes other there)
    | some text =>
      refine Or.inl (Option.isSome_iff_exists.mp ?_)
      change context.takeKey.isSome = true
      rw [Context.takeKey, Slot.take?, there]
      rfl
  | enters apart place =>
    have entered : context.lock.enter? = some { word := context.lock.word + 1 } :=
      if_neg (by rw [unlocked]; exact Bool.false_ne_true)
    refine Or.inl (Option.isSome_iff_exists.mp ?_)
    change (context.lock.enter?.map _).isSome = true
    rw [entered]
    rfl
  | ends apart quiet =>
    have idles := (List.forall_mem_cons.mp quiet).1
    cases action <;> cases idles <;> exact Or.inl ⟨_, rfl⟩
  | sets | gets | hears | takesIn | attends | serves | answers | enrolls => exact Or.inl ⟨_, rfl⟩

theorem Stuck.idle {owner : UInt32} {slot : Slot String} {program todo : Program}
    (stuck : Stuck owner slot program todo) (fork : UInt32) :
    todo.filterMap (carries? fork) = [] ∧ todo.filterMap (returns? fork) = [] := by
  cases stuck <;> exact ⟨rfl, rfl⟩

theorem Keeping.stuck (keeping : Keeping story) (connected : story.tree.Connected)
    (still : story.Still) {thread : Nat} {fork : UInt32} {strand : Strand}
    (there : story.tree.threads[thread]? = some (fork, strand)) :
    ∃ program, story.begun[thread]? = some program ∧
      Stuck fork (story.tree.keySlot fork) program strand.todo := by
  obtain ⟨program, began, place⟩ := keeping.places thread fork strand there
  obtain ⟨context, here⟩ := keeping.homes thread fork strand there
  refine ⟨program, began, ?_⟩
  cases todo : strand.todo with
  | nil => exact .returned program
  | cons action rest =>
    rw [todo] at place
    rw [keySlot_of_member here]
    rcases place.goes_or_stuck (connected.unlocked fork context here) strand.main strand.value with
      ⟨outcome, step⟩ | stuck
    · exact absurd (still (.act thread) (.act thread) (.act thread)) (take_act there here todo step)
    · exact stuck

/-- When nothing goes on, the root is done with all messages of forks that it has begun with. -/
theorem Keeping.handled_of_still (keeping : Keeping story) (connected : story.tree.Connected)
    (still : story.Still) {thread : Nat} {message : Message}
    (began : story.begun[thread]? = some (Program.handleFork message)) :
    story.tree.Returned thread := by
  have inside := (List.getElem?_eq_some_iff.mp began).1
  rw [keeping.size] at inside
  have there := List.getElem?_eq_getElem inside
  obtain ⟨program, first, stuck⟩ := keeping.stuck connected still there
  rw [began] at first
  cases first
  refine ⟨_, there, ?_⟩
  generalize story.tree.threads[thread].2.todo = todo at stuck
  cases stuck
  rfl

/-- When nothing goes on, nothing is on its way. -/
theorem Keeping.ways_of_still (keeping : Keeping story) (connected : story.tree.Connected)
    (still : story.Still) {fork : UInt32} (other : fork ≠ rootFork) {context : Context}
    (here : story.tree.members fork = some context) :
    story.tree.inHand fork = [] ∧ story.tree.up fork = [] ∧ story.tree.back fork = [] := by
  have idle : ∀ one ∈ story.tree.threads, one.2.todo.filterMap (carries? fork) = [] ∧
      one.2.todo.filterMap (returns? fork) = [] := by
    intro one there
    obtain ⟨thread, at_⟩ := List.mem_iff_getElem?.mp there
    obtain ⟨program, -, stuck⟩ := keeping.stuck connected still at_
    exact stuck.idle fork
  have up : story.tree.up fork = [] := by
    cases waiting : story.tree.up fork with
    | nil => rfl
    | cons message rest =>
      have allowed : KeyTurn story (.attend fork) :=
        .attend fun _ _ began _ => keeping.handled_of_still connected still began
      have taken := still (.attend fork) (.attend fork) allowed
      simp [Story.take?, Tree.take?, waiting, other] at taken
  have down : story.tree.down fork = [] := by
    cases waiting : story.tree.down fork with
    | nil => rfl
    | cons message rest =>
      have taken := still (.hear fork) (.hear fork) (.hear fork)
      simp [Story.take?, Tree.take?, waiting, here] at taken
  have held : story.tree.held fork = [] := by
    obtain ⟨root, top, shelf, -⟩ := keeping.kept.root
    have known := connected.registered root top fork context other here
    obtain ⟨process, present⟩ := Option.isSome_iff_exists.mp known
    rw [held_of_root top]
    exact shelf.clear fork process present
  refine ⟨?_, up, ?_⟩
  · rw [Tree.inHand, List.flatMap_eq_nil_iff]
    exact fun one there => (idle one there).1
  · rw [Tree.back, held, down, List.append_nil, List.append_nil, List.flatMap_eq_nil_iff]
    exact fun one there => (idle one there).2

/-- When nothing goes on, every thread has returned. -/
theorem Keeping.returned_of_still (keeping : Keeping story) (connected : story.tree.Connected)
    (still : story.Still) {thread : Nat} {fork : UInt32} {strand : Strand}
    (there : story.tree.threads[thread]? = some (fork, strand)) : strand.todo = [] := by
  obtain ⟨program, began, stuck⟩ := keeping.stuck connected still there
  by_contra busy
  obtain ⟨context, here⟩ := keeping.homes thread fork strand there
  generalize same : strand.todo = todo at stuck busy
  have other : fork ≠ rootFork := by
    cases stuck with
    | returned => exact absurd rfl busy
    | claims other _ _ => exact other
    | takes other _ => exact other
  obtain ⟨inHand, up, back⟩ := keeping.ways_of_still connected still other here
  obtain ⟨errand, fits⟩ := keeping.lines fork other
  have slot : story.tree.keySlot fork = errand.slot := fits.slot
  have nothing : (story.ways fork).inHand ++ (story.ways fork).up = [] :=
    List.append_eq_nil_iff.mpr ⟨inHand, up⟩
  have requests := fits.requests
  rw [nothing] at requests
  have responses : [] = (errand.response? fork).toList := back.symm.trans fits.back
  cases errand with
  | asked => cases requests
  | served => cases responses
  | idle =>
    rw [slot] at stuck
    cases stuck with
    | returned => exact busy rfl
    | claims _ _ taken => cases taken
    | takes => cases (fits.awaits thread _).mp ⟨began, strand, there, same⟩
  | answered asker key value =>
    obtain ⟨-, one, at_, todo⟩ := (fits.awaits asker key).mpr rfl
    obtain ⟨first, -, waits⟩ := keeping.stuck connected still at_
    rw [slot, todo] at waits
    cases waits with
    | takes _ lacks => cases lacks

end Tree

end Playback
