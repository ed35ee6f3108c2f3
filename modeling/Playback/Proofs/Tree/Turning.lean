import Playback.Proofs.Tree.Acts

set_option autoImplicit false

namespace Playback

namespace Tree

variable {tree : Tree} {asked : UInt32 → Option CallId}

theorem Sane.begin (sane : Sane tree asked) {fork : UInt32} {main : Bool} {program : Program}
    (sound : ∀ action ∈ program, Sound tree.knowledge asked fork action)
    (idle : ∀ other, errands fork other program = 0) :
    Sane (tree.start fork { main, todo := program }) asked := by
  refine sane.start sound ?_ (Sound.taking sound)
  intro other
  rw [idle]
  exact (sane.fits other).errands

theorem CallUse.sound {program : Program} (use : CallUse program) (known : Knowledge)
    (asked : UInt32 → Option CallId) (fork : UInt32) :
    (∀ action ∈ program, Sound known asked fork action) ∧
      ∀ other, errands fork other program = 0 := by
  cases use with
  | call id input output =>
    refine ⟨List.forall_mem_cons.mpr ⟨.lookupCall id input, ?_⟩, fun _ => rfl⟩
    exact List.forall_mem_singleton.mpr (.performUnlessKnown id input output)
  | request id input => exact ⟨List.forall_mem_singleton.mpr (.lookupCall id input), fun _ => rfl⟩
  | publish id output =>
    exact ⟨List.forall_mem_singleton.mpr (.publishCall id output), fun _ => rfl⟩

theorem Sane.hear (sane : Sane tree asked) {fork : UInt32} {message : Message}
    {rest : List Message} (first : tree.down fork = message :: rest) :
    Sane ((tree.setDown fork rest).start fork { todo := Program.handle message }) asked := by
  have down := sane.downs fork message (first ▸ List.mem_cons_self)
  refine (sane.fewerDown (first ▸ List.sublist_cons_self message rest)).start ?_ ?_ ?_
  · exact List.forall_mem_cons.mpr ⟨.handle down, List.forall_mem_singleton.mpr (.answer _)⟩
  · intro other
    have flight := inFlight_setDown tree fork rest other
    have one : errands fork other (Program.handle message) = if fork = other then 1 else 0 := rfl
    have fits : tree.inFlight other + filled (tree.slot other) ≤ (tree.slot other).waiting.toNat :=
      (sane.fits other).errands
    change _ + _ + filled (tree.slot other) ≤ (tree.slot other).waiting.toNat
    rw [first, List.length_cons] at flight
    dsimp only
    rw [one]
    by_cases same : other = fork
    · rw [if_pos same, if_pos same] at flight
      rw [if_pos same.symm]
      omega
    · rw [if_neg same, if_neg same] at flight
      rw [if_neg (Ne.symm same)]
      omega
  · exact fun _ => rfl

theorem Sane.attend (sane : Sane tree asked) {fork : UInt32} (other : fork ≠ rootFork)
    {message : Message} {rest : List Message} (first : tree.up fork = message :: rest) :
    Sane ((tree.setUp fork rest).start rootFork { todo := Program.handleFork message }) asked := by
  have up := sane.ups fork message (first ▸ List.mem_cons_self)
  refine (sane.fewerUp (first ▸ List.sublist_cons_self message rest)).start ?_ ?_ ?_
  · exact List.forall_mem_cons.mpr
      ⟨.handleFork rfl other up, List.forall_mem_singleton.mpr (.answer _)⟩
  · intro one
    have flight := inFlight_setUp tree fork rest one
    have errand : errands rootFork one (Program.handleFork message) =
      if message.fork = one ∧ isRequest message then 1 else 0 := rfl
    have fits : tree.inFlight one + filled (tree.slot one) ≤ (tree.slot one).waiting.toNat :=
      (sane.fits one).errands
    change _ + _ + filled (tree.slot one) ≤ (tree.slot one).waiting.toNat
    rw [first, List.countP_cons] at flight
    dsimp only
    rw [errand, up.fork]
    by_cases same : one = fork
    · subst same
      rw [if_pos rfl, if_pos rfl] at flight
      cases request : isRequest message with
      | true =>
        rw [request, if_pos rfl] at flight
        rw [if_pos ⟨rfl, rfl⟩]
        omega
      | false =>
        rw [request, if_neg Bool.false_ne_true] at flight
        rw [if_neg fun both => Bool.false_ne_true both.2]
        omega
    · rw [if_neg same, if_neg same] at flight
      rw [if_neg fun both => same both.1.symm]
      omega
  · exact fun _ => rfl

theorem Upward.asks {known : Knowledge} {asked : Option CallId} {fork : UInt32} {id : CallId}
    {input : Bytes} (upward : Upward known asked fork (.externalCallRequest fork id.number input)) :
    asked = some id := by
  generalize same : Message.externalCallRequest fork id.number input = message at upward
  cases upward with
  | @request other _ asks =>
    have number : id.number = other.number := by
      injection same with _ _ _ payload
      injection payload
    rw [asks, CallId.number_inj number]
  | report _ => injection same with _ kind; cases kind

/-- The middleman answers the request of the root. -/
theorem Sane.reply (sane : Sane tree asked) {id : CallId} {input : Bytes} {rest : List Message}
    (first : tree.up rootFork = .externalCallRequest rootFork id.number input :: rest)
    {message : Message} (answers : Answers rootFork id message) :
    Sane (((tree.setUp rootFork rest).setDown rootFork
      (tree.down rootFork ++ [message])).perform (told message)) asked := by
  have asks : asked rootFork = some id :=
    (sane.ups rootFork _ (first ▸ List.mem_cons_self)).asks
  have known := sane.perform (told message)
  have down :
      Downward (tree.perform (told message)).knowledge (asked rootFork) rootFork message := by
    cases answers with
    | available output =>
      refine .available asks (.ofPerformed ?_)
      have performed : told (.externalCallResponse rootFork id.number output) =
          [{ fork := rootFork, id, output }] := by
        simp only [told, Message.externalCallResponse, CallId.ofNumber?_number, Option.map_some,
          Option.toList_some]
      rw [performed]
      exact List.mem_append_right _ List.mem_cons_self
    | unavailable => exact .unavailable
  have taken := known.fewerUp (first ▸ List.sublist_cons_self _ rest)
  refine taken.sendsDown (List.forall_mem_singleton.mpr down) ?_
  have flight := inFlight_setUp (tree.perform (told message)) rootFork rest rootFork
  have before : (tree.perform (told message)).up rootFork =
      .externalCallRequest rootFork id.number input :: rest := first
  rw [before, List.countP_cons_of_pos rfl, if_pos rfl, if_pos rfl] at flight
  have fits := (known.fits rootFork).errands
  change _ + 1 + filled ((tree.perform (told message)).slot rootFork) ≤
    ((tree.perform (told message)).slot rootFork).waiting.toNat
  omega

theorem Sane.turn (sane : Sane tree asked) {next : Tree} {turn : Turn}
    (allowed : CallTurn tree turn) (taken : tree.take? turn = some next) :
    ∃ asked, Sane next asked := by
  cases allowed with
  | use fork main use =>
    obtain ⟨sound, idle⟩ := use.sound tree.knowledge asked fork
    obtain ⟨context, -, rfl⟩ := Option.map_eq_some_iff.mp taken
    exact ⟨asked, sane.begin sound idle⟩
  | register pid other =>
    obtain ⟨context, -, rfl⟩ := Option.map_eq_some_iff.mp taken
    exact ⟨asked, sane.begin (Sound.register pid rfl other).guarded (errands_guarded _ · _)⟩
  | act thread => exact sane.act taken
  | hear fork =>
    simp only [take?] at taken
    split at taken
    case h_1 first =>
      cases taken
      exact ⟨asked, sane.hear first⟩
    case h_2 => cases taken
  | attend fork =>
    simp only [take?] at taken
    split at taken
    case h_1 first =>
      split at taken
      case isTrue _ => cases taken
      case isFalse other =>
        cases taken
        exact ⟨asked, sane.attend other first⟩
    case h_2 => cases taken
  | answer first answers =>
    rw [take?, first] at taken
    cases taken
    refine ⟨asked, ?_⟩
    rw [Option.toList_some, List.flatMap_singleton]
    exact sane.reply first answers
  | ignore =>
    simp only [take?] at taken
    split at taken
    case h_1 rest first =>
      cases taken
      have fewer := sane.fewerUp (first ▸ List.sublist_cons_self _ rest)
      refine ⟨asked, (fewer.fewerDown ?_).perform _⟩
      rw [Option.toList_none, List.append_nil]
      exact List.Sublist.refl _
    case h_2 => cases taken
  | duplicate parent fork =>
    simp only [take?] at taken
    split at taken
    case h_1 there new =>
      cases taken
      exact ⟨asked, sane.join there new⟩
    case h_2 => cases taken
  | loseUp fork position =>
    cases taken
    exact ⟨asked, sane.fewerUp (List.eraseIdx_sublist ..)⟩
  | loseDown fork position =>
    cases taken
    exact ⟨asked, sane.fewerDown (List.eraseIdx_sublist ..)⟩

/-- A root that is alone. -/
theorem sane_ofRoot {root : Context} (own : root.fork = rootFork)
    (connected : root.channel = some upstream) (nothing : root.calls = {})
    (alone : root.forks = {}) : Sane (ofRoot root) fun _ => none := by
  have members : ∀ fork, (ofRoot root).members fork =
      if fork = rootFork then some root else none := by
    intro fork
    exact Function.update_apply (fun _ => none) rootFork (some root) fork
  have slots : ∀ fork, (ofRoot root).slot fork = {} := by
    intro fork
    rw [slot, members]
    split
    case isTrue _ => rw [Option.map_some, Option.getD_some, nothing]
    case isFalse _ => rfl
  have flight : ∀ fork, (ofRoot root).inFlight fork = 0 := by
    intro fork
    have held : (ofRoot root).heldFor fork = 0 := by
      rw [heldFor, members, if_pos rfl, Option.map_some, Option.getD_some, alone]
      rfl
    rw [inFlight, held]
    rfl
  refine ⟨⟨root, ?_, ?_, ?_⟩, ?_, ?_, ?_, ?_, ?_, ?_, ?_⟩
  · rw [members, if_pos rfl]
  · intro fork process present
    rw [alone] at present
    cases present
  · intro message there
    rw [alone] at there
    cases there
  · intro fork context there
    rw [members] at there
    split at there
    case isTrue same =>
      cases there
      exact ⟨own.trans same.symm, connected⟩
    case isFalse _ => cases there
  · intro fork id output known
    rw [output?, members] at known
    split at known
    case isTrue _ =>
      rw [Option.bind_some, nothing] at known
      cases known
    case isFalse _ => cases known
  · exact fun _ there => absurd there List.not_mem_nil
  · exact fun _ _ there => absurd there List.not_mem_nil
  · exact fun _ _ there => absurd there List.not_mem_nil
  · intro fork tag output there
    rw [slots] at there
    cases there
  · intro fork
    rw [flight, slots]
    exact ⟨Nat.le_refl 0, Nat.le_refl 0⟩

theorem Reachable.sane (reachable : Reachable tree) : ∃ asked, Sane tree asked := by
  induction reachable with
  | root own connected nothing alone => exact ⟨_, sane_ofRoot own connected nothing alone⟩
  | turn _ allowed taken ih =>
    obtain ⟨asked, sane⟩ := ih
    exact sane.turn allowed taken

end Tree

end Playback
