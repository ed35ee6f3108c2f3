import Playback.Proofs.Keys.Keeping

set_option autoImplicit false

namespace Playback

namespace Tree

/-- What a thread does at the end of its program. -/
theorem carries_of_quiet {rest : Program} (quiet : ∀ action ∈ rest, idle action = true)
    (fork : UInt32) :
    rest.filterMap (carries? fork) = [] ∧ rest.filterMap (returns? fork) = [] ∧
      rest ≠ [.takeKey] := by
  refine ⟨List.filterMap_eq_nil_iff.mpr ?_, List.filterMap_eq_nil_iff.mpr ?_, ?_⟩
  · intro action there
    have idles := quiet action there
    unfold carries?
    split <;> simp_all [idle]
  · intro action there
    have idles := quiet action there
    unfold returns?
    split <;> simp_all [idle]
  · rintro rfl
    cases quiet .takeKey (List.mem_singleton_self _)

section
variable {story next : Story} {act : Act} {strand later : Strand} {outcome : Outcome}
  {program rest : Program}

/-- An action that has nothing to do with keys. -/
theorem Keeping.still (keeping : Keeping story)
    (goes : Goes story next act strand later outcome)
    (began : story.begun[act.thread]? = some program)
    (place : KeyPlace (story.acts ++ [act]) act.thread act.fork program later.todo later.value)
    {one : Action} (action : act.action = one) (still : stirs one = false)
    (todo : strand.todo = one :: rest) (goesOn : later.todo = outcome.next ++ rest)
    (bare : Bare act.context outcome)
    (carried : ∀ fork, outcome.next.filterMap (carries? fork) = (carries? fork one).toList)
    (returned : ∀ fork, outcome.next.filterMap (returns? fork) = (returns? fork one).toList)
    (awaits : later.todo ≠ [.takeKey]) : Keeping next := by
  subst action
  obtain ⟨setting, silent, other, idle⟩ := Act.aside still
  have kept := goes.kept_of_still keeping.kept setting bare
  rw [← goes.acts] at place
  refine keeping.goes goes kept began place ?_
  intro fork apart
  obtain ⟨errand, fits⟩ := keeping.lines fork apart
  have alike : (story.ways fork).Alike (next.ways fork) := by
    refine goes.alike ?_ ?_ (goes.back_same ?_) ?_ ?_
    · rw [goesOn, todo, filterMap_cons_toList, List.filterMap_append, carried]
    · intro _
      rw [bare.nothing, List.filterMap_nil]
    · rw [goesOn, todo, filterMap_cons_toList, List.filterMap_append, returned,
        goes.held_same fun _ => bare.forks, goes.down_same fun _ => bare.nothing]
    · intro _
      rw [bare.keys]
    · intro _
      refine iff_of_false awaits ?_
      rw [todo]
      intro same
      rw [(List.cons.inj same).1] at still
      cases still
  rw [goes.acts]
  exact ⟨errand, (fits.aside (silent fork) (other fork) (idle fork)).alike alike⟩

/-! In the process of a fork -/

theorem Goes.slot_before (goes : Goes story next act strand later outcome) :
    (story.ways act.fork).slot = act.context.keys.slot := keySlot_of_member goes.here

theorem Goes.back_at_fork (goes : Goes story next act strand later outcome)
    (other : act.fork ≠ rootFork) {fork : UInt32}
    (returned : later.todo.filterMap (returns? fork) = strand.todo.filterMap (returns? fork)) :
    (next.tree.back fork).Perm (story.tree.back fork) := by
  refine goes.back_same ?_
  rw [returned, goes.held_same fun top => absurd top other,
    goes.down_same fun top => absurd top other]

theorem Goes.kept_of_fork (goes : Goes story next act strand later outcome)
    (kept : Kept story.tree story.acts) (other : act.fork ≠ rootFork)
    (setting : act.setting? = none)
    (own : outcome.context.fork = act.context.fork)
    (channel : outcome.context.channel = act.context.channel)
    (ups : ∀ message ∈ outcome.effects.filterMap upward?, KeyUp act.fork message) :
    Kept next.tree next.acts := by
  refine goes.kept kept own channel (fun message there => ⟨other, ups message there⟩)
    (fun top => absurd top other) (fun top => absurd top other) (fun _ => setting) ?_
  intro key fork
  rw [goes.acts, latest_of_none setting]
  exact kept.framed key fork

/-- What is on its way for one fork changes with an action of its process. -/
theorem Keeping.atFork (keeping : Keeping story)
    (goes : Goes story next act strand later outcome)
    (began : story.begun[act.thread]? = some program) (other : act.fork ≠ rootFork)
    (place : KeyPlace (story.acts ++ [act]) act.thread act.fork program later.todo later.value)
    (own : outcome.context.fork = act.context.fork)
    (channel : outcome.context.channel = act.context.channel) {ups : List Message}
    (sends : outcome.effects.filterMap upward? = ups)
    (readable : ∀ message ∈ ups, KeyUp act.fork message)
    (handles : ∀ fork, act.handles? fork = none)
    (deals : ∀ fork, fork ≠ act.fork → act.deals fork = false)
    (carried : ∀ fork,
      later.todo.filterMap (carries? fork) = strand.todo.filterMap (carries? fork))
    (returned : ∀ fork, fork ≠ act.fork →
      later.todo.filterMap (returns? fork) = strand.todo.filterMap (returns? fork))
    {errand : Errand} {ways : Ways} (fits : errand.Fits act.fork (story.acts ++ [act]) ways)
    (hand : (story.ways act.fork).inHand = ways.inHand)
    (up : (story.ways act.fork).up ++ ups = ways.up)
    (back : (next.tree.back act.fork).Perm ways.back)
    (slot : outcome.context.keys.slot = ways.slot)
    (awaits : ∀ thread key, next.Awaits act.fork thread key ↔ ways.awaits thread key) :
    Keeping next := by
  have setting : act.setting? = none := if_neg other
  have kept : Kept next.tree next.acts := by
    refine goes.kept_of_fork keeping.kept other setting own channel ?_
    rw [sends]
    exact readable
  rw [← goes.acts] at place fits
  refine keeping.goes goes kept began place ?_
  intro fork apart
  by_cases same : fork = act.fork
  · subst same
    refine ⟨errand, fits.alike ⟨?_, ?_, back, ?_, awaits⟩⟩
    · rw [← hand]
      exact goes.inHand_same (carried act.fork)
    · rw [← up, ← sends]
      exact (goes.up act.fork).trans (by rw [if_pos rfl]; rfl)
    · rw [← slot]
      exact (goes.keySlot act.fork).trans (if_pos rfl)
  · obtain ⟨errand, fits⟩ := keeping.lines fork apart
    have silent : act.sends? fork = none := if_neg (Ne.symm same)
    have alike : (story.ways fork).Alike (next.ways fork) :=
      goes.alike (carried fork) (absurd · same) (goes.back_at_fork other (returned fork same))
        (absurd · same) (absurd · same)
    rw [goes.acts]
    exact ⟨errand, (fits.aside silent (handles fork) (deals fork same)).alike alike⟩

/-- A thread of a fork sends a setting. -/
theorem Keeping.sends (keeping : Keeping story)
    (goes : Goes story next act strand later outcome) {key value : String}
    (began : story.begun[act.thread]? = some [.setKey key value]) (other : act.fork ≠ rootFork)
    (framed : (Message.sharedKeySet act.fork key value).Framed)
    (action : act.action = .setKey key value) (todo : strand.todo = [.setKey key value])
    (done : later.todo = []) (context : outcome.context = act.context)
    (effects : outcome.effects = [.send upstream (.sharedKeySet act.fork key value)]) :
    Keeping next := by
  have ups : outcome.effects.filterMap upward? = [.sharedKeySet act.fork key value] := by
    rw [effects, upward?_framed framed]
  have sends : act.sends? act.fork = some (.sharedKeySet act.fork key value) := by
    rw [Act.sends?, if_pos rfl, action]
  have deals : ∀ fork, act.deals fork = false := fun fork => by rw [Act.deals, action]
  have place : KeyPlace (story.acts ++ [act]) act.thread act.fork [.setKey key value] later.todo
      later.value := by
    rw [done]
    exact .ends (fun _ same => by cases same) (List.forall_mem_nil _) later.value
  have readable := List.forall_mem_singleton.mpr (KeyUp.set framed)
  have carried (fork : UInt32) :
      later.todo.filterMap (carries? fork) = strand.todo.filterMap (carries? fork) := by
    rw [done, todo]
    rfl
  have returned (fork : UInt32) :
      later.todo.filterMap (returns? fork) = strand.todo.filterMap (returns? fork) := by
    rw [done, todo]
    rfl
  obtain ⟨errand, fits⟩ := keeping.lines act.fork other
  refine keeping.atFork goes began other place (by rw [context]) (by rw [context]) ups readable
    (handles?_of_sends sends) (fun fork _ => deals fork) carried (fun fork _ => returned fork)
    (fits.sets sends (deals act.fork) rfl) rfl rfl (goes.back_at_fork other (returned act.fork))
    ?_ ?_
  · rw [context]
    exact goes.slot_before.symm
  · refine goes.awaits_same fun _ => ?_
    rw [done, todo]
    simp

/-- A thread of a fork claims the slot and sends a request. -/
theorem Keeping.claims (keeping : Keeping story)
    (goes : Goes story next act strand later outcome) {key : String}
    (began : story.begun[act.thread]? = some [.getKey key]) (other : act.fork ≠ rootFork)
    (framed : (Message.sharedKeyRequest act.fork key).Framed)
    (action : act.action = .claimKey (.sharedKeyRequest act.fork key))
    (todo : strand.todo = [.claimKey (.sharedKeyRequest act.fork key), .takeKey])
    (goesOn : later.todo = [.takeKey]) (free : act.context.keys.slot.waiting = false)
    (own : outcome.context.fork = act.context.fork)
    (channel : outcome.context.channel = act.context.channel)
    (slot : outcome.context.keys.slot = { waiting := true })
    (effects : outcome.effects = [.send upstream (.sharedKeyRequest act.fork key)]) :
    Keeping next := by
  have ups : outcome.effects.filterMap upward? = [.sharedKeyRequest act.fork key] := by
    rw [effects, upward?_framed framed]
  have place : KeyPlace (story.acts ++ [act]) act.thread act.fork [.getKey key] later.todo
      later.value := by
    rw [goesOn]
    exact .takes other later.value
  have readable := List.forall_mem_singleton.mpr (KeyUp.request framed)
  have returned (fork : UInt32) :
      later.todo.filterMap (returns? fork) = strand.todo.filterMap (returns? fork) := by
    rw [goesOn, todo]
    rfl
  have unclaimed : (story.ways act.fork).slot.waiting = false := by
    rw [goes.slot_before]
    exact free
  obtain ⟨errand, fits⟩ := keeping.lines act.fork other
  refine keeping.atFork goes began other place own channel ups readable ?_ ?_ ?_
    (fun fork _ => returned fork) (fits.asks unclaimed ⟨rfl, rfl, action⟩) rfl rfl
    (goes.back_at_fork other (returned act.fork)) slot ?_
  · intro fork
    rw [Act.handles?, action]
  · intro fork apart
    rw [Act.deals, action]
    exact decide_eq_false (Ne.symm apart)
  · intro fork
    rw [goesOn, todo]
    rfl
  · intro thread asked
    have nobody : ¬story.Awaits act.fork act.thread asked := by
      rw [goes.awaits_self, todo]
      simp
    change next.Awaits act.fork thread asked ↔
      story.Awaits act.fork thread asked ∨ thread = act.thread ∧ asked = key
    rw [goes.awaits]
    split
    case isTrue same =>
      subst same
      rw [began, goesOn]
      simp [nobody, eq_comm]
    case isFalse apart => simp [apart]

/-- A thread of a fork takes the value that it has asked for. -/
theorem Keeping.takes (keeping : Keeping story)
    (goes : Goes story next act strand later outcome) {key value : String}
    (began : story.begun[act.thread]? = some [.getKey key]) (other : act.fork ≠ rootFork)
    (action : act.action = .takeKey) (todo : strand.todo = [.takeKey])
    (done : later.todo = []) (there : act.context.keys.slot.response = some value)
    (reads : later.value = .text value)
    (own : outcome.context.fork = act.context.fork)
    (channel : outcome.context.channel = act.context.channel)
    (slot : outcome.context.keys.slot = {}) (effects : outcome.effects = []) :
    Keeping next := by
  have ups : outcome.effects.filterMap upward? = [] := by
    rw [effects]
    rfl
  have returned (fork : UInt32) :
      later.todo.filterMap (returns? fork) = strand.todo.filterMap (returns? fork) := by
    rw [done, todo]
    rfl
  obtain ⟨errand, fits⟩ := keeping.lines act.fork other
  have awaits : (story.ways act.fork).awaits act.thread key :=
    (goes.awaits_self act.fork key).mpr ⟨rfl, began, todo⟩
  have response : (story.ways act.fork).slot.response = some value := by
    rw [goes.slot_before]
    exact there
  obtain ⟨got, idle⟩ := fits.takes awaits response ⟨rfl, rfl, action⟩
  have place : KeyPlace (story.acts ++ [act]) act.thread act.fork [.getKey key] later.todo
      later.value := by
    rw [done, reads]
    exact .got other got
  refine keeping.atFork goes began other place own channel ups (List.forall_mem_nil _) ?_ ?_ ?_
    (fun fork _ => returned fork) idle rfl (List.append_nil _)
    (goes.back_at_fork other (returned act.fork)) slot ?_
  · intro fork
    rw [Act.handles?, action]
  · intro fork apart
    rw [Act.deals, action]
    exact decide_eq_false (Ne.symm apart)
  · intro fork
    rw [done, todo]
    rfl
  · intro thread asked
    change next.Awaits act.fork thread asked ↔
      story.Awaits act.fork thread asked ∧ thread ≠ act.thread
    rw [goes.awaits, done]
    split
    case isTrue same => simp [same]
    case isFalse apart => simp [apart]

/-- The response comes to the slot of its fork. -/
theorem Keeping.takesIn (keeping : Keeping story)
    (goes : Goes story next act strand later outcome) {value : String}
    (began : story.begun[act.thread]? =
      some (Program.handle (.sharedKeyResponse act.fork value)))
    (other : act.fork ≠ rootFork)
    (action : act.action = .dispatch (.sharedKeyResponse act.fork value))
    (todo : strand.todo = .dispatch (.sharedKeyResponse act.fork value) :: rest)
    (goesOn : later.todo = rest) (quiet : ∀ action ∈ rest, Tree.idle action = true)
    (own : outcome.context.fork = act.context.fork)
    (channel : outcome.context.channel = act.context.channel)
    (slot : outcome.context.keys.slot = (act.context.keys.slot.deliver value).2)
    (effects : outcome.effects = []) : Keeping next := by
  have ups : outcome.effects.filterMap upward? = [] := by
    rw [effects]
    rfl
  have still : stirs act.action = false := by
    rw [action]
    rfl
  obtain ⟨setting, silent, unhandled, idle⟩ := Act.aside still
  have place : KeyPlace (story.acts ++ [act]) act.thread act.fork
      (Program.handle (.sharedKeyResponse act.fork value)) later.todo later.value := by
    rw [goesOn]
    exact .ends (fun _ same => by cases same) quiet later.value
  obtain ⟨nothing, gone, waits⟩ := carries_of_quiet quiet act.fork
  obtain ⟨errand, fits⟩ := keeping.lines act.fork other
  obtain ⟨others, before, after⟩ := goes.back act.fork
  have first : strand.todo.filterMap (returns? act.fork) =
      [.sharedKeyResponse act.fork value] := by
    have own : returns? act.fork (.dispatch (.sharedKeyResponse act.fork value)) =
        some (.sharedKeyResponse act.fork value) := if_pos rfl
    rw [todo, List.filterMap_cons_some own, gone]
  rw [first, List.singleton_append] at before
  rw [goesOn, gone, List.nil_append, goes.held_same fun top => absurd top other,
    goes.down_same fun top => absurd top other] at after
  obtain ⟨answered, delivered⟩ := fits.delivers (before.trans List.perm_middle)
  refine keeping.atFork goes began other place own channel ups (List.forall_mem_nil _) unhandled
    (fun fork _ => idle fork) ?_ ?_
    (delivered.aside (silent act.fork) (unhandled act.fork) (idle act.fork)) rfl
    (List.append_nil _) after ?_ ?_
  · intro fork
    rw [goesOn, todo]
    rfl
  · intro fork apart
    have foreign : returns? fork (.dispatch (.sharedKeyResponse act.fork value)) = none :=
      if_neg (Ne.symm apart)
    rw [goesOn, todo, List.filterMap_cons_none foreign]
  · rw [goes.slot_before]
    exact slot
  · refine goes.awaits_same fun _ => ?_
    rw [goesOn, todo]
    simp [waits]

end

end Tree

end Playback
