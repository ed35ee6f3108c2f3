import Playback.Proofs.Lock.Past

set_option autoImplicit false

namespace Playback

namespace History

/-- What a thread has still to do, which is nothing once it has ended. -/
def programOf (history : History) (number : Nat) : Program :=
  ((history.threads.waiting.find? fun one => one.ticket = number).map fun one => one.call.todo).getD
    []

variable {lawful : World → Prop} {may : Threads → Program → Prop} {history next : History}
  {number : Nat}

theorem programOf_of_mem (numbered : history.Numbered) {one : Waiting Strand}
    (there : one ∈ history.threads.waiting) :
    history.programOf one.ticket = one.call.todo := by
  have found : (history.threads.waiting.find? fun other => other.ticket = one.ticket) = some one := by
    obtain ⟨other, chosen⟩ :
        ∃ other, (history.threads.waiting.find? fun other => other.ticket = one.ticket) =
          some other :=
      Option.isSome_iff_exists.mp (List.find?_isSome.mpr ⟨one, there, by simp⟩)
    have same : other.ticket = one.ticket := by simpa using List.find?_some chosen
    rw [chosen, List.inj_on_of_nodup_map numbered.apart (List.mem_of_find?_eq_some chosen) there
      same]
  rw [programOf, found]
  rfl

theorem programOf_of_gone (gone : ∀ one ∈ history.threads.waiting, one.ticket ≠ number) :
    history.programOf number = [] := by
  have nobody : (history.threads.waiting.find? fun one => one.ticket = number) = none :=
    List.find?_eq_none.mpr fun one there => by simpa using gone one there
  rw [programOf, nobody]
  rfl

/-- A thread that has something to do is there. -/
theorem exists_of_programOf {action : Action} {rest : Program}
    (todo : history.programOf number = action :: rest) :
    ∃ one ∈ history.threads.waiting, one.ticket = number ∧ one.call.todo = action :: rest := by
  unfold programOf at todo
  cases found : history.threads.waiting.find? fun one => one.ticket = number with
  | none =>
    rw [found] at todo
    cases todo
  | some one =>
    rw [found] at todo
    exact ⟨one, List.mem_of_find?_eq_some found, by simpa using List.find?_some found, todo⟩

/-- What a move is to a thread. -/
inductive Tracks (lawful : World → Prop) (history next : History) (number : Nat) : Prop where
  | rests (own : Deed.own next.deeds number = Deed.own history.deeds number)
      (program : next.programOf number = history.programOf number)
  | acts {deed : Deed} {rest : Program} (moment : Moment lawful history deed)
      (made : next.deeds = history.deeds ++ [deed])
      (state : next.threads.state = deed.outcome.context)
      (own : Deed.own next.deeds number = Deed.own history.deeds number ++ [deed])
      (before : history.programOf number = deed.action :: rest)
      (after : next.programOf number = deed.outcome.next ++ rest)

/-- The others are found as they were. -/
theorem programOf_replace {context changed : Context} {before after : List (Waiting Strand)}
    {one other : Waiting Strand} {deeds more : List Deed} {begun : Nat}
    (ticket : other.ticket = one.ticket) (apart : one.ticket ≠ number) :
    programOf { threads := { state := changed, waiting := before ++ other :: after },
                deeds := more, begun } number =
      programOf { threads := { state := context, waiting := before ++ one :: after },
                  deeds, begun } number := by
  unfold programOf
  rw [List.find?_append, List.find?_append,
    List.find?_cons_of_neg (by simpa [ticket] using apart),
    List.find?_cons_of_neg (by simpa using apart)]

theorem Moves.track (numbered : history.Numbered) (known : number < history.begun)
    (moves : Moves lawful may history next) : Tracks lawful history next number := by
  have later := numbered.moves moves
  cases moves with
  | @begins _ main program allowed =>
    refine .rests rfl ?_
    have other : history.begun ≠ number := Nat.ne_of_gt known
    unfold programOf
    rw [List.find?_append, List.find?_cons_of_neg (by simpa using other), List.find?_nil,
      Option.or_none]
  | @acts world law disk context before after one action rest outcome deeds begun todo taken =>
    by_cases mine : one.ticket = number
    · subst mine
      have there : one ∈ before ++ one :: after := List.mem_append_right _ List.mem_cons_self
      have now := programOf_of_mem numbered there
      rw [todo] at now
      have moved : { one with call := one.call.after outcome rest } ∈
          before ++ { one with call := one.call.after outcome rest } :: after :=
        List.mem_append_right _ List.mem_cons_self
      exact .acts ⟨rfl, there, world, disk, rest, law, todo, taken⟩ rfl rfl
        (Deed.own_snoc_own rfl) now (programOf_of_mem later moved)
    · exact .rests (Deed.own_snoc_other mine) (programOf_replace rfl mine)
  | @ends context before after one deeds begun done =>
    refine .rests rfl ?_
    by_cases mine : one.ticket = number
    · subst mine
      have there : one ∈ before ++ one :: after := List.mem_append_right _ List.mem_cons_self
      rw [programOf_of_mem numbered there, done]
      exact programOf_of_gone fun other member => numbered.ticket_ne member
    · unfold programOf
      rw [List.find?_append, List.find?_append, List.find?_cons_of_neg (by simpa using mine)]

end History

end Playback
