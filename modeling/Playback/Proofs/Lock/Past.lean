import Playback.Proofs.Lists
import Playback.Proofs.Lock.History

set_option autoImplicit false

namespace Playback

namespace History

variable {lawful law : World → Prop} {may might : Threads → Program → Prop}
  {first history next : History}

/-- What is allowed stays so where more is. -/
theorem Moves.mono (worlds : ∀ world, lawful world → law world)
    (programs : ∀ threads program, may threads program → might threads program)
    (moves : Moves lawful may history next) : Moves law might history next := by
  cases moves with
  | begins main allowed => exact .begins main (programs _ _ allowed)
  | acts fair todo taken => exact .acts (worlds _ fair) todo taken
  | ends done => exact .ends done

/-- The moment at which a thread took an action. -/
structure Moment (lawful : World → Prop) (history : History) (deed : Deed) : Prop where
  state : history.threads.state = deed.context
  there : deed.thread ∈ history.threads.waiting
  taken : ∃ world disk rest, lawful world ∧ deed.thread.call.todo = deed.action :: rest ∧
    deed.thread.call.take? world disk deed.context deed.action = some deed.outcome

/-- Everything that was done was done at a moment of the run. -/
theorem moment_of_run (run : Relation.ReflTransGen (Moves lawful may) first history)
    (nothing : first.deeds = []) {early late : List Deed} {deed : Deed}
    (split : history.deeds = early ++ deed :: late) :
    ∃ middle, Relation.ReflTransGen (Moves lawful may) first middle ∧ middle.deeds = early ∧
      Moment lawful middle deed := by
  induction run generalizing late with
  | refl =>
    rw [nothing] at split
    exact absurd split.symm (by simp)
  | tail front moves ih =>
    cases moves with
    | begins main allowed => exact ih split
    | ends done => exact ih split
    | @acts world law disk context before after one action rest outcome deeds begun todo taken =>
      rcases snoc_eq_middle split with ⟨rfl, rfl, -⟩ | ⟨others, before, -⟩
      · exact ⟨_, front, rfl, rfl, List.mem_append_right _ List.mem_cons_self, world, disk, rest,
          law, todo, taken⟩
      · exact ih before

/-- What was done stays so. -/
theorem deeds_of_run (run : Relation.ReflTransGen (Moves lawful may) first next) :
    first.deeds <+: next.deeds := by
  induction run with
  | refl => exact List.prefix_rfl
  | tail _ moves ih =>
    cases moves with
    | begins main allowed => exact ih
    | ends done => exact ih
    | acts law todo taken => exact ih.trans (List.prefix_append _ _)

/-- The same history behind what was done before. -/
def behind (history : History) (past : List Deed) : History :=
  { history with deeds := past ++ history.deeds }

theorem Moves.behind (moves : Moves lawful may history next) (past : List Deed) :
    Moves lawful may (history.behind past) (next.behind past) := by
  cases moves with
  | begins main allowed => exact .begins main allowed
  | ends done => exact .ends done
  | acts law todo taken =>
    unfold History.behind
    rw [← List.append_assoc]
    exact .acts law todo taken

theorem run_behind (run : Relation.ReflTransGen (Moves lawful may) history next)
    (past : List Deed) :
    Relation.ReflTransGen (Moves lawful may) (history.behind past) (next.behind past) :=
  run.lift _ fun _ _ moves => moves.behind past

end History

end Playback
