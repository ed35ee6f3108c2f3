import Playback.Proofs.Lock.Past
import Playback.Proofs.Manifests.InTurn

set_option autoImplicit false

namespace Playback

/-- What is still done in a round whose manifest runs. -/
def Round.remainder (round : Round) : List Work :=
  [.ended round.manifest round.output round.bulk, .reported round.output round.bulk, .passed]

theorem Round.works_eq (round : Round) :
    round.works = .begun round.manifest :: round.remainder := rfl

namespace History

/-- The history begins while one of the threads runs a manifest. -/
structure Resumes (first : History) (manifest : Bytes) : Prop where
  nothing : first.deeds = []
  host : first.threads.state.host.Calm
  duties : ∀ one ∈ first.threads.waiting, Duty one.call.todo
  processing : first.threads.state.manifests.processing = true
  flight : first.threads.flight = [.concludes manifest]

/-- Deeds by which a child comes to run a manifest while others wait. -/
def recalled (context : Context) (manifest : Bytes) (waiting : List Bytes) : List Deed :=
  let done (action : Action) : Deed :=
    { context, thread := { ticket := 0, call := { todo := [action] } }, action,
      outcome := { context } }
  let arrives (manifest : Bytes) : Deed := done (.dispatch (.manifestStart context.fork manifest))
  arrives manifest :: done (.runManifest manifest) :: waiting.map arrives

theorem received_recalled (context : Context) (manifest : Bytes) (waiting : List Bytes) :
    (recalled context manifest waiting).filterMap (fun deed => deed.action.received?) =
      manifest :: waiting := by
  have arrives (one : Bytes) :
      (Action.dispatch (.manifestStart context.fork one)).received? = some one := rfl
  have runs : (Action.runManifest manifest).received? = none := rfl
  simp [recalled, arrives, runs]

theorem works_recalled (context : Context) (manifest : Bytes) (waiting : List Bytes) :
    (recalled context manifest waiting).filterMap Deed.work? = [.begun manifest] := by
  simp [recalled, List.filterMap_cons, Deed.work?]

variable {first later : History} {manifest : Bytes}

theorem Resumes.inTurn (resumes : first.Resumes manifest) :
    InTurn (first.behind (recalled first.threads.state manifest
      first.threads.state.manifests.pending)) := by
  refine ⟨resumes.host, resumes.duties, ?_, ?_⟩
  · refine ⟨[], [manifest], some (.concludes manifest), ?_, resumes.flight, ?_,
      resumes.processing, nofun⟩
    · rw [works, behind, List.filterMap_append, works_recalled, resumes.nothing]
      exact .concludes manifest
    · rw [received, behind, List.filterMap_append, received_recalled, resumes.nothing]
      exact List.append_nil _
  · rw [behind, resumes.nothing, List.append_nil]
    intro deed there output bulk same
    simp only [recalled, List.mem_cons, List.mem_map] at there
    rcases there with rfl | rfl | ⟨_, _, rfl⟩ <;> cases same

theorem run_inTurn (inTurn : InTurn first)
    (run : Relation.ReflTransGen CalmMoves first later) : InTurn later := by
  induction run with
  | refl => exact inTurn
  | tail _ moves ih => exact ih.moves moves

/-- The round of the manifest that runs is brought to its end, and then come those of the manifests
that wait and of those that come in, each once and in their order. -/
structure Continues (manifest : Bytes) (waiting : List Bytes) (later : History) : Prop where
  rounds : ∃ (round : Round) (rounds : List Round), round.manifest = manifest ∧
    rounds.map Round.manifest <+: waiting ++ later.received ∧
    later.works <+: round.remainder ++ rounds.flatMap Round.works
  /-- There is a pause exactly when all of them are done. -/
  paused : later.threads.state.isPaused = true ↔
    ∃ (round : Round) (rounds : List Round), round.manifest = manifest ∧
      rounds.map Round.manifest = waiting ++ later.received ∧
      later.works = round.remainder ++ rounds.flatMap Round.works
  reported : ∀ deed ∈ later.deeds, ∀ output bulk, deed.action = .sendFinished output bulk →
    deed.outcome.effects = deed.context.sendEffects (deed.context.finishedMessage output bulk)
  /-- Until then one manifest is on its way. -/
  places : later.threads.flight.length = (!later.threads.state.isPaused).toNat

theorem Resumes.goesOn (resumes : first.Resumes manifest)
    (run : Relation.ReflTransGen CalmMoves first later) :
    Continues manifest first.threads.state.manifests.pending later := by
  let waiting := first.threads.state.manifests.pending
  have inTurn := run_inTurn resumes.inTurn (run_behind run _)
  have received : (later.behind (recalled first.threads.state manifest waiting)).received =
      manifest :: (waiting ++ later.received) := by
    rw [History.received, behind, List.filterMap_append, received_recalled]
    rfl
  have works : (later.behind (recalled first.threads.state manifest waiting)).works =
      .begun manifest :: later.works := by
    rw [History.works, behind, List.filterMap_append, works_recalled]
    rfl
  refine ⟨?_, ?_, ?_, inTurn.length_flight⟩
  · obtain ⟨rounds, manifests, done⟩ := inTurn.rounds
    rw [received] at manifests
    rw [works] at done
    cases rounds with
    | nil => exact absurd done (by simp)
    | cons round rounds =>
      rw [List.map_cons, List.cons_prefix_cons] at manifests
      rw [List.flatMap_cons, Round.works_eq, List.cons_append, List.cons_prefix_cons] at done
      exact ⟨round, rounds, manifests.1, manifests.2, done.2⟩
  · have paused := inTurn.isPaused_iff
    rw [received, works] at paused
    refine paused.trans ⟨?_, ?_⟩
    · rintro ⟨rounds, manifests, done⟩
      cases rounds with
      | nil => cases manifests
      | cons round rounds =>
        rw [List.map_cons, List.cons.injEq] at manifests
        rw [List.flatMap_cons, Round.works_eq, List.cons_append, List.cons.injEq] at done
        exact ⟨round, rounds, manifests.1, manifests.2, done.2⟩
    · rintro ⟨round, rounds, same, manifests, done⟩
      refine ⟨round :: rounds, ?_, ?_⟩
      · rw [List.map_cons, same, manifests]
      · rw [List.flatMap_cons, Round.works_eq, same, done, List.cons_append]
  · exact fun deed there => inTurn.sent deed (List.mem_append_right _ there)

end History

end Playback
