import Playback.Proofs.Lock.History

set_option autoImplicit false

namespace Playback

/-- What is done for a manifest. -/
inductive Work where
  | begun (manifest : Bytes)
  | ended (manifest output : Bytes) (bulk : Bool)
  | reported (output : Bytes) (bulk : Bool)
  | passed
  deriving DecidableEq, Repr

def Deed.work? (deed : Deed) : Option Work :=
  match deed.action with
  | .runManifest manifest => some (.begun manifest)
  | .conclude manifest =>
    let output := deed.context.manifestOutput deed.thread.call.value manifest
    some (.ended manifest output.data output.bulk)
  | .sendFinished output bulk => some (.reported output bulk)
  | .finishManifest => some .passed
  | _ => none

/-- A manifest and what its run has given back. -/
structure Round where
  manifest : Bytes
  output : Bytes
  bulk : Bool
  deriving DecidableEq, Repr

/-- What is done in a round, in its order. -/
def Round.works (round : Round) : List Work :=
  [.begun round.manifest, .ended round.manifest round.output round.bulk,
    .reported round.output round.bulk, .passed]

/-- Where the manifest is that is being processed. -/
inductive Token where
  | starts (manifest : Bytes)
  | waits (manifest : Bytes)
  | runs (manifest : Bytes)
  | concludes (manifest : Bytes)
  | reports (output : Bytes) (bulk : Bool)
  | finishes

def Action.token? : Action → Option Token
  | .startManifest manifest => some (.starts manifest)
  | .runManifest manifest => some (.runs manifest)
  | .conclude manifest => some (.concludes manifest)
  | .sendFinished output bulk => some (.reports output bulk)
  | .finishManifest => some .finishes
  | _ => none

/-! Rounds -/

/-- How far the processing has come: rounds that are done, the manifests that were taken for
processing, what was done for them, and where the last one is if its round is not done. -/
inductive Processing (done : List Round) : List Bytes → List Work → Option Token → Prop where
  | idle : Processing done (done.map Round.manifest) (done.flatMap Round.works) none
  | starts (manifest : Bytes) : Processing done (done.map Round.manifest ++ [manifest])
      (done.flatMap Round.works) (some (.starts manifest))
  | waits (manifest : Bytes) : Processing done (done.map Round.manifest ++ [manifest])
      (done.flatMap Round.works) (some (.waits manifest))
  | runs (manifest : Bytes) : Processing done (done.map Round.manifest ++ [manifest])
      (done.flatMap Round.works) (some (.runs manifest))
  | concludes (manifest : Bytes) : Processing done (done.map Round.manifest ++ [manifest])
      (done.flatMap Round.works ++ [.begun manifest]) (some (.concludes manifest))
  | reports (manifest output : Bytes) (bulk : Bool) :
      Processing done (done.map Round.manifest ++ [manifest])
        (done.flatMap Round.works ++ [.begun manifest, .ended manifest output bulk])
        (some (.reports output bulk))
  | finishes (manifest output : Bytes) (bulk : Bool) :
      Processing done (done.map Round.manifest ++ [manifest])
        (done.flatMap Round.works ++
          [.begun manifest, .ended manifest output bulk, .reported output bulk])
        (some .finishes)

namespace Processing

variable {done : List Round} {taken : List Bytes} {works : List Work} {manifest output : Bytes}
  {bulk : Bool}

theorem waits_of_starts (stage : Processing done taken works (some (.starts manifest))) :
    Processing done taken works (some (.waits manifest)) := by
  cases stage
  exact .waits manifest

theorem runs_of_starts (stage : Processing done taken works (some (.starts manifest))) :
    Processing done taken works (some (.runs manifest)) := by
  cases stage
  exact .runs manifest

theorem runs_of_waits (stage : Processing done taken works (some (.waits manifest))) :
    Processing done taken works (some (.runs manifest)) := by
  cases stage
  exact .runs manifest

theorem concludes_of_runs (stage : Processing done taken works (some (.runs manifest))) :
    Processing done taken (works ++ [.begun manifest]) (some (.concludes manifest)) := by
  cases stage
  exact .concludes manifest

theorem reports_of_concludes (stage : Processing done taken works (some (.concludes manifest))) :
    Processing done taken (works ++ [.ended manifest output bulk])
      (some (.reports output bulk)) := by
  cases stage
  rw [List.append_assoc]
  exact .reports manifest output bulk

theorem finishes_of_reports (stage : Processing done taken works (some (.reports output bulk))) :
    Processing done taken (works ++ [.reported output bulk]) (some .finishes) := by
  cases stage with
  | reports manifest =>
    rw [List.append_assoc]
    exact .finishes manifest output bulk

theorem length_works (rounds : List Round) :
    (rounds.flatMap Round.works).length = 4 * rounds.length := by
  induction rounds with
  | nil => rfl
  | cons round rounds ih =>
    have four : round.works.length = 4 := rfl
    rw [List.flatMap_cons, List.length_append, ih, four, List.length_cons]
    omega

/-- What was done are the rounds so far, in their order, with the last one perhaps not done. -/
theorem rounds {token : Option Token} (stage : Processing done taken works token) :
    ∃ rounds : List Round, rounds.map Round.manifest <+: taken ∧
      works <+: rounds.flatMap Round.works := by
  have unbegun (manifest : Bytes) :
      ∃ rounds : List Round, rounds.map Round.manifest <+: done.map Round.manifest ++ [manifest] ∧
        done.flatMap Round.works <+: rounds.flatMap Round.works :=
    ⟨done, List.prefix_append _ _, List.prefix_rfl⟩
  have unfinished (manifest output : Bytes) (bulk : Bool) (works : List Work)
      (part : works <+: Round.works { manifest, output, bulk }) :
      ∃ rounds : List Round, rounds.map Round.manifest <+: done.map Round.manifest ++ [manifest] ∧
        done.flatMap Round.works ++ works <+: rounds.flatMap Round.works := by
    refine ⟨done ++ [⟨manifest, output, bulk⟩], ?_, ?_⟩
    · rw [List.map_append]
      exact List.prefix_rfl
    · rw [List.flatMap_append, List.prefix_append_right_inj, List.flatMap_singleton]
      exact part
  cases stage with
  | idle => exact ⟨done, List.prefix_rfl, List.prefix_rfl⟩
  | starts manifest | waits manifest | runs manifest => exact unbegun manifest
  | concludes manifest => exact unfinished manifest [] false _ ⟨_, rfl⟩
  | reports manifest output bulk => exact unfinished manifest output bulk _ ⟨_, rfl⟩
  | finishes manifest output bulk => exact unfinished manifest output bulk _ ⟨_, rfl⟩

/-- All is done for the manifests that were taken, or something is left to do for the last. -/
theorem length_cases {token : Option Token} (stage : Processing done taken works token) :
    (token = none ∧ taken = done.map Round.manifest ∧ works = done.flatMap Round.works) ∨
      (token.isSome = true ∧ works.length < 4 * taken.length) := by
  have all := length_works done
  cases stage with
  | idle => exact Or.inl ⟨rfl, rfl, rfl⟩
  | _ =>
    refine Or.inr ⟨rfl, ?_⟩
    simp only [List.length_append, List.length_map, List.length_cons, List.length_nil]
    omega

end Processing

/-- All that was received was taken for processing or is pending, and there is nothing pending
unless the manifest that was taken last is somewhere. -/
def Balanced (manifests : Manifests) (flight : List Token) (received : List Bytes)
    (works : List Work) : Prop :=
  ∃ done taken token, Processing done taken works token ∧ flight = token.toList ∧
    received = taken ++ manifests.pending ∧ manifests.processing = token.isSome ∧
    (token = none → manifests.pending = [])

namespace Balanced

variable {manifests : Manifests} {flight : List Token} {received : List Bytes}
  {works : List Work}

theorem alone {before after : List Token} {token : Token}
    (balanced : Balanced manifests (before ++ token :: after) received works) :
    before = [] ∧ after = [] := by
  obtain ⟨done, taken, place, -, same, -⟩ := balanced
  cases place with
  | none => exact absurd same (by simp)
  | some only =>
    have sizes := congrArg List.length same
    simp only [List.length_append, List.length_cons, Option.toList_some, List.length_nil] at sizes
    exact ⟨List.eq_nil_of_length_eq_zero (by omega), List.eq_nil_of_length_eq_zero (by omega)⟩

/-- A manifest comes in while another one is being processed, and waits. -/
theorem waits (balanced : Balanced manifests flight received works)
    (busy : manifests.processing = true) (manifest : Bytes) :
    manifests.push manifest =
        (none, { manifests with pending := manifests.pending ++ [manifest] }) ∧
      Balanced { manifests with pending := manifests.pending ++ [manifest] } flight
        (received ++ [manifest]) works := by
  obtain ⟨done, taken, token, stage, same, all, processing, nothing⟩ := balanced
  refine ⟨by simp [Manifests.push, Manifests.startNext, busy],
    done, taken, token, stage, same, ?_, processing, ?_⟩
  · rw [all, List.append_assoc]
  · intro none
    rw [processing, none] at busy
    cases busy

/-- A manifest comes in while none is being processed, and is to be started. -/
theorem begins (balanced : Balanced manifests flight received works)
    (idle : manifests.processing = false) (manifest : Bytes) :
    manifests.push manifest = (some manifest, { pending := [], processing := true }) ∧
      flight = [] ∧
      Balanced { pending := [], processing := true } [.starts manifest]
        (received ++ [manifest]) works := by
  obtain ⟨done, taken, token, stage, same, all, processing, nothing⟩ := balanced
  rw [idle] at processing
  cases stage with
  | idle =>
    have empty := nothing rfl
    refine ⟨by simp [Manifests.push, Manifests.startNext, idle, empty], same,
      done, _, _, .starts manifest, rfl, ?_, rfl, fun none => by cases none⟩
    rw [all, empty, List.append_nil, List.append_nil]
  | _ => cases processing

/-- The manifest that is being processed comes to another place. -/
theorem moves {before after : Token} {more : List Work}
    (balanced : Balanced manifests [before] received works)
    (next : ∀ done taken, Processing done taken works (some before) →
      Processing done taken (works ++ more) (some after)) :
    Balanced manifests [after] received (works ++ more) := by
  obtain ⟨done, taken, token, stage, same, all, processing, -⟩ := balanced
  cases token with
  | none => cases same
  | some place =>
    cases same
    exact ⟨done, taken, some after, next done taken stage, rfl, all, processing,
      fun none => by cases none⟩

/-- The round of a manifest ends, and that of the next one that waits begins. -/
theorem ends (balanced : Balanced manifests [.finishes] received works) :
    Balanced manifests.finish.2 (manifests.finish.1.map Token.starts).toList received
      (works ++ [.passed]) := by
  obtain ⟨done, taken, token, stage, same, all, processing, -⟩ := balanced
  cases stage with
  | finishes manifest output bulk =>
    let round : Round := { manifest, output, bulk }
    have rounds : (done ++ [round]).map Round.manifest = done.map Round.manifest ++ [manifest] := by
      rw [List.map_append]
      rfl
    have works : (done ++ [round]).flatMap Round.works = done.flatMap Round.works ++
        [.begun manifest, .ended manifest output bulk, .reported output bulk] ++ [.passed] := by
      rw [List.flatMap_append, List.append_assoc]
      rfl
    rw [← works]
    rw [← rounds] at all
    cases pending : manifests.pending with
    | nil =>
      have finish : manifests.finish = (none, { pending := [], processing := false }) := by
        simp [Manifests.finish, Manifests.startNext, pending]
      rw [finish]
      rw [pending] at all
      exact ⟨done ++ [round], _, none, .idle, rfl, all, rfl, fun _ => rfl⟩
    | cons next later =>
      have finish : manifests.finish = (some next, { pending := later, processing := true }) := by
        simp [Manifests.finish, Manifests.startNext, pending]
      rw [finish]
      refine ⟨done ++ [round], _, _, .starts next, rfl, ?_, rfl, fun none => by cases none⟩
      rw [all, pending, List.append_assoc, List.singleton_append]
  | _ => cases same

end Balanced

end Playback
