import Playback.Proofs.Lists
import Playback.Proofs.Recording.Reassembly

set_option autoImplicit false

namespace Playback

namespace Recording

inductive Operation where
  | addChunk (chunk : Chunk)
  | append (data : Bytes)
  /-- The file is read from the disk as it is at this moment. -/
  | load (disk : Disk) (path : String)
  | takePending (requireMore : Bool)
  deriving DecidableEq, Repr

namespace Operation

/-- The recording behind an operation. A take that has to wait leaves it alone. -/
def perform (recording : Recording) : Operation → Recording
  | addChunk chunk => (recording.addChunk chunk).2
  | append data => recording.append data
  | load disk path => (recording.load disk path).2
  | takePending requireMore => ((recording.takePending requireMore).map Prod.snd).getD recording

/-- The bytes that are put at the end without regard to offsets. -/
def tail : Operation → Bytes
  | addChunk _ => []
  | append data => data
  | load disk path => (disk.read path).toOption.getD []
  | takePending _ => []

/-- The tail moves the end to or past the start of a chunk that was deferred past the end. -/
def Overtakes (recording : Recording) (operation : Operation) : Prop :=
  ∃ chunk ∈ recording.deferred, recording.contents.length < chunk.offset.toNat ∧
    chunk.offset.toNat ≤ recording.contents.length + operation.tail.length

/-- A chunk that finds its place, whereupon the deferred chunks are retried. -/
def Retries (recording : Recording) : Operation → Prop
  | addChunk chunk => chunk.offset.toNat ≤ recording.contents.length
  | _ => False

end Operation

/-- The recording that these operations leave, one after the other from an empty one. -/
def run (operations : List Operation) : Recording := operations.foldl Operation.perform {}

theorem run_snoc (operations : List Operation) (operation : Operation) :
    run (operations ++ [operation]) = operation.perform (run operations) := by
  simp only [run, List.foldl_append, List.foldl_cons, List.foldl_nil]

/-- Every deferred chunk starts past the end. -/
def Settled (recording : Recording) : Prop :=
  ∀ chunk ∈ recording.deferred, recording.contents.length < chunk.offset.toNat

/-- The contents and the deferred chunks together leave no gap below a length. -/
def Holds (recording : Recording) (length : Nat) : Prop :=
  ∀ position, position < length →
    position < recording.contents.length ∨ Covered recording.deferred position

theorem settled_addChunk_of_merged {recording : Recording} {chunk : Chunk}
    (reached : chunk.offset.toNat ≤ recording.contents.length) :
    (recording.addChunk chunk).2.Settled := by
  rw [addChunk_merged (incorporate_of_le reached)]
  exact settle_past _ recording.deferred

theorem settled_addChunk_of_apart {recording : Recording} {chunk : Chunk}
    (apart : recording.contents.length < chunk.offset.toNat) :
    (recording.addChunk chunk).2.Settled ↔ recording.Settled := by
  rw [addChunk_apart apart]
  constructor
  · intro settled other member
    exact settled other (List.mem_append_left [chunk] member)
  · intro settled other member
    rcases List.mem_append.mp member with early | late
    · exact settled other early
    · rw [List.mem_singleton.mp late]
      exact apart

/-- Bytes at the end keep a recording settled as long as they stay short of the deferred chunks. -/
theorem settled_longer_iff {recording longer : Recording} {tail : Bytes}
    (contents : longer.contents = recording.contents ++ tail)
    (deferred : longer.deferred = recording.deferred) :
    longer.Settled ↔ recording.Settled ∧
      ¬ ∃ chunk ∈ recording.deferred, recording.contents.length < chunk.offset.toNat ∧
        chunk.offset.toNat ≤ recording.contents.length + tail.length := by
  unfold Settled
  rw [contents, deferred, List.length_append]
  constructor
  · intro settled
    refine ⟨?_, ?_⟩
    · intro chunk member
      have past := settled chunk member
      omega
    · rintro ⟨chunk, member, _, overtaken⟩
      have past := settled chunk member
      omega
  · rintro ⟨settled, short⟩ chunk member
    by_cases overtaken : chunk.offset.toNat ≤ recording.contents.length + tail.length
    · exact absurd ⟨chunk, member, settled chunk member, overtaken⟩ short
    · omega

theorem perform_longer (recording : Recording) {operation : Operation}
    (plain : ∀ chunk, operation ≠ .addChunk chunk) :
    (operation.perform recording).contents = recording.contents ++ operation.tail ∧
      (operation.perform recording).deferred = recording.deferred := by
  cases operation with
  | addChunk chunk => exact absurd rfl (plain chunk)
  | append data => exact ⟨rfl, rfl⟩
  | load disk path =>
    cases found : disk.read path with
    | ok data =>
      simp [Operation.perform, Operation.tail, load, append, found, Except.toOption]
    | error fault =>
      simp [Operation.perform, Operation.tail, load, found, Except.toOption]
  | takePending requireMore =>
    simp only [Operation.perform, Operation.tail, takePending, List.append_nil]
    split
    · split <;> exact ⟨rfl, rfl⟩
    · exact ⟨rfl, rfl⟩

/-- An operation leaves a recording settled if it has the deferred chunks retried, or if it was
settled and none of them is overtaken; and only then. -/
theorem settled_perform_iff (recording : Recording) (operation : Operation) :
    (operation.perform recording).Settled ↔
      operation.Retries recording ∨ (recording.Settled ∧ ¬ operation.Overtakes recording) := by
  by_cases arrives : ∃ chunk, operation = .addChunk chunk
  · obtain ⟨chunk, rfl⟩ := arrives
    by_cases reached : chunk.offset.toNat ≤ recording.contents.length
    · exact iff_of_true (settled_addChunk_of_merged reached) (Or.inl reached)
    · have still : ¬ (Operation.addChunk chunk).Overtakes recording := by
        rintro ⟨other, _, past, overtaken⟩
        simp only [Operation.tail, List.length_nil] at overtaken
        omega
      rw [show (Operation.addChunk chunk).Retries recording ↔ False from iff_false_intro reached,
        false_or, and_iff_left still]
      exact settled_addChunk_of_apart (Nat.lt_of_not_le reached)
  · have plain : ∀ chunk, operation ≠ .addChunk chunk := by
      intro chunk same
      exact arrives ⟨chunk, same⟩
    obtain ⟨contents, deferred⟩ := perform_longer recording plain
    have quiet : ¬ operation.Retries recording := by
      cases operation with
      | addChunk chunk => exact absurd rfl (plain chunk)
      | _ => exact id
    rw [or_iff_right quiet]
    exact settled_longer_iff contents deferred

theorem not_overtakes_of_retries {recording : Recording} {operation : Operation}
    (retries : operation.Retries recording) : ¬ operation.Overtakes recording := by
  cases operation with
  | addChunk chunk =>
    rintro ⟨other, _, past, overtaken⟩
    simp only [Operation.tail, List.length_nil] at overtaken
    omega
  | _ => exact retries.elim

/-- Behind every operation that overtakes a deferred chunk some chunk finds its place. -/
def Caught (operations : List Operation) : Prop :=
  ∀ before operation after, operations = before ++ operation :: after →
    operation.Overtakes (run before) →
    ∃ between retrying rest, after = between ++ retrying :: rest ∧
      retrying.Retries (run (before ++ operation :: between))

theorem caught_snoc (operations : List Operation) (last : Operation) :
    Caught (operations ++ [last]) ↔
      last.Retries (run operations) ∨
        (Caught operations ∧ ¬ last.Overtakes (run operations)) := by
  constructor
  · intro caught
    by_cases retries : last.Retries (run operations)
    · exact Or.inl retries
    refine Or.inr ⟨?_, ?_⟩
    · rintro before operation after rfl overtakes
      obtain ⟨between, retrying, rest, split, finds⟩ :=
        caught before operation (after ++ [last]) (by simp) overtakes
      rcases snoc_eq_middle split with ⟨rfl, rfl, -⟩ | ⟨init, there, -⟩
      · exact absurd finds retries
      · exact ⟨between, retrying, init, there, finds⟩
    · intro overtakes
      obtain ⟨between, retrying, rest, split, _⟩ := caught operations last [] rfl overtakes
      simp at split
  · intro known before operation after split overtakes
    rcases snoc_eq_middle split with ⟨rfl, rfl, -⟩ | ⟨init, rfl, rfl⟩
    · rcases known with retries | ⟨_, still⟩
      · exact absurd overtakes (not_overtakes_of_retries retries)
      · exact absurd overtakes still
    · rcases known with retries | ⟨caught, _⟩
      · exact ⟨init, last, [], rfl, retries⟩
      · obtain ⟨between, retrying, rest, rfl, finds⟩ :=
          caught before operation init rfl overtakes
        exact ⟨between, retrying, rest ++ [last], by simp, finds⟩

theorem settled_iff_caught (operations : List Operation) :
    (run operations).Settled ↔ Caught operations := by
  induction operations using List.reverseRecOn with
  | nil =>
    refine iff_of_true (by simp [Settled, run]) ?_
    intro before operation after split
    simp at split
  | append_singleton operations last ih =>
    rw [run_snoc, settled_perform_iff, caught_snoc, ih]

/-- A settled recording has all the bytes that it holds without a gap. -/
theorem Settled.length_le {recording : Recording} (settled : recording.Settled) {length : Nat}
    (held : recording.Holds length) : length ≤ recording.contents.length := by
  by_cases beyond : recording.contents.length < length
  · rcases held _ beyond with inside | ⟨chunk, member, lower, _⟩
    · omega
    · have past := settled chunk member
      omega
  · omega

/-- Bytes are held back exactly when a deferred chunk stands across the end. -/
theorem held_back_iff (recording : Recording) :
    (∃ length, recording.contents.length < length ∧ recording.Holds length) ↔
      Covered recording.deferred recording.contents.length := by
  constructor
  · rintro ⟨length, longer, held⟩
    exact (held _ longer).resolve_left (Nat.lt_irrefl _)
  · intro across
    refine ⟨recording.contents.length + 1, Nat.lt_succ_self _, ?_⟩
    intro position below
    rcases Nat.lt_succ_iff_lt_or_eq.mp below with inside | rfl
    · exact Or.inl inside
    · exact Or.inr across

/-- In every reachable state the deferred chunks all start past the end if and only if each
operation that overtook one of them was followed by a chunk that found its place. Then no wait for
bytes that are there is left blocked; otherwise bytes are held back exactly when a deferred chunk
stands across the end. -/
theorem settled_run_iff (operations : List Operation) :
    ((run operations).Settled ↔ Caught operations) ∧
    (Caught operations → ∀ (disk : Disk) (length : UInt64), (run operations).Holds length.toNat →
      (Call.awaitLength length).move { recording := run operations, disk } ≠ none) ∧
    ((∃ length, (run operations).contents.length < length ∧ (run operations).Holds length) ↔
      Covered (run operations).deferred (run operations).contents.length) := by
  refine ⟨settled_iff_caught operations, ?_, held_back_iff (run operations)⟩
  intro caught disk length held
  have enough := ((settled_iff_caught operations).mpr caught).length_le held
  simp only [Call.move, Recording.length, enough, ↓reduceIte, ne_eq, reduceCtorEq,
    not_false_eq_true]

/-- An append moves the end to the start of a deferred chunk, and a wait for its byte stays. -/
theorem append_overtakes :
    let recording := run [.addChunk ⟨2, [3]⟩, .append [1, 2]]
    ¬ recording.Settled ∧ recording.Holds 3 ∧
      (Call.awaitLength 3).move { recording } = none := by
  have state : run [.addChunk ⟨2, [3]⟩, .append [1, 2]] =
      { contents := [1, 2], deferred := [⟨2, [3]⟩] } := by decide
  rw [state]
  refine ⟨?_, ?_, rfl⟩
  · intro settled
    exact absurd (settled ⟨2, [3]⟩ (by simp)) (by decide)
  · unfold Holds
    decide

end Recording

end Playback
