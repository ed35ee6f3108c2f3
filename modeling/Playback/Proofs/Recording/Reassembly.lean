import Playback.Proofs.Recording.Words
import Mathlib.Data.Nat.Find

set_option autoImplicit false

namespace Playback

theorem not_covered_nil (position : Nat) : ¬ Covered [] position := by
  rintro ⟨chunk, member, _⟩
  cases member

theorem covered_append (before after : List Chunk) (position : Nat) :
    Covered (before ++ after) position ↔ Covered before position ∨ Covered after position := by
  simp only [Covered, List.mem_append, or_and_right, exists_or]

theorem covered_singleton (chunk : Chunk) (position : Nat) :
    Covered [chunk] position ↔ chunk.Covers position := by
  simp only [Covered, List.mem_singleton, exists_eq_left]

/-- Finitely many chunks end somewhere. -/
theorem exists_uncovered (chunks : List Chunk) : ∃ position, ¬ Covered chunks position := by
  suffices bounded : ∃ bound, ∀ position, bound ≤ position → ¬ Covered chunks position by
    obtain ⟨bound, free⟩ := bounded
    exact ⟨bound, free bound (Nat.le_refl bound)⟩
  induction chunks with
  | nil => exact ⟨0, fun position _ => not_covered_nil position⟩
  | cons chunk rest ih =>
    obtain ⟨bound, free⟩ := ih
    refine ⟨max bound chunk.stop, ?_⟩
    rintro position past ⟨other, member, covers⟩
    rcases List.mem_cons.mp member with rfl | behind
    · have inside := covers.2
      omega
    · exact free position (by omega) ⟨other, behind, covers⟩

/-- The least position that no chunk covers. -/
def firstGap (chunks : List Chunk) : Nat := Nat.find (exists_uncovered chunks)

theorem eq_firstGap {chunks : List Chunk} {length : Nat}
    (covered : ∀ position, position < length → Covered chunks position)
    (gap : ¬ Covered chunks length) : length = firstGap chunks := by
  refine ((Nat.find_eq_iff (exists_uncovered chunks)).mpr ⟨gap, ?_⟩).symm
  intro position below missing
  exact missing (covered position below)

theorem firstGap_perm {first second : List Chunk} (same : first.Perm second) :
    firstGap first = firstGap second := by
  have equivalent : ∀ position, Covered first position ↔ Covered second position := by
    intro position
    exact ⟨fun covered => covered.mono same.subset, fun covered => covered.mono same.symm.subset⟩
  apply eq_firstGap
  · intro position below
    exact (equivalent position).mp (not_not.mp (Nat.find_min (exists_uncovered first) below))
  · rw [← equivalent]
    exact Nat.find_spec (exists_uncovered first)

namespace Recording

/-- A recording that begins empty and gets these chunks one after the other. -/
def receive (chunks : List Chunk) : Recording :=
  chunks.foldl (fun recording chunk => (recording.addChunk chunk).2) {}

theorem receive_snoc (chunks : List Chunk) (chunk : Chunk) :
    receive (chunks ++ [chunk]) = ((receive chunks).addChunk chunk).2 := by
  simp only [receive, List.foldl_append, List.foldl_cons, List.foldl_nil]

def receiveWords (chunks : List Chunk) : Option Recording :=
  chunks.foldlM (fun recording chunk => (recording.addChunkWords chunk).map Prod.snd) {}

theorem receiveWords_snoc (chunks : List Chunk) (chunk : Chunk) :
    receiveWords (chunks ++ [chunk]) = (receiveWords chunks).bind fun recording =>
      (recording.addChunkWords chunk).map Prod.snd := by
  simp only [receiveWords, List.foldlM_append, List.foldlM_cons, List.foldlM_nil, bind_pure]
  rfl

theorem addChunk_apart {recording : Recording} {chunk : Chunk}
    (apart : recording.contents.length < chunk.offset.toNat) :
    recording.addChunk chunk =
      (.deferred, { recording with deferred := recording.deferred ++ [chunk] }) := by
  simp only [addChunk, (incorporate_eq_none recording.contents chunk).mpr apart]

theorem addChunk_merged {recording : Recording} {chunk : Chunk} {longer : Bytes}
    (merged : incorporate recording.contents chunk = some longer) :
    recording.addChunk chunk =
      (.applied (settle longer recording.deferred).1.length,
        { recording with contents := (settle longer recording.deferred).1,
                         deferred := (settle longer recording.deferred).2.1 }) := by
  simp only [addChunk, merged]

/-- Where a recording stands after these chunks, in this order of arrival. -/
structure Reassembled (chunks : List Chunk) (recording : Recording) : Prop where
  backed : ∀ position, position < recording.contents.length → Covered chunks position
  within : ∀ chunk ∈ chunks, chunk.offset.toNat ≤ recording.contents.length →
    chunk.stop ≤ recording.contents.length
  waiting : recording.deferred = chunks.filter (·.startsPast recording.contents.length)

theorem Reassembled.length_eq {chunks : List Chunk} {recording : Recording}
    (reassembled : Reassembled chunks recording) :
    recording.contents.length = firstGap chunks := by
  apply eq_firstGap reassembled.backed
  rintro ⟨chunk, member, lower, upper⟩
  have inside := reassembled.within chunk member lower
  omega

theorem Reassembled.addChunk_apart {chunks : List Chunk} {recording : Recording}
    (reassembled : Reassembled chunks recording) (chunk : Chunk)
    (apart : recording.contents.length < chunk.offset.toNat) :
    Reassembled (chunks ++ [chunk]) (recording.addChunk chunk).2 := by
  rw [Recording.addChunk_apart apart]
  refine ⟨?_, ?_, ?_⟩
  · intro position below
    exact (covered_append chunks [chunk] position).mpr (Or.inl (reassembled.backed position below))
  · intro other member reached
    dsimp only at reached ⊢
    rcases List.mem_append.mp member with early | late
    · exact reassembled.within other early reached
    · rw [List.mem_singleton.mp late] at reached
      omega
  · have kept : chunk.startsPast recording.contents.length = true := by
      rw [Chunk.startsPast_eq_true]
      exact apart
    rw [List.filter_append, reassembled.waiting, List.filter_cons_of_pos kept, List.filter_nil]

theorem Reassembled.addChunk_merged {chunks : List Chunk} {recording : Recording}
    (reassembled : Reassembled chunks recording) (chunk : Chunk) {longer : Bytes}
    (merged : incorporate recording.contents chunk = some longer) :
    Reassembled (chunks ++ [chunk]) (recording.addChunk chunk).2 := by
  have placed := settle_placed longer recording.deferred
  have past := settle_past longer recording.deferred
  have reached := (incorporate_eq_some merged).1
  have grown := length_of_incorporate merged
  have order := placed.grows.length_le
  have known : recording.deferred ⊆ chunks := by
    rw [reassembled.waiting]
    exact List.filter_subset_self chunks
  rw [Recording.addChunk_merged merged]
  refine ⟨?_, ?_, ?_⟩
  · intro position below
    rw [covered_append, covered_singleton]
    by_cases old : position < recording.contents.length
    · exact Or.inl (reassembled.backed position old)
    · by_cases own : position < longer.length
      · exact Or.inr ⟨by omega, by omega⟩
      · exact Or.inl ((placed.backed position (by omega) below).mono known)
  · intro other member start
    dsimp only at start ⊢
    rcases List.mem_append.mp member with early | late
    · by_cases near : other.offset.toNat ≤ recording.contents.length
      · have inside := reassembled.within other early near
        omega
      · have held : other ∈ recording.deferred := by
          rw [reassembled.waiting, List.mem_filter, Chunk.startsPast_eq_true]
          exact ⟨early, Nat.lt_of_not_le near⟩
        rcases placed.within other held with kept | inside
        · have beyond := past other kept
          omega
        · exact inside
    · rw [List.mem_singleton.mp late]
      omega
  · have gone : ¬ chunk.startsPast (settle longer recording.deferred).1.length = true := by
      rw [Chunk.startsPast_eq_true]
      omega
    have filtered := filter_startsPast_filter chunks
      (show recording.contents.length ≤ (settle longer recording.deferred).1.length by omega)
    dsimp only
    rw [settle_kept, List.filter_append, List.filter_cons_of_neg gone, List.filter_nil,
      List.append_nil, ← filtered, ← reassembled.waiting]

theorem receive_reassembled (chunks : List Chunk) : Reassembled chunks (receive chunks) := by
  induction chunks using List.reverseRecOn with
  | nil =>
    refine ⟨?_, by simp, rfl⟩
    intro position below
    exact absurd below (Nat.not_lt_zero position)
  | append_singleton chunks chunk ih =>
    rw [receive_snoc]
    cases merged : incorporate (receive chunks).contents chunk with
    | none => exact ih.addChunk_apart chunk ((incorporate_eq_none _ chunk).mp merged)
    | some longer => exact ih.addChunk_merged chunk merged

theorem receive_cut (chunks : List Chunk) (whole : Bytes)
    (cut : ∀ chunk ∈ chunks, chunk.CutFrom whole) : (receive chunks).contents <+: whole := by
  induction chunks using List.reverseRecOn with
  | nil => exact List.nil_prefix
  | append_singleton chunks chunk ih =>
    have before : ∀ other ∈ chunks, other.CutFrom whole :=
      fun other member => cut other (List.mem_append_left [chunk] member)
    have last : chunk.CutFrom whole := cut chunk (by simp)
    have begun := ih before
    rw [receive_snoc]
    cases merged : incorporate (receive chunks).contents chunk with
    | none =>
      rw [addChunk_apart ((incorporate_eq_none _ chunk).mp merged)]
      exact begun
    | some longer =>
      rw [addChunk_merged merged]
      apply settle_cut longer whole _ (incorporate_cut merged begun last)
      intro other held
      rw [(receive_reassembled chunks).waiting] at held
      exact before other (List.mem_of_mem_filter held)

/-- Of chunks cut from one byte string the contents are its beginning. -/
theorem contents_eq_take (chunks : List Chunk) (whole : Bytes)
    (cut : ∀ chunk ∈ chunks, chunk.CutFrom whole) :
    (receive chunks).contents = whole.take (firstGap chunks) := by
  rw [← (receive_reassembled chunks).length_eq]
  exact List.prefix_iff_eq_take.mp (receive_cut chunks whole cut)

theorem addChunk_grows (recording : Recording) (chunk : Chunk) :
    recording.contents <+: (recording.addChunk chunk).2.contents := by
  cases merged : incorporate recording.contents chunk with
  | none =>
    rw [addChunk_apart ((incorporate_eq_none _ chunk).mp merged)]
  | some longer =>
    rw [addChunk_merged merged]
    exact (prefix_of_incorporate merged).trans (settle_placed longer recording.deferred).grows

/-- What a chunk is answered, by where it starts. -/
theorem receive_outcome (before : List Chunk) (chunk : Chunk) :
    ((receive before).addChunk chunk).1 =
      if chunk.offset.toNat ≤ firstGap before then .applied (firstGap (before ++ [chunk]))
      else .deferred := by
  have frontier := (receive_reassembled before).length_eq
  have moved := (receive_reassembled (before ++ [chunk])).length_eq
  rw [receive_snoc] at moved
  cases merged : incorporate (receive before).contents chunk with
  | none =>
    have apart := (incorporate_eq_none _ chunk).mp merged
    rw [addChunk_apart apart, if_neg (by omega)]
  | some longer =>
    have reached := (incorporate_eq_some merged).1
    rw [addChunk_merged merged] at moved ⊢
    rw [if_pos (by omega), ← moved]

theorem receiveWords_eq (chunks : List Chunk)
    (small : ∀ chunk ∈ chunks, chunk.data.length ≤ vectorLimit)
    (bounded : (receive chunks).contents.length ≤ vectorLimit) :
    receiveWords chunks = some (receive chunks) := by
  induction chunks using List.reverseRecOn with
  | nil => rfl
  | append_singleton chunks chunk ih =>
    have before : ∀ other ∈ chunks, other.data.length ≤ vectorLimit :=
      fun other member => small other (List.mem_append_left [chunk] member)
    rw [receive_snoc] at bounded ⊢
    have short := (addChunk_grows (receive chunks) chunk).length_le.trans bounded
    have waiting : ∀ other ∈ (receive chunks).deferred, other.data.length ≤ vectorLimit := by
      intro other held
      rw [(receive_reassembled chunks).waiting] at held
      exact before other (List.mem_of_mem_filter held)
    have same := addChunkWords_eq (receive chunks) chunk (small chunk (by simp)) waiting short
      bounded
    rw [receiveWords_snoc, ih before short, Option.bind_some, same, Option.map_some]

/-- Whatever chunks arrive and in whatever order, the contents end at the first position that none
of them covers and what starts behind it waits in the order of arrival. Chunks of one byte string
give its beginning. No step leaves the words of the machine. -/
theorem receive_complete (chunks : List Chunk) :
    (receive chunks).contents.length = firstGap chunks ∧
    (receive chunks).deferred = chunks.filter (·.startsPast (firstGap chunks)) ∧
    (∀ whole, (∀ chunk ∈ chunks, chunk.CutFrom whole) →
      (receive chunks).contents = whole.take (firstGap chunks)) ∧
    (∀ others, others.Perm chunks →
      (receive others).contents.length = (receive chunks).contents.length ∧
      ∀ whole, (∀ chunk ∈ chunks, chunk.CutFrom whole) →
        (receive others).contents = (receive chunks).contents) ∧
    (∀ before chunk after, chunks = before ++ chunk :: after →
      ((receive before).addChunk chunk).1 =
        (if chunk.offset.toNat ≤ firstGap before then .applied (firstGap (before ++ [chunk]))
          else .deferred) ∧
      (firstGap before < chunk.offset.toNat →
        ((receive before).addChunk chunk).2.contents = (receive before).contents)) ∧
    ((∀ chunk ∈ chunks, chunk.data.length ≤ vectorLimit) →
      (receive chunks).contents.length ≤ vectorLimit → receiveWords chunks = some (receive chunks)) := by
  have frontier := (receive_reassembled chunks).length_eq
  refine ⟨frontier, ?_, contents_eq_take chunks, ?_, ?_, receiveWords_eq chunks⟩
  · rw [← frontier]
    exact (receive_reassembled chunks).waiting
  · intro others same
    have gap := firstGap_perm same
    refine ⟨by rw [(receive_reassembled others).length_eq, gap, frontier], ?_⟩
    intro whole cut
    have also : ∀ chunk ∈ others, chunk.CutFrom whole :=
      fun chunk member => cut chunk (same.subset member)
    rw [contents_eq_take others whole also, contents_eq_take chunks whole cut, gap]
  · rintro before chunk after rfl
    refine ⟨receive_outcome before chunk, ?_⟩
    intro past
    have apart : (receive before).contents.length < chunk.offset.toNat := by
      rw [(receive_reassembled before).length_eq]
      exact past
    rw [addChunk_apart apart]

/-- Overlapping and empty chunks around a gap, the first of them last. -/
def scattered : List Chunk :=
  [⟨3, [4, 5]⟩, ⟨1, [2, 3]⟩, ⟨9, [10]⟩, ⟨5, []⟩, ⟨1, [2, 3]⟩, ⟨0, [1, 2]⟩]

theorem receive_scattered :
    (receive scattered).contents = [1, 2, 3, 4, 5] ∧
    (receive scattered).deferred = [⟨9, [10]⟩] ∧
    (receive scattered.reverse).contents = [1, 2, 3, 4, 5] ∧
    receiveWords scattered = some (receive scattered) := by
  obtain ⟨length, waiting, cut, reordered, _, words⟩ := receive_complete scattered
  have gap : firstGap scattered = 5 := (eq_firstGap (by decide) (by decide)).symm
  have whole : ∀ chunk ∈ scattered, chunk.CutFrom [1, 2, 3, 4, 5, 6, 7, 8, 9, 10] := by
    simp [scattered, Chunk.CutFrom]
  have contents := cut _ whole
  rw [gap] at length waiting contents
  refine ⟨contents, waiting, ?_, words (by decide) ?_⟩
  · exact ((reordered _ scattered.reverse_perm).2 _ whole).trans contents
  · rw [length]
    decide

end Recording

end Playback
