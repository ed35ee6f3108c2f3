import Playback.Recording
import Mathlib.Data.List.Infix

set_option autoImplicit false

namespace Playback

namespace Chunk

/-- The position behind the last byte. -/
def stop (chunk : Chunk) : Nat := chunk.offset.toNat + chunk.data.length

def Covers (chunk : Chunk) (position : Nat) : Prop :=
  chunk.offset.toNat ≤ position ∧ position < chunk.stop

instance (chunk : Chunk) (position : Nat) : Decidable (chunk.Covers position) :=
  inferInstanceAs (Decidable (_ ∧ _))

def startsPast (position : Nat) (chunk : Chunk) : Bool := position < chunk.offset.toNat

@[simp] theorem startsPast_eq_true (position : Nat) (chunk : Chunk) :
    chunk.startsPast position = true ↔ position < chunk.offset.toNat := by
  simp only [startsPast, decide_eq_true_eq]

/-- The bytes of a chunk stand at its offset in this byte string. -/
def CutFrom (chunk : Chunk) (whole : Bytes) : Prop :=
  chunk.data <+: whole.drop chunk.offset.toNat

end Chunk

def Covered (chunks : List Chunk) (position : Nat) : Prop :=
  ∃ chunk ∈ chunks, chunk.Covers position

instance (chunks : List Chunk) (position : Nat) : Decidable (Covered chunks position) :=
  inferInstanceAs (Decidable (∃ _ ∈ _, _))

theorem Covered.mono {few many : List Chunk} {position : Nat} (covered : Covered few position)
    (subset : few ⊆ many) : Covered many position := by
  obtain ⟨chunk, member, covers⟩ := covered
  exact ⟨chunk, subset member, covers⟩

/-- Past a later position, a filter that already ran at an earlier one changes nothing. -/
theorem filter_startsPast_filter (chunks : List Chunk) {early late : Nat} (order : early ≤ late) :
    (chunks.filter (·.startsPast early)).filter (·.startsPast late) =
      chunks.filter (·.startsPast late) := by
  rw [List.filter_filter]
  apply List.filter_congr
  intro chunk _
  by_cases past : late < chunk.offset.toNat
  · have earlier : early < chunk.offset.toNat := by omega
    simp [Chunk.startsPast, past, earlier]
  · simp [Chunk.startsPast, past]

namespace Recording

theorem incorporate_eq_none (contents : Bytes) (chunk : Chunk) :
    incorporate contents chunk = none ↔ contents.length < chunk.offset.toNat := by
  unfold incorporate
  split
  · rename_i reached
    simp only [reduceCtorEq, false_iff]
    omega
  · rename_i apart
    simp only [true_iff]
    omega

theorem incorporate_of_le {contents : Bytes} {chunk : Chunk}
    (reached : chunk.offset.toNat ≤ contents.length) :
    incorporate contents chunk =
      some (contents ++ chunk.data.drop (contents.length - chunk.offset.toNat)) := by
  rw [incorporate, if_pos reached]

theorem incorporate_eq_some {contents longer : Bytes} {chunk : Chunk}
    (merged : incorporate contents chunk = some longer) :
    chunk.offset.toNat ≤ contents.length ∧
      longer = contents ++ chunk.data.drop (contents.length - chunk.offset.toNat) := by
  unfold incorporate at merged
  split at merged
  · rename_i reached
    exact ⟨reached, (Option.some.inj merged).symm⟩
  · cases merged

theorem prefix_of_incorporate {contents longer : Bytes} {chunk : Chunk}
    (merged : incorporate contents chunk = some longer) : contents <+: longer := by
  rw [(incorporate_eq_some merged).2]
  exact List.prefix_append _ _

theorem length_of_incorporate {contents longer : Bytes} {chunk : Chunk}
    (merged : incorporate contents chunk = some longer) :
    longer.length = max contents.length chunk.stop := by
  obtain ⟨reached, rfl⟩ := incorporate_eq_some merged
  simp only [List.length_append, List.length_drop, Chunk.stop]
  omega

/-- Of a chunk cut from a byte string only bytes of that string are taken. -/
theorem incorporate_cut {contents longer whole : Bytes} {chunk : Chunk}
    (merged : incorporate contents chunk = some longer) (begun : contents <+: whole)
    (cut : chunk.CutFrom whole) : longer <+: whole := by
  obtain ⟨reached, rfl⟩ := incorporate_eq_some merged
  obtain ⟨rest, rfl⟩ := begun
  have given : chunk.data <+: (contents ++ rest).drop chunk.offset.toNat := cut
  have behind := given.drop (contents.length - chunk.offset.toNat)
  rw [List.drop_drop, show chunk.offset.toNat + (contents.length - chunk.offset.toNat) =
    contents.length by omega, List.drop_left] at behind
  exact (List.prefix_append_right_inj contents).mpr behind

/-- What becomes of contents and waiting chunks while chunks find their places. -/
structure Placed (contents : Bytes) (chunks : List Chunk) (last : Bytes) (kept : List Chunk) :
    Prop where
  grows : contents <+: last
  fewer : kept.Sublist chunks
  /-- A chunk that is no longer kept lies within the contents. -/
  within : ∀ chunk ∈ chunks, chunk ∈ kept ∨ chunk.stop ≤ last.length
  /-- A chunk that starts past the contents is kept, in its order. -/
  far : ∀ position, last.length ≤ position →
    kept.filter (·.startsPast position) = chunks.filter (·.startsPast position)
  /-- Contents only grow where a chunk stands. -/
  backed : ∀ position, contents.length ≤ position → position < last.length →
    Covered chunks position

theorem Placed.refl (contents : Bytes) (chunks : List Chunk) :
    Placed contents chunks contents chunks where
  grows := List.prefix_refl contents
  fewer := List.Sublist.refl chunks
  within := fun _ member => Or.inl member
  far := fun _ _ => rfl
  backed := fun position lower upper => by omega

theorem Placed.trans {first second third : Bytes} {chunks left kept : List Chunk}
    (early : Placed first chunks second left) (late : Placed second left third kept) :
    Placed first chunks third kept where
  grows := early.grows.trans late.grows
  fewer := late.fewer.trans early.fewer
  within := by
    intro chunk member
    have order := late.grows.length_le
    rcases early.within chunk member with still | placed
    · exact late.within chunk still
    · exact Or.inr (by omega)
  far := by
    intro position past
    have order := late.grows.length_le
    rw [late.far position past, early.far position (by omega)]
  backed := by
    intro position lower upper
    by_cases inside : position < second.length
    · exact early.backed position lower inside
    · exact (late.backed position (by omega) upper).mono early.fewer.subset

/-- A chunk that finds its place and leaves the others waiting. -/
theorem Placed.of_incorporate {contents longer : Bytes} {chunk : Chunk} (rest : List Chunk)
    (merged : incorporate contents chunk = some longer) :
    Placed contents (chunk :: rest) longer rest where
  grows := prefix_of_incorporate merged
  fewer := List.sublist_cons_self chunk rest
  within := by
    intro other member
    rcases List.mem_cons.mp member with rfl | waiting
    · have grown := length_of_incorporate merged
      exact Or.inr (by omega)
    · exact Or.inl waiting
  far := by
    intro position past
    have reached := (incorporate_eq_some merged).1
    have grown := (prefix_of_incorporate merged).length_le
    have near : ¬ chunk.startsPast position = true := by
      rw [Chunk.startsPast_eq_true]
      omega
    rw [List.filter_cons_of_neg near]
  backed := by
    intro position lower upper
    have reached := (incorporate_eq_some merged).1
    have grown := length_of_incorporate merged
    exact ⟨chunk, List.mem_cons_self, by omega, by omega⟩

theorem Placed.cons {contents last : Bytes} {chunks kept : List Chunk} (chunk : Chunk)
    (placed : Placed contents chunks last kept) :
    Placed contents (chunk :: chunks) last (chunk :: kept) where
  grows := placed.grows
  fewer := placed.fewer.cons_cons chunk
  within := by
    intro other member
    rcases List.mem_cons.mp member with rfl | waiting
    · exact Or.inl List.mem_cons_self
    · exact (placed.within other waiting).imp_left (List.mem_cons_of_mem chunk)
  far := by
    intro position past
    rw [List.filter_cons, List.filter_cons, placed.far position past]
  backed := by
    intro position lower upper
    exact (placed.backed position lower upper).mono (List.subset_cons_self chunk chunks)

theorem retry_of_some {contents longer : Bytes} {chunk : Chunk} (rest : List Chunk)
    (merged : incorporate contents chunk = some longer) :
    retry contents (chunk :: rest) = ((retry longer rest).1, (retry longer rest).2.1,
      longer.length :: (retry longer rest).2.2) := by
  simp only [retry, merged]

theorem retry_of_none {contents : Bytes} {chunk : Chunk} (rest : List Chunk)
    (apart : incorporate contents chunk = none) :
    retry contents (chunk :: rest) = ((retry contents rest).1,
      chunk :: (retry contents rest).2.1, (retry contents rest).2.2) := by
  simp only [retry, apart]

theorem retry_placed (contents : Bytes) (chunks : List Chunk) :
    Placed contents chunks (retry contents chunks).1 (retry contents chunks).2.1 := by
  induction chunks generalizing contents with
  | nil => exact Placed.refl contents []
  | cons chunk rest ih =>
    cases merged : incorporate contents chunk with
    | some longer =>
      rw [retry_of_some rest merged]
      exact (Placed.of_incorporate rest merged).trans (ih longer)
    | none =>
      rw [retry_of_none rest merged]
      exact (ih contents).cons chunk

/-- A pass that keeps every chunk saw each of them past the contents. -/
theorem retry_idle (contents : Bytes) (chunks : List Chunk)
    (idle : chunks.length ≤ (retry contents chunks).2.1.length) :
    (retry contents chunks).1 = contents ∧ (retry contents chunks).2.1 = chunks ∧
      ∀ chunk ∈ chunks, contents.length < chunk.offset.toNat := by
  induction chunks generalizing contents with
  | nil => exact ⟨rfl, rfl, by simp⟩
  | cons chunk rest ih =>
    cases merged : incorporate contents chunk with
    | some longer =>
      have fewer := (retry_placed longer rest).fewer.length_le
      rw [retry_of_some rest merged, List.length_cons] at idle
      dsimp only at idle
      omega
    | none =>
      rw [retry_of_none rest merged] at idle ⊢
      obtain ⟨still, same, past⟩ := ih contents (Nat.le_of_succ_le_succ idle)
      refine ⟨still, congrArg (chunk :: ·) same, ?_⟩
      intro other member
      rcases List.mem_cons.mp member with rfl | waiting
      · exact (incorporate_eq_none contents _).mp merged
      · exact past other waiting

theorem settle_of_shorter {contents : Bytes} {chunks : List Chunk}
    (shorter : (retry contents chunks).2.1.length < chunks.length) :
    settle contents chunks =
      ((settle (retry contents chunks).1 (retry contents chunks).2.1).1,
        (settle (retry contents chunks).1 (retry contents chunks).2.1).2.1,
        (retry contents chunks).2.2 ++
          (settle (retry contents chunks).1 (retry contents chunks).2.1).2.2) := by
  rw [settle]
  simp only [shorter, ↓reduceDIte]

theorem settle_of_idle {contents : Bytes} {chunks : List Chunk}
    (idle : ¬ (retry contents chunks).2.1.length < chunks.length) :
    settle contents chunks = retry contents chunks := by
  rw [settle]
  simp only [idle, ↓reduceDIte]

theorem settle_placed (contents : Bytes) (chunks : List Chunk) :
    Placed contents chunks (settle contents chunks).1 (settle contents chunks).2.1 := by
  induction contents, chunks using settle.induct with
  | case1 contents chunks pass shorter ih =>
    rw [settle_of_shorter shorter]
    exact (retry_placed contents chunks).trans ih
  | case2 contents chunks pass idle =>
    rw [settle_of_idle idle]
    exact retry_placed contents chunks

/-- What the passes keep starts past the contents that they leave. -/
theorem settle_past (contents : Bytes) (chunks : List Chunk) :
    ∀ chunk ∈ (settle contents chunks).2.1,
      (settle contents chunks).1.length < chunk.offset.toNat := by
  induction contents, chunks using settle.induct with
  | case1 contents chunks pass shorter ih =>
    rw [settle_of_shorter shorter]
    exact ih
  | case2 contents chunks pass idle =>
    have unchanged : chunks.length ≤ (retry contents chunks).2.1.length := Nat.le_of_not_lt idle
    obtain ⟨still, same, past⟩ := retry_idle contents chunks unchanged
    rw [settle_of_idle idle, still, same]
    exact past

/-- The passes keep exactly the chunks past the contents that they leave. -/
theorem settle_kept (contents : Bytes) (chunks : List Chunk) :
    (settle contents chunks).2.1 =
      chunks.filter (·.startsPast (settle contents chunks).1.length) := by
  rw [← (settle_placed contents chunks).far _ (Nat.le_refl _), eq_comm, List.filter_eq_self]
  intro chunk member
  rw [Chunk.startsPast_eq_true]
  exact settle_past contents chunks chunk member

theorem retry_cut (contents whole : Bytes) (chunks : List Chunk) (begun : contents <+: whole)
    (cut : ∀ chunk ∈ chunks, chunk.CutFrom whole) : (retry contents chunks).1 <+: whole := by
  induction chunks generalizing contents with
  | nil => exact begun
  | cons chunk rest ih =>
    have tail : ∀ other ∈ rest, other.CutFrom whole :=
      fun other member => cut other (List.mem_cons_of_mem chunk member)
    cases merged : incorporate contents chunk with
    | some longer =>
      rw [retry_of_some rest merged]
      exact ih longer (incorporate_cut merged begun (cut chunk List.mem_cons_self)) tail
    | none =>
      rw [retry_of_none rest merged]
      exact ih contents begun tail

theorem settle_cut (contents whole : Bytes) (chunks : List Chunk) (begun : contents <+: whole)
    (cut : ∀ chunk ∈ chunks, chunk.CutFrom whole) : (settle contents chunks).1 <+: whole := by
  induction contents, chunks using settle.induct with
  | case1 contents chunks pass shorter ih =>
    rw [settle_of_shorter shorter]
    apply ih (retry_cut contents whole chunks begun cut)
    intro chunk member
    exact cut chunk ((retry_placed contents chunks).fewer.subset member)
  | case2 contents chunks pass idle =>
    rw [settle_of_idle idle]
    exact retry_cut contents whole chunks begun cut

end Recording

end Playback
