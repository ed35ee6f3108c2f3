import Playback.Proofs.Tree.Turning

set_option autoImplicit false

namespace Playback

namespace Tree

/-- Two processes remember the same output of a call, if nothing but one output was ever performed
for it once a fork has performed it. -/
theorem caches_agree {tree : Tree} (reachable : tree.Reachable) {id : CallId}
    (once : ∀ one ∈ tree.outputs, ∀ other ∈ tree.outputs, one.id = id → other.id = id →
      one.fork ≠ rootFork → one.output = other.output)
    {first second : UInt32} {output known : Bytes} (here : tree.output? first id = some output)
    (there : tree.output? second id = some known) : output = known := by
  obtain ⟨asked, sane⟩ := reachable.sane
  -- Outside what the root knows there is only what some fork has performed.
  have atRoot : ∀ fork found, tree.output? fork id = some found →
      tree.output? rootFork id = some found ∨
        ∃ who, who ≠ rootFork ∧ { fork := who, id, output := found } ∈ tree.outputs := by
    intro fork found remembered
    rcases (sane.cached fork id found remembered).shared with root | elsewhere
    · exact Or.inl (root ▸ remembered)
    · exact elsewhere
  obtain ⟨one, performedOne⟩ := (sane.cached first id output here).performed
  obtain ⟨other, performedOther⟩ := (sane.cached second id known there).performed
  rcases atRoot first output here with root | ⟨who, fork, performed⟩
  · rcases atRoot second known there with same | ⟨who, fork, performed⟩
    · exact Option.some.inj (root.symm.trans same)
    · exact (once _ performed _ performedOne rfl rfl fork).symm
  · exact once _ performed _ performedOther rfl rfl fork

def someCall : CallId where
  number := 7
  nonzero := by decide

def loneRoot : Tree := ofRoot { config := {}, channel := some upstream }

theorem loneRoot_reachable : loneRoot.Reachable := .root rfl rfl rfl rfl

def twoForks : List Turn := joins 1 11 0 ++ joins 2 12 1

theorem free_twoForks : ∀ turn ∈ twoForks, Free turn :=
  List.forall_mem_append.mpr ⟨free_joins (by decide) 11 0, free_joins (by decide) 12 1⟩

/-- One fork is done with its call before the other one asks. -/
def inTurn : List Turn :=
  twoForks ++
    (asks 1 someCall [1] 2 ++ (attends 1 3 ++ (hears 1 4 ++ (acts 2 4 ++ attends 1 5)))) ++
    (asks 2 someCall [2] 6 ++ (attends 2 7 ++ (hears 2 8 ++ acts 6 2)))

theorem free_inTurn : ∀ turn ∈ inTurn, Free turn := by
  simp only [inTurn, List.forall_mem_append]
  exact ⟨⟨free_twoForks, free_asks 1 someCall [1] 2, free_attends 1 3, free_hears 1 4,
    free_acts 2 4, free_attends 1 5⟩, free_asks 2 someCall [2] 6, free_attends 2 7,
      free_hears 2 8, free_acts 6 2⟩

theorem caches_agree_in_turn :
    ∃ tree : Tree, tree.Reachable ∧ tree.outputs = [{ fork := 1, id := someCall, output := [1] }] ∧
      tree.output? 2 someCall = some [1] ∧
      ∀ output, tree.output? 1 someCall = some output → output = [1] := by
  have played : (loneRoot.play inTurn).map (fun tree => (tree.outputs, tree.output? 2 someCall)) =
      some ([{ fork := 1, id := someCall, output := [1] }], some [1]) := by decide +kernel
  obtain ⟨tree, ran, found⟩ := Option.map_eq_some_iff.mp played
  obtain ⟨outputs, heard⟩ := Prod.mk.inj found
  have reachable := loneRoot_reachable.play free_inTurn ran
  refine ⟨tree, reachable, outputs, heard, fun output performed => ?_⟩
  refine caches_agree reachable ?_ performed heard
  rw [outputs]
  intro one there other here _ _ _
  rw [List.mem_singleton.mp there, List.mem_singleton.mp here]

/-- Both forks ask before either of them is done. -/
def race : List Turn :=
  twoForks ++ (asks 1 someCall [1] 2 ++ asks 2 someCall [2] 3) ++ (attends 1 4 ++ attends 2 5) ++
    (hears 1 6 ++ hears 2 7) ++ (acts 2 4 ++ acts 3 4) ++ (attends 1 8 ++ attends 2 9)

theorem free_race : ∀ turn ∈ race, Free turn := by
  simp only [race, List.forall_mem_append]
  exact ⟨⟨⟨⟨⟨free_twoForks, free_asks 1 someCall [1] 2, free_asks 2 someCall [2] 3⟩,
    free_attends 1 4, free_attends 2 5⟩, free_hears 1 6, free_hears 2 7⟩, free_acts 2 4,
      free_acts 3 4⟩, free_attends 1 8, free_attends 2 9⟩

/-- All messages have arrived, and still the forks remember what each of them has performed. -/
theorem caches_disagree_after_race :
    ∃ tree : Tree, tree.Reachable ∧ tree.output? rootFork someCall = some [1] ∧
      tree.output? 1 someCall = some [1] ∧ tree.output? 2 someCall = some [2] ∧
      tree.up 1 = [] ∧ tree.up 2 = [] ∧ tree.down 1 = [] ∧ tree.down 2 = [] := by
  have played : (loneRoot.play race).map (fun tree =>
      ([tree.output? rootFork someCall, tree.output? 1 someCall, tree.output? 2 someCall],
        [tree.up 1, tree.up 2, tree.down 1, tree.down 2])) =
      some ([some [1], some [1], some [2]], [[], [], [], []]) := by decide +kernel
  obtain ⟨tree, ran, found⟩ := Option.map_eq_some_iff.mp played
  obtain ⟨known, lines⟩ := Prod.mk.inj found
  simp only [List.cons.injEq, and_true] at known lines
  obtain ⟨root, one, two⟩ := known
  exact ⟨tree, loneRoot_reachable.play free_race ran, root, one, two, lines⟩

end Tree

end Playback
