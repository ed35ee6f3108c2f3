import Playback.Address
import Playback.Disk
import Playback.Proofs.Lists
import Mathlib.Data.String.Basic

set_option autoImplicit false

namespace Playback

namespace Disk

def isSlash (char : Char) : Bool := char == '/'

theorem utf8Len_snoc (chars : List Char) (char : Char) :
    String.utf8Len (chars ++ [char]) = String.utf8Len chars + char.utf8Size := by
  rw [String.utf8Len_append, String.utf8Len_cons, String.utf8Len_nil, Nat.zero_add]

/-- The scan of a path. Before its position stand the names that were found and what has been read of
the next one. -/
theorem splitOnAux_slash (before name left : List Char) (found : List String) :
    (String.ofList (before ++ name ++ left)).splitOnAux "/" ⟨String.utf8Len before⟩
        ⟨String.utf8Len (before ++ name)⟩ 0 found =
      found.reverse ++ (List.splitOnPPrepend isSlash left name.reverse).map String.ofList := by
  induction left generalizing before name found with
  | nil =>
    have read := String.extract_of_valid before name []
    rw [← String.utf8Len_append] at read
    rw [String.splitOnAux, if_pos ((String.atEnd_of_valid _ _).mpr rfl), read,
      List.splitOnPPrepend_nil, List.reverse_reverse, List.reverse_cons, List.map_singleton]
  | cons char rest ih =>
    have goes : ¬ String.Pos.Raw.atEnd (String.ofList (before ++ name ++ char :: rest))
        ⟨String.utf8Len (before ++ name)⟩ = true :=
      fun ends => List.cons_ne_nil _ _ ((String.atEnd_of_valid _ _).mp ends)
    have slash : String.Pos.Raw.get "/" 0 = '/' := by decide
    have one : String.Pos.Raw.next "/" 0 = ⟨1⟩ := by decide
    have last : String.Pos.Raw.atEnd "/" ⟨1⟩ = true := by decide
    rw [String.splitOnAux, if_neg goes, String.get_of_valid, String.next_of_valid, slash, one,
      List.headD_cons]
    by_cases separates : char = '/'
    · subst separates
      have read := String.extract_of_valid before name ('/' :: rest)
      rw [← String.utf8Len_append] at read
      have behind := ih (before ++ name ++ ['/']) [] (String.ofList name :: found)
      rw [List.append_nil, ← List.append_cons, utf8Len_snoc, List.reverse_nil,
        List.splitOnPPrepend_nil_right, List.reverse_cons, ← List.append_cons] at behind
      rw [if_pos (beq_self_eq_true _), List.splitOnPPrepend_cons_pos rfl, List.reverse_reverse,
        List.map_cons, ← behind, ← read]
      exact if_pos last
    · have other : isSlash char = false := beq_eq_false_iff_ne.mpr separates
      have longer := ih before (name ++ [char]) found
      rw [← List.append_assoc, utf8Len_snoc, ← List.append_cons, List.reverse_append,
        List.reverse_singleton, List.singleton_append] at longer
      rw [if_neg (fun same => separates (eq_of_beq same)),
        List.splitOnPPrepend_cons_neg other, ← longer]
      exact congrArg (fun position => String.splitOnAux _ _ _ position _ _)
        (String.next_of_valid (before ++ name) char rest)

/-- A path is cut at its slashes. -/
theorem components_eq (path : String) :
    components path = (path.toList.splitOnP isSlash).map String.ofList := by
  have cut := splitOnAux_slash [] [] path.toList []
  rw [List.nil_append, List.nil_append, String.ofList_toList] at cut
  rw [components, String.splitOn, if_neg (by decide)]
  exact cut

theorem not_slash {name : String} (plain : '/' ∉ name.toList) :
    ∀ char ∈ name.toList, isSlash char = false := by
  intro char there
  refine beq_eq_false_iff_ne.mpr ?_
  rintro rfl
  exact plain there

theorem components_of_plain {name : String} (plain : '/' ∉ name.toList) :
    components name = [name] := by
  rw [components_eq, List.splitOnP_eq_singleton (not_slash plain), List.map_singleton,
    String.ofList_toList]

theorem components_behind_slash (folder : List Char) {name : String}
    (plain : '/' ∉ name.toList) :
    components (String.ofList (folder ++ '/' :: name.toList)) =
      (folder.splitOnP isSlash).map String.ofList ++ [name] := by
  rw [components_eq, String.toList_ofList, List.splitOnP_append_cons _ _ rfl,
    List.splitOnP_eq_singleton (not_slash plain), List.map_append, List.map_singleton,
    String.ofList_toList]

theorem not_startsWith_slash {name : String} (plain : '/' ∉ name.toList) :
    name.startsWith "/" = false := by
  rw [String.startsWith_string_eq_false_iff]
  intro front
  exact plain (front.subset (List.mem_singleton.mpr rfl))

theorem ends_of_endsWith_slash {folder : String} (ends : folder.endsWith "/" = true) :
    ∃ front, folder.toList = front ++ ['/'] := by
  obtain ⟨front, same⟩ := String.Slice.endsWith_string_iff.mp ends
  rw [String.copy_toSlice] at same
  exact ⟨front, same.symm⟩

/-- The last name of a path into a folder. -/
theorem components_joinPath (folder : String) : ∃ above : List String, ∀ name : String,
    '/' ∉ name.toList → components (joinPath folder name) = above ++ [name] := by
  by_cases empty : folder.isEmpty = true
  · refine ⟨[], fun name plain => ?_⟩
    rw [joinPath, not_startsWith_slash plain, if_neg Bool.false_ne_true, empty, Bool.true_or,
      if_pos rfl, String.isEmpty_iff.mp empty, String.empty_append, components_of_plain plain]
    rfl
  · rw [Bool.not_eq_true] at empty
    by_cases ends : folder.endsWith "/" = true
    · obtain ⟨front, same⟩ := ends_of_endsWith_slash ends
      refine ⟨(front.splitOnP isSlash).map String.ofList, fun name plain => ?_⟩
      rw [joinPath, not_startsWith_slash plain, if_neg Bool.false_ne_true, ends, Bool.or_true,
        if_pos rfl, ← components_behind_slash front plain]
      congr 1
      apply String.toList_inj.mp
      simp [same]
    · refine ⟨(folder.toList.splitOnP isSlash).map String.ofList, fun name plain => ?_⟩
      rw [Bool.not_eq_true] at ends
      rw [joinPath, not_startsWith_slash plain, if_neg Bool.false_ne_true, ends, empty,
        Bool.or_false, if_neg Bool.false_ne_true, ← components_behind_slash folder.toList plain]
      congr 1
      apply String.toList_inj.mp
      simp

/-! Where names lead -/

variable {disk other : Disk} {start base place hole : Place} {names more : List String}
  {name : String}

theorem node?_put (disk : Disk) (place : Place) (node : Node) {far : Place} (apart : far ≠ place) :
    (disk.put place node).node? far = disk.node? far := by
  have nodes : (disk.put place node).nodes.lookup far = disk.nodes.lookup far := by
    rw [put, List.lookup_cons, beq_false_of_ne apart]
    exact (lookup_filter_ne _ _ _).trans (if_neg apart)
  rw [node?, node?, nodes]

theorem node?_erase (disk : Disk) (place : Place) {far : Place} (apart : far ≠ place) :
    (disk.erase place).node? far = disk.node? far := by
  have nodes : (disk.erase place).nodes.lookup far = disk.nodes.lookup far :=
    (lookup_filter_ne _ _ _).trans (if_neg apart)
  rw [node?, node?, nodes]

/-- Only a folder leads on. -/
theorem folder_of_follow_cons (leads : disk.follow place (name :: names) = .ok base) :
    disk.node? place = some .folder := by
  rw [follow] at leads
  split at leads
  · cases leads
  · assumption
  · cases leads

theorem follow_cons_of_folder (folder : disk.node? place = some .folder) (name : String)
    (names : List String) :
    disk.follow place (name :: names) =
      if staysPut name then disk.follow place names
      else if name = ".." then disk.follow place.dropLast names
      else if nameLimit < (Utf8.encode name).length then .error .nameTooLong
      else disk.follow (place ++ [name]) names := by
  rw [follow, folder]

/-- All names but the last lead to a folder. -/
theorem follow_append (leads : disk.follow start (names ++ more) = .ok place) :
    ∃ base, disk.follow start names = .ok base ∧ disk.follow base more = .ok place := by
  induction names generalizing start with
  | nil => exact ⟨start, rfl, leads⟩
  | cons name rest ih =>
    have folder := folder_of_follow_cons leads
    rw [List.cons_append, follow_cons_of_folder folder] at leads
    rw [follow_cons_of_folder folder]
    split_ifs at leads ⊢
    · exact ih leads
    · exact ih leads
    · exact ih leads

theorem follow_append_of_follow (leads : disk.follow start names = .ok base) (more : List String) :
    disk.follow start (names ++ more) = disk.follow base more := by
  induction names generalizing start with
  | nil =>
    cases leads
    rfl
  | cons name rest ih =>
    have folder := folder_of_follow_cons leads
    rw [follow_cons_of_folder folder] at leads
    rw [List.cons_append, follow_cons_of_folder folder]
    split_ifs at leads ⊢
    · exact ih leads
    · exact ih leads
    · exact ih leads

/-- A way leads to the same place on disks that differ only where there was no folder. -/
theorem follow_of_agree (solid : disk.node? hole ≠ some .folder)
    (agree : ∀ place ≠ hole, other.node? place = disk.node? place)
    (leads : disk.follow start names = .ok base) : other.follow start names = .ok base := by
  induction names generalizing start with
  | nil => exact leads
  | cons name rest ih =>
    have folder := folder_of_follow_cons leads
    have same := agree start fun here => solid (here ▸ folder)
    rw [follow_cons_of_folder folder] at leads
    rw [follow_cons_of_folder (same.trans folder)]
    split_ifs at leads ⊢
    · exact ih leads
    · exact ih leads
    · exact ih leads

/-- A name that stands neither for the folder itself nor for the one above. -/
def IsOwn (name : String) : Prop := staysPut name = false ∧ name ≠ ".."

/-- Where one name leads depends on the place where it is looked up. -/
theorem follow_singleton_of_same (same : other.node? base = disk.node? base) (name : String) :
    other.follow base [name] = disk.follow base [name] := by
  simp only [follow, same]

/-- From a folder, a name of its own leads to the place of that name, however the disk looks there. -/
theorem follow_own (own : IsOwn name) (leads : disk.follow base [name] = .ok place) :
    disk.node? base = some .folder ∧ place = base ++ [name] := by
  have folder := folder_of_follow_cons leads
  rw [follow_cons_of_folder folder, own.1, if_neg Bool.false_ne_true, if_neg own.2] at leads
  split_ifs at leads
  cases leads
  exact ⟨folder, rfl⟩

end Disk

end Playback
