import Playback.Network
import Playback.Proofs.Disk.Paths

set_option autoImplicit false

namespace Playback

/-! Names -/

theorem toDigits_inj {first second : Nat} (same : Nat.toDigits 10 first = Nat.toDigits 10 second) :
    first = second := by
  have values := congrArg (fun digits => Nat.ofDigitChars 10 digits 0) same
  rwa [Nat.ofDigitChars_ten_toDigits, Nat.ofDigitChars_ten_toDigits] at values

theorem not_mem_toDigits {char : Char} (other : char.isDigit = false) (number : Nat) :
    char ∉ Nat.toDigits 10 number := by
  intro there
  rw [Nat.isDigit_of_mem_toDigits (by decide) (by decide) there] at other
  cases other

theorem toList_socketName (pid channel : UInt32) :
    (socketName pid channel).toList = "replay-ipc-".toList ++
      (Nat.toDigits 10 pid.toNat ++ '-' :: (Nat.toDigits 10 channel.toNat ++ ".sock".toList)) := by
  simp only [socketName, String.toList_append, Nat.toString_eq_repr, Nat.toList_repr,
    List.append_assoc]
  rfl

/-- A number holds no dash, so the last dash of a name stands between its two numbers. -/
theorem socketName_inj {pid channel otherPid otherChannel : UInt32} :
    socketName pid channel = socketName otherPid otherChannel ↔
      pid = otherPid ∧ channel = otherChannel := by
  constructor
  · intro same
    have chars := congrArg String.toList same
    rw [toList_socketName, toList_socketName, List.append_cancel_left_eq] at chars
    have dash (number : Nat) : '-' ∉ Nat.toDigits 10 number := not_mem_toDigits rfl number
    have behind : '-' ∉ Nat.toDigits 10 channel.toNat ++ ".sock".toList := by
      rw [List.mem_append, not_or]
      exact ⟨dash _, by decide⟩
    obtain ⟨pids, -, rest⟩ := (List.append_cons_inj_of_notMem (dash _) behind).mp chars
    have channels := List.append_cancel_right rest
    exact ⟨UInt32.toNat_inj.mp (toDigits_inj pids), UInt32.toNat_inj.mp (toDigits_inj channels)⟩
  · rintro ⟨rfl, rfl⟩
    rfl

theorem plain_socketName (pid channel : UInt32) : '/' ∉ (socketName pid channel).toList := by
  rw [toList_socketName]
  have slash (number : Nat) : '/' ∉ Nat.toDigits 10 number := not_mem_toDigits rfl number
  simp [slash]

theorem own_socketName (pid channel : UInt32) : Disk.IsOwn (socketName pid channel) := by
  have first : (socketName pid channel).toList.head? = some 'r' := by
    rw [toList_socketName]
    rfl
  have other {name : String} (different : name.toList.head? ≠ some 'r') :
      socketName pid channel ≠ name := by
    rintro rfl
    exact different first
  refine ⟨?_, other (by decide)⟩
  rw [Disk.staysPut, Bool.or_eq_false_iff, decide_eq_false_iff_not, decide_eq_false_iff_not]
  exact ⟨other (by decide), other (by decide)⟩

/-- In one folder, paths of socket files differ in their last name alone. -/
theorem components_socketPath (folder : String) : ∃ above, ∀ pid channel : UInt32,
    Disk.components (socketPath folder pid channel) = above ++ [socketName pid channel] := by
  obtain ⟨above, joined⟩ := Disk.components_joinPath folder
  exact ⟨above, fun pid channel => joined _ (plain_socketName pid channel)⟩

theorem placeOf_socketPath_inj {folder : String} {pid channel otherPid otherChannel : UInt32} :
    Disk.placeOf (socketPath folder pid channel) =
        Disk.placeOf (socketPath folder otherPid otherChannel) ↔
      pid = otherPid ∧ channel = otherChannel := by
  obtain ⟨above, names⟩ := components_socketPath folder
  have last (pid channel : UInt32) : Disk.placeOf (socketPath folder pid channel) =
      above.filter (fun name => !Disk.staysPut name) ++ [socketName pid channel] := by
    rw [Disk.placeOf, names, List.filter_append, List.filter_singleton,
      (own_socketName pid channel).1]
    rfl
  rw [last, last, List.append_cancel_left_eq, List.singleton_inj, socketName_inj]

/-! Who listens -/

namespace Network

variable {network after : Network} {path : String} {ear : Ear} {place : Place}

/-- All but one place are as they were. -/
structure SameBut (place : Place) (network after : Network) : Prop where
  nodes : ∀ far ≠ place, after.disk.node? far = network.disk.node? far
  listeners : ∀ far ≠ place, after.listeners.find? (fun one => one.place = far) =
    network.listeners.find? (fun one => one.place = far)
  endpoints : after.endpoints = network.endpoints
  pathLimit : after.pathLimit = network.pathLimit

theorem SameBut.trans {middle : Network} (first : SameBut place network middle)
    (second : SameBut place middle after) : SameBut place network after where
  nodes far apart := (second.nodes far apart).trans (first.nodes far apart)
  listeners far apart := (second.listeners far apart).trans (first.listeners far apart)
  endpoints := second.endpoints.trans first.endpoints
  pathLimit := second.pathLimit.trans first.pathLimit

/-- What a path leads to is made room for unless it is a folder. -/
theorem removeFile_cases {cleared : Network} (removed : network.removeFile path = .ok cleared) :
    (cleared = network ∧ network.disk.follow [] (Disk.components path) = .error .missingFile) ∨
      ∃ place, network.disk.follow [] (Disk.components path) = .ok place ∧
        network.disk.node? place ≠ some .folder ∧ SameBut place network cleared := by
  unfold removeFile at removed
  cases checked : Disk.checkPath path .zeroInName with
  | error fault =>
    rw [checked] at removed
    cases removed
  | ok _ =>
    rw [checked] at removed
    dsimp only [Bind.bind, Except.bind] at removed
    split at removed
    · rename_i missing
      cases removed
      exact .inl ⟨rfl, missing⟩
    · cases removed
    · rename_i place leads
      split at removed
      · cases removed
      · rename_i solid
        cases removed
        refine .inr ⟨place, leads, solid, ?_⟩
        exact ⟨fun far apart => Disk.node?_erase _ _ apart, fun _ _ => rfl, rfl, rfl⟩

theorem bind_sameBut {listening : Network} (bound : network.bind path ear = .ok listening) :
    ∃ place, network.disk.follow [] (Disk.components path) = .ok place ∧
      SameBut place network listening := by
  unfold Network.bind at bound
  cases checked : network.checkSocketPath path with
  | error fault =>
    rw [checked] at bound
    cases bound
  | ok _ =>
    cases leads : network.disk.follow [] (Disk.components path) with
    | error fault =>
      rw [checked, leads] at bound
      cases bound
    | ok place =>
      rw [checked, leads] at bound
      cases bound
      refine ⟨place, rfl, fun far apart => Disk.node?_put _ _ _ apart, ?_, rfl, rfl⟩
      intro far apart
      rw [List.find?_cons_of_neg (by simpa using apart.symm), List.find?_filter]
      congr 1
      funext one
      by_cases same : one.place = far
      · simp [same, apart]
      · simp [same]

/-- To listen changes at most the place of the path, and only if that is no folder. -/
theorem listen_cases (network : Network) (path : String) (ear : Ear) :
    (network.listen path ear).2 = network ∨
      ∃ place, network.disk.follow [] (Disk.components path) = .ok place ∧
        network.disk.node? place ≠ some .folder ∧
        SameBut place network (network.listen path ear).2 := by
  unfold listen
  cases removed : network.removeFile path with
  | error fault => exact .inl rfl
  | ok cleared =>
    dsimp only
    cases bound : cleared.bind path ear with
    | error fault =>
      rcases removeFile_cases removed with ⟨same, -⟩ | changed
      · exact .inl same
      · exact .inr changed
    | ok listening =>
      obtain ⟨there, found, rebound⟩ := bind_sameBut bound
      rcases removeFile_cases removed with ⟨rfl, missing⟩ | ⟨place, leads, solid, changed⟩
      · rw [found] at missing
        cases missing
      · have again := Disk.follow_of_agree solid changed.nodes leads
        rw [found] at again
        cases again
        exact .inr ⟨there, leads, solid, changed.trans rebound⟩

/-- What stands under a path, and who listens there. -/
def found (network : Network) (path : String) : Except IoFault (Option Node × Option Listener) :=
  (network.disk.follow [] (Disk.components path)).map fun place =>
    (network.disk.node? place, network.listeners.find? fun one => one.place = place)

/-- A listener is found unless the path is no good or the receiver of its channel has ended. -/
theorem listener?_eq (network : Network) (path : String) :
    network.listener? path = (network.checkSocketPath path).bind fun _ =>
      (network.found path).bind fun
        | (none, _) => .error .missingFile
        | (some .socket, none) => .error .connectionRefused
        | (some .socket, some listener) =>
          let lost : Bool := match listener.ear with
            | .channel index => (network.channel? index).any fun channel => !channel.receiving
            | .peer _ => false
          if lost then .error .connectionRefused else .ok listener
        | (some _, _) => .error .connectionRefused := by
  unfold listener? found
  cases network.checkSocketPath path with
  | error fault => rfl
  | ok _ =>
    cases network.disk.follow [] (Disk.components path) with
    | error fault => rfl
    | ok place =>
      dsimp only [Bind.bind, Except.bind, Except.map]
      cases network.disk.node? place with
      | none => rfl
      | some node =>
        cases node with
        | folder | file => rfl
        | socket =>
          cases network.listeners.find? fun one => one.place = place with
          | none | some => rfl

theorem listener?_of_found (limit : after.pathLimit = network.pathLimit)
    (endpoints : after.endpoints = network.endpoints)
    (same : after.found path = network.found path) :
    after.listener? path = network.listener? path := by
  have checked : after.checkSocketPath path = network.checkSocketPath path := by
    rw [checkSocketPath, checkSocketPath, limit]
  have channels (index : Nat) : after.channel? index = network.channel? index := by
    rw [channel?, channel?, endpoint?, endpoint?, endpoints]
  simp only [listener?_eq, checked, same, channels]

/-- Whoever listens in a folder leaves alone what else is there. -/
theorem found_listen (folder : String) {pid channel otherPid otherChannel : UInt32}
    (apart : ¬ (otherPid = pid ∧ otherChannel = channel)) (network : Network) (ear : Ear) :
    let after := (network.listen (socketPath folder otherPid otherChannel) ear).2
    after.found (socketPath folder pid channel) = network.found (socketPath folder pid channel) ∧
      after.endpoints = network.endpoints ∧ after.pathLimit = network.pathLimit := by
  intro after
  rcases listen_cases network (socketPath folder otherPid otherChannel) ear with same | changed
  · rw [show after = network from same]
    exact ⟨rfl, rfl, rfl⟩
  · obtain ⟨place, leads, solid, changed⟩ := changed
    refine ⟨?_, changed.endpoints, changed.pathLimit⟩
    obtain ⟨above, names⟩ := components_socketPath folder
    rw [names] at leads
    obtain ⟨base, way, last⟩ := Disk.follow_append leads
    obtain ⟨-, rfl⟩ := Disk.follow_own (own_socketName _ _) last
    have wayAfter : after.disk.follow [] above = .ok base :=
      Disk.follow_of_agree solid changed.nodes way
    have above_same : after.disk.node? base = network.disk.node? base := by
      refine changed.nodes base fun same => ?_
      have lengths := congrArg List.length same
      rw [List.length_append, List.length_singleton] at lengths
      omega
    rw [found, found, names, Disk.follow_append_of_follow way,
      Disk.follow_append_of_follow wayAfter, Disk.follow_singleton_of_same above_same]
    cases leads : network.disk.follow base [socketName pid channel] with
    | error fault => rfl
    | ok there =>
      obtain ⟨-, rfl⟩ := Disk.follow_own (own_socketName _ _) leads
      have different : base ++ [socketName pid channel] ≠
          base ++ [socketName otherPid otherChannel] := by
        intro same
        rw [List.append_cancel_left_eq, List.singleton_inj, socketName_inj] at same
        exact apart ⟨same.1.symm, same.2.symm⟩
      simp only [Except.map]
      rw [changed.nodes _ different, changed.listeners _ different]

/-- Somebody who is to listen for one of the channels of a process. -/
structure Listening where
  pid : UInt32
  channel : UInt32
  ear : Ear

/-- A network in which one after the other has tried to listen in a folder. -/
def afterAll (network : Network) (folder : String) (all : List Listening) : Network :=
  all.foldl (fun network one =>
    (network.listen (socketPath folder one.pid one.channel) one.ear).2) network

theorem afterAll_keeps (folder : String) {pid channel : UInt32} {all : List Listening}
    (apart : ∀ one ∈ all, ¬ (one.pid = pid ∧ one.channel = channel)) (network : Network) :
    let later := network.afterAll folder all
    later.found (socketPath folder pid channel) = network.found (socketPath folder pid channel) ∧
      later.endpoints = network.endpoints ∧ later.pathLimit = network.pathLimit := by
  induction all generalizing network with
  | nil => exact ⟨rfl, rfl, rfl⟩
  | cons one rest ih =>
    obtain ⟨first, others⟩ := List.forall_mem_cons.mp apart
    obtain ⟨found, endpoints, limit⟩ := found_listen folder first network one.ear
    obtain ⟨foundThen, endpointsThen, limitThen⟩ :=
      ih others (network.listen (socketPath folder one.pid one.channel) one.ear).2
    exact ⟨foundThen.trans found, endpointsThen.trans endpoints, limitThen.trans limit⟩

/-- In one folder, no two channels of processes have the same socket file, whether paths are compared
as texts or by the names in them. So however many others listen there, and whether or not they
succeed, a socket file stays, and whoever connects to it finds the same listener. -/
theorem socket_files_apart (folder : String) (pid channel : UInt32) :
    (∀ otherPid otherChannel,
      (socketPath folder pid channel = socketPath folder otherPid otherChannel ↔
        pid = otherPid ∧ channel = otherChannel) ∧
      (Disk.placeOf (socketPath folder pid channel) =
          Disk.placeOf (socketPath folder otherPid otherChannel) ↔
        pid = otherPid ∧ channel = otherChannel)) ∧
    ∀ (network : Network) (others : List Listening),
      (∀ one ∈ others, ¬ (one.pid = pid ∧ one.channel = channel)) →
      let later := network.afterAll folder others
      later.found (socketPath folder pid channel) = network.found (socketPath folder pid channel) ∧
        later.listener? (socketPath folder pid channel) =
          network.listener? (socketPath folder pid channel) := by
  refine ⟨?_, ?_⟩
  · intro otherPid otherChannel
    refine ⟨⟨fun same => ?_, ?_⟩, placeOf_socketPath_inj⟩
    · exact placeOf_socketPath_inj.mp (congrArg Disk.placeOf same)
    · rintro ⟨rfl, rfl⟩
      rfl
  · intro network others apart
    obtain ⟨found, endpoints, limit⟩ := afterAll_keeps folder apart network
    exact ⟨found, listener?_of_found limit endpoints found⟩

/-- Channel 23 of process 1 and channel 3 of process 12, which have the same digits. -/
theorem same_digits_apart :
    let first := (({} : Network).listen (socketPath "" 1 23) (.peer 0)).2
    first.listener? (socketPath "" 1 23) =
        .ok { place := ["replay-ipc-1-23.sock"], ear := .peer 0 } ∧
      (first.afterAll "" [⟨12, 3, .peer 1⟩]).listener? (socketPath "" 1 23) =
        .ok { place := ["replay-ipc-1-23.sock"], ear := .peer 0 } := by
  intro first
  have path : socketPath "" 1 23 = "replay-ipc-1-23.sock" := by decide +kernel
  have names : Disk.components "replay-ipc-1-23.sock" = ["replay-ipc-1-23.sock"] :=
    Disk.components_of_plain (by decide)
  have listens : first.listener? (socketPath "" 1 23) =
      .ok { place := ["replay-ipc-1-23.sock"], ear := .peer 0 } := by
    unfold first listener? listen removeFile Network.bind
    simp only [path, names]
    decide +kernel
  have kept := ((socket_files_apart "" 1 23).2 first [⟨12, 3, .peer 1⟩] (by decide)).2
  exact ⟨listens, kept.trans listens⟩

end Network

end Playback
