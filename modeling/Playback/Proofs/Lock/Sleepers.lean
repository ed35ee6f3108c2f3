import Playback.Proofs.Lock.Room

set_option autoImplicit false

namespace Playback

namespace LockRoom

def Call.stage? : Call → Option Stage
  | .read _ stage | .write _ stage | .drain _ stage => some stage
  | _ => none

/-- The same thread at another stage. -/
def Call.atStage (stage : Stage) : Call → Call
  | .read name _ => .read name stage
  | .write name _ => .write name stage
  | .drain name _ => .drain name stage
  | call => call

/-- The thread sleeps, and nobody has woken it. -/
def Call.sleeps (room : LockRoom) (call : Call) : Bool :=
  call.stage? = some (.asleep room.wakes)

/-- A thread that has still to change its part of the word, or to wake the sleepers. -/
def Call.frees : Call → Bool
  | .drop _ | .wake => true
  | _ => false

/-- The word is zero, nobody holds a guard, and nobody is about to drop one or to wake others. -/
structure Vacant (crew : Crew LockRoom Call) : Prop where
  word : crew.state.lock.word = 0
  guards : crew.state.guards = []
  done : ∀ one ∈ crew.waiting, one.call.frees = false

abbrev Steps := List (Crew.Taken LockRoom Call Answer)

/-- The thread of a ticket, as a writer, has lost the exchange of the word that it saw. -/
def Loses (steps : Steps) (ticket : Nat) (name : String) (seen : LockWord) : Prop :=
  ∃ step ∈ steps, step.one.ticket = ticket ∧ step.one.call = .write name (.exchange seen) ∧
    step.moved.next = .inl (.write name (.park seen))

/-- The thread is a writer that saw no bit of a writer and lost the exchange of what it saw. It fell
asleep on the same word, and the sleepers have not been woken since. -/
def Missed (steps : Steps) (room : LockRoom) (one : Waiting Call) : Prop :=
  ∃ name seen, one.call = .write name (.asleep room.wakes) ∧ seen.isWriteLocked = false ∧
    Loses steps one.ticket name seen ∧
    ∃ step ∈ steps, step.one.ticket = one.ticket ∧ step.one.call = .write name (.park seen) ∧
      step.moved.next = .inl one.call

/-- Somebody has set the bit of the writer, or is about to wake the sleepers. -/
def Busy (room : LockRoom) (waiting : List (Waiting Call)) : Prop :=
  0 < draining waiting + writeGuards room ∨ ∃ one ∈ waiting, one.call = .wake

theorem Call.drains_atStage (stage : Stage) (call : Call) :
    (call.atStage stage).drains = call.drains := by
  cases call <;> rfl

variable {room changed : LockRoom} {call again : Call} {moved : Move LockRoom Call Answer}
  {before after others : List (Waiting Call)} {one : Waiting Call} {steps : Steps}
  {course later : Course LockRoom Call Answer}

/-! One step -/

theorem stage?_atStage {stage : Stage} (here : call.stage? = some stage) (other : Stage) :
    (call.atStage other).stage? = some other := by
  cases call with
  | read | write | drain => rfl
  | drop | wake | forget | reset => cases here

theorem move_of_park {seen : LockWord} (here : call.stage? = some (.park seen))
    (taken : call.move room = some moved) :
    moved = { state := room, next := .inl (call.atStage (room.parked seen)) } := by
  cases call with
  | read | write | drain =>
    cases here
    cases taken
    rfl
  | drop | wake | forget | reset => cases here

theorem move_of_asleep {since : Nat} (here : call.stage? = some (.asleep since))
    (taken : call.move room = some moved) :
    ∃ stage, room.woken since = some stage ∧
      moved = { state := room, next := .inl (call.atStage stage) } := by
  cases call with
  | read | write | drain =>
    cases here
    obtain ⟨stage, woken, same⟩ := Option.bind_eq_some_iff.mp taken
    cases same
    exact ⟨stage, woken, rfl⟩
  | drop | wake | forget | reset => cases here

/-- Where a call comes from that sleeps or is about to. -/
structure Leads (room : LockRoom) (call again : Call) : Prop where
  sleeps : ∀ since, again.stage? = some (.asleep since) →
    since = room.wakes ∧ call.stage? = some (.park room.lock) ∧ again = call.atStage (.asleep since)
  parks : ∀ seen, again.stage? = some (.park seen) →
    again.drains = true ∨ seen.isWriteLocked = true ∨
      ∃ name, call = .write name (.exchange seen) ∧ again = .write name (.park seen)

theorem leads_of_alert (parks : ∀ seen, again.stage? ≠ some (.park seen))
    (sleeps : ∀ since, again.stage? ≠ some (.asleep since)) : Leads room call again :=
  ⟨fun since there => absurd there (sleeps since), fun seen there => absurd there (parks seen)⟩

/-- A thread that looks at the word is about to sleep only if a writer has set its bit. -/
theorem leads_of_look (same : again.stage? =
    some (if room.lock.isWriteLocked then .park room.lock else .exchange room.lock)) :
    Leads room call again := by
  cases locked : room.lock.isWriteLocked with
  | false => exact leads_of_alert (by simp [same, locked]) (by simp [same, locked])
  | true =>
    refine ⟨by simp [same, locked], ?_⟩
    intro seen there
    rw [same, locked, if_pos rfl] at there
    cases there
    exact .inr (.inl locked)

theorem leads_of_park {seen : LockWord} (here : call.stage? = some (.park seen))
    (taken : call.move room = some moved) (next : moved.next = .inl again) :
    Leads room call again := by
  rw [move_of_park here taken] at next
  cases next
  have stays := stage?_atStage here (room.parked seen)
  unfold parked at stays ⊢
  split at stays
  · rename_i still
    rw [if_pos still]
    refine ⟨?_, by simp [stays]⟩
    intro since there
    rw [stays] at there
    cases there
    exact ⟨rfl, still ▸ here, rfl⟩
  · rename_i changed
    rw [if_neg changed]
    exact leads_of_alert (by simp [stays]) (by simp [stays])

theorem leads_of_asleep {since : Nat} (here : call.stage? = some (.asleep since))
    (taken : call.move room = some moved) (next : moved.next = .inl again) :
    Leads room call again := by
  obtain ⟨stage, woken, rfl⟩ := move_of_asleep here taken
  cases next
  have looks := stage?_atStage here stage
  rw [look_of_woken woken] at looks ⊢
  exact leads_of_alert (by simp [looks]) (by simp [looks])

theorem leads_of_wavers (wavers : Wavers call again) : Leads room call again := by
  cases wavers with
  | @writeFails name seen =>
    refine ⟨nofun, ?_⟩
    rintro other ⟨⟩
    exact .inr (.inr ⟨name, rfl, rfl⟩)
  | _ => exact leads_of_alert nofun nofun

theorem leads_of_goes (goes : Goes call room moved) (next : moved.next = .inl again) :
    Leads room call again := by
  rcases goes.taken with taken | ⟨other, wavers, -, goesOn⟩
  case inr =>
    rw [goesOn] at next
    cases next
    exact leads_of_wavers wavers
  cases call with
  | read name stage =>
    cases stage with
    | look =>
      cases taken
      cases next
      exact leads_of_look rfl
    | exchange seen =>
      dsimp only [Call.move] at taken
      split at taken <;> cases taken <;> cases next
      exact leads_of_alert nofun nofun
    | park seen => exact leads_of_park rfl taken next
    | asleep since => exact leads_of_asleep rfl taken next
  | write name stage =>
    cases stage with
    | look =>
      cases taken
      cases next
      exact leads_of_look rfl
    | exchange seen =>
      dsimp only [Call.move] at taken
      split at taken <;> cases taken <;> cases next
      · exact leads_of_alert nofun nofun
      · refine ⟨nofun, ?_⟩
        rintro other ⟨⟩
        exact .inr (.inr ⟨name, rfl, rfl⟩)
    | park seen => exact leads_of_park rfl taken next
    | asleep since => exact leads_of_asleep rfl taken next
  | drain name stage =>
    cases stage with
    | look | exchange =>
      dsimp only [Call.move] at taken
      split at taken <;> cases taken <;> cases next
      exact ⟨nofun, fun _ _ => .inl rfl⟩
    | park seen => exact leads_of_park rfl taken next
    | asleep since => exact leads_of_asleep rfl taken next
  | drop name =>
    dsimp only [Call.move] at taken
    split at taken <;> cases taken
    · cases next
    · dsimp only at next
      split at next <;> cases next
      exact leads_of_alert nofun nofun
  | wake | forget | reset =>
    cases taken
    cases next

/-- Only a thread that wakes the sleepers counts as one more call to them. -/
theorem wakes_of_goes (goes : Goes call room moved) :
    moved.state.wakes = room.wakes ∨ call = .wake ∧ moved.state.wakes = room.wakes + 1 := by
  rcases goes.taken with taken | ⟨other, -, same, -⟩
  case inr => exact .inl (congrArg LockRoom.wakes same)
  cases call with
  | read name stage | write name stage =>
    cases stage with
    | look | park =>
      cases taken
      exact .inl rfl
    | exchange seen =>
      dsimp only [Call.move] at taken
      split at taken <;> cases taken <;> exact .inl rfl
    | asleep since =>
      obtain ⟨stage, -, rfl⟩ := move_of_asleep rfl taken
      exact .inl rfl
  | drain name stage =>
    cases stage with
    | look | exchange =>
      dsimp only [Call.move] at taken
      split at taken <;> cases taken <;> exact .inl rfl
    | park seen =>
      cases taken
      exact .inl rfl
    | asleep since =>
      obtain ⟨stage, -, rfl⟩ := move_of_asleep rfl taken
      exact .inl rfl
  | drop name =>
    dsimp only [Call.move] at taken
    split at taken <;> cases taken
    · exact .inl rfl
    · refine .inl ?_
      rename_i guard _
      cases guard.kind <;> rfl
  | wake =>
    cases taken
    exact .inr ⟨rfl, rfl⟩
  | forget | reset =>
    cases taken
    exact .inl rfl

/-- Who drops the guard of a writer goes on to wake the sleepers. -/
theorem wake_of_drop {name : String} {guard : Guard} (goes : Goes (.drop name) room moved)
    (there : room.guard? name = some guard) (write : guard.kind = .write) :
    moved.next = .inl .wake := by
  rcases goes.taken with taken | ⟨other, wavers, -, -⟩
  case inr => cases wavers
  simp only [Call.move, there, write] at taken
  cases taken
  rfl

/-- The bit of the writer is cleared only by a thread that goes on to wake the sleepers. -/
theorem busy_of_effect (apart : (room.guards.map (·.name)).Nodup) {next : Call ⊕ Answer}
    (effect : Effect room call changed next)
    (wakes : ∀ name guard, call = .drop name → room.guard? name = some guard →
      guard.kind = .write → next = .inl .wake)
    (busy : 0 < draining others + [call].countP Call.drains + writeGuards room) :
    0 < draining others + next.getLeft?.toList.countP Call.drains + writeGuards changed ∨
      next = .inl .wake := by
  cases effect with
  | tries name drains => exact .inl (by simpa [drains] using busy)
  | @enters name seen entered free =>
    have same : writeGuards ({ room with lock := entered }.hold name .read) = writeGuards room :=
      writeGuards_hold _ _ _
    rw [same]
    exact .inl busy
  | claims free => exact .inl (Nat.add_pos_left (Nat.succ_pos _) _)
  | @gets name stage drained =>
    have more : writeGuards (room.hold name .write) = writeGuards room + 1 := writeGuards_hold _ _ _
    rw [more]
    exact .inl (Nat.succ_pos _)
  | @drops name guard next there last =>
    have left := writeGuards_forget apart there
    cases kind : guard.kind with
    | write => exact .inr (wakes name guard rfl there kind)
    | read =>
      rw [kind, if_neg (by decide), Nat.add_zero] at left
      have same : writeGuards ((room.forget name).unlock .read).1 = writeGuards room := left.symm
      rw [same]
      refine .inl (Nat.lt_of_lt_of_le busy ?_)
      exact Nat.add_le_add_right (Nat.add_le_add_left (Nat.zero_le _) _) _
  | ends lock guards name drains =>
    refine .inl ?_
    simpa [writeGuards, guards, drains] using busy

theorem Sound.busy {waiting : List (Waiting Call)} (sound : Sound { state := room, waiting })
    (locked : room.lock.isWriteLocked = true) : Busy room waiting := by
  have set := sound.balanced.counts.isWriteLocked_eq.symm.trans locked
  rw [Busy, of_decide_eq_true set]
  exact .inl Nat.one_pos

theorem Busy.goes (sound : Sound { state := room, waiting := before ++ [one] ++ after })
    (goes : Goes one.call room moved) (same : moved.state.wakes = room.wakes)
    (busy : Busy room (before ++ [one] ++ after)) :
    Busy moved.state (before ++ one.behind moved.next ++ after) := by
  rcases busy with set | ⟨other, there, wakes⟩
  · have place := sound_middle_iff.mp sound
    have effect := effect_of_goes (place.own one.call List.mem_cons_self) goes
    have names : (room.guards.map (·.name)).Nodup := List.Nodup.of_append_left sound.apart
    have dropped : ∀ name guard, one.call = .drop name → room.guard? name = some guard →
        guard.kind = .write → moved.next = .inl .wake := by
      intro name guard drop there write
      rw [drop] at goes
      exact wake_of_drop goes there write
    rw [draining_middle] at set
    rcases busy_of_effect names effect dropped set with still | wake
    · left
      rw [draining_middle]
      cases next : moved.next <;> simpa [Waiting.behind, next] using still
    · right
      rw [wake]
      exact ⟨{ one with call := .wake }, by simp [Waiting.behind], rfl⟩
  · right
    rw [List.append_assoc, List.mem_append, List.mem_append, List.mem_singleton] at there
    rcases there with front | rfl | back
    · exact ⟨other, List.mem_append_left _ (List.mem_append_left _ front), wakes⟩
    · have woken : moved.state.wakes = room.wakes + 1 := by
        rw [wakes] at goes
        cases goes.taken with
        | inl taken =>
          cases taken
          rfl
        | inr wavers =>
          obtain ⟨_, wavers, -⟩ := wavers
          cases wavers
      omega
    · exact ⟨other, List.mem_append_right _ back, wakes⟩

/-! What holds at every moment -/

/-- A thread that is about to sleep or sleeps is owed a call, or has missed it. -/
structure Minded (steps : Steps) (room : LockRoom) (waiting : List (Waiting Call))
    (minded : Waiting Call) : Prop where
  parks : ∀ seen, minded.call.stage? = some (.park seen) →
    minded.call.drains = true ∨ seen.isWriteLocked = true ∨
      ∃ name, minded.call = .write name (.park seen) ∧ Loses steps minded.ticket name seen
  sleeps : ∀ since, minded.call.stage? = some (.asleep since) →
    since ≤ room.wakes ∧ (since = room.wakes → Busy room waiting ∨ Missed steps room minded)

theorem Loses.append {ticket : Nat} {name : String} {seen : LockWord}
    (loses : Loses steps ticket name seen) (more : Steps) :
    Loses (steps ++ more) ticket name seen := by
  obtain ⟨step, there, lost⟩ := loses
  exact ⟨step, List.mem_append_left _ there, lost⟩

theorem Missed.append {other : Waiting Call} (missed : Missed steps room other)
    (same : changed.wakes = room.wakes) (more : Steps) :
    Missed (steps ++ more) changed other := by
  obtain ⟨name, seen, asleep, free, loses, step, there, slept⟩ := missed
  exact ⟨name, seen, same ▸ asleep, free, loses.append more, step,
    List.mem_append_left _ there, slept⟩

/-- A thread that stands by while another one takes a step. -/
theorem Minded.aside {other : Waiting Call}
    (minded : Minded steps room (before ++ [one] ++ after) other)
    (sound : Sound { state := room, waiting := before ++ [one] ++ after })
    (goes : Goes one.call room moved) (more : Steps) :
    Minded (steps ++ more) moved.state (before ++ one.behind moved.next ++ after) other := by
  constructor
  · intro seen there
    refine (minded.parks seen there).imp_right (Or.imp_right ?_)
    rintro ⟨name, parks, loses⟩
    exact ⟨name, parks, loses.append more⟩
  · intro since there
    obtain ⟨before, owed⟩ := minded.sleeps since there
    rcases wakes_of_goes goes with same | ⟨-, woken⟩
    · rw [same]
      exact ⟨before, fun now => (owed now).imp (Busy.goes sound goes same)
        (Missed.append · same more)⟩
    · exact ⟨by omega, by omega⟩

/-- The thread that takes the step. -/
theorem Minded.goes (minded : Minded steps room (before ++ [one] ++ after) one)
    (sound : Sound { state := room, waiting := before ++ [one] ++ after })
    (goes : Goes one.call room moved) (next : moved.next = .inl again) :
    Minded (steps ++ [{ state := room, one, moved }]) moved.state
      (before ++ one.behind moved.next ++ after) { one with call := again } := by
  have leads := leads_of_goes goes next
  have late : ({ state := room, one, moved } : Crew.Taken LockRoom Call Answer) ∈
      steps ++ [{ state := room, one, moved }] := List.mem_append_right _ List.mem_cons_self
  constructor
  · intro seen there
    refine (leads.parks seen there).imp_right (Or.imp_right ?_)
    rintro ⟨name, exchange, parks⟩
    exact ⟨name, parks, _, late, rfl, exchange, parks ▸ next⟩
  · intro since there
    obtain ⟨rfl, parked, same⟩ := leads.sleeps since there
    have still : moved.state.wakes = room.wakes := by
      rcases wakes_of_goes goes with same | ⟨wake, -⟩
      · exact same
      · rw [wake] at parked
        cases parked
    refine ⟨Nat.le_of_eq still.symm, fun _ => ?_⟩
    rcases minded.parks _ parked with drains | locked | ⟨name, parks, loses⟩
    · refine .inl (.inl ?_)
      have set : again.drains = true := by
        rw [same, Call.drains_atStage, drains]
      rw [draining_middle, next]
      simp only [Waiting.behind, List.map_singleton, List.countP_singleton, set, if_true]
      omega
    · exact .inl (Busy.goes sound goes still (sound.busy locked))
    · cases locked : room.lock.isWriteLocked with
      | true => exact .inl (Busy.goes sound goes still (sound.busy locked))
      | false =>
        refine .inr ⟨name, room.lock, ?_, locked, loses.append _, _, late, rfl, parks, next⟩
        dsimp only at same ⊢
        rw [same, parks, still]
        rfl

/-- Every thread of a run is minded. -/
structure Watched (course : Course LockRoom Call Answer) : Prop where
  sound : Sound course.crew
  minded : ∀ one ∈ course.crew.waiting,
    Minded course.steps course.crew.state course.crew.waiting one

theorem Watched.fresh : Watched { crew := { state := {} } } :=
  ⟨.fresh, List.forall_mem_nil _⟩

/-- Nobody begins by sleeping. -/
theorem stage_of_opens {stage : Stage} (opens : call.opens = true)
    (there : call.stage? = some stage) : stage = .look := by
  cases call with
  | read name here | write name here =>
    cases there
    cases stage with
    | look => rfl
    | _ => cases opens
  | drain => cases opens
  | drop | wake | forget | reset => cases there

theorem Watched.begins (watched : Watched course) {ticket : Nat}
    (allowed : Begins course.crew call) :
    Watched
      { course with crew.waiting := course.crew.waiting ++ [{ ticket, call }] } := by
  have more (busy : Busy course.crew.state course.crew.waiting) :
      Busy course.crew.state (course.crew.waiting ++ [({ ticket, call } : Waiting Call)]) := by
    refine busy.imp (fun set => ?_) (fun ⟨one, there, wakes⟩ => ?_)
    · rw [draining, List.countP_append]
      exact Nat.lt_of_lt_of_le set (Nat.add_le_add_right (Nat.le_add_right _ _) _)
    · exact ⟨one, List.mem_append_left _ there, wakes⟩
  refine ⟨watched.sound.begins allowed, ?_⟩
  intro one there
  rcases List.mem_append.mp there with before | new
  · obtain ⟨parks, sleeps⟩ := watched.minded one before
    exact ⟨parks, fun since asleep =>
      (sleeps since asleep).imp_right fun owed now => (owed now).imp_left more⟩
  · rw [List.mem_singleton.mp new]
    refine ⟨fun seen parks => ?_, fun since asleep => ?_⟩
    · cases stage_of_opens allowed.1 parks
    · cases stage_of_opens allowed.1 asleep

theorem Watched.moves (watched : Watched course) (moves : Moves course later) : Watched later := by
  have sound := watched.sound.moves moves
  cases moves with
  | begins allowed => exact watched.begins allowed
  | @goesOn before after one moved waiting goes =>
    obtain ⟨⟨room, all⟩, steps⟩ := course
    dsimp only at waiting
    rw [← List.singleton_append, ← List.append_assoc] at waiting
    subst waiting
    obtain ⟨was, minded⟩ := watched
    refine ⟨sound, ?_⟩
    intro other there
    rcases List.mem_append.mp there with front | back
    · rcases List.mem_append.mp front with front | here
      · refine (minded other ?_).aside was goes _
        exact List.mem_append_left _ (List.mem_append_left _ front)
      · have own := minded one (List.mem_append_left _ (List.mem_append_right _ List.mem_cons_self))
        cases next : moved.next with
        | inr answer =>
          rw [next] at here
          cases here
        | inl again =>
          rw [next] at here
          rw [List.mem_singleton.mp here, ← next]
          exact own.goes was goes next
    · exact (minded other (List.mem_append_right _ back)).aside was goes _

theorem Watched.runs (watched : Watched course) (runs : Runs course later) : Watched later := by
  induction runs with
  | refl => exact watched
  | tail _ moves ih => exact ih.moves moves

/-- Nobody is owed a call once everybody has left. -/
theorem Vacant.not_busy (vacant : Vacant course.crew) (sound : Sound course.crew) :
    ¬ Busy course.crew.state course.crew.waiting := by
  rintro (set | ⟨one, there, wakes⟩)
  · have counts := sound.balanced.counts
    have single := sound.balanced.single
    rw [decide_eq_true (Nat.le_antisymm single set)] at counts
    have word := counts.word
    rw [vacant.word] at word
    have bit : LockWord.bit true = 2 ^ 31 := rfl
    have zero : (0 : UInt32).toNat = 0 := rfl
    omega
  · have free := vacant.done one there
    rw [wakes] at free
    cases free

/-- Turns that leave one thread behind. -/
theorem run_leaving_one {turns : List (Course.Turn Call)}
    (played : (Course.play? Begins Call.go? { crew := { state := {} } } turns).map (fun course =>
      (course.crew.state, course.crew.waiting.map (·.call))) = some (room, [call])) :
    ∃ course : Course LockRoom Call Answer, Runs { crew := { state := {} } } course ∧
      course.crew.state = room ∧ ∃ one, course.crew.waiting = [one] ∧ one.call = call := by
  obtain ⟨course, played, facts⟩ := Option.map_eq_some_iff.mp played
  obtain ⟨state, waiting⟩ := Prod.mk.inj facts
  exact ⟨course, Course.run_of_play (fun _ _ _ => goes_of_go) played, state,
    List.map_eq_singleton_iff.mp waiting⟩

/-- In every order of their steps, when the word is zero, nobody holds a guard and nobody is about to
drop one or to wake others, the threads that sleep are exactly the writers that lost an exchange on
a word that they had seen free, and then fell asleep on that word. So nobody sleeps as long as no
writer has missed its turn that way, and readers and draining writers never do. -/
theorem sleepers_have_missed_their_turn {course : Course LockRoom Call Answer}
    (runs : Runs { crew := { state := {} } } course) (vacant : Vacant course.crew) :
    ∀ one ∈ course.crew.waiting,
      (one.call.sleeps course.crew.state = true ↔
        Missed course.steps course.crew.state one) := by
  have watched := Watched.fresh.runs runs
  intro one there
  constructor
  · intro sleeps
    have asleep := of_decide_eq_true sleeps
    rcases ((watched.minded one there).sleeps _ asleep).2 rfl with busy | missed
    · exact absurd busy (vacant.not_busy watched.sound)
    · exact missed
  · rintro ⟨name, seen, asleep, -⟩
    rw [Call.sleeps, asleep]
    exact decide_eq_true rfl

/-- A reader that slept while a writer was inside has been woken when all have left. -/
theorem woken_reader_missed_nothing :
    ∃ course : Course LockRoom Call Answer,
      Runs { crew := { state := {} } } course ∧ Vacant course.crew ∧
      course.crew.waiting.map (·.call) = [.read "reader" (.asleep 0)] ∧
      (∀ one ∈ course.crew.waiting, one.call.sleeps course.crew.state = false) ∧
      ∀ one ∈ course.crew.waiting, ¬ Missed course.steps course.crew.state one := by
  have turns : (Course.play? Begins Call.go? { crew := { state := {} } }
      [.begins 0 (.write "writer" .look), .goesOn 0, .goesOn 0, .goesOn 0,
        .begins 1 (.read "reader" .look), .goesOn 0, .goesOn 0, .begins 2 (.drop "writer"),
        .goesOn 1, .goesOn 1]).map (fun course =>
        (course.crew.state, course.crew.waiting.map (·.call))) =
      some ({ wakes := 1 }, [.read "reader" (.asleep 0)]) := by decide
  obtain ⟨course, runs, state, ⟨ticket, call, records⟩, here, asleep⟩ := run_leaving_one turns
  cases asleep
  have vacant : Vacant course.crew := by
    refine ⟨by rw [state], by rw [state], ?_⟩
    rw [here, List.forall_mem_singleton]
    rfl
  have awake : ∀ one ∈ course.crew.waiting, one.call.sleeps course.crew.state = false := by
    rw [here, List.forall_mem_singleton, state]
    rfl
  refine ⟨course, runs, vacant, congrArg (List.map (·.call)) here, awake, ?_⟩
  intro one there missed
  have sleeps := (sleepers_have_missed_their_turn runs vacant one there).mpr missed
  rw [awake one there] at sleeps
  cases sleeps

/-- A writer waits while another one is inside. When that one has left, a reader comes and goes
between the next look of the writer at the word and its attempt to sleep. The word is zero again when
the writer falls asleep, the lock is free, and no step is left for anybody. -/
theorem writer_sleeps_at_free_lock :
    ∃ course : Course LockRoom Call Answer,
      Runs { crew := { state := {} } } course ∧ Vacant course.crew ∧
      (∃ one ∈ course.crew.waiting, one.call.sleeps course.crew.state = true) ∧
      ∀ one ∈ course.crew.waiting, one.call.move course.crew.state = none := by
  have turns : (Course.play? Begins Call.go? { crew := { state := {} } }
      [.begins 0 (.write "first" .look), .goesOn 0, .goesOn 0, .goesOn 0,
        .begins 1 (.write "second" .look), .goesOn 0, .begins 2 (.drop "first"), .goesOn 1,
        .goesOn 1, .goesOn 0, .goesOn 0, .begins 3 (.read "reader" .look), .goesOn 1, .goesOn 1,
        .goesOn 0, .begins 4 (.drop "reader"), .goesOn 1, .goesOn 0]).map
        (fun course => (course.crew.state, course.crew.waiting.map (·.call))) =
      some ({ wakes := 1 }, [.write "second" (.asleep 1)]) := by decide
  obtain ⟨course, runs, state, ⟨ticket, call, records⟩, here, asleep⟩ := run_leaving_one turns
  cases asleep
  refine ⟨course, runs, ⟨by rw [state], by rw [state], ?_⟩, ?_, ?_⟩
  · rw [here, List.forall_mem_singleton]
    rfl
  · exact ⟨_, by rw [here]; exact List.mem_cons_self, by rw [state]; rfl⟩
  · rw [here, List.forall_mem_singleton, state]
    rfl

end LockRoom

end Playback
