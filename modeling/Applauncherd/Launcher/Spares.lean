import Applauncherd.Launcher.Daemon

/-! What the daemon keeps ready: one spare booster per family, waiting in `accept` or reading a
request. Every step is one of four kinds (a read that returns a byte, a read that returns -1, a
fork, a call of one booster), and the facts below come from that alone. On a run where every
read returns a byte the daemon only ever forks the two families `Daemon::run` started, its own
reads and forks bring back one spare per family from wherever the run stands, and a family one
of whose boosters exited before writing its tag has no spare, no tag and no fork again. -/

namespace Applauncherd.Launcher.Daemon

/-- A family `forkBooster` builds a booster for: `MBooster::type()` or `QtBooster::type()`. -/
def Known (family : UInt8) : Prop := family = mBoosterType ∨ family = qtBoosterType

instance : DecidablePred Known := fun _ => inferInstanceAs (Decidable (_ ∨ _))

/-- The daemon's own calls that find a byte: a `read` of the pipe and the `forkBooster` after it. -/
def Action.daemon : Action → Bool
  | .readByte | .fork => true
  | _ => false

/-- The spare boosters of `family`: those waiting for an invoker or reading its request. -/
def spares (family : UInt8) (s : Supervisor) : Nat :=
  s.boosters.countP fun booster => booster.family = family ∧
    (booster.phase = .waiting ∨ booster.phase = .received)

/-- Everything a step can do: take the pipe's first byte into the hand, take -1 and keep `msg`,
fork a booster of the held family, or move one booster that has not exited to another phase of
its family, writing at most its tag to the pipe. -/
theorem step_cases {s t : Supervisor} {action : Action} (stepped : step s action = some t) :
    (action = .readByte ∧ s.held = none ∧ ∃ byte rest, s.pipe = byte :: rest ∧
      t = ⟨s.boosters, rest, some byte⟩) ∨
    (∃ msg, action = .readError msg ∧ s.held = none ∧ t = ⟨s.boosters, s.pipe, some msg⟩) ∨
    (action = .fork ∧ ∃ family, s.held = some family ∧
      t = ⟨s.boosters ++ [⟨family, .waiting⟩], s.pipe, none⟩) ∨
    (action.daemon = false ∧ action.misread = false ∧
      ∃ i family phase phase' written, s.boosters[i]? = some ⟨family, phase⟩ ∧
        (∀ tagWritten, phase ≠ .exited tagWritten) ∧ (written = [] ∨ written = [family]) ∧
        t = ⟨s.boosters.set i ⟨family, phase'⟩, s.pipe ++ written, s.held⟩) := by
  cases action with
  | readByte =>
    simp only [step] at stepped
    split at stepped
    next _ _ byte rest empty full =>
      cases stepped
      exact .inl ⟨rfl, empty, byte, rest, full, rfl⟩
    · cases stepped
  | readError msg =>
    simp only [step] at stepped
    split at stepped
    next empty => cases stepped; exact .inr (.inl ⟨msg, rfl, empty, rfl⟩)
    · cases stepped
  | fork =>
    simp only [step] at stepped
    split at stepped
    next family holding => cases stepped; exact .inr (.inr (.inl ⟨rfl, family, holding, rfl⟩))
    · cases stepped
  | accept i =>
    simp only [step] at stepped
    split at stepped
    next family found =>
      split_ifs at stepped
      cases stepped
      exact .inr (.inr (.inr ⟨rfl, rfl, i, family, _, .received, [], found, nofun, .inl rfl, by simp⟩))
    · cases stepped
  | notify i =>
    simp only [step] at stepped
    split at stepped
    next family found =>
      cases stepped
      exact .inr (.inr (.inr ⟨rfl, rfl, i, family, _, _, [family], found, nofun, .inr rfl, rfl⟩))
    · cases stepped
  | run i =>
    simp only [step] at stepped
    split at stepped
    next family found =>
      cases stepped
      exact .inr (.inr (.inr ⟨rfl, rfl, i, family, _, .running, [], found, nofun, .inl rfl, by simp⟩))
    · cases stepped
  | exit i =>
    simp only [step] at stepped
    split at stepped
    · cases stepped
    · cases stepped
    next family phase alive found =>
      cases stepped
      exact .inr (.inr (.inr ⟨rfl, rfl, i, family, phase, .exited !phase.tagless, [], found,
        fun tagWritten same => alive tagWritten (same ▸ rfl), .inl rfl, by simp⟩))

@[simp] theorem run_nil (s : Supervisor) : run s [] = some s := rfl

@[simp] theorem run_cons (s : Supervisor) (action : Action) (actions : List Action) :
    run s (action :: actions) = (step s action).bind fun next => run next actions := rfl

theorem run_append (s : Supervisor) (first second : List Action) :
    run s (first ++ second) = (run s first).bind fun middle => run middle second := by
  induction first generalizing s with
  | nil => rfl
  | cons action first ih =>
    simp only [List.cons_append, run_cons, Option.bind_assoc, ih]

theorem run_append_of {s middle t : Supervisor} {first second : List Action}
    (ranFirst : run s first = some middle) (ranSecond : run middle second = some t) :
    run s (first ++ second) = some t := by
  rw [run_append, ranFirst]; exact ranSecond

/-- A property that every step of the allowed kinds keeps holds all along a run of them. -/
theorem run_invariant (holds : Supervisor → Prop) (allowed : Action → Prop)
    (kept : ∀ {s t action}, allowed action → holds s → step s action = some t → holds t) :
    ∀ {s t : Supervisor} {actions : List Action}, run s actions = some t →
      (∀ action ∈ actions, allowed action) → holds s → holds t
  | s, t, [], ran, _, start => by cases ran; exact start
  | s, t, action :: actions, ran, each, start => by
    simp only [run_cons, Option.bind_eq_some] at ran
    obtain ⟨next, stepped, rest⟩ := ran
    exact run_invariant holds allowed kept rest (fun other member => each other (.tail _ member))
      (kept (each action (.head _)) start stepped)

section Known

/-- Every child, every tag in the pipe and the held tag are of a family `forkBooster` knows. -/
structure Supervisor.KnownFamilies (s : Supervisor) : Prop where
  boosters : ∀ booster ∈ s.boosters, Known booster.family
  pipe : ∀ byte ∈ s.pipe, Known byte
  held : ∀ family, s.held = some family → Known family

theorem known_init : Supervisor.init.KnownFamilies where
  boosters := by decide
  pipe := nofun
  held := nofun

theorem known_step {s t : Supervisor} {action : Action} (clean : action.misread = false)
    (known : s.KnownFamilies) (stepped : step s action = some t) : t.KnownFamilies := by
  rcases step_cases stepped with ⟨-, -, byte, rest, piped, rfl⟩ | ⟨msg, rfl, -⟩ | ⟨-, family, holding, rfl⟩ |
    ⟨-, -, i, family, phase, phase', written, found, -, tag, rfl⟩
  · refine ⟨known.boosters, fun other member => known.pipe other ?_, ?_⟩
    · rw [piped]; exact .tail _ member
    · rintro _ ⟨⟩; exact known.pipe byte (piped ▸ .head _)
  · cases clean
  · refine ⟨?_, known.pipe, nofun⟩
    simp only [List.mem_append, List.mem_singleton]
    rintro booster (member | rfl)
    exacts [known.boosters booster member, known.held family holding]
  · have mine : Known family := known.boosters _ (List.getElem?_mem found)
    refine ⟨fun booster member => ?_, ?_, known.held⟩
    · rcases List.mem_or_eq_of_mem_set member with old | rfl
      exacts [known.boosters booster old, mine]
    · simp only [List.mem_append]
      rintro byte (old | new)
      · exact known.pipe byte old
      · rcases tag with rfl | rfl
        · cases new
        · rw [List.mem_singleton.mp new]; exact mine

/-- On a run where every `read` of the pipe returns a byte, every child the daemon forked, every
tag in the pipe and the tag it holds are `'m'` or `'q'`: `forkBooster`'s child never reaches
"Unknown booster type". -/
theorem known_of_clean_run {actions : List Action} {s : Supervisor}
    (ran : run Supervisor.init actions = some s) (clean : ∀ action ∈ actions, action.misread = false) :
    s.KnownFamilies :=
  run_invariant Supervisor.KnownFamilies (fun action => action.misread = false) known_step ran clean known_init

end Known

/-- `Daemon::run` after an `MBooster` took a request, wrote its tag, and the daemon forked the
next one. -/
def respawnRun : List Action := [.accept 0, .notify 0, .readByte, .fork]

/-- The state `respawnRun` reaches. -/
def respawned : Supervisor :=
  ⟨[⟨mBoosterType, .notified⟩, ⟨qtBoosterType, .waiting⟩, ⟨mBoosterType, .waiting⟩], [], none⟩

theorem respawned_known : respawned.KnownFamilies :=
  @known_of_clean_run respawnRun _ rfl (by decide)

section Lost
variable (family : UInt8)

/-- A booster that exits before its tag stays so: no step lowers a family's lost count. -/
theorem lost_le_step {s t : Supervisor} {action : Action} (stepped : step s action = some t) :
    lost family s ≤ lost family t := by
  rcases step_cases stepped with ⟨-, -, -, -, -, rfl⟩ | ⟨-, -, -, rfl⟩ | ⟨-, -, -, rfl⟩ |
    ⟨-, -, i, owner, phase, phase', written, found, alive, -, rfl⟩
  · exact le_refl _
  · exact le_refl _
  · simp only [lost, List.countP_append]; omega
  · have moved := countP_set_of_getElem?
      (fun booster => booster.family = family ∧ booster.phase = .exited false) found ⟨owner, phase'⟩
    have notLost : ¬(owner = family ∧ phase = .exited false) := fun ⟨_, exited⟩ => alive false exited
    simp only [notLost, decide_False, Bool.false_eq_true, if_false, Nat.add_zero] at moved
    simp only [lost]
    omega

/-- The daemon's reads and forks change no booster: each family's lost count stays. -/
theorem lost_daemon_step {s t : Supervisor} {action : Action} (daemon : action.daemon = true)
    (stepped : step s action = some t) : lost family t = lost family s := by
  rcases step_cases stepped with ⟨-, -, -, -, -, rfl⟩ | ⟨msg, rfl, -⟩ | ⟨-, -, -, rfl⟩ | ⟨notDaemon, -⟩
  · rfl
  · cases daemon
  · simp [lost, List.countP_append]
  · rw [daemon] at notDaemon; cases notDaemon

end Lost

section Drain

/-- From a state holding no tag, the daemon reads each byte of the pipe and forks for it. -/
theorem drain_pipe : ∀ (pipe : List UInt8) (s : Supervisor), s.pipe = pipe → s.held = none →
    ∃ calls t, (∀ action ∈ calls, action.daemon) ∧ run s calls = some t ∧ t.pipe = [] ∧
      t.held = none
  | [], s, empty, holding => ⟨[], s, nofun, rfl, empty, holding⟩
  | byte :: rest, ⟨boosters, _, _⟩, rfl, rfl => by
    obtain ⟨calls, t, daemon, ran, empty, holding⟩ :=
      drain_pipe rest ⟨boosters ++ [⟨byte, .waiting⟩], rest, none⟩ rfl rfl
    refine ⟨.readByte :: .fork :: calls, t, ?_, by simpa [step] using ran, empty, holding⟩
    simp only [List.mem_cons]
    rintro action (rfl | rfl | member)
    exacts [rfl, rfl, daemon action member]

/-- From any state, the daemon's own reads and forks empty the pipe and its hand. -/
theorem drain (s : Supervisor) :
    ∃ calls t, (∀ action ∈ calls, action.daemon) ∧ run s calls = some t ∧ t.pipe = [] ∧
      t.held = none := by
  rcases s with ⟨boosters, pipe, _ | family⟩
  · exact drain_pipe pipe _ rfl rfl
  · obtain ⟨calls, t, daemon, ran, empty, holding⟩ :=
      drain_pipe pipe ⟨boosters ++ [⟨family, .waiting⟩], pipe, none⟩ rfl rfl
    refine ⟨.fork :: calls, t, ?_, by simpa [step] using ran, empty, holding⟩
    rintro action (_ | ⟨_, member⟩)
    exacts [rfl, daemon action member]

end Drain

/-- From any state a run whose `read`s all return a byte reaches, the daemon's own reads and
forks lead to an empty pipe and an empty hand, and then each family `forkBooster` knows has
exactly one spare booster, unless one of its boosters had exited before writing its tag: then it
has none. -/
theorem daemon_restores_spares {actions : List Action} {s : Supervisor}
    (ran : run Supervisor.init actions = some s) (clean : ∀ action ∈ actions, action.misread = false) :
    ∃ calls t, (∀ action ∈ calls, action.daemon) ∧ run s calls = some t ∧ t.pipe = [] ∧
      t.held = none ∧ ∀ family, spares family t = if Known family ∧ lost family s = 0 then 1 else 0 := by
  obtain ⟨calls, t, daemon, drained, empty, holding⟩ := drain s
  refine ⟨calls, t, daemon, drained, empty, holding, fun family => ?_⟩
  have whole := run_append_of ran drained
  have allClean : ∀ action ∈ actions ++ calls, action.misread = false := by
    simp only [List.mem_append]
    rintro action (old | new)
    · exact clean action old
    · have := daemon action new
      cases action <;> first | rfl | cases this
  have counted := pending_of_clean_run whole allClean family
  have kept : lost family t = lost family s :=
    run_invariant (fun u => lost family u = lost family s) (fun action => action.daemon = true)
      (fun daemon before stepped => (lost_daemon_step family daemon stepped).trans before)
      drained daemon rfl
  simp only [pending, empty, holding, List.count_nil, reduceCtorEq, if_false, Nat.add_zero,
    kept] at counted
  unfold spares Known
  rw [ite_and]
  split_ifs at counted ⊢ <;> omega

/-- `respawnRun`'s end is already drained: one spare `MBooster`, one spare `QtBooster`. -/
theorem respawned_spares :
    ∃ calls t, (∀ action ∈ calls, action.daemon) ∧ run respawned calls = some t ∧ t.pipe = [] ∧
      t.held = none ∧ ∀ family, spares family t = if Known family ∧ lost family respawned = 0 then 1 else 0 :=
  @daemon_restores_spares respawnRun _ rfl (by decide)

/-- Once a booster of a family has exited before writing its tag, no later state of a run whose
`read`s all return a byte has a spare booster, a piped tag or a held tag of that family: the
daemon never forks that family again. -/
theorem lost_family_never_respawned {actions later : List Action} {s t : Supervisor} {family : UInt8}
    (ran : run Supervisor.init actions = some s) (more : run s later = some t)
    (clean : ∀ action ∈ actions ++ later, action.misread = false) (died : 0 < lost family s) :
    pending family t = 0 := by
  have whole := run_append_of ran more
  have counted := pending_of_clean_run whole clean family
  have grown : lost family s ≤ lost family t :=
    run_invariant (fun u => lost family s ≤ lost family u) (fun _ => True)
      (fun _ before stepped => before.trans (lost_le_step family stepped)) more (fun _ _ => trivial)
      (le_refl _)
  split_ifs at counted <;> omega

/-- The first `MBooster` dies before taking a request; the `QtBooster` then serves one and is
replaced, and no `MBooster` is ever forked. -/
theorem dead_mbooster_not_respawned :
    pending mBoosterType ⟨[⟨mBoosterType, .exited false⟩, ⟨qtBoosterType, .notified⟩,
      ⟨qtBoosterType, .waiting⟩], [], none⟩ = 0 :=
  @lost_family_never_respawned [.exit 0] [.accept 1, .notify 1, .readByte, .fork] _ _ _ rfl rfl
    (by decide) (by decide)

end Applauncherd.Launcher.Daemon
