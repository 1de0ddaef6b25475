import Mathlib.Data.List.Basic

/-! The supervisor loop of `Daemon::run` and the boosters `Daemon::forkBooster` starts, as one
step function over the boosters' phases, the bytes in the notify pipe and the tag the daemon
has read but not yet forked. Every step but one keeps, per family, the number of tags not yet
written, in the pipe or held: a booster moves its tag into the pipe, the daemon moves it into
its hand and then into a new booster. The one exception is a `read` that returns -1, which the
loop takes for a byte and forks a booster of whatever family `msg` held. -/

namespace Applauncherd.Launcher.Daemon

/-- Modelled from the spec: `MBooster::type()` (mbooster.h is not under src/), the tag `'m'`. -/
def mBoosterType : UInt8 := 109

/-- Modelled from the spec: `QtBooster::type()` (qtbooster.h is not under src/), the tag `'q'`. -/
def qtBoosterType : UInt8 := 113

/-- Where a booster process stands: preloading or waiting in `accept`, back from `readCommand`
with a request, its tag written, running the application, or exited (after its tag or not). -/
inductive Phase where
  | waiting
  | received
  | notified
  | running
  | exited (tagWritten : Bool)
deriving DecidableEq, Repr

/-- Whether a booster in this phase has not written its tag. -/
def Phase.tagless : Phase → Bool
  | .waiting | .received => true
  | .notified | .running => false
  | .exited tagWritten => !tagWritten

/-- A child of the daemon: the family it was forked for and its phase. -/
structure Booster where
  family : UInt8
  phase : Phase
deriving DecidableEq, Repr

/-- The daemon and its boosters: the children in fork order, the bytes in the pipe, and the
`msg` the loop has read and not yet passed to `forkBooster`. -/
structure Supervisor where
  boosters : List Booster
  pipe : List UInt8
  held : Option UInt8
deriving DecidableEq, Repr

/-- `Daemon::run` once it has forked its first `MBooster` and `QtBooster`. -/
def Supervisor.init : Supervisor := ⟨[⟨mBoosterType, .waiting⟩, ⟨qtBoosterType, .waiting⟩], [], none⟩

/-- One step of the daemon or of one booster. A `read` of the pipe returns its first byte, or
-1 with `msg` left as it was; it never returns 0, the daemon holding the write end open. -/
inductive Action where
  | readByte
  | readError (msg : UInt8)
  | fork
  | accept (booster : Nat)
  | notify (booster : Nat)
  | run (booster : Nat)
  | exit (booster : Nat)
deriving DecidableEq, Repr

/-- The `read` the loop takes for a byte (`if (count)`) without it being one. -/
def Action.misread : Action → Bool
  | .readError _ => true
  | _ => false

/-- `Daemon::run`'s loop and the child side of `forkBooster`, one call at a time. A child of
an unknown type dies before `readCommand`. -/
def step (s : Supervisor) : Action → Option Supervisor
  | .readByte =>
      match s.held, s.pipe with
      | none, byte :: rest => some { s with pipe := rest, held := some byte }
      | _, _ => none
  | .readError msg =>
      match s.held with
      | none => some { s with held := some msg }
      | some _ => none
  | .fork =>
      match s.held with
      | some family => some { s with boosters := s.boosters ++ [⟨family, .waiting⟩], held := none }
      | none => none
  | .accept i =>
      match s.boosters[i]? with
      | some ⟨family, .waiting⟩ =>
          if family = mBoosterType ∨ family = qtBoosterType then
            some { s with boosters := s.boosters.set i ⟨family, .received⟩ }
          else none
      | _ => none
  | .notify i =>
      match s.boosters[i]? with
      | some ⟨family, .received⟩ =>
          some { s with boosters := s.boosters.set i ⟨family, .notified⟩, pipe := s.pipe ++ [family] }
      | _ => none
  | .run i =>
      match s.boosters[i]? with
      | some ⟨family, .notified⟩ => some { s with boosters := s.boosters.set i ⟨family, .running⟩ }
      | _ => none
  | .exit i =>
      match s.boosters[i]? with
      | some ⟨_, .exited _⟩ | none => none
      | some ⟨family, phase⟩ =>
          some { s with boosters := s.boosters.set i ⟨family, .exited !phase.tagless⟩ }

/-- The steps one after another, while each can be taken. -/
def run (s : Supervisor) : List Action → Option Supervisor
  | [] => some s
  | action :: actions => (step s action).bind fun next => run next actions

section Counts
variable (family : UInt8) (s : Supervisor)

/-- The boosters of `family` that have not written their tag, exited ones included. -/
def tagless : Nat := s.boosters.countP fun booster => booster.family = family ∧ booster.phase.tagless

/-- The boosters of `family` the daemon still has to hear from: those alive that have not written
their tag, its tags in the pipe, and a tag in the daemon's hand. -/
def pending : Nat :=
  s.boosters.countP (fun booster => booster.family = family ∧
      (booster.phase = .waiting ∨ booster.phase = .received)) +
    s.pipe.count family + if s.held = some family then 1 else 0

/-- Boosters of `family` that exited before writing their tag. -/
def lost : Nat := s.boosters.countP fun booster => booster.family = family ∧ booster.phase = .exited false

/-- Tags of `family` not yet written, in the pipe or in the daemon's hand. -/
def tags : Nat := tagless family s + s.pipe.count family + if s.held = some family then 1 else 0

theorem tags_eq_pending_add_lost : tags family s = pending family s + lost family s := by
  suffices split : ∀ boosters : List Booster,
      boosters.countP (fun booster => booster.family = family ∧ booster.phase.tagless) =
        boosters.countP (fun booster => booster.family = family ∧
          (booster.phase = .waiting ∨ booster.phase = .received)) +
        boosters.countP (fun booster => booster.family = family ∧ booster.phase = .exited false) by
    simp only [tags, pending, lost, tagless, split]; omega
  intro boosters
  induction boosters with
  | nil => rfl
  | cons booster boosters ih =>
    rcases booster with ⟨owner, phase⟩
    simp only [List.countP_cons, ih]
    by_cases mine : owner = family <;> cases phase <;> simp [mine, Phase.tagless] <;> omega

end Counts

theorem countP_set_of_getElem? (p : Booster → Bool) {boosters : List Booster} {i : Nat}
    {booster : Booster} (found : boosters[i]? = some booster) (replaced : Booster) :
    (boosters.set i replaced).countP p + (if p booster then 1 else 0) =
      boosters.countP p + (if p replaced then 1 else 0) := by
  obtain ⟨inside, rfl⟩ := List.getElem?_eq_some_iff.mp found
  have bound := List.boole_getElem_le_countP p boosters i inside
  rw [List.countP_set _ _ _ _ inside]
  omega

/-- A booster moving to a phase with the same `tagless` value keeps every family's count. -/
theorem tags_set (family : UInt8) {s : Supervisor} {i : Nat} {owner : UInt8} {phase phase' : Phase}
    (found : s.boosters[i]? = some ⟨owner, phase⟩) (same : phase'.tagless = phase.tagless) :
    tags family { s with boosters := s.boosters.set i ⟨owner, phase'⟩ } = tags family s := by
  have moved := countP_set_of_getElem?
    (fun booster => booster.family = family ∧ booster.phase.tagless) found ⟨owner, phase'⟩
  simp only [same] at moved
  simp only [tags, tagless]
  omega

/-- Every step but a misread `read` keeps each family's count of unwritten, piped and held
tags. -/
theorem tags_step (family : UInt8) {s t : Supervisor} {action : Action}
    (stepped : step s action = some t) (clean : action.misread = false) :
    tags family t = tags family s := by
  cases action with
  | readByte =>
    simp only [step] at stepped
    split at stepped
    · cases stepped
      simp_all [tags, tagless, List.count_cons]
      omega
    · cases stepped
  | readError msg => cases clean
  | fork =>
    simp only [step] at stepped
    split at stepped
    · cases stepped
      simp_all [tags, tagless, Phase.tagless, List.countP_cons]
      split_ifs <;> omega
    · cases stepped
  | accept i =>
    simp only [step] at stepped
    split at stepped
    next _ owner found =>
      split_ifs at stepped
      cases stepped
      exact tags_set family found rfl
    · cases stepped
  | notify i =>
    simp only [step] at stepped
    split at stepped
    next _ owner found =>
      cases stepped
      have moved := countP_set_of_getElem?
        (fun booster => booster.family = family ∧ booster.phase.tagless) found ⟨owner, .notified⟩
      by_cases mine : owner = family <;>
        simp_all [tags, tagless, Phase.tagless, List.count_append, List.count_singleton]
      omega
    · cases stepped
  | run i =>
    simp only [step] at stepped
    split at stepped
    next _ owner found => cases stepped; exact tags_set family found rfl
    · cases stepped
  | exit i =>
    simp only [step] at stepped
    split at stepped
    · cases stepped
    · cases stepped
    next _ owner phase _ found =>
      cases stepped
      exact tags_set family found (by simp [Phase.tagless])

/-- Over a run without a misread `read`, each family keeps its count of tags. -/
theorem tags_run (family : UInt8) {s t : Supervisor} {actions : List Action}
    (ran : run s actions = some t) (clean : ∀ action ∈ actions, action.misread = false) :
    tags family t = tags family s := by
  induction actions generalizing s with
  | nil => cases ran; rfl
  | cons action actions ih =>
    simp only [run, Option.bind_eq_some] at ran
    obtain ⟨next, stepped, rest⟩ := ran
    rw [ih rest fun other member => clean other (List.mem_cons_of_mem _ member),
      tags_step family stepped (clean action (List.mem_cons_self _ _))]

theorem tags_init (family : UInt8) :
    tags family Supervisor.init = if family = mBoosterType ∨ family = qtBoosterType then 1 else 0 := by
  by_cases m : family = mBoosterType
  · subst m; decide
  · by_cases q : family = qtBoosterType
    · subst q; decide
    · simp [tags, tagless, Supervisor.init, List.countP_cons, Phase.tagless, m, q, Ne.symm m,
        Ne.symm q]

/-- On runs in which every `read` of the pipe returns a byte, each family has at most one
unwritten, piped or held tag, and one exactly while no booster of the family has exited before
writing its tag. -/
theorem pending_of_clean_run {actions : List Action} {s : Supervisor}
    (ran : run Supervisor.init actions = some s) (clean : ∀ action ∈ actions, action.misread = false)
    (family : UInt8) :
    pending family s + lost family s = if family = mBoosterType ∨ family = qtBoosterType then 1 else 0 := by
  rw [← tags_eq_pending_add_lost, tags_run family ran clean, tags_init]

/-- A misread `read` in a state that clean steps reached, while no booster of a family `F` was
lost: the loop forks for whatever `msg` held, and when it held `F` the count for `F` is 2. -/
theorem misread_breaks_pending {actions : List Action} {s : Supervisor} {family : UInt8}
    (ran : run Supervisor.init actions = some s) (clean : ∀ action ∈ actions, action.misread = false)
    (booster : family = mBoosterType ∨ family = qtBoosterType) (noLoss : lost family s = 0)
    (reading : s.held = none) :
    ∃ t, step s (.readError family) = some t ∧ pending family t = 2 := by
  have before := pending_of_clean_run ran clean family
  rw [if_pos booster, noLoss] at before
  refine ⟨{ s with held := some family }, by simp [step, reading], ?_⟩
  simp only [pending, reading, reduceCtorEq, if_false, Nat.add_zero, if_true] at before ⊢
  omega

/-- An `MBooster` took a request and wrote `m`, the daemon read it and forked a new one; the
next `read` returns -1 with `msg` still `m`. -/
theorem stale_msg_second_mbooster :
    ∃ t, step ⟨[⟨mBoosterType, .notified⟩, ⟨qtBoosterType, .waiting⟩, ⟨mBoosterType, .waiting⟩], [],
      none⟩ (.readError mBoosterType) = some t ∧ pending mBoosterType t = 2 :=
  @misread_breaks_pending [.accept 0, .notify 0, .readByte, .fork] _ _ rfl (by decide) (.inl rfl)
    rfl rfl

/-! `Daemon::reapZombies`, over the pids of `m_children`. What `waitpid(pid, NULL, WNOHANG)`
returns is left to the kernel: `wait calls pid` is the answer of the call made after `calls`
earlier ones. -/

section Reap
variable (wait : Nat → Int → Int)

/-- The loop of `Daemon::reapZombies` with the iterator at `i` and the pids waited for so far in
`waited`: a non-zero `waitpid` erases the pid and the iterator `erase` returns points at the next
one; 0 moves the iterator on. It ends with `m_children` and the pids waited for, in call order. -/
def reapFrom (children : List Int) (i : Nat) (waited : List Int) : List Int × List Int :=
  if h : i < children.length then
    if wait waited.length children[i] ≠ 0 then
      reapFrom (children.eraseIdx i) i (waited ++ [children[i]])
    else reapFrom children (i + 1) (waited ++ [children[i]])
  else (children, waited)
termination_by children.length - i
decreasing_by
  all_goals simp_wf
  · rw [List.length_eraseIdx_of_lt h]; omega
  · omega

/-- `Daemon::reapZombies`: the iterator starts at `m_children.begin()`. -/
def reapZombies (children : List Int) : List Int × List Int := reapFrom wait children 0 []

/-- The pids of `children` whose `waitpid` answered 0, the calls numbered from `calls` on. -/
def unreaped (calls : Nat) (children : List Int) : List Int :=
  ((children.enumFrom calls).filter fun entry => wait entry.1 entry.2 = 0).map Prod.snd

/-- From the iterator at the end of the pids it kept, the loop waits for each pid after it, once
and in order, and keeps those whose `waitpid` answered 0. -/
theorem reapFrom_append (kept rest waited : List Int) :
    reapFrom wait (kept ++ rest) kept.length waited =
      (kept ++ unreaped wait waited.length rest, waited ++ rest) := by
  induction rest generalizing kept waited with
  | nil => rw [reapFrom]; simp [unreaped]
  | cons pid rest ih =>
    have inside : kept.length < (kept ++ pid :: rest).length := by simp
    have current : (kept ++ pid :: rest)[kept.length] = pid := by
      simp [List.getElem_append_right (le_refl kept.length)]
    rw [reapFrom, dif_pos inside, current]
    by_cases exited : wait waited.length pid = 0
    · have moved := ih (kept ++ [pid]) (waited ++ [pid])
      simp only [List.append_assoc, List.singleton_append, List.length_append,
        List.length_singleton] at moved
      rw [if_neg (not_not.mpr exited), moved]
      simp [unreaped, exited]
    · rw [if_pos exited, List.eraseIdx_append_of_length_le (le_refl _), Nat.sub_self,
        List.eraseIdx_cons_zero, ih]
      simp [unreaped, exited]

/-- `Daemon::reapZombies` calls `waitpid` once for each pid of `m_children`, in their order, and
leaves exactly the pids whose call answered 0, in their order: however the erased pids lie, next
to each other or at the end, the loop skips none and erases no other. -/
theorem reapZombies_eq_unreaped (children : List Int) :
    reapZombies wait children = (unreaped wait 0 children, children) := by
  simpa using reapFrom_append wait [] children []

end Reap

end Applauncherd.Launcher.Daemon
