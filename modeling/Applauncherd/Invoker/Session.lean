import Applauncherd.Invoker.Invoke

/-! The invoker and a booster on the two ends of one connection: `invoke` against
`receiveApplicationData`, over a stream that hands each write over whole. The invoker writes
the request in the launcher's turns and waits where the launcher answers, so the two take
turns to the end; since the steps of the two processes commute, every interleaving ends in
that same state, where both have returned and each has read all the other wrote. -/

namespace Applauncherd.Invoker.Session
open Applauncherd.Wire.Stream Applauncherd.Wire.Process Applauncherd.Wire.Dialogue
open Applauncherd.Launcher.Codes Applauncherd.Launcher.Environ Applauncherd.Launcher.Receive
open Applauncherd.Launcher.Actions Applauncherd.Launcher.Application Applauncherd.Launcher.Turns
open Applauncherd.Invoker.Invoke

section Launch
variable (P : Protocol) (argMax : BitVec 32) (fuel : Nat) (beyond : Nat → Int) (app : AppData)
  (boosterEnviron : List (List UInt8))

/-- The invoker just connected to a booster that has just accepted it: `invoke` on one end,
`receiveApplicationData` on a new `Connection` of a process whose environment is
`boosterEnviron` on the other, nothing written yet. -/
def launch (argv : List (List UInt8)) (progName : List UInt8) (magicOptions : BitVec 32)
    (prio : Int) (environ : List (List UInt8)) (dummy : UInt8) :
    Session Unit (Option Bool × AppData × Connection) :=
  ⟨⟨invoke P argv progName magicOptions prio environ dummy, [], []⟩,
    ⟨receiveApplicationData P argMax fuel beyond app (Connection.init boosterEnviron), [], []⟩⟩

/-- An `int` priority (from `INT_MIN` to `INT_MAX`) written as a `uint32_t` reads back as itself
in the signed view. -/
theorem toInt_ofInt_of_range {prio : Int} (range : -2147483648 ≤ prio ∧ prio < 2147483648) :
    (BitVec.ofInt 32 prio).toInt = prio := by
  rw [BitVec.toInt_ofInt, Int.bmod_def]
  split <;> omega

/-- The request an invocation writes is well formed when its option bits fit the option mask,
its strings are framable, the name is not empty, and the argument and environment lists have
the sizes the launcher takes. -/
theorem invokeRequest_wellFormed {name exec : List UInt8} {rest environ : List (List UInt8)}
    {options : BitVec 32} (prio : Int) (dummy : UInt8)
    (optionBits : options &&& P.magicOptionMask = options) (named : name ≠ [])
    (framable : ∀ arg ∈ name :: rest, Framable arg) (execFramable : Framable exec)
    (argsBound : (name :: rest).length < argMax.toNat) (envNonempty : environ ≠ [])
    (envBound : environ.length < 1024) (envFramable : ∀ var ∈ environ, Framable var) :
    (invokeRequest P (name :: rest) exec options prio environ dummy).WellFormed P argMax where
  magic := (P.magicWord_fields optionBits).1
  version := (P.magicWord_fields optionBits).2.1
  name_ne_nil := named
  name_framable := framable name (List.mem_cons_self _ _)
  actions := by
    simp only [invokeRequest, List.mem_cons, List.mem_singleton, List.not_mem_nil, or_false]
    rintro action (rfl | rfl | rfl | rfl | rfl)
    exacts [execFramable, ⟨argsBound, framable⟩, trivial, trivial,
      ⟨envNonempty, envBound, envFramable⟩]

/-- Every invocation with a non-empty name, framable strings, fewer arguments than the
launcher's `_SC_ARG_MAX`, 1 to 1023 environment strings, an `int` priority and option bits
under the option mask, against a booster with fuel for the request's actions: whatever the
interleaving of the two processes, it ends in one state. There `invoke` has returned after six
reads, each of exactly one `ACK`; nothing either side wrote is left unread; and
`receiveApplicationData` has returned true with the `AppData` of the invocation: the name, the
path, the arguments, the priority, the option bits, and an environment where every name set by
the environment strings has the value of the last string that sets it. -/
theorem invoke_session_settles {name exec : List UInt8} {rest environ : List (List UInt8)}
    {options : BitVec 32} {prio : Int} (dummy : UInt8)
    (optionBits : options &&& P.magicOptionMask = options) (named : name ≠ [])
    (framable : ∀ arg ∈ name :: rest, Framable arg) (execFramable : Framable exec)
    (argsBound : (name :: rest).length < argMax.toNat) (envNonempty : environ ≠ [])
    (envBound : environ.length < 1024) (envFramable : ∀ var ∈ environ, Framable var)
    (prioRange : -2147483648 ≤ prio ∧ prio < 2147483648) (enough : 5 < fuel) :
    ∃ final, Settles (launch P argMax fuel beyond app boosterEnviron (name :: rest) exec options prio
        environ dummy) final ∧
      final.left.prog = .pure () ∧
      recvs final.left.log = List.replicate 6 (some (wordUnit P.msgAck)) ∧
      final.left.inbox = [] ∧ final.right.inbox = [] ∧
      ∃ app' connection', final.right.prog = .pure (some true, app', connection') ∧
        app'.appName = name ∧ app'.fileName = exec ∧ app'.argc.toNat = (name :: rest).length ∧
        argvStrings app'.argc app'.argv = some (name :: rest) ∧ app'.priority = prio ∧
        app'.options = options.toInt ∧
        ∀ key, equalsSign ∉ key →
          getenv key connection'.environ = (lastValue key environ).or (getenv key boosterEnviron) := by
  have wellFormed := invokeRequest_wellFormed P argMax prio dummy optionBits named framable
    execFramable argsBound envNonempty envBound envFramable
  have run := talk (invoke_turns P (name :: rest) exec options prio environ dummy)
    (receiveApplicationData_turns P beyond app wellFormed enough (Connection.init boosterEnviron))
    [] []
  have args := argv_foldl_apply wellFormed.actions (Connection.init boosterEnviron)
  simp only [LastArgs, invokeRequest, lastOf, Action.argv?, Option.or_some, Option.none_or] at args
  refine ⟨_, settles_of_reaches run stuck_of_returned, rfl, ?_, rfl, rfl, _, _, rfl, rfl, rfl, ?_,
    args.2, ?_, congrArg BitVec.toInt (P.magicWord_fields optionBits).2.2, fun key unnamed => ?_⟩
  · simp [turnsLog, leftTurns, Request.turns, actionTurns, invokeRequest, Action.acknowledged]
  · dsimp only [invokeRequest]
    rw [args.1, BitVec.toNat_ofNat, Nat.mod_eq_of_lt (lt_trans argsBound argMax.isLt)]
  · exact toInt_ofInt_of_range prioRange
  · rw [environ_foldl_apply, getenv_addEntries unnamed]
    simp [invokeRequest, Action.vars, Connection.init]

theorem sample_invocation_settles :
    ∃ final, Settles (launch sampleProtocol sampleArgMax 6 (fun _ => 0) blankApp [] [[97]] [47, 98]
        0 0 [[65, 61, 49]] 0) final ∧ final.left.prog = .pure () :=
  (invoke_session_settles sampleProtocol sampleArgMax 6 (fun _ => 0) blankApp [] 0 (by decide)
    (by decide) (by decide) (by decide) (by decide) (by decide) (by decide) (by decide)
    (by decide) (by decide)).imp fun _ facts => ⟨facts.1, facts.2.1⟩

end Launch

end Applauncherd.Invoker.Session
