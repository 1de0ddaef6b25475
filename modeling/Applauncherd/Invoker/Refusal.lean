import Applauncherd.Invoker.Session
import Applauncherd.Invoker.Main

/-! Requests the launcher refuses, and what becomes of the invoker. An invoker whose first word the
launcher does not accept gets no answer: `receiveMagic` sends no `ACK` for a magic word of another
version, which it answers with -1, nor for a word without the magic tag, after which the launcher
reads on for a `NAME` action; the invoker waits for the `ACK` of its first word. An invocation
whose name is empty is acknowledged and then refused:
`receiveAppName` acknowledges the name before `receiveApplicationData` finds it empty and returns
false, so the invoker writes `EXEC` and its path and waits for the next `ACK`. Either way, whatever
the interleaving, the session ends with the invoker in a read that only the booster closing the
connection can end. `main` hands `invoke` an empty name whenever its program argument starts with
`.launch`, since it cuts the argument at its first `.launch`. -/

namespace Applauncherd.Invoker.Refusal
open Applauncherd.Wire.Stream Applauncherd.Wire.Process Applauncherd.Wire.Dialogue
open Applauncherd.Launcher.Codes Applauncherd.Launcher.Receive Applauncherd.Launcher.Application
open Applauncherd.Invoker.Invoke Applauncherd.Invoker.Session Applauncherd.Invoker.Main

section Refusal
variable (P : Protocol) (argMax : BitVec 32) (fuel : Nat) (beyond : Nat → Int) (app : AppData)
  (boosterEnviron : List (List UInt8))

/-- Where a session stops when the launcher refuses a request after its name: the invoker waits in
a read with nothing to read, having read two `ACK`s; the launcher has returned false with
`refusedApp`; the `EXEC` action and its path, for `exec`, are written to it and unread. -/
structure RefusedAfterName (exec : List UInt8) (refusedApp : AppData) (connection : Connection)
    (final : Session Unit (Option Bool × AppData × Connection)) : Prop where
  waiting : ∃ count next, final.left.prog = .read count next
  nothingToRead : final.left.inbox = []
  acked : recvs final.left.log = [some (wordUnit P.msgAck), some (wordUnit P.msgAck)]
  refused : final.right.prog = .pure (some false, refusedApp, connection)
  unread : final.right.inbox = (wordUnit P.msgExec :: strUnits exec).map .data

/-- The launcher's two turns on a request with an empty name: the first word, acknowledged, then
`NAME` and the empty string, acknowledged, after which it returns false. -/
theorem receiveApplicationData_refuses_empty_name {options : BitVec 32}
    (optionBits : options &&& P.magicOptionMask = options) (connection : Connection) :
    Turns (receiveApplicationData P argMax fuel beyond app connection)
      [([wordUnit (P.msgMagic ||| P.magicVersion ||| options)], [wordUnit P.msgAck]),
        (wordUnit P.msgName :: strUnits [], [wordUnit P.msgAck])]
      (.pure (some false, { app with options := options.toInt, appName := [] }, connection)) := by
  have fields := P.magicWord_fields optionBits
  refine .cons_of_leads (((receiveMagic_consumes P fields.1 fields.2.1).leads _).of_ite_neg
    (P.options_ne_neg_one _)) (by simp) rfl ?_
  rw [fields.2.2]
  exact .cons_of_leads (((receiveAppName_consumes P (by decide)).leads _).of_ite_pos rfl)
    (by simp [strUnits]) rfl (.nil _)

/-- The invoker's turns on an empty name: it writes the first word; after the first `ACK`, `NAME`
and the name; after the second, `EXEC` and the path, and then waits for an `ACK`. -/
theorem invoke_turns_to_exec (rest : List (List UInt8)) (exec : List UInt8) (options : BitVec 32)
    (prio : Int) (environ : List (List UInt8)) (dummy : UInt8) :
    ∃ waiting, Turns (invoke P ([] :: rest) exec options prio environ dummy)
      (leftTurnsThen [] (wordUnit P.msgExec :: strUnits exec)
        [([wordUnit (P.msgMagic ||| P.magicVersion ||| options)], [wordUnit P.msgAck]),
          (wordUnit P.msgName :: strUnits [], [wordUnit P.msgAck])]) waiting ∧
      ∃ count next, waiting = .read count next := by
  exact ⟨_, .cons_of_leads (invokerSendMagic_leads P _ options) (by simp) rfl
    (.cons_of_leads (invokeRecvAck_leads P _ (sendStrAction_leads P _ P.msgName _)) (by simp) rfl
      (.cons_of_leads (invokeRecvAck_leads P _ (sendStrAction_leads P _ P.msgExec _)) (by simp) rfl
        (.nil _))), _, _, rfl⟩

/-- An invocation whose name is empty, whatever its path, arguments, priority, environment and
option bits under the option mask: every interleaving of the invoker and the booster ends in one
state, where the launcher has acknowledged the name, returned false with the option bits and the
empty name in its `AppData`, and left the `EXEC` request unread, while the invoker waits for the
`ACK` of that request with nothing to read. -/
theorem empty_name_deadlocks {rest environ : List (List UInt8)} {exec : List UInt8}
    {options : BitVec 32} (prio : Int) (dummy : UInt8)
    (optionBits : options &&& P.magicOptionMask = options) :
    ∃ final, Settles (launch P argMax fuel beyond app boosterEnviron ([] :: rest) exec options prio
        environ dummy) final ∧
      RefusedAfterName P exec { app with options := options.toInt, appName := [] }
        (Connection.init boosterEnviron) final := by
  obtain ⟨_, invoker, count, next, rfl⟩ := invoke_turns_to_exec P rest exec options prio environ dummy
  have run := talk_then invoker
    (receiveApplicationData_refuses_empty_name P argMax fuel beyond app optionBits
      (Connection.init boosterEnviron)) [] []
  refine ⟨_, settles_of_reaches run stuck_of_waiting, ⟨count, next, rfl⟩, rfl, ?_, rfl, rfl⟩
  simp [turnsLog, leftTurnsThen]

/-- An invoker command line whose program argument, the first from `argv[1]` on that is neither an
option nor the operand of a `--delay`, starts with `.launch`: the invocation `main` hands to
`invoke` with an application type set (without one, `invoker_init` dies before it connects)
ends, in every interleaving, with the booster refusing it after acknowledging its empty name and
the invoker waiting for an `ACK`. -/
theorem launch_prefixed_program_deadlocks (searchProgram : List UInt8 → Option (List UInt8))
    {progNameMacro : List UInt8} (argv : List (List UInt8)) {i : Nat} {arg : List UInt8}
    (enough : 3 ≤ argv.length)
    (named : ∃ argv0, argv.head? = some argv0 ∧ (strstr progNameMacro argv0).isSome)
    (program : FirstProgram argv i) (found : argv[i]? = some arg) (prefixed : lit ".launch" <+: arg)
    (prio : Int) (environ : List (List UInt8)) (dummy : UInt8) :
    ∀ progArgc progArgv progName options,
      main searchProgram progNameMacro argv = .invoke progArgc progArgv progName options →
      options.appType ≠ .unknown →
      ∃ final, Settles (launch P argMax fuel beyond app boosterEnviron progArgv progName 0 prio
          environ dummy) final ∧
        RefusedAfterName P progName { app with options := (0 : BitVec 32).toInt, appName := [] }
          (Connection.init boosterEnviron) final := by
  intro progArgc progArgv progName options invoked _
  obtain ⟨argv0, first, calledByName⟩ := named
  rw [main_eq_optionLoop searchProgram enough first calledByName] at invoked
  obtain ⟨j, program', -, arg', found', rfl⟩ :=
    (optionLoop_spec searchProgram argv Options.init (scanned_one argv)).2 _ _ _ _ invoked
  obtain rfl := program'.unique program
  obtain rfl : arg' = arg := Option.some_inj.mp (found'.symm.trans found)
  rw [launchName_eq_nil prefixed]
  exact empty_name_deadlocks P argMax fuel beyond app boosterEnviron prio dummy BitVec.zero_and

/-- `invoker --type=m .launcher/app`: the program argument is `argv[2]`. -/
def prefixedArgv : List (List UInt8) := [lit "invoker", lit "--type=m", lit ".launcher/app"]

theorem prefixedArgv_program : FirstProgram prefixedArgv 2 where
  inside := by decide
  notOption := fun _ found => by cases found; decide
  notOperand := rfl
  least := fun k _ start below found => by
    obtain rfl : k = 1 := by omega
    cases found
    exact .inl (by decide)

/-- `main` hands `invoke` the empty name for `.launcher/app`. -/
theorem prefixedArgv_invokes :
    main (fun arg => some arg) (lit "invoker") prefixedArgv =
      .invoke 1 [[]] (lit ".launcher/app") ⟨.m, false, 0⟩ := by
  rw [@main_eq_optionLoop _ (lit "invoker") (lit "invoker") prefixedArgv (by decide) rfl (by decide),
    optionLoop_typeM _ _ _ rfl, optionLoop_program _ _ _ rfl (by decide)]
  decide

theorem prefixed_argv_deadlocks :
    ∃ final, Settles (launch sampleProtocol sampleArgMax 6 (fun _ => 0) blankApp [] [[]]
        (lit ".launcher/app") 0 0 [] 0) final ∧
      RefusedAfterName sampleProtocol (lit ".launcher/app")
        { blankApp with options := (0 : BitVec 32).toInt, appName := [] } (Connection.init []) final :=
  launch_prefixed_program_deadlocks sampleProtocol sampleArgMax 6 (fun _ => 0) blankApp []
    (fun arg => some arg) prefixedArgv (by decide) ⟨lit "invoker", rfl, by decide⟩ prefixedArgv_program
    rfl (by decide) 0 [] 0 1 [[]] (lit ".launcher/app") ⟨.m, false, 0⟩ prefixedArgv_invokes
    (by decide)

end Refusal

section Unanswered
variable {P P' : Protocol} (argMax : BitVec 32) (fuel : Nat) (beyond : Nat → Int) (app : AppData)
  (connection : Connection)

/-- The launcher's one turn on a first word it does not accept: it reads the word and writes
nothing. A magic word of another version makes it return false with the options -1; a word
without the magic tag is taken for option bits, and the launcher goes on to read a `NAME`
action. -/
theorem receiveApplicationData_unanswered {w : BitVec 32}
    (notAccepted : ¬(w &&& P.msgMask = P.msgMagic ∧ w &&& P.magicVersionMask = P.magicVersion)) :
    ∃ last, Turns (receiveApplicationData P argMax fuel beyond app connection) [([wordUnit w], [])]
        last ∧
      if w &&& P.msgMask = P.msgMagic then
        last = .pure (some false, { app with options := -1 }, connection)
      else ∃ count next, last = .read count next := by
  by_cases tagged : w &&& P.msgMask = P.msgMagic
  · have otherVersion : w &&& P.magicVersionMask ≠ P.magicVersion :=
      fun version => notAccepted ⟨tagged, version⟩
    refine ⟨_, .cons_of_leads (((receiveMagic_consumes_of_other_version P tagged otherVersion).leads
      _).of_ite_pos rfl) (by simp) rfl (.nil _), ?_⟩
    rw [if_pos tagged]
  · refine ⟨_, .cons_of_leads (((receiveMagic_consumes_of_not_magic P tagged).leads _).of_ite_neg
      (P.options_ne_neg_one _)) (by simp) rfl (.nil _), ?_⟩
    rw [if_neg tagged]
    exact ⟨_, _, rfl⟩

/-- `sampleProtocol` with the next version. -/
def nextVersionProtocol : Protocol :=
  { sampleProtocol with magicVersion := 0x00000400#32, version_masked := by decide }

end Unanswered

end Applauncherd.Invoker.Refusal
