import Applauncherd.Launcher.Actions

/-! `receiveApplicationData` over whole requests. A well-formed request is accepted with the
`AppData` that the last action of each kind gives, and the environment its `ENV` entries give.
The function accepts more than well-formed requests: the results of the actions' functions are
never looked at, a first word that is not a magic word is not refused, an `ARGS` count out of
range is still stored, and the descriptor vector runs past `m_io`. -/

namespace Applauncherd.Launcher.Application
open Applauncherd.Wire.Stream Applauncherd.Wire.Process Applauncherd.Launcher.Codes
open Applauncherd.Launcher.Environ Applauncherd.Launcher.Receive Applauncherd.Launcher.Actions

section Application
variable (P : Protocol) {argMax : BitVec 32} {fuel : Nat} (beyond : Nat → Int) (app : AppData)

/-- After a first word answered with option bits other than -1 and a `NAME` with a non-empty
string, a run of `receiveActions` that succeeds makes `receiveApplicationData` succeed with the
members that run left. -/
theorem receiveApplicationData_of_actions {w : BitVec 32} {options : Int} {magicLog : List Event}
    (magic : Consumes (receiveMagic P) [wordUnit w] options magicLog) (valid : options ≠ -1)
    {name : List UInt8} (nonempty : name ≠ []) (framable : Framable name)
    {connection connection' : Connection} {later : List (List Item)} {log : List Event}
    (actions : Consumes (receiveActions P argMax fuel connection) later (some true, connection') log) :
    Consumes (receiveApplicationData P argMax fuel beyond app connection)
      (wordUnit w :: ((wordUnit P.msgName :: strUnits name) ++ later))
      (some true,
        { app with
          options := options
          appName := name
          fileName := connection'.fileName
          priority := connection'.priority.toInt
          argc := connection'.argc
          argv := connection'.argv
          ioDescriptors := ioVector connection'.io beyond },
        connection')
      (magicLog ++ (reads (wordUnit P.msgName :: strUnits name) ++ [.send (wordUnit P.msgAck)] ++ log)) := by
  refine magic.bind ?_
  simp only [valid, if_false]
  refine (receiveAppName_consumes P framable).bind ?_
  simp only [nonempty, if_false]
  exact actions.bind_pure rfl

/-- A well-formed request, with fuel for its actions, is read exactly and accepted; the
`AppData` takes the members its actions leave. -/
theorem receiveApplicationData_consumes {request : Request} (wellFormed : request.WellFormed P argMax)
    (enough : request.actions.length < fuel) (connection : Connection) :
    Consumes (receiveApplicationData P argMax fuel beyond app connection) (request.units P)
      (some true,
        { app with
          options := (request.magic &&& P.magicOptionMask).toInt
          appName := request.name
          fileName := (request.actions.foldl Action.apply connection).fileName
          priority := (request.actions.foldl Action.apply connection).priority.toInt
          argc := (request.actions.foldl Action.apply connection).argc
          argv := (request.actions.foldl Action.apply connection).argv
          ioDescriptors := ioVector (request.actions.foldl Action.apply connection).io beyond },
        request.actions.foldl Action.apply connection)
      (request.log P) :=
  (receiveApplicationData_of_actions P beyond app
    (receiveMagic_consumes P wellFormed.magic wellFormed.version) (P.options_ne_neg_one _)
    wellFormed.name_ne_nil wellFormed.name_framable
    (receiveActions_consumes P wellFormed.actions enough connection)).cast
    (by simp [Request.units, Request.bodyUnits]) (by simp [Request.log, Request.bodyLog])

/-- A request on the sample codes: a magic word of version 3 without options, the name `a`, and
one action of each kind. -/
def sampleRequest : Request where
  magic := 0xb0070300#32
  name := [97]
  actions := [.exec [47, 98], .args [[97], [98]], .env [[65, 61, 49]], .prio 5, .io 0 (0, 1, 2)]

/-- The sample request without actions. -/
def sampleHeader : Request := { sampleRequest with actions := [] }

/-- `_SC_ARG_MAX` of a stock Linux system. -/
def sampleArgMax : BitVec 32 := 2097152#32

/-- An `AppData` before `receiveApplicationData` fills it. -/
def blankApp : AppData := ⟨0, [], [], 0, 0, none, []⟩

theorem sampleRequest_wellFormed : sampleRequest.WellFormed sampleProtocol sampleArgMax where
  magic := by decide
  version := by decide
  name_ne_nil := by decide
  name_framable := ⟨by decide, by decide⟩
  actions := by simp [sampleRequest, Action.WellFormed, Framable, sampleArgMax]

/-- The descriptor vector a request hands over: the three descriptors of its last `IO`, then nine
`int`s read from past the end of `m_io`. -/
theorem receiveApplicationData_io_vector {request : Request} (wellFormed : request.WellFormed P argMax)
    (enough : request.actions.length < fuel) (connection : Connection) {fds : Int × Int × Int}
    (last : lastOf Action.fds? request.actions = some fds) :
    ∃ app' connection',
      Consumes (receiveApplicationData P argMax fuel beyond app connection) (request.units P)
        (some true, app', connection') (request.log P) ∧
      app'.ioDescriptors = [fds.1, fds.2.1, fds.2.2] ++ (List.range 9).map beyond :=
  ⟨_, _, receiveApplicationData_consumes P beyond app wellFormed enough connection,
    by simp [io_foldl_apply, last, ioVector, sizeofIo]⟩

theorem sampleRequest_io_vector :
    ∃ app' connection',
      Consumes (receiveApplicationData sampleProtocol sampleArgMax 6 (fun _ => 0) blankApp
        (Connection.init [])) (sampleRequest.units sampleProtocol) (some true, app', connection')
        (sampleRequest.log sampleProtocol) ∧
      app'.ioDescriptors = [0, 1, 2, 0, 0, 0, 0, 0, 0, 0, 0, 0] :=
  (receiveApplicationData_io_vector sampleProtocol (fun _ => 0) blankApp sampleRequest_wellFormed
    (by decide) (Connection.init []) rfl).imp fun _ accepted =>
      accepted.imp fun _ facts => ⟨facts.1, facts.2.trans rfl⟩

/-- A first word that is not a magic word is neither refused nor acknowledged: the rest of a
well-formed request is read and accepted as usual. -/
theorem receiveApplicationData_accepts_non_magic {request : Request}
    (notMagic : request.magic &&& P.msgMask ≠ P.msgMagic) (nonempty : request.name ≠ [])
    (framable : Framable request.name)
    (wellFormed : ∀ action ∈ request.actions, action.WellFormed argMax)
    (enough : request.actions.length < fuel) (connection : Connection) :
    ∃ result, Consumes (receiveApplicationData P argMax fuel beyond app connection) (request.units P)
      (some true, result) (reads [wordUnit request.magic] ++ request.bodyLog P) :=
  ⟨_, (receiveApplicationData_of_actions P beyond app (receiveMagic_consumes_of_not_magic P notMagic)
    (P.options_ne_neg_one _) nonempty framable (receiveActions_consumes P wellFormed enough connection)).cast
    (by simp [Request.units, Request.bodyUnits]) (by simp [Request.bodyLog])⟩

theorem zero_magic_accepted :
    ∃ result,
      Consumes (receiveApplicationData sampleProtocol sampleArgMax 6 (fun _ => 0) blankApp
        (Connection.init [])) ({ sampleRequest with magic := 0 }.units sampleProtocol) (some true, result)
        (reads [wordUnit 0] ++ sampleRequest.bodyLog sampleProtocol) :=
  @receiveApplicationData_accepts_non_magic sampleProtocol sampleArgMax 6 (fun _ => 0) blankApp
    { sampleRequest with magic := 0 } (by decide) sampleRequest_wellFormed.name_ne_nil sampleRequest_wellFormed.name_framable
    sampleRequest_wellFormed.actions (by decide) (Connection.init [])

/-- An `EXEC` whose length word is zero, so that `recvStr` refuses it, placed anywhere among the
actions of a well-formed request: the request is still accepted. -/
theorem receiveApplicationData_accepts_refused_exec {request : Request}
    (wellFormed : request.WellFormed P argMax) (position : Nat)
    (enough : request.actions.length + 1 < fuel) (connection : Connection) :
    Consumes recvStr [wordUnit 0] none (reads [wordUnit 0]) ∧
    ∃ result log,
      Consumes (receiveApplicationData P argMax fuel beyond app connection)
        (wordUnit request.magic :: ((wordUnit P.msgName :: strUnits request.name) ++
          ((request.actions.take position).flatMap (Action.units P) ++
            (wordUnit P.msgExec :: [wordUnit 0] ++
              ((request.actions.drop position).flatMap (Action.units P) ++ [wordUnit P.msgEnd])))))
        (some true, result) log := by
  have before := fun action (member : action ∈ request.actions.take position) =>
    wellFormed.actions action (List.mem_of_mem_take member)
  have after := fun action (member : action ∈ request.actions.drop position) =>
    wellFormed.actions action (List.mem_of_mem_drop member)
  have lengths : (request.actions.take position).length + (request.actions.drop position).length =
      request.actions.length := by
    simp only [List.length_take, List.length_drop]; omega
  obtain ⟨fuel, rfl⟩ : ∃ rest, fuel = rest + 1 + (request.actions.drop position).length + 1 +
      (request.actions.take position).length := ⟨fuel - 2 - request.actions.length, by omega⟩
  have actions : Consumes (receiveActions P argMax _ connection) _ _ _ :=
    ((receiveActions_actions P before _ connection).trans
      ((receiveActions_step P (actionHandler_exec P)
        (receiveExec_consumes_of_none P recvStr_consumes_of_zero _)).trans
      ((receiveActions_actions P after _ _).trans (receiveActions_end P fuel _).toLeads))).consumes
  exact ⟨recvStr_consumes_of_zero, _, _, receiveApplicationData_of_actions P beyond app
    (receiveMagic_consumes P wellFormed.magic wellFormed.version) (P.options_ne_neg_one _)
    wellFormed.name_ne_nil wellFormed.name_framable actions⟩

theorem refused_exec_accepted :
    Consumes recvStr [wordUnit 0] none (reads [wordUnit 0]) ∧
    ∃ result log,
      Consumes (receiveApplicationData sampleProtocol sampleArgMax 7 (fun _ => 0) blankApp
        (Connection.init []))
        (wordUnit sampleRequest.magic :: ((wordUnit sampleProtocol.msgName :: strUnits sampleRequest.name) ++
          ((sampleRequest.actions.take 1).flatMap (Action.units sampleProtocol) ++
            (wordUnit sampleProtocol.msgExec :: [wordUnit 0] ++
              ((sampleRequest.actions.drop 1).flatMap (Action.units sampleProtocol) ++
                [wordUnit sampleProtocol.msgEnd])))))
        (some true, result) log :=
  receiveApplicationData_accepts_refused_exec sampleProtocol (fun _ => 0) blankApp
    sampleRequest_wellFormed 1 (by decide) (Connection.init [])

/-- An `ARGS` whose count is out of range is acknowledged and its count stored in `m_argc`,
while `m_argv` keeps what the actions before left: the request is accepted with that pair. -/
theorem receiveApplicationData_keeps_out_of_range_count {request : Request}
    (wellFormed : request.WellFormed P argMax) {count : BitVec 32}
    (outOfRange : ¬(0 < count ∧ count < argMax)) (enough : request.actions.length + 1 < fuel)
    (connection : Connection) :
    ∃ app' connection' log,
      Consumes (receiveApplicationData P argMax fuel beyond app connection)
        (wordUnit request.magic :: ((wordUnit P.msgName :: strUnits request.name) ++
          (request.actions.flatMap (Action.units P) ++
            (wordUnit P.msgArgs :: [wordUnit count] ++ [wordUnit P.msgEnd]))))
        (some true, app', connection') log ∧
      app'.argc = count ∧ app'.argv = (request.actions.foldl Action.apply connection).argv := by
  obtain ⟨fuel, rfl⟩ : ∃ rest, fuel = rest + 1 + 1 + request.actions.length :=
    ⟨fuel - 2 - request.actions.length, by omega⟩
  have actions : Consumes (receiveActions P argMax _ connection) _ _ _ :=
    ((receiveActions_actions P wellFormed.actions _ connection).trans
      ((receiveActions_step P (actionHandler_args P)
        (receiveArgs_consumes_of_out_of_range P outOfRange _)).trans
      (receiveActions_end P fuel _).toLeads)).consumes
  exact ⟨_, _, _, receiveApplicationData_of_actions P beyond app
    (receiveMagic_consumes P wellFormed.magic wellFormed.version) (P.options_ne_neg_one _)
    wellFormed.name_ne_nil wellFormed.name_framable actions, rfl, rfl⟩

theorem huge_count_accepted :
    ∃ app' connection' log,
      Consumes (receiveApplicationData sampleProtocol sampleArgMax 2 (fun _ => 0) blankApp
        (Connection.init []))
        (wordUnit sampleHeader.magic :: ((wordUnit sampleProtocol.msgName :: strUnits sampleHeader.name) ++
          (sampleHeader.actions.flatMap (Action.units sampleProtocol) ++
            (wordUnit sampleProtocol.msgArgs :: [wordUnit 0xffffffff#32] ++ [wordUnit sampleProtocol.msgEnd]))))
        (some true, app', connection') log ∧
      app'.argc = 0xffffffff#32 ∧ app'.argv = none :=
  @receiveApplicationData_keeps_out_of_range_count sampleProtocol sampleArgMax 2 (fun _ => 0) blankApp
    sampleHeader
    ⟨sampleRequest_wellFormed.magic, sampleRequest_wellFormed.version,
      sampleRequest_wellFormed.name_ne_nil, sampleRequest_wellFormed.name_framable, nofun⟩
    0xffffffff#32 (by decide) (by decide) (Connection.init [])

end Application

end Applauncherd.Launcher.Application
