import Applauncherd.Wire.Process
import Applauncherd.Launcher.Codes
import Applauncherd.Launcher.Environ

/-! The launcher side of the protocol: the receive functions of `Connection` in
connection.cpp, as programs against the accepted socket. The members they fill are a
`Connection` record threaded through them; `receiveApplicationData` hands them to the
booster's `AppData`. The `while (1)` loop of `receiveActions` runs on fuel: out of fuel it
answers `none`, a run that has not finished. `acceptConn` and `closeConn` keep the accepted
descriptor in `m_fd`. -/

namespace Applauncherd.Launcher.Receive
open Applauncherd.Wire.Stream Applauncherd.Wire.Process Applauncherd.Launcher.Codes
open Applauncherd.Launcher.Environ

/-- What an entry of the array `m_argv` holds: a string `recvStr` returned, the NULL of a failed
`recvStr`, or a pointer `new const char*[m_argc]` left uninitialised. -/
inductive Slot where
  | str (bytes : List UInt8)
  | null
  | uninit
deriving DecidableEq, Repr

/-- The members of `Connection` the receive functions write (`m_argv` is NULL or an array), and
the process environment `receiveEnv` edits with `putenv`. -/
structure Connection where
  fileName : List UInt8
  argc : BitVec 32
  argv : Option (List Slot)
  io : Int × Int × Int
  priority : BitVec 32
  environ : List (List UInt8)

/-- The members as the constructor initialises them, in a process whose environment is
`environ`. -/
def Connection.init (environ : List (List UInt8)) : Connection :=
  ⟨[], 0, none, (-1, -1, -1), 0, environ⟩

/-- Modelled from the spec: the fields of `AppData` (appdata.h is not under src/) that
`receiveApplicationData` sets, each setter storing its argument. -/
structure AppData where
  options : Int
  appName : List UInt8
  fileName : List UInt8
  priority : Int
  argc : BitVec 32
  argv : Option (List Slot)
  ioDescriptors : List Int

section Receive
variable (P : Protocol)

/-- `Connection::sendMsg`: one `write` of the word. Every caller ignores its result. -/
def sendMsg (msg : BitVec 32) : Prog Unit := .send (wordUnit msg) (.pure ())

/-- `Connection::recvMsg`: one `read` of four bytes. A short read leaves the message 0; the
result is false only when the call returned -1. -/
def recvMsg : Prog (Bool × BitVec 32) :=
  .read 4 fun
    | none => .pure (false, 0)
    | some got => .pure (true, if got.length < 4 then 0 else word (got.map Item.byte))

theorem sendMsg_consumes (msg : BitVec 32) :
    Consumes (sendMsg msg) [] () [.send (wordUnit msg)] :=
  (consumes_pure ()).send _

theorem recvMsg_consumes (w : BitVec 32) :
    Consumes recvMsg [wordUnit w] (true, w) (reads [wordUnit w]) := by
  exact Consumes.read_of_length (by simp) (consumes_pure_of_eq (by simp))

/-- What `read(m_fd, str, size)` returned, as `recvStr` keeps it in a `uint32_t`: -1 becomes
4294967295. -/
def readResult : Option (List Item) → BitVec 32
  | none => BitVec.ofInt 32 (-1)
  | some got => BitVec.ofNat 32 got.length

/-- `Connection::recvStr`: a length word, then one `read` of that many bytes into
`new char[size]`, whose last byte is overwritten with NUL. When the `read` returned -1 the
buffer holds what the allocation held, modelled as zero bytes. -/
def recvStr : Prog (Option (List UInt8)) :=
  recvMsg >>= fun (res, size) =>
    if !res || size == 0 then .pure none
    else
      .read size.toNat fun got =>
        if readResult got < size then .pure none
        else
          let buffer := match got with
            | none => List.replicate size.toNat 0
            | some items => items.map Item.byte
          .pure (some (buffer.set (size.toNat - 1) 0))

/-- A string framed as `sendStr` frames it: no NUL inside, and its length word, which counts the
NUL, fits in 32 bits (below 2^32). -/
def Framable (bytes : List UInt8) : Prop := 0 ∉ bytes ∧ bytes.length + 1 < 4294967296

instance (bytes : List UInt8) : Decidable (Framable bytes) :=
  inferInstanceAs (Decidable (0 ∉ bytes ∧ bytes.length + 1 < 4294967296))

theorem recvStr_consumes {bytes : List UInt8} (framable : Framable bytes) :
    Consumes recvStr (strUnits bytes) (some (bytes ++ [0])) (reads (strUnits bytes)) := by
  have size : (BitVec.ofNat 32 (bytes.length + 1)).toNat = bytes.length + 1 := by
    simp only [BitVec.toNat_ofNat]; exact Nat.mod_eq_of_lt framable.2
  refine (recvMsg_consumes _).bind ?_
  have nonzero : BitVec.ofNat 32 (bytes.length + 1) ≠ 0 := by
    intro zero; have := congrArg BitVec.toNat zero; simp only [size] at this; simp at this
  simp only [Bool.not_true, Bool.false_or, beq_iff_eq, nonzero, if_false, size]
  refine Consumes.read_of_length (by simp) ?_
  simpa [readResult, reads] using consumes_pure (some (bytes ++ [0]))

/-- A length word of zero: `recvStr` returns NULL without reading on. -/
theorem recvStr_consumes_of_zero : Consumes recvStr [wordUnit 0] none (reads [wordUnit 0]) :=
  (recvMsg_consumes 0).bind_pure rfl

/-- `Connection::receiveMagic`: the option bits of the first word, -1 for a magic word of
another version. A word that is not a magic word is not refused. -/
def receiveMagic : Prog Int :=
  recvMsg >>= fun (_, magic) =>
    if magic &&& P.msgMask = P.msgMagic then
      if magic &&& P.magicVersionMask = P.magicVersion then
        sendMsg P.msgAck >>= fun _ => .pure (magic &&& P.magicOptionMask).toInt
      else .pure (-1)
    else .pure (magic &&& P.magicOptionMask).toInt


/-- A magic word of the supported version is acknowledged and answered with its option bits. -/
theorem receiveMagic_consumes {w : BitVec 32} (magic : w &&& P.msgMask = P.msgMagic)
    (version : w &&& P.magicVersionMask = P.magicVersion) :
    Consumes (receiveMagic P) [wordUnit w] (w &&& P.magicOptionMask).toInt
      (reads [wordUnit w] ++ [.send (wordUnit P.msgAck)]) := by
  refine (recvMsg_consumes w).bind ?_
  simp only [magic, version, if_true]
  exact (sendMsg_consumes _).bind (consumes_pure _)

/-- A first word that is not a magic word is answered with its option bits, unacknowledged. -/
theorem receiveMagic_consumes_of_not_magic {w : BitVec 32} (notMagic : w &&& P.msgMask ≠ P.msgMagic) :
    Consumes (receiveMagic P) [wordUnit w] (w &&& P.magicOptionMask).toInt (reads [wordUnit w]) := by
  refine (recvMsg_consumes w).bind ?_
  simp only [notMagic, if_false]
  exact consumes_pure _

/-- A magic word of another version is answered with -1, unacknowledged. -/
theorem receiveMagic_consumes_of_other_version {w : BitVec 32} (magic : w &&& P.msgMask = P.msgMagic)
    (otherVersion : w &&& P.magicVersionMask ≠ P.magicVersion) :
    Consumes (receiveMagic P) [wordUnit w] (-1) (reads [wordUnit w]) := by
  refine (recvMsg_consumes w).bind ?_
  simp only [magic, otherVersion, if_true, if_false]
  exact consumes_pure _

/-- `Connection::receiveAppName`: a `NAME` action and its string, acknowledged; the empty
string on any failure. -/
def receiveAppName : Prog (List UInt8) :=
  recvMsg >>= fun (_, msg) =>
    if msg ≠ P.msgName then .pure []
    else
      recvStr >>= fun
        | none => .pure []
        | some name => sendMsg P.msgAck >>= fun _ => .pure (cstr name)


theorem receiveAppName_consumes {name : List UInt8} (framable : Framable name) :
    Consumes (receiveAppName P) (wordUnit P.msgName :: strUnits name) name
      (reads (wordUnit P.msgName :: strUnits name) ++ [.send (wordUnit P.msgAck)]) := by
  refine (recvMsg_consumes _).bind ?_
  simp only [ne_eq, not_true_eq_false, if_false]
  refine (recvStr_consumes framable).bind ?_
  simp only [cstr_append_nul framable.1]
  exact (sendMsg_consumes _).bind (consumes_pure _)

/-- `Connection::receiveExec`. -/
def receiveExec (connection : Connection) : Prog (Bool × Connection) :=
  recvStr >>= fun
    | none => .pure (false, connection)
    | some filename =>
        sendMsg P.msgAck >>= fun _ => .pure (true, { connection with fileName := cstr filename })


theorem receiveExec_consumes {path : List UInt8} (framable : Framable path) (connection : Connection) :
    Consumes (receiveExec P connection) (strUnits path) (true, { connection with fileName := path })
      (reads (strUnits path) ++ [.send (wordUnit P.msgAck)]) := by
  refine (recvStr_consumes framable).bind ?_
  simp only [cstr_append_nul framable.1]
  exact (sendMsg_consumes _).bind (consumes_pure _)

/-- An `EXEC` whose string `recvStr` refuses leaves the members as they were, unacknowledged. -/
theorem receiveExec_consumes_of_none {units : List (List Item)} {log : List Event}
    (refused : Consumes recvStr units none log) (connection : Connection) :
    Consumes (receiveExec P connection) units (false, connection) log :=
  refused.bind_pure rfl

/-- `Connection::receivePriority`: `recvMsg` writes `m_priority` whatever the read returned. -/
def receivePriority (connection : Connection) : Prog (Bool × Connection) :=
  recvMsg >>= fun (_, priority) =>
    sendMsg P.msgAck >>= fun _ => .pure (true, { connection with priority := priority })


theorem receivePriority_consumes (priority : BitVec 32) (connection : Connection) :
    Consumes (receivePriority P connection) [wordUnit priority]
      (true, { connection with priority := priority })
      (reads [wordUnit priority] ++ [.send (wordUnit P.msgAck)]) :=
  (recvMsg_consumes priority).bind ((sendMsg_consumes _).bind (consumes_pure _))

/-- The loop of `receiveArgs` over the `count` entries of the new array: a NULL from `recvStr`
ends it, leaving the entries after it uninitialised. -/
def receiveArgv : Nat → Prog (Bool × List Slot)
  | 0 => .pure (true, [])
  | count + 1 =>
      recvStr >>= fun
        | none => .pure (false, .null :: List.replicate count .uninit)
        | some arg =>
            receiveArgv count >>= fun (received, rest) => .pure (received, .str (cstr arg) :: rest)


theorem receiveArgv_consumes {args : List (List UInt8)} (framable : ∀ arg ∈ args, Framable arg) :
    Consumes (receiveArgv args.length) (args.flatMap strUnits) (true, args.map Slot.str)
      (reads (args.flatMap strUnits)) := by
  induction args with
  | nil => exact consumes_pure _
  | cons arg args ih =>
    have first := framable arg (List.mem_cons_self _ _)
    have rest := ih fun other member => framable other (List.mem_cons_of_mem _ member)
    rw [List.flatMap_cons, reads_append]
    refine (recvStr_consumes first).bind ?_
    simp only [cstr_append_nul first.1]
    exact rest.bind_pure rfl

/-- `Connection::receiveArgs`, with `argMax` the value of
`static_cast<uint32_t>(sysconf(_SC_ARG_MAX))`. `recvMsg` writes the count into `m_argc` before
it is checked. -/
def receiveArgs (argMax : BitVec 32) (connection : Connection) : Prog (Bool × Connection) :=
  recvMsg >>= fun (_, argc) =>
    let connection := { connection with argc := argc }
    if 0 < argc ∧ argc < argMax then
      receiveArgv argc.toNat >>= fun (received, argv) =>
        let connection := { connection with argv := some argv }
        if received then sendMsg P.msgAck >>= fun _ => .pure (true, connection)
        else .pure (false, connection)
    else sendMsg P.msgAck >>= fun _ => .pure (true, connection)


/-- An `ARGS` action whose count is below `argMax`, with its strings: `m_argc` takes the count,
and a non-zero count a new array of the strings. -/
theorem receiveArgs_consumes {argMax : BitVec 32} {args : List (List UInt8)}
    (framable : ∀ arg ∈ args, Framable arg) (bounded : args.length < argMax.toNat)
    (connection : Connection) :
    Consumes (receiveArgs P argMax connection)
      (wordUnit (BitVec.ofNat 32 args.length) :: args.flatMap strUnits)
      (true, { connection with
        argc := BitVec.ofNat 32 args.length
        argv := if args = [] then connection.argv else some (args.map Slot.str) })
      (reads (wordUnit (BitVec.ofNat 32 args.length) :: args.flatMap strUnits) ++
        [.send (wordUnit P.msgAck)]) := by
  have count : (BitVec.ofNat 32 args.length).toNat = args.length := by
    simp only [BitVec.toNat_ofNat]; exact Nat.mod_eq_of_lt (lt_trans bounded argMax.isLt)
  refine (recvMsg_consumes _).bind ?_
  cases args with
  | nil => exact (sendMsg_consumes _).bind (consumes_pure _)
  | cons arg rest =>
    have positive : 0 < BitVec.ofNat 32 (arg :: rest).length := by
      rw [BitVec.lt_def, count]; simp
    have below : BitVec.ofNat 32 (arg :: rest).length < argMax := by
      simp only [BitVec.lt_def, count]; exact bounded
    simp only [positive, below, and_self, if_true, count]
    exact (receiveArgv_consumes framable).bind_nil ((sendMsg_consumes _).bind (consumes_pure _))

/-- An `ARGS` count outside `1 .. argMax - 1` is acknowledged with no strings read, and still
written into `m_argc`; `m_argv` keeps what it held. -/
theorem receiveArgs_consumes_of_out_of_range {argMax count : BitVec 32}
    (outOfRange : ¬(0 < count ∧ count < argMax)) (connection : Connection) :
    Consumes (receiveArgs P argMax connection) [wordUnit count] (true, { connection with argc := count })
      (reads [wordUnit count] ++ [.send (wordUnit P.msgAck)]) := by
  refine (recvMsg_consumes count).bind ?_
  simp only [outOfRange, if_false]
  exact (sendMsg_consumes _).bind (consumes_pure _)

/-- `MAX_VARS` of `receiveEnv`. -/
def maxVars : BitVec 32 := 1024

/-- The loop of `receiveEnv` over `count` strings. -/
def receiveVars : Nat → List (List UInt8) → Prog (Bool × List (List UInt8))
  | 0, environ => .pure (true, environ)
  | count + 1, environ =>
      recvStr >>= fun
        | none => .pure (false, environ)
        | some var => receiveVars count (addEntry environ (cstr var))


theorem receiveVars_consumes {vars : List (List UInt8)} (framable : ∀ var ∈ vars, Framable var)
    (environ : List (List UInt8)) :
    Consumes (receiveVars vars.length environ) (vars.flatMap strUnits)
      (true, vars.foldl addEntry environ) (reads (vars.flatMap strUnits)) := by
  induction vars generalizing environ with
  | nil => exact consumes_pure _
  | cons var vars ih =>
    have first := framable var (List.mem_cons_self _ _)
    rw [List.flatMap_cons, reads_append]
    refine (recvStr_consumes first).bind ?_
    simp only [cstr_append_nul first.1]
    exact ih (fun other member => framable other (List.mem_cons_of_mem _ member)) _

/-- `Connection::receiveEnv`: no acknowledgement. -/
def receiveEnv (connection : Connection) : Prog (Bool × Connection) :=
  recvMsg >>= fun (_, nVars) =>
    if 0 < nVars ∧ nVars < maxVars then
      receiveVars nVars.toNat connection.environ >>= fun (received, environ) =>
        .pure (received, { connection with environ := environ })
    else .pure (false, connection)


/-- An `ENV` action with 1 to 1023 strings: each one with a `'='` is put in the environment, and
nothing is acknowledged. -/
theorem receiveEnv_consumes {vars : List (List UInt8)} (framable : ∀ var ∈ vars, Framable var)
    (nonempty : vars ≠ []) (bounded : vars.length < 1024) (connection : Connection) :
    Consumes (receiveEnv connection) (wordUnit (BitVec.ofNat 32 vars.length) :: vars.flatMap strUnits)
      (true, { connection with environ := vars.foldl addEntry connection.environ })
      (reads (wordUnit (BitVec.ofNat 32 vars.length) :: vars.flatMap strUnits)) := by
  have count : (BitVec.ofNat 32 vars.length).toNat = vars.length := by
    simp only [BitVec.toNat_ofNat]; exact Nat.mod_eq_of_lt (by omega)
  have positive : 0 < BitVec.ofNat 32 vars.length := by
    simpa [BitVec.lt_def, count] using List.length_pos.mpr nonempty
  have below : BitVec.ofNat 32 vars.length < maxVars := by
    simp only [BitVec.lt_def, count, maxVars]; simpa using bounded
  refine (recvMsg_consumes _).bind ?_
  simp only [positive, below, and_self, if_true, count]
  exact (receiveVars_consumes framable _).bind_pure rfl

/-- Descriptors the control buffer `char buf[CMSG_SPACE(sizeof(m_io))]` has room for: four on
LP64 Linux, where a `cmsghdr` takes 16 bytes. -/
def ioControlCapacity : Nat := 4

/-- `Connection::receiveIO`: a `recvmsg` of one byte whose `SCM_RIGHTS` message must carry
exactly `sizeof(m_io)` bytes of descriptors. -/
def receiveIO (connection : Connection) : Prog (Bool × Connection) :=
  .read 1 fun got =>
    let msg := received ioControlCapacity got
    if msg.ret < 0 then .pure (false, connection)
    else if msg.truncated then .pure (false, connection)
    else match msg.rights with
      | some [first, second, third] => .pure (true, { connection with io := (first, second, third) })
      | _ => .pure (false, connection)


/-- The byte of an `IO` action with its three descriptors. -/
theorem receiveIO_consumes (byte : UInt8) (fds : Int × Int × Int) (connection : Connection) :
    Consumes ( receiveIO connection) [[⟨byte, [fds.1, fds.2.1, fds.2.2]⟩]]
      (true, { connection with io := fds }) (reads [[⟨byte, [fds.1, fds.2.1, fds.2.2]⟩]]) :=
  Consumes.read_of_length rfl (consumes_pure_of_eq (by simp [received, ioControlCapacity]))

/-- The cases of `receiveActions`' switch that call a receive function and `break`: the function
for an action code, none for `END` and unknown codes. -/
def actionHandler (argMax action : BitVec 32) : Option (Connection → Prog (Bool × Connection)) :=
  if action = P.msgExec then some (receiveExec P)
  else if action = P.msgArgs then some (receiveArgs P argMax)
  else if action = P.msgEnv then some receiveEnv
  else if action = P.msgPrio then some (receivePriority P)
  else if action = P.msgIo then some receiveIO
  else none

/-- `Connection::receiveActions`, one action per unit of fuel. The results of the actions'
functions are not looked at. -/
def receiveActions (argMax : BitVec 32) : Nat → Connection → Prog (Option Bool × Connection)
  | 0, connection => .pure (none, connection)
  | fuel + 1, connection =>
      recvMsg >>= fun (_, action) =>
        match actionHandler P argMax action with
        | some receive =>
            receive connection >>= fun (_, connection) => receiveActions argMax fuel connection
        | none =>
            if action = P.msgEnd then sendMsg P.msgAck >>= fun _ => .pure (some true, connection)
            else .pure (some false, connection)

section Dispatch
variable {argMax : BitVec 32}

@[simp] theorem actionHandler_exec : actionHandler P argMax P.msgExec = some (receiveExec P) := by
  simp [actionHandler]

@[simp] theorem actionHandler_args : actionHandler P argMax P.msgArgs = some (receiveArgs P argMax) := by
  simp [actionHandler, P.dispatch_distinct]

@[simp] theorem actionHandler_env : actionHandler P argMax P.msgEnv = some receiveEnv := by
  simp [actionHandler, P.dispatch_distinct]

@[simp] theorem actionHandler_prio : actionHandler P argMax P.msgPrio = some (receivePriority P) := by
  simp [actionHandler, P.dispatch_distinct]

@[simp] theorem actionHandler_io : actionHandler P argMax P.msgIo = some receiveIO := by
  simp [actionHandler, P.dispatch_distinct]

@[simp] theorem actionHandler_end : actionHandler P argMax P.msgEnd = none := by
  simp [actionHandler, P.dispatch_distinct]

/-- One pass of the loop over an action code the switch hands to a receive function: whatever
that function answers, the loop goes on with the members it left. -/
theorem receiveActions_step {code : BitVec 32} {receive : Connection → Prog (Bool × Connection)}
    (handler : actionHandler P argMax code = some receive) {fuel : Nat}
    {connection connection' : Connection} {units : List (List Item)} {ok : Bool} {log : List Event}
    (action : Consumes (receive connection) units (ok, connection') log) :
    Leads (receiveActions P argMax (fuel + 1) connection) (wordUnit code :: units)
      (receiveActions P argMax fuel connection') (reads [wordUnit code] ++ log) := by
  rw [receiveActions]
  refine ((recvMsg_consumes code).leads _).trans ?_
  simp only [handler]
  exact action.leads _

/-- `END` is acknowledged and ends the loop with success. -/
theorem receiveActions_end (fuel : Nat) (connection : Connection) :
    Consumes (receiveActions P argMax (fuel + 1) connection) [wordUnit P.msgEnd]
      (some true, connection) (reads [wordUnit P.msgEnd] ++ [.send (wordUnit P.msgAck)]) := by
  refine (recvMsg_consumes _).bind ?_
  simp only [receiveActions, actionHandler_end, if_true]
  exact (sendMsg_consumes _).bind (consumes_pure _)

end Dispatch

/-- `sizeof(m_io)`: three `int`s of four bytes. -/
def sizeofIo : Nat := 3 * 4

/-- `vector<int>(m_io, m_io + sizeof(m_io))`: the pointer arithmetic counts `int`s, so the range
runs over `sizeof(m_io)` of them from `m_io` on; those past the array are whatever memory
follows it, `beyond`. -/
def ioVector (io : Int × Int × Int) (beyond : Nat → Int) : List Int :=
  [io.1, io.2.1, io.2.2] ++ (List.range (sizeofIo - 3)).map beyond

/-- `Connection::receiveApplicationData`, which fills `app`. -/
def receiveApplicationData (argMax : BitVec 32) (fuel : Nat) (beyond : Nat → Int) (app : AppData)
    (connection : Connection) : Prog (Option Bool × AppData × Connection) :=
  receiveMagic P >>= fun options =>
    let app := { app with options := options }
    if options = -1 then .pure (some false, app, connection)
    else
      receiveAppName P >>= fun name =>
        let app := { app with appName := name }
        if name = [] then .pure (some false, app, connection)
        else
          receiveActions P argMax fuel connection >>= fun (received, connection) =>
            match received with
            | some true =>
                .pure (some true,
                  { app with
                    fileName := connection.fileName
                    priority := connection.priority.toInt
                    argc := connection.argc
                    argv := connection.argv
                    ioDescriptors := ioVector connection.io beyond },
                  connection)
            | other => .pure (other, app, connection)

end Receive

section Accept

/-- `EINTR` of errno.h. -/
def eintr : Nat := 4

/-- What `accept(m_curSocket, NULL, NULL)` returned: a descriptor, or -1 with `errno`. -/
inductive Accepted where
  | fd (fd : Nat)
  | error (errno : Nat)
deriving DecidableEq, Repr

/-- `Connection::acceptConn`: its result and `m_fd` after it, which holds what `accept`
returned; the result is false only for an error other than `EINTR`, so an interrupted `accept`
is reported as success with `m_fd` at -1. -/
def acceptConn : Accepted → Bool × Int
  | .fd fd => (true, fd)
  | .error errno => (errno = eintr, -1)

/-- `Connection::closeConn`, which the destructor calls: `m_fd` after it and the descriptors it
closed. -/
def closeConn (fd : Int) : Int × List Int := if fd ≠ -1 then (-1, [fd]) else (-1, [])

/-- A connection that accepts, is closed with `closeConn` and is then destroyed closes the
descriptor `accept` returned exactly once and never closes -1, whatever `accept` returned: the
destructor's `closeConn` finds `m_fd` at -1 and closes nothing. -/
theorem acceptConn_closeConn_closes_once (accepted : Accepted) :
    (closeConn (acceptConn accepted).2).2 ++ (closeConn (closeConn (acceptConn accepted).2).1).2 =
      match accepted with
      | .fd fd => [(fd : Int)]
      | .error _ => [] := by
  cases accepted <;> simp [acceptConn, closeConn]

end Accept

end Applauncherd.Launcher.Receive
