import Applauncherd.Launcher.Turns

/-! The invoker's side of the protocol: `invoke` in invoker.c from its first message on,
`invoker_init` having connected. The calls that write and read the socket belong to invokelib,
which is not under src/; they are modelled from the spec's wire codec (§4.A), a string framed
as the launcher's own `sendStr` frames it. `invoke` writes the request the launcher reads, and
waits for an `ACK` after the first word, `NAME`, `EXEC`, `ARGS`, `PRIO` and `END`, but not after
`IO` or `ENV`: turn for turn, it takes the turns the launcher takes on that request. -/

namespace Applauncherd.Invoker.Invoke
open Applauncherd.Wire.Stream Applauncherd.Wire.Process Applauncherd.Wire.Dialogue
open Applauncherd.Launcher.Codes Applauncherd.Launcher.Receive Applauncherd.Launcher.Actions
open Applauncherd.Launcher.Turns

/-- Modelled from the spec: invokelib's `invoke_send_msg`, one `write` of the word. -/
def invokeSendMsg (msg : BitVec 32) : Prog Unit := .send (wordUnit msg) (.pure ())

/-- Modelled from the spec: invokelib's `invoke_send_str`, the length word counting the NUL,
then the bytes and the NUL in one `write`, as the launcher's `sendStr` frames a string. -/
def invokeSendStr (str : List UInt8) : Prog Unit :=
  invokeSendMsg (BitVec.ofNat 32 (str.length + 1)) >>= fun _ =>
    .send (plain (str ++ [0])) (.pure ())

/-- Modelled from the spec: invokelib's `invoke_recv_msg`, one `read` of four bytes; a failed or
short read is fatal. -/
def invokeRecvMsg : Prog (BitVec 32) :=
  .read 4 fun
    | some got => if got.length = 4 then .pure (word (got.map Item.byte)) else .exit 1
    | none => .exit 1

section Invoke
variable (P : Protocol)

/-- `invoke_recv_ack`: `die(1, ...)` on `BAD_CREDS` and on any message but `ACK`. -/
def invokeRecvAck : Prog Unit :=
  invokeRecvMsg >>= fun action =>
    if action = P.msgBadCreds then .exit 1
    else if action ≠ P.msgAck then .exit 1
    else .pure ()

/-- `invoker_send_magic`. -/
def invokerSendMagic (options : BitVec 32) : Prog Unit :=
  invokeSendMsg (P.msgMagic ||| P.magicVersion ||| options) >>= fun _ => invokeRecvAck P

/-- `invoker_send_name` and `invoker_send_exec`: an action code and a string, acknowledged. -/
def sendStrAction (code : BitVec 32) (str : List UInt8) : Prog Unit :=
  invokeSendMsg code >>= fun _ => invokeSendStr str >>= fun _ => invokeRecvAck P

/-- `invoker_send_name`. -/
def invokerSendName (name : List UInt8) : Prog Unit := sendStrAction P P.msgName name

/-- `invoker_send_exec`. -/
def invokerSendExec (exec : List UInt8) : Prog Unit := sendStrAction P P.msgExec exec

/-- `invoker_send_args`: the count, then each string. -/
def invokerSendArgs (argv : List (List UInt8)) : Prog Unit :=
  invokeSendMsg P.msgArgs >>= fun _ => invokeSendMsg (BitVec.ofNat 32 argv.length) >>= fun _ =>
    argv.forM invokeSendStr >>= fun _ => invokeRecvAck P

/-- `invoker_send_prio`: the `int` priority, as the `uint32_t` `invoke_send_msg` takes. -/
def invokerSendPrio (prio : Int) : Prog Unit :=
  invokeSendMsg P.msgPrio >>= fun _ => invokeSendMsg (BitVec.ofInt 32 prio) >>= fun _ =>
    invokeRecvAck P

/-- `invoker_send_io`: `IO`, then a `sendmsg` of one byte, the first byte `dummy` of an
uninitialised `int`, with the descriptors 0, 1 and 2. Not acknowledged; a failing `sendmsg`
is not modelled. -/
def invokerSendIo (dummy : UInt8) : Prog Unit :=
  invokeSendMsg P.msgIo >>= fun _ => .send [⟨dummy, [0, 1, 2]⟩] (.pure ())

/-- `invoker_send_env`: the number of strings of `environ`, then each. Not acknowledged. -/
def invokerSendEnv (environ : List (List UInt8)) : Prog Unit :=
  invokeSendMsg P.msgEnv >>= fun _ => invokeSendMsg (BitVec.ofNat 32 environ.length) >>= fun _ =>
    environ.forM invokeSendStr

/-- `invoker_send_end`. -/
def invokerSendEnd : Prog Unit := invokeSendMsg P.msgEnd >>= fun _ => invokeRecvAck P

/-- `invoke` from `invoker_send_magic` to `invoker_send_end`, for `prog_argv` `argv` and
`prog_name` `progName`, the priority `prio` it took from `getpriority`, the process
environment `environ`, and the byte `dummy` of `invoker_send_io`. It starts where
`invoker_init` has connected, which it does only for `M_APP` and `QT_APP`: for `UNKNOWN_APP` it
dies before it writes anything. The wait for the launched process and the `close` after it are
not modelled. -/
def invoke (argv : List (List UInt8)) (progName : List UInt8) (magicOptions : BitVec 32)
    (prio : Int) (environ : List (List UInt8)) (dummy : UInt8) : Prog Unit :=
  invokerSendMagic P magicOptions >>= fun _ =>
  invokerSendName P (argv.headD []) >>= fun _ =>
  invokerSendExec P progName >>= fun _ =>
  invokerSendArgs P argv >>= fun _ =>
  invokerSendPrio P prio >>= fun _ =>
  invokerSendIo P dummy >>= fun _ =>
  invokerSendEnv P environ >>= fun _ =>
  invokerSendEnd P

/-- The request `invoke` writes, as the launcher reads it. -/
def invokeRequest (argv : List (List UInt8)) (progName : List UInt8) (magicOptions : BitVec 32)
    (prio : Int) (environ : List (List UInt8)) (dummy : UInt8) : Request :=
  ⟨P.msgMagic ||| P.magicVersion ||| magicOptions, argv.headD [],
    [.exec progName, .args argv, .prio (BitVec.ofInt 32 prio), .io dummy (0, 1, 2), .env environ]⟩

theorem invokeRecvMsg_consumes (w : BitVec 32) :
    Consumes invokeRecvMsg [wordUnit w] w (reads [wordUnit w]) :=
  Consumes.read_of_length (wordUnit_length w) (by simpa using consumes_pure w)

theorem invokeRecvAck_consumes :
    Consumes (invokeRecvAck P) [wordUnit P.msgAck] () (reads [wordUnit P.msgAck]) :=
  (invokeRecvMsg_consumes P.msgAck).bind_pure (by simp [P.ack_ne_badCreds])

section Leads
variable {β : Type} (after : Unit → Prog β)

/-- A turn of the invoker: the `ACK` it waits for, then its writes up to the next wait. -/
theorem invokeRecvAck_leads {next : Prog β} {log : List Event} (writes : Leads (after ()) [] next log) :
    Leads (invokeRecvAck P >>= after) [wordUnit P.msgAck] next (reads [wordUnit P.msgAck] ++ log) :=
  ((invokeRecvAck_consumes P).leads after).trans writes

theorem forM_invokeSendStr_leads (strings : List (List UInt8)) :
    Leads (strings.forM invokeSendStr >>= after) [] (after ())
      ((strings.flatMap strUnits).map .send) := by
  induction strings with
  | nil => exact Leads.refl _
  | cons str strings ih =>
    rw [List.forM_cons', Prog.bind_eq, Prog.bind_eq, Prog.bind_assoc]
    exact ((Leads.sends (strUnits str) _).trans ih).cast rfl (by simp)

theorem invokerSendMagic_leads (options : BitVec 32) :
    Leads (invokerSendMagic P options >>= after) [] (invokeRecvAck P >>= after)
      [.send (wordUnit (P.msgMagic ||| P.magicVersion ||| options))] :=
  Leads.send _ _

theorem sendStrAction_leads (code : BitVec 32) (str : List UInt8) :
    Leads (sendStrAction P code str >>= after) [] (invokeRecvAck P >>= after)
      ((wordUnit code :: strUnits str).map .send) :=
  Leads.sends (wordUnit code :: strUnits str) _

theorem invokerSendArgs_leads (argv : List (List UInt8)) :
    Leads (invokerSendArgs P argv >>= after) [] (invokeRecvAck P >>= after)
      (((Action.args argv).units P).map .send) := by
  have strings := forM_invokeSendStr_leads (fun _ => invokeRecvAck P >>= after) argv
  simp only [Prog.bind_eq, ← Prog.bind_assoc] at strings
  exact ((Leads.sends [wordUnit P.msgArgs, wordUnit (BitVec.ofNat 32 argv.length)] _).trans
    strings).cast rfl (by simp [Action.units])

theorem invokerSendPrio_leads (prio : Int) :
    Leads (invokerSendPrio P prio >>= after) [] (invokeRecvAck P >>= after)
      (((Action.prio (BitVec.ofInt 32 prio)).units P).map .send) :=
  Leads.sends [wordUnit P.msgPrio, wordUnit (BitVec.ofInt 32 prio)] _

theorem invokerSendIo_leads (dummy : UInt8) :
    Leads (invokerSendIo P dummy >>= after) [] (after ())
      (((Action.io dummy (0, 1, 2)).units P).map .send) :=
  Leads.sends [wordUnit P.msgIo, [⟨dummy, [0, 1, 2]⟩]] _

theorem invokerSendEnv_leads (environ : List (List UInt8)) :
    Leads (invokerSendEnv P environ >>= after) [] (after ())
      (((Action.env environ).units P).map .send) :=
  ((Leads.sends [wordUnit P.msgEnv, wordUnit (BitVec.ofNat 32 environ.length)] _).trans
    (forM_invokeSendStr_leads after environ)).cast rfl (by simp [Action.units])

end Leads

/-- `invoke` takes the other side of the launcher's turns on the request it writes: it writes the
first word; after each `ACK` it writes what the launcher reads in its next turn; after the last
`ACK` it returns. -/
theorem invoke_turns (argv : List (List UInt8)) (progName : List UInt8) (magicOptions : BitVec 32)
    (prio : Int) (environ : List (List UInt8)) (dummy : UInt8) :
    Turns (invoke P argv progName magicOptions prio environ dummy)
      (leftTurns [] (Request.turns P (invokeRequest P argv progName magicOptions prio environ dummy)))
      (.pure ()) := by
  refine .cons_of_leads (invokerSendMagic_leads P _ magicOptions) (by simp) rfl ?_
  refine .cons_of_leads (invokeRecvAck_leads P _ (sendStrAction_leads P _ P.msgName _)) (by simp)
    rfl ?_
  refine .cons_of_leads (invokeRecvAck_leads P _ (sendStrAction_leads P _ P.msgExec _)) (by simp)
    rfl ?_
  refine .cons_of_leads (invokeRecvAck_leads P _ (invokerSendArgs_leads P _ argv)) (by simp) rfl ?_
  refine .cons_of_leads (invokeRecvAck_leads P _ (invokerSendPrio_leads P _ prio)) (by simp) rfl ?_
  refine .cons_of_leads ((invokeRecvAck_leads P _ ((invokerSendIo_leads P _ dummy).trans
    ((invokerSendEnv_leads P _ environ).trans (Leads.send _ _)))).cast rfl (by simp)) (by simp)
    rfl ?_
  exact .cons_of_leads (invokeRecvAck_consumes P).toLeads (by simp) rfl (.nil _)

end Invoke

end Applauncherd.Invoker.Invoke
