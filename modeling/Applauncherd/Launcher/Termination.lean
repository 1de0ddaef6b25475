import Applauncherd.Launcher.Receive

/-! `receiveApplicationData` against a stream that ends: the peer has written some chunks and
closed its end, so a `read` returns what is left and then 0. The receive functions return
whatever their calls return, and the `ARGS` and `ENV` loops stop at the first NULL `recvStr`.
A pass of `receiveActions`' `while (1)` that does not return has read a whole action word, for
0, which a failed or short `recvMsg` leaves, is no action code: so the loop returns within a
pass per four items of the stream, whatever they are. -/

namespace Applauncherd.Launcher.Termination
open Applauncherd.Wire.Stream Applauncherd.Wire.Process Applauncherd.Launcher.Codes
open Applauncherd.Launcher.Receive

section Returns
variable (P : Protocol)

theorem recvMsg_returns : Returns recvMsg := .read fun got => by cases got <;> exact .pure _

theorem sendMsg_returns (msg : BitVec 32) : Returns (sendMsg msg) := .send (.pure ())

theorem recvStr_returns : Returns recvStr :=
  recvMsg_returns.bind fun ⟨_, _⟩ => by
    dsimp only
    split
    · exact .pure _
    · exact .read fun _ => by split <;> exact .pure _

theorem receiveMagic_returns : Returns (receiveMagic P) :=
  recvMsg_returns.bind fun ⟨_, _⟩ => by
    dsimp only
    split
    · split
      · exact (sendMsg_returns _).bind fun _ => .pure _
      · exact .pure _
    · exact .pure _

theorem receiveAppName_returns : Returns (receiveAppName P) :=
  recvMsg_returns.bind fun ⟨_, _⟩ => by
    dsimp only
    split
    · exact .pure _
    · refine recvStr_returns.bind fun name => ?_
      cases name with
      | none => exact .pure _
      | some _ => exact (sendMsg_returns _).bind fun _ => .pure _

theorem receiveExec_returns (connection : Connection) : Returns (receiveExec P connection) :=
  recvStr_returns.bind fun path => by
    cases path with
    | none => exact .pure _
    | some _ => exact (sendMsg_returns _).bind fun _ => .pure _

theorem receivePriority_returns (connection : Connection) : Returns (receivePriority P connection) :=
  recvMsg_returns.bind fun _ => (sendMsg_returns _).bind fun _ => .pure _

/-- The `ARGS` loop returns: it stops at the first NULL `recvStr`, or after `count` strings. -/
theorem receiveArgv_returns : ∀ count, Returns (receiveArgv count)
  | 0 => .pure _
  | count + 1 => recvStr_returns.bind fun arg => by
      cases arg with
      | none => exact .pure _
      | some _ => exact (receiveArgv_returns count).bind fun _ => .pure _

theorem receiveArgs_returns (argMax : BitVec 32) (connection : Connection) :
    Returns (receiveArgs P argMax connection) :=
  recvMsg_returns.bind fun ⟨_, _⟩ => by
    dsimp only
    split
    · refine (receiveArgv_returns _).bind fun ⟨_, _⟩ => ?_
      dsimp only
      split
      · exact (sendMsg_returns _).bind fun _ => .pure _
      · exact .pure _
    · exact (sendMsg_returns _).bind fun _ => .pure _

/-- The `ENV` loop returns: it stops at the first NULL `recvStr`, or after `count` strings. -/
theorem receiveVars_returns : ∀ count environ, Returns (receiveVars count environ)
  | 0, _ => .pure _
  | count + 1, _ => recvStr_returns.bind fun var => by
      cases var with
      | none => exact .pure _
      | some _ => exact receiveVars_returns count _

theorem receiveEnv_returns (connection : Connection) : Returns (receiveEnv connection) :=
  recvMsg_returns.bind fun ⟨_, _⟩ => by
    dsimp only
    split
    · exact (receiveVars_returns _ _).bind fun _ => .pure _
    · exact .pure _

theorem receiveIO_returns (connection : Connection) : Returns ( receiveIO connection) :=
  .read fun _ => by
    dsimp only
    split_ifs
    · exact .pure _
    · exact .pure _
    · split <;> exact .pure _

/-- Every receive function the switch of `receiveActions` calls returns. -/
theorem actionHandler_returns {argMax action : BitVec 32}
    {receive : Connection → Prog (Bool × Connection)}
    (handler : actionHandler P argMax action = some receive) (connection : Connection) :
    Returns (receive connection) := by
  simp only [actionHandler] at handler
  split_ifs at handler <;> cases handler
  · exact receiveExec_returns P connection
  · exact receiveArgs_returns P argMax connection
  · exact receiveEnv_returns connection
  · exact receivePriority_returns P connection
  · exact receiveIO_returns connection

end Returns

section Loop
variable (P : Protocol) {argMax : BitVec 32}
  (noZero : (0 : BitVec 32) ∉ [P.msgExec, P.msgArgs, P.msgEnv, P.msgPrio, P.msgIo, P.msgEnd])
include noZero

/-- With 0 no action code, the word of a failed or short `recvMsg` has no receive function. -/
theorem actionHandler_zero : actionHandler P argMax 0 = none := by
  unfold actionHandler
  split_ifs with exec args env prio io
  · exact absurd (by rw [exec]; simp) noZero
  · exact absurd (by rw [args]; simp) noZero
  · exact absurd (by rw [env]; simp) noZero
  · exact absurd (by rw [prio]; simp) noZero
  · exact absurd (by rw [io]; simp) noZero
  · rfl

/-- One pass of `receiveActions`' loop on a closed stream: it returns with a result, or its
`recvMsg` took the four items of an action word the switch hands to a receive function, and the
loop goes on after that function on the items left. -/
theorem receiveActions_pass (fuel : Nat) (connection : Connection) (chunks : List Chunk) :
    (∃ result connection', ((receiveActions P argMax (fuel + 1) connection).feed true chunks).prog =
      .pure (some result, connection')) ∨
    ∃ (receive : Connection → Prog (Bool × Connection)) (rest : List Chunk),
      (∀ connection, Returns (receive connection)) ∧
      itemCount rest + 4 = itemCount chunks ∧
      ((receiveActions P argMax (fuel + 1) connection).feed true chunks).prog =
        ((receive connection >>= fun (_, connection) =>
          receiveActions P argMax fuel connection).feed true rest).prog := by
  have taken := itemCount_readChunks 4 chunks
  have bound : ∀ got, (readChunks 4 chunks).1 = some got → got.length ≤ 4 :=
    fun _ => readChunks_length_le
  rw [receiveActions, Prog.bind_eq, recvMsg, Prog.bind, feed_read (.inr rfl)]
  split
  next =>
    left
    simp only [Prog.pure_bind, actionHandler_zero P noZero]
    split_ifs <;> exact ⟨_, connection, rfl⟩
  next got read =>
    simp only [Prog.pure_bind]
    split
    next receive handler =>
      have long : ¬got.length < 4 := fun short => by
        rw [if_pos short, actionHandler_zero P noZero] at handler
        cases handler
      have := bound got read
      rw [read] at taken
      simp only [Option.map_some', Option.getD_some] at taken
      exact .inr ⟨receive, _, actionHandler_returns P handler, by omega, rfl⟩
    next =>
      left
      split_ifs <;> exact ⟨_, connection, rfl⟩

/-- On a closed stream of fewer than `4 * fuel` items, `receiveActions` returns before its fuel
runs out: every pass that does not return takes four items. -/
theorem receiveActions_returns_within :
    ∀ fuel connection chunks, itemCount chunks < 4 * fuel →
      ∃ result connection', ((receiveActions P argMax fuel connection).feed true chunks).prog =
        .pure (some result, connection')
  | 0, _, _, room => absurd room (Nat.not_lt_zero _)
  | fuel + 1, connection, chunks, room => by
    rcases receiveActions_pass P noZero fuel connection chunks with
      finished | ⟨receive, rest, returns, taken, continues⟩
    · exact finished
    · obtain ⟨⟨_, connection'⟩, ended⟩ := (returns connection).feed rest
      have fewer := @itemCount_feed_le _ true (receive connection) rest
      rw [continues, Prog.bind_eq, prog_feed_bind_of_pure ended]
      exact receiveActions_returns_within fuel connection' _ (by omega)

/-- With 0 none of the action codes, `receiveApplicationData` on any stream that ends returns,
within a pass of `receiveActions`' loop per four items of the stream: on fuel above that, the
model's loop never runs out. -/
theorem receiveApplicationData_terminates {fuel : Nat} (beyond : Nat → Int) (app : AppData)
    (connection : Connection) {chunks : List Chunk} (room : itemCount chunks < 4 * fuel) :
    ∃ received app' connection',
      ((receiveApplicationData P argMax fuel beyond app connection).feed true chunks).prog =
        .pure (some received, app', connection') := by
  obtain ⟨options, magicEnded⟩ := (receiveMagic_returns P).feed chunks
  have afterMagic := @itemCount_feed_le _ true (receiveMagic P) chunks
  rw [receiveApplicationData, Prog.bind_eq, prog_feed_bind_of_pure magicEnded]
  split
  · exact ⟨false, _, _, rfl⟩
  obtain ⟨name, nameEnded⟩ := (receiveAppName_returns P).feed ((receiveMagic P).feed true chunks).rest
  have afterName := @itemCount_feed_le _ true (receiveAppName P)
    ((receiveMagic P).feed true chunks).rest
  rw [Prog.bind_eq, prog_feed_bind_of_pure nameEnded]
  split
  · exact ⟨false, _, _, rfl⟩
  obtain ⟨received, connection', loopEnded⟩ := receiveActions_returns_within P noZero fuel connection
    ((receiveAppName P).feed true ((receiveMagic P).feed true chunks).rest).rest (by omega)
  rw [Prog.bind_eq, prog_feed_bind_of_pure loopEnded]
  cases received <;> exact ⟨_, _, _, rfl⟩

end Loop

/-- A stream cut after the first word of a request. -/
theorem cut_request_returns :
    ∃ received app' connection',
      ((receiveApplicationData sampleProtocol 2097152#32 2 (fun _ => 0) ⟨0, [], [], 0, 0, none, []⟩
        (Connection.init [])).feed true
          [.data (wordUnit (sampleProtocol.msgMagic ||| sampleProtocol.magicVersion))]).prog =
        .pure (some received, app', connection') :=
  receiveApplicationData_terminates sampleProtocol (by decide) (fun _ => 0) ⟨0, [], [], 0, 0, none, []⟩
    (Connection.init []) (by decide)

end Applauncherd.Launcher.Termination
