import Applauncherd.Launcher.Receive

/-! A launch request as the spec's receive state machine describes it (§4.B): a magic word, a
`NAME`, then any actions in any order and number, then `END`. Each action has an effect on the
connection's members; the members after a request are its actions' effects in stream order,
so each field holds the last value of its kind. `receiveActions` carries out exactly these
effects and reads exactly these units. -/

namespace Applauncherd.Launcher.Actions
open Applauncherd.Wire.Stream Applauncherd.Wire.Process Applauncherd.Launcher.Codes
open Applauncherd.Launcher.Environ Applauncherd.Launcher.Receive

/-- An action after `NAME`, with what it carries. -/
inductive Action where
  | exec (path : List UInt8)
  | args (argv : List (List UInt8))
  | env (vars : List (List UInt8))
  | prio (priority : BitVec 32)
  | io (byte : UInt8) (fds : Int × Int × Int)

/-- A request: its first word, its display name and its actions before `END`. -/
structure Request where
  magic : BitVec 32
  name : List UInt8
  actions : List Action

/-- An action the receive functions take whole, for a launcher whose `_SC_ARG_MAX` is `argMax`:
framable strings, fewer `ARGS` strings than `argMax`, below which `receiveArgs` reads them, and
1 to 1023 `ENV` strings, the counts `receiveEnv` takes below `MAX_VARS`. -/
def Action.WellFormed (argMax : BitVec 32) : Action → Prop
  | .exec path => Framable path
  | .args argv => argv.length < argMax.toNat ∧ ∀ arg ∈ argv, Framable arg
  | .env vars => vars ≠ [] ∧ vars.length < 1024 ∧ ∀ var ∈ vars, Framable var
  | .prio _ => True
  | .io _ _ => True

/-- The effect of an action on the connection's members. An `ARGS` count of zero makes no
array. -/
def Action.apply (connection : Connection) : Action → Connection
  | .exec path => { connection with fileName := path }
  | .args argv =>
      { connection with
        argc := BitVec.ofNat 32 argv.length
        argv := if argv = [] then connection.argv else some (argv.map Slot.str) }
  | .env vars => { connection with environ := vars.foldl addEntry connection.environ }
  | .prio priority => { connection with priority := priority }
  | .io _ fds => { connection with io := fds }

/-- The value of the last action `pick` picks out, if any. -/
def lastOf {β : Type} (pick : Action → Option β) : List Action → Option β
  | [] => none
  | action :: actions => (lastOf pick actions).or (pick action)

/-- The path of an `EXEC`. -/
def Action.path? : Action → Option (List UInt8)
  | .exec path => some path
  | _ => none

/-- The strings of an `ARGS`. -/
def Action.argv? : Action → Option (List (List UInt8))
  | .args argv => some argv
  | _ => none

/-- The word of a `PRIO`. -/
def Action.priority? : Action → Option (BitVec 32)
  | .prio priority => some priority
  | _ => none

/-- The descriptors of an `IO`. -/
def Action.fds? : Action → Option (Int × Int × Int)
  | .io _ fds => some fds
  | _ => none

/-- The strings of an `ENV`, none for other actions. -/
def Action.vars : Action → List (List UInt8)
  | .env vars => vars
  | _ => []

/-- The string an entry of `m_argv` holds. -/
def Slot.str? : Slot → Option (List UInt8)
  | .str bytes => some bytes
  | _ => none

/-- The argument vector a reader of `argc` and `argv` sees: the strings of the first `argc`
entries, when the array has that many and each holds a string. -/
def argvStrings (argc : BitVec 32) : Option (List Slot) → Option (List (List UInt8))
  | none => if argc = 0 then some [] else none
  | some slots =>
      if argc.toNat ≤ slots.length then (slots.take argc.toNat).mapM Slot.str? else none

section Effects
variable {argMax : BitVec 32}

theorem mapM_str? (strings : List (List UInt8)) :
    (strings.map Slot.str).mapM Slot.str? = some strings := by
  induction strings with
  | nil => rfl
  | cons bytes strings ih => simp only [List.map_cons, List.mapM_cons, ih]; rfl

/-- A member that an action either sets to the value `pick` finds in it or leaves alone ends up
with the value of the last action that sets it. -/
theorem foldl_apply_member {β : Type} (member : Connection → β) (pick : Action → Option β)
    (effect : ∀ action connection, member (action.apply connection) = (pick action).getD (member connection))
    (actions : List Action) (connection : Connection) :
    member (actions.foldl Action.apply connection) = (lastOf pick actions).getD (member connection) := by
  induction actions generalizing connection with
  | nil => rfl
  | cons action actions ih =>
    rw [List.foldl_cons, ih, effect, lastOf]
    cases lastOf pick actions <;> rfl

theorem fileName_foldl_apply (actions : List Action) (connection : Connection) :
    (actions.foldl Action.apply connection).fileName =
      (lastOf Action.path? actions).getD connection.fileName :=
  foldl_apply_member Connection.fileName Action.path? (fun action _ => by cases action <;> rfl) _ _

theorem priority_foldl_apply (actions : List Action) (connection : Connection) :
    (actions.foldl Action.apply connection).priority =
      (lastOf Action.priority? actions).getD connection.priority :=
  foldl_apply_member Connection.priority Action.priority? (fun action _ => by cases action <;> rfl) _ _

theorem io_foldl_apply (actions : List Action) (connection : Connection) :
    (actions.foldl Action.apply connection).io = (lastOf Action.fds? actions).getD connection.io :=
  foldl_apply_member Connection.io Action.fds? (fun action _ => by cases action <;> rfl) _ _

theorem environ_foldl_apply (actions : List Action) (connection : Connection) :
    (actions.foldl Action.apply connection).environ =
      (actions.flatMap Action.vars).foldl addEntry connection.environ := by
  induction actions generalizing connection with
  | nil => rfl
  | cons action actions ih =>
    rw [List.foldl_cons, ih, List.flatMap_cons, List.foldl_append]
    cases action <;> rfl

/-- The vector of an `ARGS` with fewer than 2^32 strings is what `argc` and `argv` then show. -/
theorem argvStrings_apply {argv : List (List UInt8)} (bounded : argv.length < 4294967296)
    (connection : Connection) :
    argvStrings (Action.apply connection (.args argv)).argc (Action.apply connection (.args argv)).argv =
      some argv := by
  have count : (BitVec.ofNat 32 argv.length).toNat = argv.length := by
    simp only [BitVec.toNat_ofNat]; exact Nat.mod_eq_of_lt bounded
  cases argv with
  | nil =>
    rcases connection with ⟨_, _, _ | slots, _⟩ <;> simp [Action.apply, argvStrings, List.mapM.loop]
  | cons arg rest =>
    simp only [Action.apply, argvStrings, reduceCtorEq, if_false, count, List.length_map,
      le_refl, if_true]
    rw [List.take_of_length_le (by simp), mapM_str?]

/-- What `argc` and `argv` show after `actions`: the vector of the last `ARGS`, or the members of
`before` when there is none. -/
def LastArgs (actions : List Action) (before : Connection) (argc : BitVec 32)
    (argv : Option (List Slot)) : Prop :=
  match lastOf Action.argv? actions with
  | some strings => argc = BitVec.ofNat 32 strings.length ∧ argvStrings argc argv = some strings
  | none => argc = before.argc ∧ argv = before.argv

theorem argv_foldl_apply {actions : List Action}
    (bounded : ∀ action ∈ actions, action.WellFormed argMax) (connection : Connection) :
    LastArgs actions connection (actions.foldl Action.apply connection).argc
      (actions.foldl Action.apply connection).argv := by
  induction actions generalizing connection with
  | nil => exact ⟨rfl, rfl⟩
  | cons action actions ih =>
    have tail := ih (fun other member => bounded other (List.mem_cons_of_mem _ member))
      (action.apply connection)
    simp only [LastArgs, List.foldl_cons, lastOf] at tail ⊢
    revert tail
    cases lastOf Action.argv? actions with
    | some argv => exact id
    | none =>
      rintro ⟨argc, argv⟩
      rw [argc, argv]
      cases action with
      | args strings =>
        have below := (bounded _ (List.mem_cons_self _ _)).1
        exact ⟨rfl, argvStrings_apply (lt_trans below argMax.isLt) connection⟩
      | _ => exact ⟨rfl, rfl⟩

end Effects

/-- Whether the launcher acknowledges the action: `ENV` and `IO` are not (§9). -/
def Action.acknowledged : Action → Bool
  | .env _ | .io _ _ => false
  | _ => true

section Wire
variable (P : Protocol)

/-- The units an action takes on the socket: its code, then what it carries. -/
def Action.units : Action → List (List Item)
  | .exec path => wordUnit P.msgExec :: strUnits path
  | .args argv =>
      wordUnit P.msgArgs :: wordUnit (BitVec.ofNat 32 argv.length) :: argv.flatMap strUnits
  | .env vars =>
      wordUnit P.msgEnv :: wordUnit (BitVec.ofNat 32 vars.length) :: vars.flatMap strUnits
  | .prio priority => [wordUnit P.msgPrio, wordUnit priority]
  | .io byte fds => [wordUnit P.msgIo, [⟨byte, [fds.1, fds.2.1, fds.2.2]⟩]]

/-- Every unit of an action is written by a call that writes something. -/
theorem Action.units_ne_nil (action : Action) : ∀ unit ∈ action.units P, unit ≠ [] := by
  cases action with
  | exec path => exact List.forall_mem_cons.mpr ⟨wordUnit_ne_nil _, strUnits_ne_nil⟩
  | args argv =>
    exact List.forall_mem_cons.mpr ⟨wordUnit_ne_nil _,
      List.forall_mem_cons.mpr ⟨wordUnit_ne_nil _, flatMap_strUnits_ne_nil argv⟩⟩
  | env vars =>
    exact List.forall_mem_cons.mpr ⟨wordUnit_ne_nil _,
      List.forall_mem_cons.mpr ⟨wordUnit_ne_nil _, flatMap_strUnits_ne_nil vars⟩⟩
  | prio priority => simp [Action.units]
  | io byte fds => simp [Action.units]

/-- The launcher's calls for an action: its units read one by one, then an `ACK` when the
action is acknowledged. -/
def Action.log (action : Action) : List Event :=
  match action.acknowledged with
  | true => reads (action.units P) ++ [.send (wordUnit P.msgAck)]
  | false => reads (action.units P)

/-- The units of a request after its first word: `NAME`, the actions, `END`. -/
def Request.bodyUnits (request : Request) : List (List Item) :=
  (wordUnit P.msgName :: strUnits request.name) ++ request.actions.flatMap (Action.units P) ++
    [wordUnit P.msgEnd]

/-- The units of a whole request. -/
def Request.units (request : Request) : List (List Item) :=
  wordUnit request.magic :: request.bodyUnits P

/-- The launcher's calls after the first word: `NAME` acknowledged, the actions, `END`
acknowledged. -/
def Request.bodyLog (request : Request) : List Event :=
  reads (wordUnit P.msgName :: strUnits request.name) ++ [.send (wordUnit P.msgAck)] ++
    request.actions.flatMap (Action.log P) ++ reads [wordUnit P.msgEnd] ++
    [.send (wordUnit P.msgAck)]

/-- The launcher's calls for a whole request: the first word read and acknowledged, then the
rest. -/
def Request.log (request : Request) : List Event :=
  reads [wordUnit request.magic] ++ [.send (wordUnit P.msgAck)] ++ request.bodyLog P

/-- A request `receiveApplicationData` reads through: a first word `receiveMagic` acknowledges (the
magic tag and the supported version), a non-empty framable name, actions each taken whole. -/
structure Request.WellFormed (argMax : BitVec 32) (request : Request) : Prop where
  magic : request.magic &&& P.msgMask = P.msgMagic
  version : request.magic &&& P.magicVersionMask = P.magicVersion
  name_ne_nil : request.name ≠ []
  name_framable : Framable request.name
  actions : ∀ action ∈ request.actions, action.WellFormed argMax

/-- One pass of `receiveActions`' loop over a well-formed action: it reads the action's units,
makes the action's calls and goes on with the action's effect applied. -/
theorem receiveActions_action {argMax : BitVec 32} {action : Action}
    (wellFormed : action.WellFormed argMax) (fuel : Nat) (connection : Connection) :
    Leads (receiveActions P argMax (fuel + 1) connection) (action.units P)
      (receiveActions P argMax fuel (action.apply connection)) (action.log P) := by
  cases action with
  | exec path =>
    exact (receiveActions_step P (actionHandler_exec P) (receiveExec_consumes P wellFormed _)).cast
      rfl (by simp [Action.log, Action.acknowledged, Action.units])
  | args argv =>
    exact (receiveActions_step P (actionHandler_args P)
      (receiveArgs_consumes P wellFormed.2 wellFormed.1 _)).cast rfl
      (by simp [Action.log, Action.acknowledged, Action.units])
  | env vars =>
    exact (receiveActions_step P (actionHandler_env P)
      (receiveEnv_consumes wellFormed.2.2 wellFormed.1 wellFormed.2.1 _)).cast rfl
      (by simp [Action.log, Action.acknowledged, Action.units])
  | prio priority =>
    exact (receiveActions_step P (actionHandler_prio P) (receivePriority_consumes P priority _)).cast
      rfl (by simp [Action.log, Action.acknowledged, Action.units])
  | io byte fds =>
    exact (receiveActions_step P (actionHandler_io P) (receiveIO_consumes byte fds _)).cast
      rfl (by simp [Action.log, Action.acknowledged, Action.units])

/-- `receiveActions` over well-formed actions, one unit of fuel each: it reads their units,
makes their calls and goes on with their effects applied in order. -/
theorem receiveActions_actions {argMax : BitVec 32} {actions : List Action}
    (wellFormed : ∀ action ∈ actions, action.WellFormed argMax) (fuel : Nat)
    (connection : Connection) :
    Leads (receiveActions P argMax (fuel + actions.length) connection)
      (actions.flatMap (Action.units P))
      (receiveActions P argMax fuel (actions.foldl Action.apply connection))
      (actions.flatMap (Action.log P)) := by
  induction actions generalizing connection with
  | nil => exact Leads.refl _
  | cons action actions ih =>
    rw [List.length_cons, ← Nat.add_assoc]
    exact ((receiveActions_action P (wellFormed action (List.mem_cons_self _ _)) _ connection).trans
      (ih (fun other member => wellFormed other (List.mem_cons_of_mem _ member)) _)).cast
      (by simp) (by simp)

/-- `receiveActions` over well-formed actions and `END`, with fuel for all of them: it applies
the actions' effects in order, acknowledges `END` and succeeds. -/
theorem receiveActions_consumes {argMax : BitVec 32} {actions : List Action}
    (wellFormed : ∀ action ∈ actions, action.WellFormed argMax) {fuel : Nat}
    (enough : actions.length < fuel) (connection : Connection) :
    Consumes (receiveActions P argMax fuel connection)
      (actions.flatMap (Action.units P) ++ [wordUnit P.msgEnd])
      (some true, actions.foldl Action.apply connection)
      (actions.flatMap (Action.log P) ++ (reads [wordUnit P.msgEnd] ++ [.send (wordUnit P.msgAck)])) := by
  obtain ⟨fuel, rfl⟩ : ∃ rest, fuel = rest + 1 + actions.length := ⟨fuel - 1 - actions.length, by omega⟩
  exact ((receiveActions_actions P wellFormed _ connection).trans
    (receiveActions_end P fuel _).toLeads).consumes

end Wire

end Applauncherd.Launcher.Actions
