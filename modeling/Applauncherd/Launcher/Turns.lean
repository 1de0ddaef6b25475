import Applauncherd.Launcher.Application
import Applauncherd.Wire.Dialogue

/-! `receiveApplicationData` against a client that writes a request in whole messages and waits
for each `ACK`: the launcher reads the request in turns, each closed by a message it
acknowledges (the first word, `NAME`, `EXEC`, `ARGS`, `PRIO`, `END`), and answers each turn
with its `ACK` before it waits again. The units of `ENV` and `IO`, which it does not
acknowledge, join the turn of the next acknowledged message. -/

namespace Applauncherd.Launcher.Turns
open Applauncherd.Wire.Stream Applauncherd.Wire.Process Applauncherd.Wire.Dialogue
open Applauncherd.Launcher.Codes Applauncherd.Launcher.Receive Applauncherd.Launcher.Actions
open Applauncherd.Launcher.Application

section Turns
variable (P : Protocol)

/-- The turns in which the launcher reads `actions` and `END`, with the units `pending` of
unacknowledged actions before them: each acknowledged action closes a turn answered by an
`ACK`. -/
def actionTurns : List (List Item) → List Action → List Turn
  | pending, [] => [(pending ++ [wordUnit P.msgEnd], [wordUnit P.msgAck])]
  | pending, action :: actions =>
      if action.acknowledged then (pending ++ action.units P, [wordUnit P.msgAck]) :: actionTurns [] actions
      else actionTurns (pending ++ action.units P) actions

/-- The turns of a whole request: the first word, `NAME`, then the actions and `END`. -/
def Request.turns (request : Request) : List Turn :=
  ([wordUnit request.magic], [wordUnit P.msgAck]) ::
    (wordUnit P.msgName :: strUnits request.name, [wordUnit P.msgAck]) ::
      actionTurns P [] request.actions

/-- After an action, `receiveActions` with fuel left waits for the next action code. -/
theorem receiveActions_waits {β : Type} {argMax : BitVec 32} (fuel : Nat) (connection : Connection)
    (after : Option Bool × Connection → Prog β) :
    (receiveActions P argMax (fuel + 1) connection >>= after).feed false [] =
      ⟨receiveActions P argMax (fuel + 1) connection >>= after, [], []⟩ := rfl

/-- `receiveActions` over well-formed actions, reached after reading the units `pending`, goes
through the turns of the actions, and its caller goes on with the actions' effects applied. -/
theorem receiveActions_turns {β : Type} {argMax : BitVec 32} {actions : List Action}
    (wellFormed : ∀ action ∈ actions, action.WellFormed argMax) (fuel : Nat)
    {after : Option Bool × Connection → Prog β}
    (done : ∀ connection, (after (some true, connection)).feed false [] =
      ⟨after (some true, connection), [], []⟩)
    {program : Prog β} {pending : List (List Item)} (nonempty : ∀ unit ∈ pending, unit ≠ [])
    {connection : Connection}
    (lead : Leads program pending
      (receiveActions P argMax (fuel + actions.length + 1) connection >>= after) (reads pending)) :
    Turns program (actionTurns P pending actions)
      (after (some true, actions.foldl Action.apply connection)) := by
  induction actions generalizing program pending connection with
  | nil =>
    exact .cons_of_leads ((lead.trans ((receiveActions_end P fuel connection).leads after)).cast rfl
      (by simp)) (by simpa [or_imp, forall_and] using nonempty) (done _) (.nil _)
  | cons action actions ih =>
    have read := lead.trans
      ((receiveActions_action P (wellFormed action (List.mem_cons_self _ _)) _ connection).bind after)
    have rest := fun other member => wellFormed other (List.mem_cons_of_mem action member)
    have units : ∀ unit ∈ pending ++ action.units P, unit ≠ [] := by
      simpa [or_imp, forall_and] using ⟨nonempty, Action.units_ne_nil P action⟩
    rw [actionTurns]
    cases acknowledged : action.acknowledged
    · exact ih rest units (read.cast rfl (by simp [Action.log, acknowledged]))
    · exact .cons_of_leads (read.cast rfl (by simp [Action.log, acknowledged])) units
        (receiveActions_waits P _ _ after) (ih rest (by simp) (Leads.refl _))

/-- A well-formed request, with fuel for its actions, is read in its turns, each answered by an
`ACK`; the launcher ends accepting it with the `AppData` its actions give. -/
theorem receiveApplicationData_turns {argMax : BitVec 32} {fuel : Nat} (beyond : Nat → Int)
    (app : AppData) {request : Request} (wellFormed : request.WellFormed P argMax)
    (enough : request.actions.length < fuel) (connection : Connection) :
    Turns (receiveApplicationData P argMax fuel beyond app connection) (Request.turns P request)
      (.pure (some true,
        { app with
          options := (request.magic &&& P.magicOptionMask).toInt
          appName := request.name
          fileName := (request.actions.foldl Action.apply connection).fileName
          priority := (request.actions.foldl Action.apply connection).priority.toInt
          argc := (request.actions.foldl Action.apply connection).argc
          argv := (request.actions.foldl Action.apply connection).argv
          ioDescriptors := ioVector (request.actions.foldl Action.apply connection).io beyond },
        request.actions.foldl Action.apply connection)) := by
  obtain ⟨fuel, rfl⟩ : ∃ rest, fuel = rest + request.actions.length + 1 :=
    ⟨fuel - 1 - request.actions.length, by omega⟩
  refine .cons_of_leads (((receiveMagic_consumes P wellFormed.magic wellFormed.version).leads _).of_ite_neg
    (P.options_ne_neg_one _)) (by simp) rfl ?_
  refine .cons_of_leads (((receiveAppName_consumes P wellFormed.name_framable).leads _).of_ite_neg
    wellFormed.name_ne_nil) (by simp [strUnits]) (receiveActions_waits P _ _ _) ?_
  exact receiveActions_turns P wellFormed.actions fuel (fun _ => rfl) (by simp) (Leads.refl _)

end Turns

end Applauncherd.Launcher.Turns
