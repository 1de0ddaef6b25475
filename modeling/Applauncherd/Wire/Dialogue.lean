import Applauncherd.Wire.Process
import Mathlib.Logic.Relation

/-! Two processes on the two ends of one connected stream socket, each running its program
against what the other wrote. A write lands whole, as one chunk, at the end of the other
side's queue; a read takes from the head of its own queue, and waits while that is empty, the
peer staying connected. A step of one side commutes with a step of the other, and each side's
next step is fixed by its own state, so a session that can reach a state where neither side
can move reaches it from wherever any interleaving has led, and no interleaving goes on
longer. Two programs that take turns, each reading the whole of what the other wrote last and
then writing its answer, reach such a state by running turn after turn. -/

namespace Applauncherd.Wire.Dialogue
open Applauncherd.Wire.Stream Applauncherd.Wire.Process

/-- One end: its program, the chunks written to it and not yet read, and the calls it made. -/
structure Peer (α : Type) where
  prog : Prog α
  inbox : List Chunk
  log : List Event

/-- The next call of an end, when it can make one: the end after it, and the chunks it wrote. -/
def Peer.move {α : Type} : Peer α → Option (Peer α × List Chunk)
  | ⟨.send items next, inbox, log⟩ => some (⟨next, inbox, log ++ [.send items]⟩, [.data items])
  | ⟨.read count next, chunk :: chunks, log⟩ =>
      some (⟨next (readChunks count (chunk :: chunks)).1, (readChunks count (chunk :: chunks)).2,
        log ++ [.recv (readChunks count (chunk :: chunks)).1]⟩, [])
  | _ => none

@[simp] theorem Peer.move_send {α : Type} (items : List Item) (next : Prog α) (inbox : List Chunk)
    (log : List Event) :
    Peer.move ⟨.send items next, inbox, log⟩ =
      some (⟨next, inbox, log ++ [.send items]⟩, [.data items]) := rfl

@[simp] theorem Peer.move_read {α : Type} (count : Nat) (next : Option (List Item) → Prog α)
    (chunk : Chunk) (chunks : List Chunk) (log : List Event) :
    Peer.move ⟨.read count next, chunk :: chunks, log⟩ =
      some (⟨next (readChunks count (chunk :: chunks)).1, (readChunks count (chunk :: chunks)).2,
        log ++ [.recv (readChunks count (chunk :: chunks)).1]⟩, []) := rfl

/-- An end after the other one wrote `chunks` to it. -/
def Peer.receive {α : Type} (peer : Peer α) (chunks : List Chunk) : Peer α :=
  ⟨peer.prog, peer.inbox ++ chunks, peer.log⟩

/-- The two ends of a connection: the client on the left, the server on the right. -/
structure Session (α β : Type) where
  left : Peer α
  right : Peer β

/-- One call of either end. -/
inductive Step {α β : Type} : Session α β → Session α β → Prop
  | left {s : Session α β} {peer : Peer α} {written : List Chunk} :
      s.left.move = some (peer, written) → Step s ⟨peer, s.right.receive written⟩
  | right {s : Session α β} {peer : Peer β} {written : List Chunk} :
      s.right.move = some (peer, written) → Step s ⟨s.left.receive written, peer⟩

/-- The calls both ends have made. -/
def Session.calls {α β : Type} (s : Session α β) : Nat := s.left.log.length + s.right.log.length

/-- The chunks a list of calls wrote. -/
def sent (log : List Event) : List Chunk :=
  log.filterMap fun
    | .send items => some (.data items)
    | .recv _ => none

/-- What the reads among a list of calls returned. -/
def recvs (log : List Event) : List (Option (List Item)) :=
  log.filterMap fun
    | .recv got => some got
    | .send _ => none

section Calls

@[simp] theorem sent_nil : sent [] = [] := rfl

@[simp] theorem sent_cons_send (items : List Item) (log : List Event) :
    sent (.send items :: log) = .data items :: sent log := rfl

@[simp] theorem sent_cons_recv (got : Option (List Item)) (log : List Event) :
    sent (.recv got :: log) = sent log := rfl

@[simp] theorem recvs_nil : recvs [] = [] := rfl

@[simp] theorem recvs_cons_send (items : List Item) (log : List Event) :
    recvs (.send items :: log) = recvs log := rfl

@[simp] theorem recvs_cons_recv (got : Option (List Item)) (log : List Event) :
    recvs (.recv got :: log) = got :: recvs log := rfl

@[simp] theorem sent_append (first second : List Event) :
    sent (first ++ second) = sent first ++ sent second := List.filterMap_append _ _ _

@[simp] theorem sent_reads (units : List (List Item)) : sent (reads units) = [] := by
  induction units <;> simp [*]

@[simp] theorem sent_sends (units : List (List Item)) :
    sent (units.map .send) = units.map .data := by
  induction units <;> simp [*]

@[simp] theorem recvs_append (first second : List Event) :
    recvs (first ++ second) = recvs first ++ recvs second := List.filterMap_append _ _ _

@[simp] theorem recvs_reads (units : List (List Item)) : recvs (reads units) = units.map some := by
  induction units <;> simp [*]

@[simp] theorem recvs_sends (units : List (List Item)) : recvs (units.map .send) = [] := by
  induction units <;> simp [*]

end Calls

section Peer
variable {α : Type}

@[simp] theorem receive_nil (peer : Peer α) : peer.receive [] = peer := by
  simp [Peer.receive]

@[simp] theorem receive_receive (peer : Peer α) (first second : List Chunk) :
    (peer.receive first).receive second = peer.receive (first ++ second) := by
  simp [Peer.receive]

theorem readChunks_append (count : Nat) (chunk : Chunk) (chunks more : List Chunk) :
    readChunks count (chunk :: (chunks ++ more)) =
      ((readChunks count (chunk :: chunks)).1, (readChunks count (chunk :: chunks)).2 ++ more) := by
  cases chunk with
  | fail => rfl
  | data items =>
    simp only [readChunks]
    split_ifs <;> rfl

/-- What an end does next does not depend on what is written to it meanwhile. -/
theorem move_receive {peer peer' : Peer α} {written : List Chunk}
    (moved : peer.move = some (peer', written)) (more : List Chunk) :
    (peer.receive more).move = some (peer'.receive more, written) := by
  rcases peer with ⟨program, inbox, log⟩
  cases program with
  | send items next => cases moved; rfl
  | read count next =>
    cases inbox with
    | nil => cases moved
    | cons chunk chunks =>
      cases moved
      simp only [Peer.receive, Peer.move, List.cons_append, readChunks_append]
  | pure value => cases moved
  | exit status => cases moved

theorem Peer.move_log {peer peer' : Peer α} {written : List Chunk}
    (moved : peer.move = some (peer', written)) : peer'.log.length = peer.log.length + 1 := by
  rcases peer with ⟨program, inbox, log⟩
  cases program with
  | send items next => cases moved; simp
  | read count next =>
    cases inbox with
    | nil => cases moved
    | cons chunk chunks => cases moved; simp
  | pure value => cases moved
  | exit status => cases moved

/-- An end making calls on its own, and writing `written`. -/
inductive Peer.Runs : Peer α → Peer α → List Chunk → Prop
  | refl (peer : Peer α) : Peer.Runs peer peer []
  | step {peer middle last : Peer α} {chunks written : List Chunk} :
      peer.move = some (middle, chunks) → Peer.Runs middle last written →
        Peer.Runs peer last (chunks ++ written)

/-- The calls `feed` makes are moves of the end, which write what the calls wrote. -/
theorem runs_feed (program : Prog α) (chunks : List Chunk) (calls : List Event) :
    Peer.Runs ⟨program, chunks, calls⟩
      ⟨(program.feed false chunks).prog, (program.feed false chunks).rest,
        calls ++ (program.feed false chunks).log⟩ (sent (program.feed false chunks).log) := by
  induction program generalizing chunks calls with
  | pure value => simpa using Peer.Runs.refl _
  | exit status => simpa using Peer.Runs.refl _
  | read count next ih =>
    cases chunks with
    | nil => simpa using Peer.Runs.refl _
    | cons chunk chunks =>
      have runs := Peer.Runs.step (Peer.move_read count next chunk chunks calls) (ih _ _ _)
      simpa [Prog.feed, Fed.cons, sent] using runs
  | send items next ih =>
    have runs := Peer.Runs.step (Peer.move_send items next chunks calls) (ih _ _)
    simpa [Prog.feed, Fed.cons, sent] using runs

end Peer

section Steps
variable {α β : Type}

theorem Peer.Runs.left {peer last : Peer α} {written : List Chunk} (runs : peer.Runs last written)
    (other : Peer β) : Relation.ReflTransGen Step ⟨peer, other⟩ ⟨last, other.receive written⟩ := by
  induction runs generalizing other with
  | refl => simpa using Relation.ReflTransGen.refl
  | step moved _ ih => exact .head (.left moved) (by simpa using ih (other.receive _))

theorem Peer.Runs.right {peer last : Peer β} {written : List Chunk} (runs : peer.Runs last written)
    (other : Peer α) : Relation.ReflTransGen Step ⟨other, peer⟩ ⟨other.receive written, last⟩ := by
  induction runs generalizing other with
  | refl => simpa using Relation.ReflTransGen.refl
  | step moved _ ih => exact .head (.right moved) (by simpa using ih (other.receive _))

/-- Two steps from one state are the same step, or they commute. -/
theorem Step.diamond {s t t' : Session α β} (first : Step s t) (second : Step s t') :
    t = t' ∨ ∃ u, Step t u ∧ Step t' u := by
  cases first with
  | left moved =>
    cases second with
    | left moved' => rw [moved] at moved'; cases moved'; exact .inl rfl
    | right moved' => exact .inr ⟨_, .right (move_receive moved' _), .left (move_receive moved _)⟩
  | right moved =>
    cases second with
    | left moved' => exact .inr ⟨_, .left (move_receive moved' _), .right (move_receive moved _)⟩
    | right moved' => rw [moved] at moved'; cases moved'; exact .inl rfl

/-- Every step is one call. -/
theorem Step.calls {s t : Session α β} (step : Step s t) : t.calls = s.calls + 1 := by
  cases step with
  | left moved => simp only [Session.calls, Peer.receive, Peer.move_log moved]; omega
  | right moved => simp only [Session.calls, Peer.receive, Peer.move_log moved]; omega

theorem calls_le_of_reaches {s t : Session α β} (run : Relation.ReflTransGen Step s t) :
    s.calls ≤ t.calls := by
  induction run with
  | refl => exact le_refl _
  | tail _ step ih => rw [step.calls]; omega

/-- What every interleaving of a session started at `start` does: wherever it has got to,
`final` is still reached; if it can go no further, it is at `final`; and it does not go on
forever. -/
structure Settles (start final : Session α β) : Prop where
  reaches : ∀ s, Relation.ReflTransGen Step start s → Relation.ReflTransGen Step s final
  stops : ∀ s, Relation.ReflTransGen Step start s → (∀ t, ¬Step s t) → s = final
  finite : ¬∃ run : Nat → Session α β, run 0 = start ∧ ∀ n, Step (run n) (run (n + 1))

/-- One interleaving that reaches a state where neither end can move settles the session. -/
theorem settles_of_reaches {start final : Session α β}
    (canonical : Relation.ReflTransGen Step start final) (stuck : ∀ t, ¬Step final t) :
    Settles start final := by
  have stays : ∀ s, Relation.ReflTransGen Step final s → s = final := fun s run =>
    (run.cases_head).elim Eq.symm fun ⟨t, step, _⟩ => absurd step (stuck t)
  have joinable : ∀ s t t' : Session α β, Step s t → Step s t' →
      ∃ u, Relation.ReflGen Step t u ∧ Relation.ReflTransGen Step t' u := fun _ _ _ first second =>
    (Step.diamond first second).elim (fun same => ⟨_, .refl, by rw [same]⟩)
      fun ⟨u, left, right⟩ => ⟨u, .single left, .single right⟩
  have reaches : ∀ s, Relation.ReflTransGen Step start s → Relation.ReflTransGen Step s final := by
    intro s reached
    obtain ⟨u, toU, finalToU⟩ := Relation.church_rosser joinable reached canonical
    exact stays u finalToU ▸ toU
  refine ⟨reaches, fun s reached stopped => ?_, ?_⟩
  · exact ((reaches s reached).cases_head).elim id fun ⟨t, step, _⟩ => absurd step (stopped t)
  · rintro ⟨run, first, steps⟩
    have along : ∀ n, Relation.ReflTransGen Step start (run n) ∧
        (run n).calls = start.calls + n := by
      intro n
      induction n with
      | zero => exact ⟨first ▸ .refl, by rw [first]; rfl⟩
      | succ n ih => exact ⟨ih.1.tail (steps n), by rw [(steps n).calls, ih.2]; rfl⟩
    have bound := calls_le_of_reaches (reaches _ (along (final.calls + 1)).1)
    rw [(along (final.calls + 1)).2] at bound
    omega

/-- A session neither of whose ends can make a call takes no step. -/
theorem stuck_of_idle {s : Session α β} (left : s.left.move = none) (right : s.right.move = none) :
    ∀ t, ¬Step s t := by
  rintro t (⟨moved⟩ | ⟨moved⟩)
  · exact nomatch left.symm.trans moved
  · exact nomatch right.symm.trans moved

/-- A session whose two programs have returned cannot move. -/
theorem stuck_of_returned {a : α} {b : β} {inbox inbox' : List Chunk} {log log' : List Event} :
    ∀ t, ¬Step ⟨⟨.pure a, inbox, log⟩, ⟨.pure b, inbox', log'⟩⟩ t :=
  stuck_of_idle rfl rfl

end Steps

/-- The turns of a program: in each it hears the units `heard`, then says the units `said`. -/
abbrev Turn := List (List Item) × List (List Item)

/-- The calls of turns: each turn's units read one by one, then its answer written. -/
def turnsLog (turns : List Turn) : List Event :=
  turns.flatMap fun turn => reads turn.1 ++ turn.2.map .send

/-- `program`, given each turn's `heard` units as whole writes, reads exactly them, writes the
turn's `said` units and stops to wait for more, going through `turns` to `last`. -/
inductive Turns {α : Type} : Prog α → List Turn → Prog α → Prop
  | nil (program : Prog α) : Turns program [] program
  | cons {program next last : Prog α} {heard said : List (List Item)} {turns : List Turn} :
      program.feed false (heard.map .data) = ⟨next, [], reads heard ++ said.map .send⟩ →
        Turns next turns last → Turns program ((heard, said) :: turns) last

/-- A turn of a program that reads whole units, makes the turn's calls and stops, waiting or
done. -/
theorem Turns.cons_of_leads {α : Type} {program next last : Prog α} {heard said : List (List Item)}
    {turns : List Turn} (lead : Leads program heard next (reads heard ++ said.map .send))
    (nonempty : ∀ unit ∈ heard, unit ≠ []) (idle : next.feed false [] = ⟨next, [], []⟩)
    (rest : Turns next turns last) : Turns program ((heard, said) :: turns) last :=
  .cons (lead.feed_of_idle nonempty idle) rest

/-- The turns of the side that speaks first, when the other answers each of its messages as
`rounds` says: it hears `first` and says the first message, hears the first answer and says
the second message, and so on, and it says nothing after the last answer. -/
def leftTurns (first : List (List Item)) : List Turn → List Turn
  | [] => [(first, [])]
  | (message, answer) :: rounds => (first, message) :: leftTurns answer rounds

/-- The turns of the side that speaks first, as in `leftTurns`, except that after the last answer
it says `last`, which the other side no longer reads. -/
def leftTurnsThen (first last : List (List Item)) : List Turn → List Turn
  | [] => [(first, last)]
  | (message, answer) :: rounds => (first, message) :: leftTurnsThen answer last rounds

theorem leftTurns_eq_leftTurnsThen (first : List (List Item)) (rounds : List Turn) :
    leftTurns first rounds = leftTurnsThen first [] rounds := by
  induction rounds generalizing first with
  | nil => rfl
  | cons round rounds ih => simp [leftTurns, leftTurnsThen, ih]

section Talk
variable {α β : Type}

theorem round_left {program next : Prog α} {heard said : List (List Item)}
    (fed : program.feed false (heard.map .data) = ⟨next, [], reads heard ++ said.map .send⟩)
    (calls : List Event) (other : Prog β) (otherCalls : List Event) :
    Relation.ReflTransGen Step ⟨⟨program, heard.map .data, calls⟩, ⟨other, [], otherCalls⟩⟩
      ⟨⟨next, [], calls ++ (reads heard ++ said.map .send)⟩, ⟨other, said.map .data, otherCalls⟩⟩ := by
  have runs := runs_feed program (heard.map .data) calls
  rw [fed] at runs
  simpa [Peer.receive] using runs.left ⟨other, [], otherCalls⟩

theorem round_right {program next : Prog β} {heard said : List (List Item)}
    (fed : program.feed false (heard.map .data) = ⟨next, [], reads heard ++ said.map .send⟩)
    (other : Prog α) (otherCalls calls : List Event) :
    Relation.ReflTransGen Step ⟨⟨other, [], otherCalls⟩, ⟨program, heard.map .data, calls⟩⟩
      ⟨⟨other, said.map .data, otherCalls⟩, ⟨next, [], calls ++ (reads heard ++ said.map .send)⟩⟩ := by
  have runs := runs_feed program (heard.map .data) calls
  rw [fed] at runs
  simpa [Peer.receive] using runs.right ⟨other, [], otherCalls⟩

/-- Two programs that take turns, the right one answering each message of the left one as
`rounds` says, run turn after turn to their ends; the left one's last words `last` are left
unread, all else having been read. -/
theorem talk_then {left leftEnd : Prog α} {right rightEnd : Prog β} {first last : List (List Item)}
    {rounds : List Turn} (leftTalks : Turns left (leftTurnsThen first last rounds) leftEnd)
    (rightTalks : Turns right rounds rightEnd) (leftCalls rightCalls : List Event) :
    Relation.ReflTransGen Step ⟨⟨left, first.map .data, leftCalls⟩, ⟨right, [], rightCalls⟩⟩
      ⟨⟨leftEnd, [], leftCalls ++ turnsLog (leftTurnsThen first last rounds)⟩,
        ⟨rightEnd, last.map .data, rightCalls ++ turnsLog rounds⟩⟩ := by
  induction rounds generalizing left right first leftCalls rightCalls with
  | nil =>
    cases rightTalks
    rcases leftTalks with _ | ⟨fed, _ | _⟩
    simpa [turnsLog, leftTurnsThen] using round_left fed leftCalls _ rightCalls
  | cons round rounds ih =>
    rcases leftTalks with _ | ⟨fed, leftRest⟩
    rcases rightTalks with _ | ⟨fed', rightRest⟩
    simpa [turnsLog, leftTurnsThen] using (round_left fed leftCalls _ rightCalls).trans
      ((round_right fed' _ _ rightCalls).trans (ih leftRest rightRest _ _))

/-- Two programs that take turns, the right one answering each message of the left one as
`rounds` says, run turn after turn to their ends, each having read all that was written to it. -/
theorem talk {left leftEnd : Prog α} {right rightEnd : Prog β} {first : List (List Item)}
    {rounds : List Turn} (leftTalks : Turns left (leftTurns first rounds) leftEnd)
    (rightTalks : Turns right rounds rightEnd) (leftCalls rightCalls : List Event) :
    Relation.ReflTransGen Step ⟨⟨left, first.map .data, leftCalls⟩, ⟨right, [], rightCalls⟩⟩
      ⟨⟨leftEnd, [], leftCalls ++ turnsLog (leftTurns first rounds)⟩,
        ⟨rightEnd, [], rightCalls ++ turnsLog rounds⟩⟩ := by
  rw [leftTurns_eq_leftTurnsThen] at leftTalks ⊢
  exact talk_then leftTalks rightTalks leftCalls rightCalls

/-- A session where the left side waits in a read with nothing written to it and the right side
has returned cannot move. -/
theorem stuck_of_waiting {count : Nat} {next : Option (List Item) → Prog α} {b : β}
    {inbox : List Chunk} {log log' : List Event} :
    ∀ t, ¬Step ⟨⟨.read count next, [], log⟩, ⟨.pure b, inbox, log'⟩⟩ t :=
  stuck_of_idle rfl rfl

end Talk

end Applauncherd.Wire.Dialogue
