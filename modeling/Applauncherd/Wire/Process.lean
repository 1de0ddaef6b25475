import Applauncherd.Wire.Stream

/-! One process's program against its socket, as a tree of calls: it returns, exits, or
makes a `read` (resumed with whatever the call returned) or a `write`. `feed` runs it against
the chunks the kernel delivers, up to its end or to a read that blocks on an empty socket
whose peer is still connected. -/

namespace Applauncherd.Wire.Process
open Applauncherd.Wire.Stream

/-- A program of one process against its socket. -/
inductive Prog (α : Type) where
  | pure (value : α)
  | exit (status : Nat)
  | read (count : Nat) (next : Option (List Item) → Prog α)
  | send (items : List Item) (next : Prog α)

namespace Prog

def bind {α β : Type} : Prog α → (α → Prog β) → Prog β
  | .pure value, after => after value
  | .exit status, _ => .exit status
  | .read count next, after => .read count fun got => (next got).bind after
  | .send items next, after => .send items (next.bind after)

instance : Monad Prog where
  pure := .pure
  bind := bind

@[simp] theorem pure_eq {α : Type} (value : α) : (Pure.pure value : Prog α) = .pure value := rfl

@[simp] theorem bind_eq {α β : Type} (program : Prog α) (after : α → Prog β) :
    program >>= after = program.bind after := rfl

@[simp] theorem pure_bind {α β : Type} (value : α) (after : α → Prog β) :
    (Prog.pure value).bind after = after value := rfl

@[simp] theorem exit_bind {α β : Type} (status : Nat) (after : α → Prog β) :
    (Prog.exit status).bind after = .exit status := rfl

@[simp] theorem send_bind {α β : Type} (items : List Item) (next : Prog α) (after : α → Prog β) :
    (Prog.send items next).bind after = .send items (next.bind after) := rfl

theorem bind_assoc {α β γ : Type} (program : Prog α) (first : α → Prog β)
    (second : β → Prog γ) :
    (program.bind first).bind second = program.bind fun value => (first value).bind second := by
  induction program with
  | pure value => rfl
  | exit status => rfl
  | read count next ih => exact congrArg (Prog.read count) (funext ih)
  | send items next ih => exact congrArg (Prog.send items) ih

theorem bind_pure {α : Type} (program : Prog α) : program.bind Prog.pure = program := by
  induction program with
  | pure value => rfl
  | exit status => rfl
  | read count next ih => exact congrArg (Prog.read count) (funext ih)
  | send items next ih => exact congrArg (Prog.send items) ih

instance : LawfulMonad Prog :=
  LawfulMonad.mk' Prog (fun program => bind_pure program) (fun _ _ => rfl)
    (fun program first second => bind_assoc program first second)

/-- The value a finished program returned. -/
def result? {α : Type} : Prog α → Option α
  | .pure value => some value
  | _ => none

end Prog

/-- What a process did on its socket: a call that read (`none` for a return of -1), or a write. -/
inductive Event where
  | recv (got : Option (List Item))
  | send (items : List Item)
deriving DecidableEq, Repr

/-- Where a fed program stands: what is left of it, the chunks it did not read, and its calls. -/
structure Fed (α : Type) where
  prog : Prog α
  rest : List Chunk
  log : List Event

/-- The same standing, after one more call made first. -/
def Fed.cons {α : Type} (event : Event) (fed : Fed α) : Fed α :=
  ⟨fed.prog, fed.rest, event :: fed.log⟩

/-- Runs a program against the chunks the kernel delivers, until it returns or exits, or until
it reads an empty socket: at end of stream when the peer has `closed` it (the call returns no
bytes), otherwise it blocks there. -/
def Prog.feed {α : Type} (closed : Bool) : Prog α → List Chunk → Fed α
  | .pure value, chunks => ⟨.pure value, chunks, []⟩
  | .exit status, chunks => ⟨.exit status, chunks, []⟩
  | .send items next, chunks => (next.feed closed chunks).cons (.send items)
  | .read count next, [] =>
      if closed then ((next (some [])).feed closed []).cons (.recv (some []))
      else ⟨.read count next, [], []⟩
  | .read count next, chunk :: chunks =>
      let got := readChunks count (chunk :: chunks)
      ((next got.1).feed closed got.2).cons (.recv got.1)

/-- A standing in a read on an empty socket whose peer is still connected: the call has not
returned. -/
def Fed.Waiting {α : Type} (closed : Bool) (fed : Fed α) : Prop :=
  closed = false ∧ fed.rest = [] ∧ ∃ count next, fed.prog = .read count next

/-- A read on `chunks` either waits or returns. -/
theorem waiting_or_ready (closed : Bool) (chunks : List Chunk) :
    (closed = false ∧ chunks = []) ∨ (chunks ≠ [] ∨ closed = true) := by
  cases closed <;> cases chunks <;> simp

/-- Continues a standing with `after`, which runs on what is left once the program returned. -/
def Fed.andThen {α β : Type} (closed : Bool) (fed : Fed α) (after : α → Prog β) : Fed β :=
  match fed.prog with
  | .pure value =>
      let next := (after value).feed closed fed.rest
      ⟨next.prog, next.rest, fed.log ++ next.log⟩
  | program => ⟨program.bind after, fed.rest, fed.log⟩

section Feed
variable {α β : Type} {closed : Bool}

@[simp] theorem feed_pure (value : α) (chunks : List Chunk) :
    (Prog.pure value).feed closed chunks = ⟨.pure value, chunks, []⟩ := rfl

@[simp] theorem feed_exit (status : Nat) (chunks : List Chunk) :
    (Prog.exit status : Prog α).feed closed chunks = ⟨.exit status, chunks, []⟩ := rfl

@[simp] theorem feed_send (items : List Item) (next : Prog α) (chunks : List Chunk) :
    (Prog.send items next).feed closed chunks = (next.feed closed chunks).cons (.send items) := rfl

/-- A read that does not block: the socket has a chunk, or the peer has closed it. -/
theorem feed_read {count : Nat} {next : Option (List Item) → Prog α} {chunks : List Chunk}
    (ready : chunks ≠ [] ∨ closed = true) :
    (Prog.read count next).feed closed chunks =
      ((next (readChunks count chunks).1).feed closed (readChunks count chunks).2).cons
        (.recv (readChunks count chunks).1) := by
  cases chunks with
  | nil =>
    simp only [ne_eq, not_true_eq_false, false_or] at ready
    simp [Prog.feed, ready, readChunks]
  | cons chunk chunks => rfl

@[simp] theorem feed_read_blocked {count : Nat} {next : Option (List Item) → Prog α} :
    (Prog.read count next).feed false [] = ⟨.read count next, [], []⟩ := rfl

@[simp] theorem andThen_cons (event : Event) (fed : Fed α) (after : α → Prog β) :
    (fed.cons event).andThen closed after = (fed.andThen closed after).cons event := by
  rcases fed with ⟨program, rest, log⟩
  cases program <;> rfl

/-- Running `program >>= after` is running `program`, then `after` on what it left. -/
theorem feed_bind (program : Prog α) (after : α → Prog β) (chunks : List Chunk) :
    (program.bind after).feed closed chunks = (program.feed closed chunks).andThen closed after := by
  induction program generalizing chunks with
  | pure value => simp [Fed.andThen]
  | exit status => rfl
  | read count next ih =>
    cases chunks with
    | nil =>
      cases closed with
      | false => rfl
      | true => simp [Prog.feed, Prog.bind, ih]
    | cons chunk chunks => simp [Prog.feed, Prog.bind, ih]
  | send items next ih => simp [Prog.feed, ih]

theorem feed_bind_of_pure {program : Prog α} {after : α → Prog β} {chunks rest : List Chunk}
    {log : List Event} {value : α} (fed : program.feed closed chunks = ⟨.pure value, rest, log⟩) :
    (program.bind after).feed closed chunks =
      ⟨((after value).feed closed rest).prog, ((after value).feed closed rest).rest,
        log ++ ((after value).feed closed rest).log⟩ := by
  rw [feed_bind, fed]
  rfl

/-- Where `program >>= after` ends, when `program` returns: where `after` ends on what is left. -/
theorem prog_feed_bind_of_pure {program : Prog α} {after : α → Prog β} {chunks : List Chunk}
    {value : α} (ended : (program.feed closed chunks).prog = .pure value) :
    ((program.bind after).feed closed chunks).prog =
      ((after value).feed closed (program.feed closed chunks).rest).prog := by
  rw [feed_bind, Fed.andThen, ended]

/-- A run takes its items off the chunks: it never leaves more than it found. -/
theorem itemCount_feed_le (program : Prog α) (chunks : List Chunk) :
    itemCount (program.feed closed chunks).rest ≤ itemCount chunks := by
  induction program generalizing chunks with
  | pure value => exact le_refl _
  | exit status => exact le_refl _
  | send items next ih => exact ih chunks
  | read count next ih =>
    rcases waiting_or_ready closed chunks with ⟨rfl, rfl⟩ | ready
    · exact le_refl _
    · rw [feed_read ready]
      have taken := itemCount_readChunks count chunks
      exact (ih _ _).trans (by omega)

end Feed

/-- A program that returns whatever its calls return: none of its paths ends in `exit`. -/
inductive Returns {α : Type} : Prog α → Prop
  | pure (value : α) : Returns (.pure value)
  | read {count : Nat} {next : Option (List Item) → Prog α} (rest : ∀ got, Returns (next got)) :
      Returns (.read count next)
  | send {items : List Item} {next : Prog α} (rest : Returns next) : Returns (.send items next)

section Returns
variable {α β : Type}

theorem Returns.bind {program : Prog α} {after : α → Prog β} (first : Returns program)
    (second : ∀ value, Returns (after value)) : Returns (program.bind after) := by
  induction first with
  | pure value => exact second value
  | read _ ih => exact .read ih
  | send _ ih => exact .send ih

/-- Against a stream its peer has closed, a program that returns runs to its end. -/
theorem Returns.feed {program : Prog α} (returns : Returns program) (chunks : List Chunk) :
    ∃ value, (program.feed true chunks).prog = .pure value := by
  induction returns generalizing chunks with
  | pure value => exact ⟨value, rfl⟩
  | read _ ih => rw [feed_read (.inr rfl)]; exact ih _ _
  | send _ ih => exact ih chunks

end Returns

/-- The calls that read `units` one by one. -/
def reads (units : List (List Item)) : List Event := units.map fun unit => .recv (some unit)

@[simp] theorem reads_nil : reads [] = [] := rfl

@[simp] theorem reads_cons (unit : List Item) (units : List (List Item)) :
    reads (unit :: units) = .recv (some unit) :: reads units := rfl

@[simp] theorem reads_append (first second : List (List Item)) :
    reads (first ++ second) = reads first ++ reads second := List.map_append _ _ _

/-- `program` reads exactly the units `consumed` and returns `value` after the calls `log`,
whatever follows those units on the socket and however the kernel groups whole units into
chunks, and whether or not the peer has closed its end. -/
def Consumes {α : Type} (program : Prog α) (consumed : List (List Item)) (value : α)
    (log : List Event) : Prop :=
  ∀ closed units chunks, Aligned (consumed ++ units) chunks →
    ∃ rest, program.feed closed chunks = ⟨.pure value, rest, log⟩ ∧ Aligned units rest

section Consumes
variable {α β : Type} {consumed later : List (List Item)} {log log' : List Event}

theorem consumes_pure (value : α) : Consumes (.pure value) [] value [] :=
  fun _ _ _ aligned => ⟨_, rfl, aligned⟩

theorem consumes_pure_of_eq {value result : α} (same : value = result) :
    Consumes (.pure value) [] result [] := same ▸ consumes_pure value

theorem Consumes.cast {program : Prog α} {value : α} {consumed' : List (List Item)}
    (sameUnits : consumed = consumed') (sameLog : log = log')
    (spec : Consumes program consumed value log) : Consumes program consumed' value log' :=
  sameUnits ▸ sameLog ▸ spec

theorem Consumes.send {next : Prog α} {value : α} (items : List Item)
    (spec : Consumes next consumed value log) :
    Consumes (.send items next) consumed value (.send items :: log) := by
  intro closed units chunks aligned
  obtain ⟨rest, fed, tail⟩ := spec closed units chunks aligned
  exact ⟨rest, by simp [fed, Fed.cons], tail⟩

/-- A read of one unit's length takes that unit. -/
theorem Consumes.read {unit : List Item} {next : Option (List Item) → Prog α} {value : α}
    (spec : Consumes (next (some unit)) consumed value log) :
    Consumes (.read unit.length next) (unit :: consumed) value (.recv (some unit) :: log) := by
  intro closed units chunks aligned
  obtain ⟨after, got, tail⟩ := (show Aligned (unit :: (consumed ++ units)) chunks from aligned).read
  have ready : chunks ≠ [] ∨ closed = true := by
    left; rintro rfl; cases aligned
  obtain ⟨rest, fed, left⟩ := spec closed units after tail
  exact ⟨rest, by simp [feed_read ready, got, fed, Fed.cons], left⟩

theorem Consumes.read_of_length {unit : List Item} {count : Nat}
    {next : Option (List Item) → Prog α} {value : α} (length : unit.length = count)
    (spec : Consumes (next (some unit)) consumed value log) :
    Consumes (.read count next) (unit :: consumed) value (.recv (some unit) :: log) :=
  length ▸ spec.read

theorem Consumes.bind {program : Prog α} {after : α → Prog β} {value : α} {result : β}
    (first : Consumes program consumed value log) (second : Consumes (after value) later result log') :
    Consumes (program >>= after) (consumed ++ later) result (log ++ log') := by
  intro closed units chunks aligned
  rw [List.append_assoc] at aligned
  obtain ⟨middle, fed, tail⟩ := first closed _ chunks aligned
  obtain ⟨rest, fed', left⟩ := second closed units middle tail
  exact ⟨rest, by rw [Prog.bind_eq, feed_bind_of_pure fed, fed'], left⟩

/-- A program followed by a step that reads nothing. -/
theorem Consumes.bind_nil {program : Prog α} {after : α → Prog β} {value : α} {result : β}
    (first : Consumes program consumed value log) (second : Consumes (after value) [] result log') :
    Consumes (program >>= after) consumed result (log ++ log') :=
  (first.bind second).cast (List.append_nil _) rfl

/-- A program followed by a step that only returns. -/
theorem Consumes.bind_pure {program : Prog α} {after : α → Prog β} {value : α} {result : β}
    (first : Consumes program consumed value log) (finish : after value = .pure result) :
    Consumes (program >>= after) consumed result log :=
  (first.bind (finish ▸ consumes_pure result)).cast (List.append_nil _) (List.append_nil _)

end Consumes

/-- A standing with calls made before it. -/
def Fed.prepend {α : Type} (log : List Event) (fed : Fed α) : Fed α := ⟨fed.prog, fed.rest, log ++ fed.log⟩

@[simp] theorem andThen_prepend {α β : Type} {closed : Bool} (log : List Event) (fed : Fed α)
    (after : α → Prog β) :
    (fed.prepend log).andThen closed after = (fed.andThen closed after).prepend log := by
  rcases fed with ⟨program, rest, calls⟩
  cases program <;> simp [Fed.andThen, Fed.prepend]

/-- `program` reads exactly the units `consumed`, making the calls `log`, and then goes on as
`next`, whatever follows those units and however the kernel groups whole units into chunks. -/
def Leads {α : Type} (program : Prog α) (consumed : List (List Item)) (next : Prog α)
    (log : List Event) : Prop :=
  ∀ closed units chunks, Aligned (consumed ++ units) chunks →
    ∃ rest, Aligned units rest ∧ program.feed closed chunks = (next.feed closed rest).prepend log

section Leads
variable {α β : Type} {program next last : Prog α} {consumed later : List (List Item)}
  {log log' : List Event}

theorem Leads.refl (program : Prog α) : Leads program [] program [] :=
  fun _ _ chunks aligned => ⟨chunks, aligned, rfl⟩

theorem Leads.send (items : List Item) (next : Prog α) :
    Leads (.send items next) [] next [.send items] :=
  fun _ _ chunks aligned => ⟨chunks, aligned, rfl⟩

theorem Leads.trans (first : Leads program consumed next log) (second : Leads next later last log') :
    Leads program (consumed ++ later) last (log ++ log') := by
  intro closed units chunks aligned
  rw [List.append_assoc] at aligned
  obtain ⟨middle, alignedMiddle, fed⟩ := first closed _ chunks aligned
  obtain ⟨rest, alignedRest, fed'⟩ := second closed units middle alignedMiddle
  exact ⟨rest, alignedRest, by rw [fed, fed']; simp [Fed.prepend]⟩

/-- Writes of one unit each. -/
theorem Leads.sends (units : List (List Item)) (next : Prog α) :
    Leads (units.foldr .send next) [] next (units.map .send) := by
  induction units with
  | nil => exact Leads.refl next
  | cons unit units ih => exact (Leads.send unit _).trans ih

theorem Leads.cast {consumed' : List (List Item)} (sameUnits : consumed = consumed')
    (sameLog : log = log') (lead : Leads program consumed next log) :
    Leads program consumed' next log' :=
  sameUnits ▸ sameLog ▸ lead

theorem Leads.bind (lead : Leads program consumed next log) (after : α → Prog β) :
    Leads (program.bind after) consumed (next.bind after) log := by
  intro closed units chunks aligned
  obtain ⟨rest, alignedRest, fed⟩ := lead closed units chunks aligned
  exact ⟨rest, alignedRest, by rw [feed_bind, fed, andThen_prepend, feed_bind]⟩

/-- A lead into a branch whose condition fails leads into the other branch. -/
theorem Leads.of_ite_neg {condition : Prop} [Decidable condition] {taken skipped : Prog α}
    (lead : Leads program consumed (if condition then skipped else taken) log) (fails : ¬condition) :
    Leads program consumed taken log := by
  rwa [if_neg fails] at lead

/-- A lead into a branch whose condition holds leads into that branch. -/
theorem Leads.of_ite_pos {condition : Prop} [Decidable condition] {taken skipped : Prog α}
    (lead : Leads program consumed (if condition then taken else skipped) log) (holds : condition) :
    Leads program consumed taken log := by
  rwa [if_pos holds] at lead

/-- A program that consumes units and returns, followed by `after`, leads to `after` on its
value. -/
theorem Consumes.leads {value : α} (spec : Consumes program consumed value log) (after : α → Prog β) :
    Leads (program.bind after) consumed (after value) log := by
  intro closed units chunks aligned
  obtain ⟨rest, fed, alignedRest⟩ := spec closed units chunks aligned
  exact ⟨rest, alignedRest, by rw [feed_bind_of_pure fed]; rfl⟩

theorem Consumes.toLeads {value : α} (spec : Consumes program consumed value log) :
    Leads program consumed (.pure value) log :=
  Prog.bind_pure program ▸ spec.leads Prog.pure

theorem Leads.consumes {value : α} (lead : Leads program consumed (.pure value) log) :
    Consumes program consumed value log := by
  intro closed units chunks aligned
  obtain ⟨rest, alignedRest, fed⟩ := lead closed units chunks aligned
  exact ⟨rest, by rw [fed]; simp [Fed.prepend], alignedRest⟩

/-- With each unit written whole and nothing more on the socket, a program that leads to one
about to read, or finished, gets there and stops. -/
theorem Leads.feed_of_idle (lead : Leads program consumed next log)
    (nonempty : ∀ unit ∈ consumed, unit ≠ []) (idle : next.feed false [] = ⟨next, [], []⟩) :
    program.feed false (consumed.map .data) = ⟨next, [], log⟩ := by
  obtain ⟨rest, alignedRest, fed⟩ :=
    lead false [] _ (by simpa using aligned_separate nonempty)
  rw [aligned_nil_iff.mp alignedRest, idle] at fed
  simpa [Fed.prepend] using fed

end Leads

end Applauncherd.Wire.Process
