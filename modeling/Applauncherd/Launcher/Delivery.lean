import Applauncherd.Launcher.Application

/-! The launcher's decoders on any delivery of the bytes, not only on whole writes. `recvStr`
takes any body of the announced length and overwrites its last byte with NUL. A read of a word
cut short by a chunk boundary makes `recvMsg` log an error and still report success, with the word
0, and the bytes of the word that the read did not reach are read next as the start of the next
word: from a cut read on, `receiveApplicationData` decodes out of step with the writes, so where
the kernel splits the stream changes what it decides. -/

namespace Applauncherd.Launcher.Delivery
open Applauncherd.Wire.Stream Applauncherd.Wire.Process
open Applauncherd.Launcher.Codes Applauncherd.Launcher.Receive Applauncherd.Launcher.Actions
open Applauncherd.Launcher.Application

/-- `recvMsg` on any chunks that do not keep it waiting: one read of four bytes. -/
theorem recvMsg_feed {closed : Bool} {chunks : List Chunk} (ready : chunks ≠ [] ∨ closed = true) :
    recvMsg.feed closed chunks =
      ⟨.pure (match (readChunks 4 chunks).1 with
        | none => (false, 0)
        | some got => (true, if got.length < 4 then 0 else word (got.map Item.byte))),
        (readChunks 4 chunks).2, [.recv (readChunks 4 chunks).1]⟩ := by
  rw [recvMsg, feed_read ready]
  cases (readChunks 4 chunks).1 <;> rfl

/-- A read of a word that returns fewer than four bytes: `recvMsg` reports success with the word
0, whatever the bytes, and the next read starts after them. -/
theorem recvMsg_feed_cut {α : Type} {closed : Bool} {cut : List Item} (short : cut.length < 4)
    (rest : List Chunk) (after : Bool × BitVec 32 → Prog α) :
    (recvMsg.bind after).feed closed (.data cut :: rest) =
      ((after (true, 0)).feed closed rest).cons (.recv (some cut)) := by
  simp [recvMsg, Prog.bind, Prog.feed, readChunks, short, List.take_of_length_le short.le,
    Nat.not_lt.mpr short.le]

/-- A read of a word that returns the whole word. -/
theorem recvMsg_feed_word {α : Type} {closed : Bool} (w : BitVec 32) (rest : List Chunk)
    (after : Bool × BitVec 32 → Prog α) :
    (recvMsg.bind after).feed closed (.data (wordUnit w) :: rest) =
      ((after (true, w)).feed closed rest).cons (.recv (some (wordUnit w))) := by
  simp [recvMsg, Prog.bind, Prog.feed, readChunks, List.take_of_length_le (wordUnit_length w).le]

/-- What `recvStr` returns for the results of its calls: a full length word `L ≥ 1` and a body
read that returned `L` bytes give the first `L - 1` of them and a NUL; anything else gives
NULL. -/
def strOfReads : List Event → Option (List UInt8)
  | [.recv (some lengthWord), .recv (some body)] =>
      if lengthWord.length = 4 ∧ 0 < (word (lengthWord.map Item.byte)).toNat ∧
          body.length = (word (lengthWord.map Item.byte)).toNat then
        some ((body.map Item.byte).take (body.length - 1) ++ [0])
      else none
  | _ => none

/-- The body read of `recvStr` after a length word `size ≥ 1`: `size` bytes are taken with the
last one overwritten by NUL, fewer give NULL. -/
theorem recvStr_body {size : BitVec 32} {body : List Item} (bound : body.length ≤ size.toNat)
    (positive : 0 < size.toNat) :
    (if readResult (some body) < size then Prog.pure none
      else Prog.pure (some ((body.map Item.byte).set (size.toNat - 1) 0)) :
        Prog (Option (List UInt8))) =
      .pure (if body.length = size.toNat then some ((body.map Item.byte).take (body.length - 1) ++ [0])
        else none) := by
  have result : readResult (some body) < size ↔ body.length < size.toNat := by
    rw [readResult, BitVec.lt_def, BitVec.toNat_ofNat, Nat.mod_eq_of_lt (by omega)]
  by_cases less : body.length < size.toNat
  · simp [result, less, Nat.ne_of_lt less]
  · have same : body.length = size.toNat := by omega
    rw [if_neg (by rwa [result]), if_pos same, List.set_eq_take_append_cons_drop,
      if_pos (by simp; omega), same, List.drop_eq_nil_of_le (by simp; omega)]

/-- A length word of 2 and the body `ab`: the last byte is not NUL, and `recvStr` still returns
a string, `a`. -/
theorem recvStr_accepts_unterminated :
    recvStr.feed true [.data (wordUnit 2 ++ plain [97, 98])] =
      ⟨.pure (some [97, 0]), [], [.recv (some (wordUnit 2)), .recv (some (plain [97, 98]))]⟩ := rfl

/-- `recvStr` on any chunks, when its body read does not fail: it waits for the peer, or returns
what `strOfReads` makes of its calls' results. -/
theorem recvStr_feed (closed : Bool) (chunks : List Chunk)
    (bodyRead : Event.recv none ∉ (recvStr.feed closed chunks).log.tail) :
    (recvStr.feed closed chunks).prog = .pure (strOfReads (recvStr.feed closed chunks).log) ∨
      (recvStr.feed closed chunks).Waiting closed := by
  rcases waiting_or_ready closed chunks with ⟨rfl, rfl⟩ | ready
  · exact .inr ⟨rfl, rfl, _, _, rfl⟩
  rw [recvStr, Prog.bind_eq, feed_bind, recvMsg_feed ready] at bodyRead ⊢
  revert bodyRead
  rcases first : readChunks 4 chunks with ⟨_ | got, rest⟩
  · exact fun _ => .inl rfl
  by_cases zero : (if got.length < 4 then 0 else word (got.map Item.byte)) = 0
  · exact fun _ => .inl (by
      simp only [Fed.andThen, Bool.not_true, Bool.false_or, zero, beq_self_eq_true, if_true,
        feed_pure, List.append_nil, strOfReads])
  have full : ¬got.length < 4 := fun short => zero (if_pos short)
  rw [if_neg full] at zero
  simp only [Fed.andThen, full, zero, if_false, Bool.not_true, Bool.false_or, beq_iff_eq]
  rcases waiting_or_ready closed rest with ⟨rfl, rfl⟩ | ready'
  · exact fun _ => .inr ⟨rfl, rfl, _, _, rfl⟩
  rw [feed_read ready']
  rcases second : readChunks (word (got.map Item.byte)).toNat rest with ⟨_ | body, rest'⟩
  · simp [Fed.cons]
  have positive : 0 < (word (got.map Item.byte)).toNat :=
    Nat.pos_of_ne_zero fun none => zero (BitVec.eq_of_toNat_eq (by simpa using none))
  have four : got.length = 4 := by
    have := readChunks_length_le (congrArg Prod.fst first); omega
  intro _
  left
  simp only [Fed.cons, recvStr_body (readChunks_length_le (congrArg Prod.fst second)) positive,
    feed_pure, List.singleton_append, strOfReads, four, positive, true_and]

theorem terminated_str_read :
    (recvStr.feed true [.data (wordUnit 2 ++ plain [97, 0])]).prog =
        .pure (strOfReads (recvStr.feed true [.data (wordUnit 2 ++ plain [97, 0])]).log) ∨
      (recvStr.feed true [.data (wordUnit 2 ++ plain [97, 0])]).Waiting true :=
  recvStr_feed true _ (by decide)

section Cut
variable (P : Protocol) (argMax : BitVec 32) (fuel : Nat) (beyond : Nat → Int) (app : AppData)
  (connection : Connection)

/-- A first read cut short, any fewer than four bytes: `receiveApplicationData` goes on exactly as
for a client whose first word is 0, which has no magic tag and is neither acknowledged nor refused,
and it reads the `NAME` word it expects next from where the cut read stopped, inside the magic
word. The two runs are one run after their first read. -/
theorem receiveApplicationData_cut_first_read (closed : Bool) {cut : List Item}
    (short : cut.length < 4) (rest : List Chunk) :
    ∃ fed : Fed (Option Bool × AppData × Connection),
      (receiveApplicationData P argMax fuel beyond app connection).feed closed (.data cut :: rest) =
        fed.cons (.recv (some cut)) ∧
      (receiveApplicationData P argMax fuel beyond app connection).feed closed
        (.data (wordUnit 0) :: rest) = fed.cons (.recv (some (wordUnit 0))) := by
  simp only [receiveApplicationData, receiveMagic, Prog.bind_eq, Prog.bind_assoc]
  exact ⟨_, recvMsg_feed_cut short rest _, recvMsg_feed_word 0 rest _⟩

/-- The sample header split after two bytes, against the same bytes in one chunk: the cut magic
word reads as 0, the next read takes its last two bytes with half the `NAME` code, and the request
is refused; in one chunk it is accepted. -/
theorem cut_magic_word_refused :
    ((sampleHeader.units sampleProtocol).flatten.take 2).length < 4 ∧
    (∃ fed : Fed (Option Bool × AppData × Connection),
      (receiveApplicationData sampleProtocol sampleArgMax 1 (fun _ => 0) blankApp
          (Connection.init [])).feed false
          [.data ((sampleHeader.units sampleProtocol).flatten.take 2),
            .data ((sampleHeader.units sampleProtocol).flatten.drop 2)] =
        fed.cons (.recv (some ((sampleHeader.units sampleProtocol).flatten.take 2))) ∧
      (receiveApplicationData sampleProtocol sampleArgMax 1 (fun _ => 0) blankApp
          (Connection.init [])).feed false
          [.data (wordUnit 0), .data ((sampleHeader.units sampleProtocol).flatten.drop 2)] =
        fed.cons (.recv (some (wordUnit 0)))) ∧
    ((receiveApplicationData sampleProtocol sampleArgMax 1 (fun _ => 0) blankApp
        (Connection.init [])).feed false
        [.data ((sampleHeader.units sampleProtocol).flatten.take 2),
          .data ((sampleHeader.units sampleProtocol).flatten.drop 2)]).prog.result?.map Prod.fst =
      some (some false) ∧
    ((receiveApplicationData sampleProtocol sampleArgMax 1 (fun _ => 0) blankApp
        (Connection.init [])).feed false
        [.data (sampleHeader.units sampleProtocol).flatten]).prog.result?.map Prod.fst =
      some (some true) :=
  ⟨by decide, receiveApplicationData_cut_first_read sampleProtocol sampleArgMax 1 (fun _ => 0) blankApp
    (Connection.init []) false (by decide) _, by decide, by decide⟩

end Cut

end Applauncherd.Launcher.Delivery
