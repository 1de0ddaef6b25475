import Mathlib.Data.List.Basic

/-! The byte stream of a Unix-domain socket as the launcher and the invoker see it.
A reader gets what the kernel hands over: a run of bytes, each possibly carrying the
descriptors of an `SCM_RIGHTS` message, never longer than asked and never past the end of
the chunk the kernel delivers, or a failed call. Every outcome of `read` is a chunk list. -/

namespace Applauncherd.Wire.Stream

/-- One byte on the socket, with the descriptors of an `SCM_RIGHTS` message sent along with it. -/
structure Item where
  byte : UInt8
  fds : List Int
deriving DecidableEq, Repr

/-- Bytes written with `write`, which carry no descriptors. -/
def plain (bytes : List UInt8) : List Item := bytes.map fun byte => ⟨byte, []⟩

@[simp] theorem plain_nil : plain [] = [] := rfl

@[simp] theorem plain_append (first second : List UInt8) :
    plain (first ++ second) = plain first ++ plain second := List.map_append _ _ _

@[simp] theorem plain_length (bytes : List UInt8) : (plain bytes).length = bytes.length :=
  List.length_map _ _

@[simp] theorem plain_eq_nil {bytes : List UInt8} : plain bytes = [] ↔ bytes = [] :=
  List.map_eq_nil_iff

@[simp] theorem plain_map_byte (bytes : List UInt8) : (plain bytes).map Item.byte = bytes := by
  simp [plain, Function.comp_def]

@[simp] theorem take_plain (count : Nat) (bytes : List UInt8) :
    (plain bytes).take count = plain (bytes.take count) := (List.map_take _ _ _).symm

/-- The four bytes of a `uint32_t` as `write(fd, &w, 4)` puts them on the wire, least
significant first. -/
def wordBytes (w : BitVec 32) : List UInt8 :=
  [UInt8.ofNat w.toNat, UInt8.ofNat (w.toNat / 256), UInt8.ofNat (w.toNat / 65536),
    UInt8.ofNat (w.toNat / 16777216)]

/-- The `uint32_t` that four bytes read into a buffer hold; `recvMsg` decodes only a read of
all four. -/
def word : List UInt8 → BitVec 32
  | [b0, b1, b2, b3] =>
      BitVec.ofNat 32 (b0.toNat + 256 * b1.toNat + 65536 * b2.toNat + 16777216 * b3.toNat)
  | _ => 0

@[simp] theorem wordBytes_length (w : BitVec 32) : (wordBytes w).length = 4 := rfl

@[simp] theorem wordBytes_ne_nil (w : BitVec 32) : wordBytes w ≠ [] := nofun

theorem uint8_toNat_ofNat (n : Nat) : (UInt8.ofNat n).toNat = n % 256 := rfl

@[simp] theorem word_wordBytes (w : BitVec 32) : word (wordBytes w) = w := by
  apply BitVec.eq_of_toNat_eq
  simp only [word, wordBytes, uint8_toNat_ofNat, BitVec.toNat_ofNat]
  have bound := w.isLt
  omega

/-- The unit one `write` of a word puts on the socket. -/
def wordUnit (w : BitVec 32) : List Item := plain (wordBytes w)

/-- The units `sendStr` writes for a string: its length word, counting the NUL, then the bytes
and the NUL in one `write`. -/
def strUnits (bytes : List UInt8) : List (List Item) :=
  [wordUnit (BitVec.ofNat 32 (bytes.length + 1)), plain (bytes ++ [0])]

@[simp] theorem wordUnit_length (w : BitVec 32) : (wordUnit w).length = 4 := by simp [wordUnit]

@[simp] theorem wordUnit_ne_nil (w : BitVec 32) : wordUnit w ≠ [] := by simp [wordUnit]

theorem strUnits_ne_nil {bytes : List UInt8} : ∀ unit ∈ strUnits bytes, unit ≠ [] := by
  simp [strUnits]

theorem flatMap_strUnits_ne_nil (strings : List (List UInt8)) :
    ∀ unit ∈ strings.flatMap strUnits, unit ≠ [] := fun _ member =>
  (List.mem_flatMap.mp member).elim fun _ found => strUnits_ne_nil _ found.2

@[simp] theorem wordUnit_map_byte (w : BitVec 32) : (wordUnit w).map Item.byte = wordBytes w := by
  simp [wordUnit]

/-- The C string a `char` buffer holds: its bytes up to the first NUL. -/
def cstr (buffer : List UInt8) : List UInt8 := buffer.takeWhile (· ≠ 0)

theorem cstr_append_nul {bytes : List UInt8} (nulFree : 0 ∉ bytes) (rest : List UInt8) :
    cstr (bytes ++ 0 :: rest) = bytes := by
  induction bytes with
  | nil => simp [cstr]
  | cons byte bytes ih =>
    simp only [List.mem_cons, not_or] at nulFree
    have first : byte ≠ 0 := fun same => nulFree.1 same.symm
    simpa [cstr, first] using ih nulFree.2

theorem cstr_of_nul_free {bytes : List UInt8} (nulFree : 0 ∉ bytes) : cstr bytes = bytes :=
  List.takeWhile_eq_self_iff.mpr fun byte member => by
    simpa using fun zero : byte = 0 => nulFree (zero ▸ member)

/-- What one `read` or `recvmsg` call finds on the socket: the items the kernel hands over
together, or a call that returns -1. -/
inductive Chunk where
  | data (items : List Item)
  | fail
deriving DecidableEq, Repr

/-- `read(fd, buf, count)` against the kernel's chunks: `none` when the call returns -1,
otherwise the items handed over (none at all at end of stream), at most `count` and never
past the end of the first chunk; with the chunks left for later calls. -/
def readChunks (count : Nat) : List Chunk → Option (List Item) × List Chunk
  | [] => (some [], [])
  | .fail :: rest => (none, rest)
  | .data items :: rest =>
      (some (items.take count),
        if count < items.length then .data (items.drop count) :: rest else rest)

/-- A read never hands over more than it asked for. -/
theorem readChunks_length_le {count : Nat} {chunks : List Chunk} {got : List Item}
    (read : (readChunks count chunks).1 = some got) : got.length ≤ count := by
  match chunks, read with
  | [], rfl => exact Nat.zero_le _
  | .data items :: _, rfl => exact List.length_take_le _ _

/-- The items the chunks hold; a failed call holds none. -/
def itemCount : List Chunk → Nat
  | [] => 0
  | .data items :: rest => items.length + itemCount rest
  | .fail :: rest => itemCount rest

/-- A read takes what it hands over off the chunks, and nothing more. -/
theorem itemCount_readChunks (count : Nat) (chunks : List Chunk) :
    itemCount (readChunks count chunks).2 + ((readChunks count chunks).1.map List.length).getD 0 =
      itemCount chunks := by
  match chunks with
  | [] => rfl
  | .fail :: rest => simp [readChunks, itemCount]
  | .data items :: rest =>
    by_cases short : count < items.length
    · simp [readChunks, itemCount, short]; omega
    · simp [readChunks, itemCount, short]; omega

/-- What `recvmsg` with a one-byte `iovec` and a control buffer with room for `capacity`
descriptors reports: its return value, whether `MSG_CTRUNC` is set in `msg_flags`, and the
descriptors of the `SCM_RIGHTS` message `CMSG_FIRSTHDR` finds. -/
structure Received where
  ret : Int
  truncated : Bool
  rights : Option (List Int)

/-- The kernel's answer to that `recvmsg`, from what its one-byte read took off the socket. -/
def received (capacity : Nat) : Option (List Item) → Received
  | none => ⟨-1, false, none⟩
  | some [] => ⟨0, false, none⟩
  | some (item :: _) =>
      ⟨1, decide (capacity < item.fds.length),
        if item.fds = [] then none else some (item.fds.take capacity)⟩

/-- The chunks a kernel delivers for consecutive units (the bytes of one `write` each) when
it hands each unit over alone or joined with the next ones: no chunk ends inside a unit. -/
inductive Aligned : List (List Item) → List Chunk → Prop
  | nil : Aligned [] []
  | cut {unit : List Item} {units : List (List Item)} {chunks : List Chunk} :
      unit ≠ [] → Aligned units chunks → Aligned (unit :: units) (.data unit :: chunks)
  | join {unit rest : List Item} {units : List (List Item)} {chunks : List Chunk} :
      unit ≠ [] → Aligned units (.data rest :: chunks) →
        Aligned (unit :: units) (.data (unit ++ rest) :: chunks)

theorem Aligned.head_ne_nil {rest : List Item} {units : List (List Item)}
    {chunks : List Chunk} (aligned : Aligned units (.data rest :: chunks)) : rest ≠ [] := by
  cases aligned with
  | cut nonempty _ => exact nonempty
  | join nonempty _ => simp [nonempty]

/-- A read of exactly one unit's length returns that unit, whatever the grouping. -/
theorem Aligned.read {unit : List Item} {units : List (List Item)} {chunks : List Chunk}
    (aligned : Aligned (unit :: units) chunks) :
    ∃ rest, readChunks unit.length chunks = (some unit, rest) ∧ Aligned units rest := by
  cases aligned with
  | cut _ tail => exact ⟨_, by simp [readChunks], tail⟩
  | join _ tail =>
    have nonempty := tail.head_ne_nil
    refine ⟨_, ?_, tail⟩
    simp [readChunks, List.length_pos.mpr nonempty]

@[simp] theorem aligned_nil_iff {chunks : List Chunk} : Aligned [] chunks ↔ chunks = [] :=
  ⟨fun aligned => by cases aligned; rfl, fun same => same ▸ .nil⟩

/-- One write, one chunk: the delivery of a reliable stream that hands over each write whole. -/
theorem aligned_separate {units : List (List Item)} (nonempty : ∀ unit ∈ units, unit ≠ []) :
    Aligned units (units.map .data) := by
  induction units with
  | nil => exact .nil
  | cons unit units ih =>
    exact .cut (nonempty unit (List.mem_cons_self _ _))
      (ih fun other member => nonempty other (List.mem_cons_of_mem _ member))

end Applauncherd.Wire.Stream
