import Applauncherd.Wire.Stream

/-! The address of a family's socket as each side writes it. `Connection::initSocket` copies the
path into the 14-byte `sa_data` of a `struct sockaddr`, `invoker_init` into the 108-byte
`sun_path` of a `struct sockaddr_un`; each `strncpy`s one byte less than its buffer and ends it
with a NUL. The file a Unix-domain address names is the C string at the start of its path
bytes, so the daemon binds the path's first 13 bytes and the invoker connects to its first
107: the two agree exactly for paths of at most 13 bytes. -/

namespace Applauncherd.Wire.Address
open Applauncherd.Wire.Stream

/-- `sizeof(sun.sa_data)` of a `struct sockaddr`. -/
def saDataSize : Nat := 14

/-- `sizeof(sun.sun_path)` of a Linux `struct sockaddr_un`. -/
def sunPathSize : Nat := 108

/-- `strncpy(dest, src, n)`: the bytes of the C string `src`, at most `n` of them, padded with
NULs to `n`, over the first `n` bytes of `dest`. -/
def strncpy (dest src : List UInt8) (n : Nat) : List UInt8 :=
  (cstr src).take n ++ List.replicate (n - (cstr src).length) 0 ++ dest.drop n

/-- The `sa_data` that `Connection::initSocket` passes to `bind`, built over the bytes `stack`
the uninitialised `struct sockaddr` held. -/
def initSocket (socketId stack : List UInt8) : List UInt8 :=
  (strncpy stack socketId (saDataSize - 1)).set (saDataSize - 1) 0

/-- The `sun_path` that `invoker_init` passes to `connect` for the family socket `path`, built
over the bytes `stack` the uninitialised `struct sockaddr_un` held. -/
def invokerInit (path stack : List UInt8) : List UInt8 :=
  (strncpy stack path (sunPathSize - 1)).set (sunPathSize - 1) 0

/-- The file a Unix-domain address names: the C string its path bytes start with. -/
def socketFile (pathBytes : List UInt8) : List UInt8 := cstr pathBytes

/-- A buffer of more than `n` bytes, after `strncpy` of a NUL-free string and a NUL at index `n`,
holds the string's first `n` bytes as its C string. -/
theorem cstr_strncpy_set {src dest : List UInt8} {n : Nat} (nulFree : 0 ∉ src)
    (room : n < dest.length) :
    cstr ((strncpy dest src n).set n 0) = src.take n := by
  obtain ⟨byte, rest, split⟩ : ∃ byte rest, dest.drop n = byte :: rest :=
    List.exists_cons_of_ne_nil (by simp [List.drop_eq_nil_iff]; omega)
  have leading : (src.take n ++ List.replicate (n - src.length) 0).length = n := by
    simp only [List.length_append, List.length_take, List.length_replicate]; omega
  have nulFreePrefix : 0 ∉ src.take n := fun member => nulFree (List.mem_of_mem_take member)
  rw [strncpy, cstr_of_nul_free nulFree, split, List.set_append_right _ _ (by omega), leading,
    Nat.sub_self, List.set_cons_zero, List.append_assoc]
  cases n - src.length <;> exact cstr_append_nul nulFreePrefix _

theorem socketFile_initSocket {socketId stack : List UInt8} (nulFree : 0 ∉ socketId)
    (stackSize : stack.length = saDataSize) :
    socketFile (initSocket socketId stack) = socketId.take 13 :=
  cstr_strncpy_set nulFree (by rw [stackSize]; decide)

theorem socketFile_invokerInit {path stack : List UInt8} (nulFree : 0 ∉ path)
    (stackSize : stack.length = sunPathSize) :
    socketFile (invokerInit path stack) = path.take 107 :=
  cstr_strncpy_set nulFree (by rw [stackSize]; decide)

/-- For a NUL-free path of at most 107 bytes, whatever the stacks held, the file the daemon binds
is the file the invoker connects to exactly when the path has at most 13 bytes. -/
theorem initSocket_agrees_iff {path stack stack' : List UInt8} (nulFree : 0 ∉ path)
    (fits : path.length ≤ 107) (stackSize : stack.length = saDataSize)
    (stackSize' : stack'.length = sunPathSize) :
    socketFile (initSocket path stack) = socketFile (invokerInit path stack') ↔ path.length ≤ 13 := by
  rw [socketFile_initSocket nulFree stackSize, socketFile_invokerInit nulFree stackSize',
    List.take_of_length_le fits]
  constructor
  · intro same
    have lengths := congrArg List.length same
    simp only [List.length_take] at lengths
    omega
  · intro short
    exact List.take_of_length_le short

/-- `/tmp/boostm.socket`, 18 bytes. -/
def longSocketPath : List UInt8 :=
  [47, 116, 109, 112, 47, 98, 111, 111, 115, 116, 109, 46, 115, 111, 99, 107, 101, 116]

/-- The daemon binds `/tmp/boostm.s`, the invoker connects to `/tmp/boostm.socket`. -/
theorem long_socket_path_differs :
    socketFile (initSocket longSocketPath (List.replicate 14 0)) ≠
      socketFile (invokerInit longSocketPath (List.replicate 108 0)) :=
  fun same => absurd ((initSocket_agrees_iff (by decide) (by decide) (by decide) (by decide)).mp same)
    (by decide)

end Applauncherd.Wire.Address
