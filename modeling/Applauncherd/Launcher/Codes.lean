import Applauncherd.Wire.Stream

/-! The codes of the invoker–launcher protocol. `protocol.h`, which defines them, is not among
the sources: the launcher and the invoker rely only on the layout the spec prescribes (§6), and
a `Protocol` carries that layout as fields, so every result below holds for every choice of
codes that meets it. -/

namespace Applauncherd.Launcher.Codes

/-- Modelled from the spec: the `INVOKER_MSG_*` constants of `protocol.h`, which is not under
src/. The magic tag sits under `msgMask`, the version and option sub-fields under masks of
their own, and the action codes, `ACK` and `BAD_CREDS` are distinct. -/
structure Protocol where
  msgMask : BitVec 32
  msgMagic : BitVec 32
  magicVersionMask : BitVec 32
  magicVersion : BitVec 32
  magicOptionMask : BitVec 32
  msgName : BitVec 32
  msgExec : BitVec 32
  msgArgs : BitVec 32
  msgEnv : BitVec 32
  msgPrio : BitVec 32
  msgIo : BitVec 32
  msgEnd : BitVec 32
  msgAck : BitVec 32
  msgBadCreds : BitVec 32
  magic_masked : msgMagic &&& msgMask = msgMagic
  magic_ne_zero : msgMagic ≠ 0
  version_masked : magicVersion &&& magicVersionMask = magicVersion
  version_mask_disjoint : magicVersionMask &&& msgMask = 0
  option_mask_disjoint : magicOptionMask &&& msgMask = 0 ∧ magicOptionMask &&& magicVersionMask = 0
  codes_distinct :
    [msgName, msgExec, msgArgs, msgEnv, msgPrio, msgIo, msgEnd, msgAck, msgBadCreds].Nodup

/-- The codes `receiveActions` dispatches on are distinct, each from those of the cases before
it. -/
theorem Protocol.dispatch_distinct (P : Protocol) :
    P.msgArgs ≠ P.msgExec ∧
    P.msgEnv ≠ P.msgExec ∧ P.msgEnv ≠ P.msgArgs ∧
    P.msgPrio ≠ P.msgExec ∧ P.msgPrio ≠ P.msgArgs ∧ P.msgPrio ≠ P.msgEnv ∧
    P.msgIo ≠ P.msgExec ∧ P.msgIo ≠ P.msgArgs ∧ P.msgIo ≠ P.msgEnv ∧ P.msgIo ≠ P.msgPrio ∧
    P.msgEnd ≠ P.msgExec ∧ P.msgEnd ≠ P.msgArgs ∧ P.msgEnd ≠ P.msgEnv ∧ P.msgEnd ≠ P.msgPrio ∧
      P.msgEnd ≠ P.msgIo := by
  have distinct := P.codes_distinct
  simp only [List.nodup_cons, List.mem_cons, List.mem_singleton, not_or, List.not_mem_nil,
    not_false_eq_true, List.nodup_nil, and_true] at distinct
  obtain ⟨-, ⟨exec1, exec2, exec3, exec4, exec5, -⟩, ⟨args1, args2, args3, args4, -⟩,
    ⟨env1, env2, env3, -⟩, ⟨prio1, prio2, -⟩, ⟨io1, -⟩, -⟩ := distinct
  exact ⟨Ne.symm exec1, Ne.symm exec2, Ne.symm args1, Ne.symm exec3, Ne.symm args2, Ne.symm env1,
    Ne.symm exec4, Ne.symm args3, Ne.symm env2, Ne.symm prio1, Ne.symm exec5, Ne.symm args4,
    Ne.symm env3, Ne.symm prio2, Ne.symm io1⟩

/-- Option bits are never read as -1: the option mask misses the non-zero magic tag. -/
theorem Protocol.options_ne_neg_one (P : Protocol) (w : BitVec 32) :
    (w &&& P.magicOptionMask).toInt ≠ -1 := by
  intro minusOne
  have ones : w &&& P.magicOptionMask = BitVec.allOnes 32 :=
    BitVec.toInt_inj.mp (by rw [minusOne]; decide)
  have mask : P.magicOptionMask = BitVec.allOnes 32 := by
    have bits := congrArg BitVec.toNat ones
    have below := @Nat.and_le_right w.toNat P.magicOptionMask.toNat
    have bound := P.magicOptionMask.isLt
    simp only [BitVec.toNat_and, BitVec.toNat_allOnes] at bits
    apply BitVec.eq_of_toNat_eq
    simp only [BitVec.toNat_allOnes]
    omega
  have noTag : P.msgMask = 0 := by
    have disjoint := P.option_mask_disjoint.1
    rwa [mask, BitVec.allOnes_and] at disjoint
  exact P.magic_ne_zero (by rw [← P.magic_masked, noTag]; simp)

/-- The invoker's `ACK` and `BAD_CREDS` differ. -/
theorem Protocol.ack_ne_badCreds (P : Protocol) : P.msgAck ≠ P.msgBadCreds := by
  have distinct := P.codes_distinct
  simp only [List.nodup_cons, List.mem_cons, List.mem_singleton, not_or] at distinct
  exact distinct.2.2.2.2.2.2.2.1.1

theorem or_and_distrib {x y z : BitVec 32} : (x ||| y) &&& z = (x &&& z) ||| (y &&& z) := by
  ext i; simp only [BitVec.getLsbD_and, BitVec.getLsbD_or, Bool.and_or_distrib_right]

theorem and_eq_zero_of_masked {x m n : BitVec 32} (masked : x &&& m = x) (disjoint : m &&& n = 0) :
    x &&& n = 0 := by
  rw [← masked, BitVec.and_assoc, disjoint]; exact BitVec.and_zero

/-- The first word `invoker_send_magic` writes, `MAGIC | VERSION | options`, for option bits
under the option mask: its tag is the magic tag, its version the supported one, and its
option bits are `options`. -/
theorem Protocol.magicWord_fields (P : Protocol) {options : BitVec 32}
    (optionBits : options &&& P.magicOptionMask = options) :
    (P.msgMagic ||| P.magicVersion ||| options) &&& P.msgMask = P.msgMagic ∧
    (P.msgMagic ||| P.magicVersion ||| options) &&& P.magicVersionMask = P.magicVersion ∧
    (P.msgMagic ||| P.magicVersion ||| options) &&& P.magicOptionMask = options := by
  have tagVersion : P.msgMask &&& P.magicVersionMask = 0 := by
    rw [BitVec.and_comm]; exact P.version_mask_disjoint
  have tagOption : P.msgMask &&& P.magicOptionMask = 0 := by
    rw [BitVec.and_comm]; exact P.option_mask_disjoint.1
  have versionOption : P.magicVersionMask &&& P.magicOptionMask = 0 := by
    rw [BitVec.and_comm]; exact P.option_mask_disjoint.2
  simp [or_and_distrib, P.magic_masked, P.version_masked, optionBits,
    and_eq_zero_of_masked P.version_masked P.version_mask_disjoint,
    and_eq_zero_of_masked optionBits P.option_mask_disjoint.1,
    and_eq_zero_of_masked P.magic_masked tagVersion,
    and_eq_zero_of_masked optionBits P.option_mask_disjoint.2,
    and_eq_zero_of_masked P.magic_masked tagOption,
    and_eq_zero_of_masked P.version_masked versionOption]

/-- Modelled from the spec: one assignment of codes meeting the layout of §6 (a 16-bit magic
tag, a version byte and an option byte), used for the concrete runs below. -/
def sampleProtocol : Protocol where
  msgMask := 0xffff0000#32
  msgMagic := 0xb0070000#32
  magicVersionMask := 0x0000ff00#32
  magicVersion := 0x00000300#32
  magicOptionMask := 0x000000ff#32
  msgName := 0x5a5e0000#32
  msgExec := 0xe8ec0000#32
  msgArgs := 0xa4650000#32
  msgEnv := 0xe5710000#32
  msgPrio := 0xa1ce0000#32
  msgIo := 0x10fd0000#32
  msgEnd := 0xdead0000#32
  msgAck := 0x600d0000#32
  msgBadCreds := 0xbad1bad1#32
  magic_masked := by decide
  magic_ne_zero := by decide
  version_masked := by decide
  version_mask_disjoint := by decide
  option_mask_disjoint := by decide
  codes_distinct := by decide

end Applauncherd.Launcher.Codes
