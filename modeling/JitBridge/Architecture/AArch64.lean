import JitBridge.Architecture.Basic

/-!
The register file of AArch64: `r0` to `r30`, the zero register and the stack pointer, which share an
encoding, then 32 vector registers.
-/

namespace JitBridge.AArch64

/-- The general register `r0` to `r30`. -/
def r (n : Nat) : Register := .general ("r" ++ toString n) n n

def zr : Register := .general "zr" 31 31
def sp : Register := .general "sp" 32 31

/-- The vector register `v0` to `v31`. -/
def v (n : Nat) : Register := .floating ("v" ++ toString n) (33 + n) n

/-- The AArch64 architecture. -/
def architecture : Architecture where
  name := .aarch64
  wordSize := 8
  registers := (List.range 31).map r ++ [zr, sp] ++ (List.range 32).map v
  available := (List.range 31).map r ++ [zr, sp] ++ (List.range 32).map v
  returnAddressSize := 0

end JitBridge.AArch64
