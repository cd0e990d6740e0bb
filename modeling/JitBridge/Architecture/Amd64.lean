import JitBridge.Architecture.Basic

/-!
The register file of x86-64: sixteen general registers, numbered and encoded alike, then sixteen
vector registers.
-/

namespace JitBridge.Amd64

def rax : Register := .general "rax" 0 0
def rcx : Register := .general "rcx" 1 1
def rdx : Register := .general "rdx" 2 2
def rbx : Register := .general "rbx" 3 3
def rsp : Register := .general "rsp" 4 4
def rbp : Register := .general "rbp" 5 5
def rsi : Register := .general "rsi" 6 6
def rdi : Register := .general "rdi" 7 7
def r8 : Register := .general "r8" 8 8
def r9 : Register := .general "r9" 9 9
def r10 : Register := .general "r10" 10 10
def r11 : Register := .general "r11" 11 11
def r12 : Register := .general "r12" 12 12
def r13 : Register := .general "r13" 13 13
def r14 : Register := .general "r14" 14 14
def r15 : Register := .general "r15" 15 15

/-- The vector register `xmm0` to `xmm15`. -/
def xmm (n : Nat) : Register := .floating ("xmm" ++ toString n) (16 + n) n

def generalRegisters : List Register :=
  [rax, rcx, rdx, rbx, rsp, rbp, rsi, rdi, r8, r9, r10, r11, r12, r13, r14, r15]

def vectorRegisters : List Register := (List.range 16).map xmm

/-- The x86-64 architecture. -/
def architecture : Architecture where
  name := .amd64
  wordSize := 8
  registers := generalRegisters ++ vectorRegisters
  available := generalRegisters ++ vectorRegisters
  returnAddressSize := 8

end JitBridge.Amd64
