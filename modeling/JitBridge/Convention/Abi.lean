import JitBridge.Architecture.AArch64
import JitBridge.Architecture.Amd64
import JitBridge.Convention.Assigner

/-!
The binary interfaces of the supported platforms: which registers carry parameters and results in
managed and in native calls, and which registers the allocator never gets. Managed calls hand out
the native integer registers rotated by one, so that the first native one is taken last.
-/

namespace JitBridge

/-- The register usage of a platform. -/
structure Abi where
  /-- Registers the allocator never gets. -/
  reserved : List Register
  /-- Holds the heap base if references are compressed, and is then not allocatable either. -/
  heapBase : Register
  /-- Integer parameters of managed calls. -/
  managed : List Register
  /-- Integer parameters of native calls. -/
  native : List Register
  /-- Floating point parameters of all calls. -/
  float : List Register
  integerReturn : Register
  floatReturn : Register
  /-- Holds the stack frame. -/
  frame : Register
  /-- Whether a native call leaves a word for each of its integer parameter registers. -/
  nativeHomeSpace : Bool
deriving DecidableEq, Repr

namespace Abi

open Amd64 in
/-- x86-64 on Unix. -/
def amd64Unix : Abi where
  reserved := [rsp, r15]
  heapBase := r12
  managed := [rsi, rdx, rcx, r8, r9, rdi]
  native := [rdi, rsi, rdx, rcx, r8, r9]
  float := (List.range 8).map xmm
  integerReturn := rax
  floatReturn := xmm 0
  frame := rsp
  nativeHomeSpace := false

open Amd64 in
/-- x86-64 on Windows. -/
def amd64Windows : Abi where
  reserved := [rsp, r15]
  heapBase := r12
  managed := [rdx, r8, r9, rdi, rsi, rcx]
  native := [rcx, rdx, r8, r9]
  float := (List.range 8).map xmm
  integerReturn := rax
  floatReturn := xmm 0
  frame := rsp
  nativeHomeSpace := true

open AArch64 in
/-- AArch64. Reserved are two scratch registers, the thread register, the frame pointer, the link
register, the zero register and the stack pointer. -/
def aarch64 : Abi where
  reserved := [r 8, r 9, r 28, r 29, r 30, zr, sp]
  heapBase := r 27
  managed := [r 1, r 2, r 3, r 4, r 5, r 6, r 7, r 0]
  native := (List.range 8).map r
  float := (List.range 8).map v
  integerReturn := r 0
  floatReturn := v 0
  frame := sp
  nativeHomeSpace := false

/-- The interface of a platform. -/
def of (arch : Arch) (windows : Bool) : Abi :=
  match arch with
  | .amd64 => if windows then amd64Windows else amd64Unix
  | .aarch64 => aarch64

/-- The integer parameter registers of a call. -/
def general (abi : Abi) (callType : CallType) : List Register :=
  if callType.isNative then abi.native else abi.managed

/-- The bytes a call leaves in front of its stack arguments. -/
def homeSpace (abi : Abi) (callType : CallType) (wordSize : Nat) : Except Panic Nat :=
  if callType.isNative && abi.nativeHomeSpace then
    Size.multiply (abi.general callType).length wordSize
  else .ok 0

/-- The pools from which a call draws. -/
def pools (abi : Abi) (callType : CallType) (wordSize : Nat) : Except Panic Pools :=
  (abi.homeSpace callType wordSize).map fun homeSpace =>
    { general := abi.general callType
      float := abi.float
      integerReturn := abi.integerReturn
      floatReturn := abi.floatReturn
      wordSize, homeSpace }

end Abi
end JitBridge
