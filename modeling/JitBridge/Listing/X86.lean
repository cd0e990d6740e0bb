import JitBridge.Architecture.Amd64
import JitBridge.Listing.Basic

/-!
A decoder for runs of the program. It knows a few x86-64 instructions only: moves and arithmetic
between registers, stack and control instructions without memory operands. Anything else is shown as
`(bad)`: an instruction that the end of the code cuts off with all bytes that are left, an unknown
one with its first byte. Backends are made with any decoder, so nothing that is proved of them hangs
on which instructions these are.
-/

namespace JitBridge.X86

/-- An operation on two registers. -/
inductive Operation where
  | add | or | and | sub | xor | cmp | test | mov
deriving DecidableEq, Repr

namespace Operation

/-- The operation with that opcode. -/
def ofOpcode? : UInt8 → Option Operation
  | 0x01 => some add
  | 0x09 => some or
  | 0x21 => some and
  | 0x29 => some sub
  | 0x31 => some xor
  | 0x39 => some cmp
  | 0x85 => some test
  | 0x89 => some mov
  | _ => none

def mnemonic : Operation → String
  | add => "add"
  | or => "or"
  | and => "and"
  | sub => "sub"
  | xor => "xor"
  | cmp => "cmp"
  | test => "test"
  | mov => "mov"

end Operation

/-- The width of register operands in bits. -/
inductive Width where
  | bits32 | bits64
deriving DecidableEq, Repr

/-- The name of the register with that encoding. -/
def registerName : Width → Nat → String
  | .bits32, n => ["eax", "ecx", "edx", "ebx", "esp", "ebp", "esi", "edi"].getD n ""
  | .bits64, n => (Amd64.generalRegisters.map (·.name)).getD n ""

/-- An instruction; registers are given by their encodings. -/
inductive Instruction where
  /-- An instruction without operands, by its name. -/
  | plain (name : String)
  | push (register : Nat)
  | pop (register : Nat)
  | binary (operation : Operation) (width : Width) (target source : Nat)
  /-- A return that drops bytes from the stack. -/
  | retDropping (count : Nat)
  | moveImmediate (register value : Nat)
  | bad
deriving DecidableEq, Repr

namespace Instruction

def text : Instruction → String
  | plain name => name
  | push r => "push " ++ registerName .bits64 r
  | pop r => "pop " ++ registerName .bits64 r
  | binary operation width target source =>
      operation.mnemonic ++ " " ++ registerName width target ++ "," ++ registerName width source
  | retDropping n => "ret " ++ Text.operand n
  | moveImmediate r n => "mov " ++ registerName .bits32 r ++ "," ++ Text.operand n
  | bad => "(bad)"

end Instruction

/-- An instruction and how many bytes after its first byte it has. -/
abbrev Found : Type := Instruction × Nat

/-- The number that bytes stand for, lowest first. -/
def little : List UInt8 → Nat
  | [] => 0
  | b :: rest => b.toNat + 256 * little rest

/-- An instruction that the end of the code cuts off takes all that is left. -/
def cutOff (rest : List UInt8) : Found := (.bad, rest.length)

/-- Only the first byte is taken. -/
def unknown : Found := (.bad, 0)

/-- The operation byte of a register operation, and the operand byte after it. The extension bits
of a wide operation give the fourth bit of the two registers. -/
def decodeBinary (width : Width) (before targetHigh sourceHigh : Nat) (opcode : UInt8)
    (rest : List UInt8) : Found :=
  match Operation.ofOpcode? opcode with
  | none => unknown
  | some operation =>
    match rest with
    | [] => (.bad, before)
    | operands :: _ =>
      let n := operands.toNat
      if n / 64 = 3 then
        (.binary operation width (n % 8 + 8 * targetHigh) (n / 8 % 8 + 8 * sourceHigh), before + 1)
      else unknown

/-- A push or pop of the register whose encoding is `high` plus the low bits of the byte. -/
def decodeStack (b : UInt8) (high before : Nat) : Option Found :=
  let n := b.toNat
  if 0x50 ≤ n ∧ n < 0x58 then some (.push (n % 8 + high), before)
  else if 0x58 ≤ n ∧ n < 0x60 then some (.pop (n % 8 + high), before)
  else none

/-- Decodes the instruction that starts with `b`. -/
def decode (b : UInt8) (rest : List UInt8) : Found :=
  match b with
  | 0x90 => (.plain "nop", 0)
  | 0xC3 => (.plain "ret", 0)
  | 0xCC => (.plain "int3", 0)
  | 0xC9 => (.plain "leave", 0)
  | 0xF4 => (.plain "hlt", 0)
  | 0x0F =>
    match rest with
    | [] => cutOff rest
    | 0x0B :: _ => (.plain "ud2", 1)
    | 0x05 :: _ => (.plain "syscall", 1)
    | _ => unknown
  | 0x41 =>
    match rest with
    | [] => cutOff rest
    | b :: _ => (decodeStack b 8 1).getD unknown
  | 0x48 | 0x49 | 0x4C | 0x4D =>
    match rest with
    | [] => cutOff rest
    | opcode :: rest => decodeBinary .bits64 1 (b.toNat % 2) (b.toNat / 4 % 2) opcode rest
  | 0xC2 =>
    match rest with
    | a :: b :: _ => (.retDropping (little [a, b]), 2)
    | _ => cutOff rest
  | _ =>
    if 0xB8 ≤ b.toNat ∧ b.toNat < 0xC0 then
      if rest.length < 4 then cutOff rest
      else (.moveImmediate (b.toNat % 8) (little (rest.take 4)), 4)
    else (decodeStack b 0 0).getD (decodeBinary .bits32 0 0 0 b rest)

@[simp] theorem extra_cutOff (rest : List UInt8) : (cutOff rest).2 = rest.length := rfl

@[simp] theorem extra_unknown : unknown.2 = 0 := rfl

theorem extra_decodeBinary_le (width : Width) (before targetHigh sourceHigh : Nat) (opcode : UInt8)
    (rest : List UInt8) :
    (decodeBinary width before targetHigh sourceHigh opcode rest).2 ≤ before + rest.length := by
  unfold decodeBinary
  split
  · simp
  · cases rest with
    | nil => simp
    | cons operands rest =>
      dsimp only
      split
      · simp only [List.length_cons]
        omega
      · simp

theorem extra_of_decodeStack {b : UInt8} {high before : Nat} {found : Found}
    (stack : decodeStack b high before = some found) : found.2 = before := by
  unfold decodeStack at stack
  grind

/-- No instruction has more bytes than there are. -/
theorem extra_decode_le (b : UInt8) (rest : List UInt8) : (decode b rest).2 ≤ rest.length := by
  unfold decode
  split
  case h_6 => split <;> simp
  case h_7 =>
    cases rest with
    | nil => simp
    | cons b rest =>
      cases stack : decodeStack b 8 1 with
      | none => simp [stack]
      | some found => simp [stack, extra_of_decodeStack stack]
  case h_8 | h_9 | h_10 | h_11 =>
    cases rest with
    | nil => simp
    | cons opcode rest =>
      rw [List.length_cons, Nat.add_comm]
      exact extra_decodeBinary_le ..
  case h_12 => split <;> simp
  case h_13 =>
    split
    · split
      · simp
      · simp only
        omega
    · cases stack : decodeStack b 0 0 with
      | none => simpa using extra_decodeBinary_le .bits32 0 0 0 b rest
      | some found => simp [extra_of_decodeStack stack]
  all_goals exact Nat.zero_le _

/-- The decoder of x86-64 listings. -/
def decoder : Decoder where
  decode address b rest :=
    let (instruction, extra) := decode b rest
    ⟨address, extra + 1, instruction.text⟩
  length_pos _ _ _ := Nat.succ_pos _
  length_le _ b rest := Nat.succ_le_succ (extra_decode_le b rest)
  address_eq _ _ _ := rfl

end JitBridge.X86
