import JitBridge.Proofs.Code.Execution
import JitBridge.Listing.X86

/-!
Listings lose nothing: read back from its text, a listing has every byte of the code once, in order,
and each row starts at the address of its first byte.

A decoder goes through the code, but the bytes of a line are cut out by the address that the decoder
reports; `Decoder.exists_lines` says that the two agree while no address wraps around. The lines
then cover the code one behind the other (`ListingLine.Covers`). The columns of a row are found
again by their width and by the blank that ends the bytes, and hold the digits of their numbers
(`Text.digits`), so `Decoder.listing_lossless` is about the text.
-/

namespace JitBridge

/-! ### Digits and columns -/

namespace Text

/-- The digits of upper-case numbers. -/
def hexDigits : List Char := "0123456789ABCDEF".toList

/-- The last digits of a number in base 16, as many as a column has. -/
def digits : (width : Nat) → Nat → List Char
  | 0, _ => []
  | width + 1, n => digits width (n / 16) ++ [hexDigits.getD (n % 16) '0']

theorem length_digits (width n : Nat) : (digits width n).length = width := by
  induction width generalizing n with
  | zero => rfl
  | succ width ih => rw [digits, List.length_append, ih, List.length_singleton]

theorem mem_hexDigits_of_mem_digits {width n : Nat} {c : Char} (mem : c ∈ digits width n) :
    c ∈ hexDigits := by
  induction width generalizing n with
  | zero => cases mem
  | succ width ih =>
    have last : ∀ d < 16, hexDigits.getD d '0' ∈ hexDigits := by decide
    rcases List.mem_append.mp mem with high | low
    · exact ih high
    · exact List.mem_singleton.mp low ▸ last _ (Nat.mod_lt _ (by decide))

/-- Zeros in front of a number are the digits that its column has more than the number. -/
theorem digits_zero (width : Nat) : digits width 0 = List.replicate width '0' := by
  induction width with
  | zero => rfl
  | succ width ih =>
    rw [digits, Nat.zero_div, ih, List.replicate_succ']
    rfl

theorem toList_padZeros (width : Nat) (text : String) :
    (padZeros width text).toList = List.replicate (width - text.length) '0' ++ text.toList := by
  rw [padZeros, String.toList_append, String.toList_ofList]

theorem toList_hexUpper (n : Nat) :
    (hexUpper n).toList = if n < 16 then [hexDigits.getD n '0']
      else (hexUpper (n / 16)).toList ++ [hexDigits.getD (n % 16) '0'] := by
  have upper : ∀ d < 16, (Nat.digitChar d).toUpper = hexDigits.getD d '0' := by decide
  rw [hexUpper, hexUpper, String.toList_ofList, String.toList_ofList,
    Nat.toDigits_eq_if (by decide)]
  split
  · rename_i small
    rw [List.map_singleton, upper n small]
  · rw [List.map_append, List.map_singleton, upper _ (Nat.mod_lt _ (by decide))]

/-- A number that fits its column is shown with the digits of the column. -/
theorem toList_padZeros_hexUpper {width n : Nat} (positive : 0 < width) (fits : n < 16 ^ width) :
    (padZeros width (hexUpper n)).toList = digits width n := by
  rw [toList_padZeros, ← String.length_toList]
  induction width generalizing n with
  | zero => cases positive
  | succ width ih =>
    rw [toList_hexUpper, digits]
    split
    · rename_i small
      rw [Nat.div_eq_of_lt small, Nat.mod_eq_of_lt small, digits_zero]
      rfl
    · rename_i large
      have fits : n / 16 < 16 ^ width := by
        rw [Nat.pow_succ] at fits
        exact Nat.div_lt_of_lt_mul (Nat.mul_comm _ _ ▸ fits)
      have positive : 0 < width := by
        rcases Nat.eq_zero_or_pos width with rfl | positive
        · omega
        · exact positive
      rw [← ih positive fits, List.append_assoc, List.length_append, List.length_singleton,
        Nat.add_sub_add_right]

theorem toList_hexWord (w : UInt64) : (hexWord w).toList = digits 16 w.toNat :=
  toList_padZeros_hexUpper (by decide) w.toNat_lt

theorem toList_hexByte (b : UInt8) : (hexByte b).toList = digits 2 b.toNat :=
  toList_padZeros_hexUpper (by decide) b.toNat_lt

theorem toList_hexBytes (bytes : List UInt8) :
    (hexBytes bytes).toList = bytes.flatMap fun b => digits 2 b.toNat := by
  rw [hexBytes, String.toList_join, List.flatMap_map]
  simp only [toList_hexByte]

theorem length_hexBytes (bytes : List UInt8) :
    (hexBytes bytes).toList.length = 2 * bytes.length := by
  rw [toList_hexBytes]
  simp [List.length_flatMap, length_digits, List.map_const', Nat.mul_comm]

theorem mem_hexDigits_of_mem_hexBytes {bytes : List UInt8} {c : Char}
    (mem : c ∈ (hexBytes bytes).toList) : c ∈ hexDigits := by
  rw [toList_hexBytes] at mem
  obtain ⟨b, -, digit⟩ := List.mem_flatMap.mp mem
  exact mem_hexDigits_of_mem_digits digit

end Text

/-! ### Reading a listing back -/

namespace Listing

/-- The rows of a text, each of which ends with a line end. -/
def rows (text : String) : List (List Char) := (text.toList.splitOn '\n').dropLast

/-- The address column of a row. -/
def addressColumn (row : List Char) : List Char := row.take 16

/-- The column of bytes, which a blank ends. -/
def bytesColumn (row : List Char) : List Char := (row.drop 17).takeWhile (· ≠ ' ')

/-- The number of bytes on a row, two digits each. -/
def byteCount (row : List Char) : Nat := (bytesColumn row).length / 2

theorem splitOn_flatMap_lineEnd {lines : List (List Char)} (plain : ∀ line ∈ lines, '\n' ∉ line) :
    (lines.flatMap (· ++ ['\n'])).splitOn '\n' = lines ++ [[]] := by
  induction lines with
  | nil => rfl
  | cons line lines ih =>
    obtain ⟨own, later⟩ := List.forall_mem_cons.mp plain
    rw [List.flatMap_cons, List.append_assoc, List.singleton_append,
      List.splitOn_append_cons_self_of_not_mem own, ih later, List.cons_append]

end Listing

namespace ListingLine

variable (line : ListingLine)

/-- What a line shows in front of its line end. -/
def row : List Char :=
  (Text.hexWord line.address).toList ++ ' ' :: ((Text.hexBytes line.bytes).toList ++
    (Text.blanks (20 - (Text.hexBytes line.bytes).length)).toList ++ ' ' :: line.text.toList)

theorem toList_render : line.render.toList = line.row ++ ['\n'] := by
  simp [render, row, Text.padRight]

theorem addressColumn_row :
    Listing.addressColumn line.row = Text.digits 16 line.address.toNat := by
  rw [Listing.addressColumn, row, Text.toList_hexWord]
  exact List.take_left' (Text.length_digits 16 _)

/-- The blank in front of the text ends the bytes, also where they overflow their column. -/
theorem bytesColumn_row : Listing.bytesColumn line.row = (Text.hexBytes line.bytes).toList := by
  have digits : ∀ c ∈ (Text.hexBytes line.bytes).toList, decide (c ≠ ' ') = true := by
    intro c mem
    have noBlank : ' ' ∉ Text.hexDigits := by decide
    exact decide_eq_true fun blank => noBlank (blank ▸ Text.mem_hexDigits_of_mem_hexBytes mem)
  have behind : line.row.drop 17 = (Text.hexBytes line.bytes).toList ++
      ((Text.blanks (20 - (Text.hexBytes line.bytes).length)).toList ++
        ' ' :: line.text.toList) := by
    have width := Text.length_digits 16 line.address.toNat
    rw [row, Text.toList_hexWord, List.drop_append, List.drop_eq_nil_of_le (by omega), width,
      List.append_assoc]
    rfl
  rw [Listing.bytesColumn, behind, List.takeWhile_append_of_pos digits, Text.blanks,
    String.toList_ofList]
  cases 20 - (Text.hexBytes line.bytes).length <;> simp [List.replicate_succ]

theorem byteCount_row : Listing.byteCount line.row = line.bytes.length := by
  rw [Listing.byteCount, bytesColumn_row, Text.length_hexBytes,
    Nat.mul_div_cancel_left _ (by decide)]

theorem lineEnd_not_mem_row (plain : '\n' ∉ line.text.toList) : '\n' ∉ line.row := by
  have noLineEnd : '\n' ∉ Text.hexDigits := by decide
  have word : '\n' ∉ (Text.hexWord line.address).toList := by
    rw [Text.toList_hexWord]
    exact fun mem => noLineEnd (Text.mem_hexDigits_of_mem_digits mem)
  have bytes : '\n' ∉ (Text.hexBytes line.bytes).toList :=
    fun mem => noLineEnd (Text.mem_hexDigits_of_mem_hexBytes mem)
  simp [row, word, bytes, plain, Text.blanks]

/-- The lines have bytes one behind the other, at least one each, from an address on. -/
def Covers (start : Nat) : List ListingLine → List UInt8 → Prop
  | [], code => code = []
  | line :: lines, code => line.address.toNat = start ∧ line.bytes ≠ [] ∧
      ∃ rest, code = line.bytes ++ rest ∧ Covers (start + line.bytes.length) lines rest

namespace Covers

variable {start : Nat} {lines : List ListingLine} {code : List UInt8}

theorem flatMap_bytes (covers : Covers start lines code) : lines.flatMap (·.bytes) = code := by
  induction lines generalizing start code with
  | nil => exact Eq.symm covers
  | cons line lines ih =>
    obtain ⟨-, -, rest, rfl, later⟩ := covers
    rw [List.flatMap_cons, ih later]

/-- A line starts behind the bytes of the lines before it. -/
theorem toNat_address {earlier later : List ListingLine} {line : ListingLine}
    (covers : Covers start (earlier ++ line :: later) code) :
    line.address.toNat = start + (earlier.map (·.bytes.length)).sum := by
  induction earlier generalizing start code with
  | nil => exact covers.1
  | cons first earlier ih =>
    obtain ⟨-, -, rest, -, covers⟩ := covers
    rw [ih covers, List.map_cons, List.sum_cons, Nat.add_assoc]

theorem eq_nil_iff (covers : Covers start lines code) : lines = [] ↔ code = [] := by
  cases lines with
  | nil => exact iff_of_true rfl covers
  | cons line lines =>
    obtain ⟨-, some, rest, rfl, -⟩ := covers
    simp [some]

end Covers
end ListingLine

/-! ### The lines of a listing -/

namespace Decoded

/-- An instruction that starts at a distance from the load address has its bytes cut out there. -/
theorem line_eq {address : UInt64} {code : List UInt8} {found : Decoded} {offset : Nat}
    (start : found.address.toNat = address.toNat + offset)
    (inside : offset + found.length ≤ code.length) :
    found.line address code =
      .ok ⟨found.address, (code.drop offset).take found.length, found.text⟩ := by
  have above : address ≤ found.address := by
    rw [UInt64.le_iff_toNat_le]
    omega
  have distance : (found.address - address).toNat = offset := by
    rw [UInt64.toNat_sub_of_le _ _ above]
    omega
  rw [line, if_neg (UInt64.not_lt.mpr above), distance]
  exact if_pos inside

end Decoded

namespace Decoder

variable (decoder : Decoder) {address : UInt64} {code : List UInt8}

/-- From any place of the code on, the decoded instructions have lines that cover what is left. -/
theorem exists_lines_drop (inside : address.toNat + code.length ≤ 2 ^ 64) (offset : Nat)
    {here : UInt64} {left : List UInt8} (place : here = address + UInt64.ofNat offset)
    (behind : left = code.drop offset) :
    ∃ lines, (decoder.instructions here left).mapM (Decoded.line address code) = .ok lines ∧
      ListingLine.Covers (address.toNat + offset) lines left ∧
      lines.map (·.text) = (decoder.instructions here left).map (·.text) := by
  fun_induction Decoder.instructions decoder here left generalizing offset with
  | case1 here => exact ⟨[], rfl, rfl, rfl⟩
  | case2 here b rest found ih =>
    have length : code.length = offset + (rest.length + 1) := by
      have counted := congrArg List.length behind
      rw [List.length_cons, List.length_drop] at counted
      omega
    have start : found.address.toNat = address.toNat + offset := by
      have own : found.address = here := decoder.address_eq here b rest
      rw [own, place, UInt64.toNat_add, UInt64.toNat_ofNat']
      omega
    have positive : 0 < found.length := decoder.length_pos here b rest
    have most : found.length ≤ rest.length + 1 := decoder.length_le here b rest
    have taken : ((b :: rest).take found.length).length = found.length := by
      rw [List.length_take, List.length_cons]
      omega
    obtain ⟨lines, later, covers, texts⟩ := ih (offset + found.length)
      (by rw [place, UInt64.ofNat_add, UInt64.add_assoc]) (by rw [behind, List.drop_drop])
    refine ⟨⟨found.address, (b :: rest).take found.length, found.text⟩ :: lines, ?_, ?_, ?_⟩
    · rw [List.mapM_cons, Decoded.line_eq start (by omega), later, behind]
      rfl
    · refine ⟨start, ?_, (b :: rest).drop found.length, (List.take_append_drop ..).symm, ?_⟩
      · rw [← List.length_pos_iff, taken]
        exact positive
      · rw [taken, Nat.add_assoc]
        exact covers
    · rw [List.map_cons, List.map_cons, texts]

theorem exists_lines (inside : address.toNat + code.length ≤ 2 ^ 64) :
    ∃ lines, (decoder.instructions address code).mapM (Decoded.line address code) = .ok lines ∧
      ListingLine.Covers address.toNat lines code ∧
      lines.map (·.text) = (decoder.instructions address code).map (·.text) :=
  decoder.exists_lines_drop inside 0 (by simp) rfl

/-- Lines that are written one behind the other are read back as rows. -/
theorem rows_join {lines : List ListingLine} (plain : ∀ line ∈ lines, '\n' ∉ line.text.toList) :
    Listing.rows (String.join (lines.map ListingLine.render)) = lines.map ListingLine.row := by
  have lineEnds : ∀ row ∈ lines.map ListingLine.row, '\n' ∉ row := by
    intro row mem
    obtain ⟨line, own, rfl⟩ := List.mem_map.mp mem
    exact line.lineEnd_not_mem_row (plain line own)
  have written : (String.join (lines.map ListingLine.render)).toList =
      (lines.map ListingLine.row).flatMap (· ++ ['\n']) := by
    simp [String.toList_join, List.flatMap_map, ListingLine.toList_render]
  rw [Listing.rows, written, Listing.splitOn_flatMap_lineEnd lineEnds, List.dropLast_concat]

/-- The rows of a listing are its lines. -/
theorem exists_rows (inside : address.toNat + code.length ≤ 2 ^ 64)
    (plain : ∀ found ∈ decoder.instructions address code, '\n' ∉ found.text.toList) :
    ∃ text lines, decoder.listing address code = .ok text ∧
      ListingLine.Covers address.toNat lines code ∧
      Listing.rows text = lines.map ListingLine.row ∧ (text = "" ↔ lines = []) := by
  obtain ⟨lines, made, covers, texts⟩ := decoder.exists_lines inside
  have plain : ∀ line ∈ lines, '\n' ∉ line.text.toList := by
    intro line own
    have shown : line.text ∈ (decoder.instructions address code).map (·.text) :=
      texts ▸ List.mem_map_of_mem own
    obtain ⟨found, decoded, same⟩ := List.mem_map.mp shown
    exact same ▸ plain found decoded
  refine ⟨String.join (lines.map ListingLine.render), lines, ?_, covers, rows_join plain, ?_⟩
  · rw [listing, made]
    rfl
  · rw [← String.toList_inj, String.toList_join]
    cases lines <;> simp [ListingLine.toList_render]

end Decoder

/-! ### Listings of installed code -/

theorem CacheState.decoder_call (state : CacheState) (call : CacheCall) :
    (state.call call).2.cache.decoder = state.cache.decoder := by
  cases call with
  | attach executor =>
    rw [CacheState.call, CodeCache.attach]
    cases state.cache.executor <;> rfl
  | invalidate h =>
    cases found : state.codes[h]? with
    | none => rw [call_invalidate_of_missing found]
    | some installation => rw [call_invalidate found]
  | _ => rfl

namespace CodeSpace

/-- The disassembler of a cache. -/
def decoder? (space : CodeSpace) (place : Nat) : Option Decoder :=
  space.caches[place]?.bind (·.decoder)

variable (space : CodeSpace)

theorem decoder?_call (place : Nat) (call : CacheCall) (p : Nat) :
    (space.call place call).2.decoder? p = space.decoder? p := by
  cases found : space.caches[place]? with
  | none => rw [call_of_missing found]
  | some cache =>
    rw [call_of_found found, decoder?, decoder?]
    by_cases same : place = p
    · subst same
      rw [caches_put_self found, found]
      exact CacheState.decoder_call ⟨cache, space.codes⟩ call
    · rw [caches_put_of_ne _ same]

theorem decoder?_after (calls : List (Nat × CacheCall)) (p : Nat) :
    (space.after calls).decoder? p = space.decoder? p := by
  induction calls generalizing space with
  | nil => rfl
  | cons call calls ih => exact (ih _).trans (space.decoder?_call call.1 call.2 p)

/-- Code is listed at its entry, whether it is valid or not. -/
theorem listing_eq {h : Handle} {installation : Installation}
    (stored : space.codes[h]? = some installation) (place : Nat) :
    space.listing place h = (space.decoder? place).map
      (·.listing installation.code.entry installation.code.artifact.code) := by
  rw [listing, stored, decoder?]
  cases space.caches[place]? <;> rfl

end CodeSpace

namespace Decoder

/-- Code whose addresses do not wrap around has a listing, whatever decoder it is made with. Read
back row by row, the listing has the digits of every byte of the code, in order, and each row starts
with the address of its first byte; it is empty for empty code alone. A code cache lists installed
code at its entry, and lists it alike after any calls, be the code invalidated by them or not. -/
theorem listing_lossless (decoder : Decoder) (address : UInt64) (code : List UInt8)
    (inside : address.toNat + code.length ≤ 2 ^ 64)
    (plain : ∀ found ∈ decoder.instructions address code, '\n' ∉ found.text.toList) :
    (∃ text, decoder.listing address code = .ok text ∧
      (Listing.rows text).flatMap Listing.bytesColumn =
        code.flatMap (fun b => Text.digits 2 b.toNat) ∧
      (∀ earlier row later, Listing.rows text = earlier ++ row :: later →
        let before := (earlier.map Listing.byteCount).sum
        address.toNat + before < 2 ^ 64 ∧
          Listing.addressColumn row = Text.digits 16 (address.toNat + before)) ∧
      (text = "" ↔ code = [])) ∧
    ∀ (space : CodeSpace) (place : Nat) (h : Handle) (installation : Installation)
      (calls : List (Nat × CacheCall)), space.codes[h]? = some installation →
        space.listing place h = (space.decoder? place).map
          (·.listing installation.code.entry installation.code.artifact.code) ∧
        (space.after calls).listing place h = space.listing place h := by
  constructor
  · obtain ⟨text, lines, made, covers, rows, empty⟩ := decoder.exists_rows inside plain
    refine ⟨text, made, ?_, ?_, empty.trans covers.eq_nil_iff⟩
    · rw [rows, ← covers.flatMap_bytes, List.flatMap_assoc, List.flatMap_map]
      simp only [ListingLine.bytesColumn_row, Text.toList_hexBytes]
    · intro earlier row later split before
      rw [rows, List.map_eq_append_iff] at split
      obtain ⟨linesBefore, more, rfl, rfl, split⟩ := split
      obtain ⟨line, linesLater, rfl, rfl, rfl⟩ := List.map_eq_cons_iff.mp split
      have counted : ((linesBefore.map ListingLine.row).map Listing.byteCount).sum =
          (linesBefore.map (·.bytes.length)).sum := by
        rw [List.map_map]
        exact congrArg _ (List.map_congr_left fun line _ => line.byteCount_row)
      have start : line.address.toNat = address.toNat + before := by
        rw [covers.toNat_address, ← counted]
      rw [← start, line.addressColumn_row]
      exact ⟨line.address.toNat_lt, rfl⟩
  · intro space place h installation calls stored
    have entry := space.listing_eq stored place
    refine ⟨entry, ?_⟩
    rw [entry, (space.after calls).listing_eq (space.getElem?_codes_after stored calls),
      space.decoder?_after calls, Installation.entry_endedIf, Installation.artifact_endedIf]

/-- A move, a return and an instruction that the end of the code cuts off, up to the last address
there is: the return is at the last but one. The code is listed alike once its cache has invalidated
it. -/
theorem listing_lossless_of_cut_off :
    let address : UInt64 := 0xFFFFFFFFFFFFFFFB
    let code : List UInt8 := [0x48, 0x89, 0xF8, 0xC3, 0x0F]
    let space : CodeSpace := ⟨[⟨.ofArchitecture Amd64.architecture 16 true, some X86.decoder, none,
      ∅, 2, 0x7f0000000020⟩], [⟨⟨1, 0x7f0000000000, 0, true, ⟨"cut", code, 0, none⟩⟩, none⟩]⟩
    (∃ text move ret bad, X86.decoder.listing address code = .ok text ∧ text ≠ "" ∧
      Listing.rows text = [move, ret, bad] ∧
      Listing.addressColumn ret = "FFFFFFFFFFFFFFFE".toList ∧
      (Listing.rows text).flatMap Listing.bytesColumn = "4889F8C30F".toList) ∧
    (space.after [(0, .invalidate 0)]).listing 0 0 =
      some (X86.decoder.listing 0x7f0000000000 code) := by
  intro address code space
  have move : X86.decoder.decode address 0x48 [0x89, 0xF8, 0xC3, 0x0F] =
      ⟨address, 3, "mov rax,rdi"⟩ := rfl
  have ret : X86.decoder.decode (address + 3) 0xC3 [0x0F] = ⟨address + 3, 1, "ret"⟩ := rfl
  have bad : X86.decoder.decode (address + 4) 0x0F [] = ⟨address + 4, 1, "(bad)"⟩ := rfl
  have decoded : X86.decoder.instructions address code =
      [⟨address, 3, "mov rax,rdi"⟩, ⟨address + 3, 1, "ret"⟩, ⟨address + 4, 1, "(bad)"⟩] := by
    simp [Decoder.instructions, code, move, ret, bad, UInt64.add_assoc]
  have plain : ∀ found ∈ X86.decoder.instructions address code, '\n' ∉ found.text.toList := by
    rw [decoded]
    decide
  obtain ⟨⟨text, made, bytes, addresses, empty⟩, kept⟩ :=
    listing_lossless X86.decoder address code (by decide) plain
  obtain ⟨entry, alike⟩ := kept space 0 0 _ [(0, .invalidate 0)] rfl
  let lines : List ListingLine := [⟨address, [0x48, 0x89, 0xF8], "mov rax,rdi"⟩,
    ⟨address + 3, [0xC3], "ret"⟩, ⟨address + 4, [0x0F], "(bad)"⟩]
  have read : (X86.decoder.instructions address code).mapM (Decoded.line address code) =
      .ok lines := by
    rw [decoded]
    decide
  have listed : X86.decoder.listing address code =
      .ok (String.join (lines.map ListingLine.render)) := by
    rw [listing, read]
    rfl
  obtain rfl := Except.ok.inj (made.symm.trans listed)
  have rows : Listing.rows _ = lines.map ListingLine.row := rows_join (by decide)
  have second := (addresses [_] _ [_] rows).2
  refine ⟨⟨_, _, _, _, made, fun none => absurd (empty.mp none) (List.cons_ne_nil _ _), rows,
    second.trans (by decide), ?_⟩, ?_⟩
  · rw [bytes]
    rfl
  · rw [alike, entry]
    rfl

end Decoder
end JitBridge
