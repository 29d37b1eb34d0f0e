import Coinbend.Library.Packing
import Mathlib.Data.List.TakeWhile
import Mathlib.Data.Nat.Digits.Defs

/-!
# Internet addresses as texts

`inet_aton` reads up to four numbers with dots between them, each decimal,
octal or hexadecimal, of which the last one fills the bytes that are left.
`inet_ntoa` writes four decimal numbers.
-/

namespace InetText

def isSpace (char : Char) : Bool :=
  char = ' ' || ('\t' ≤ char && char ≤ '\r')

/-- The digits of a numeral in a base up to sixteen. -/
def readNumeral (base : ℕ) (text : List Char) : Option ℕ :=
  if text = [] then none
  else
    (text.mapM fun char =>
      ("0123456789abcdef".toList.idxOf? char.toLower).filter (· < base)).map
        fun digits => Nat.ofDigits base digits.reverse

/-- `strtoul(text, &end, 0)` with nothing left at the end. -/
def readPart : List Char → Option ℕ
  | '0' :: mark :: digits =>
      if mark = 'x' ∨ mark = 'X' then readNumeral 16 digits
      else readNumeral 8 (mark :: digits)
  | text => readNumeral 10 text

/-- The four bytes of some numbers. -/
def fillBytes (values : List ℕ) : Option (List UInt8) :=
  let front := values.dropLast
  let last := values.getLastD 0
  if values.length ≤ 4 ∧ (∀ value ∈ front, value < 256) ∧
      last < 256 ^ (4 - front.length) then
    some (front.map UInt8.ofNat ++
      (Packing.bytes (4 - front.length) last).reverse)
  else none

/-- `inet_aton`; what follows a space is not read. -/
def inetAton (text : String) : Option (List UInt8) :=
  let parts := (text.toList.takeWhile fun char => !isSpace char).splitOn '.'
  (parts.mapM readPart).bind fillBytes

/-- `inet_ntoa`. -/
def inetNtoa (address : List UInt8) : String :=
  String.ofList (List.intercalate ['.']
    (address.map fun byte => Nat.toDigits 10 byte.toNat))

/-- The texts of addresses. -/
def DottedQuad (text : String) : Prop :=
  ∃ address : List UInt8, address.length = 4 ∧ text = inetNtoa address

/-- A byte is read back, and its text has neither dots nor spaces. -/
theorem readPart_byte :
    ∀ byte < 256,
      readPart (Nat.toDigits 10 byte) = some byte ∧
        ((Nat.toDigits 10 byte).all fun char =>
          !(char == '.') && !isSpace char) = true := by
  decide +kernel

section

variable (byte : UInt8)

theorem readPart_toDigits :
    readPart (Nat.toDigits 10 byte.toNat) = some byte.toNat :=
  (readPart_byte byte.toNat byte.toNat_lt).1

theorem plain_toDigits :
    ∀ char ∈ Nat.toDigits 10 byte.toNat,
      char ≠ '.' ∧ isSpace char = false := by
  intro char member
  have plain := List.all_eq_true.mp
    (readPart_byte byte.toNat byte.toNat_lt).2 char member
  rw [Bool.and_eq_true, Bool.not_eq_true', Bool.not_eq_true',
    beq_eq_false_iff_ne] at plain
  exact plain

end

theorem exists_four_bytes
    {address : List UInt8}
    (length : address.length = 4) :
    ∃ a b c d, address = [a, b, c, d] := by
  match address, length with
  | [a, b, c, d], _ => exact ⟨a, b, c, d, rfl⟩

/-- Bytes fill themselves. -/
theorem fillBytes_toNat
    {address : List UInt8}
    (length : address.length = 4) :
    fillBytes (address.map UInt8.toNat) = some address := by
  obtain ⟨a, b, c, d, rfl⟩ := exists_four_bytes length
  have a_lt := a.toNat_lt
  have b_lt := b.toNat_lt
  have c_lt := c.toNat_lt
  have d_lt := d.toNat_lt
  simp only [fillBytes, List.map_cons, List.map_nil, List.dropLast,
    List.getLastD, List.length_cons, List.length_nil]
  rw [if_pos]
  · simp [Packing.bytes]
  · simp only [List.forall_mem_cons, List.getLast]
    simp
    omega

theorem eq_or_mem_of_mem_intersperse
    {separator part : List Char}
    {parts : List (List Char)}
    (listed : part ∈ parts.intersperse separator) :
    part = separator ∨ part ∈ parts := by
  induction parts with
  | nil => cases listed
  | cons first parts hypothesis =>
      cases parts with
      | nil => exact Or.inr listed
      | cons second parts =>
          rw [List.intersperse_cons_cons, List.mem_cons, List.mem_cons] at listed
          rcases listed with rfl | rfl | later
          · exact Or.inr List.mem_cons_self
          · exact Or.inl rfl
          · exact (hypothesis later).imp_right (List.mem_cons_of_mem _)

/-- A written address has no spaces. -/
theorem isSpace_inetNtoa (address : List UInt8) :
    ∀ char ∈ (inetNtoa address).toList, isSpace char = false := by
  intro char member
  rw [inetNtoa, String.toList_ofList, List.intercalate, List.mem_flatten]
    at member
  obtain ⟨part, listed, member⟩ := member
  rcases eq_or_mem_of_mem_intersperse listed with rfl | listed
  · rw [List.mem_singleton.mp member]
    rfl
  · obtain ⟨byte, -, rfl⟩ := List.mem_map.mp listed
    exact (plain_toDigits byte char member).2

theorem mapM_readPart (address : List UInt8) :
    (address.map fun byte => Nat.toDigits 10 byte.toNat).mapM readPart =
      some (address.map UInt8.toNat) := by
  induction address with
  | nil => rfl
  | cons byte address hypothesis =>
      rw [List.map_cons, List.mapM_cons, readPart_toDigits, hypothesis]
      rfl

/-- A written address is read back. -/
theorem inetAton_inetNtoa
    {address : List UInt8}
    (length : address.length = 4) :
    inetAton (inetNtoa address) = some address := by
  have whole : (inetNtoa address).toList.takeWhile (fun char => !isSpace char) =
      (inetNtoa address).toList := by
    rw [List.takeWhile_eq_self_iff]
    intro char member
    rw [isSpace_inetNtoa address char member]
    rfl
  have nonempty : (address.map fun byte => Nat.toDigits 10 byte.toNat) ≠ [] := by
    rw [← List.length_pos_iff_ne_nil, List.length_map]
    omega
  have free : ∀ part ∈ address.map fun byte => Nat.toDigits 10 byte.toNat,
      '.' ∉ part := by
    intro part listed dot
    obtain ⟨byte, -, rfl⟩ := List.mem_map.mp listed
    exact (plain_toDigits byte '.' dot).1 rfl
  rw [inetAton, whole, inetNtoa, String.toList_ofList,
    List.splitOn_intercalate '.' free nonempty, mapM_readPart,
    Option.bind_some, fillBytes_toNat length]

end InetText
