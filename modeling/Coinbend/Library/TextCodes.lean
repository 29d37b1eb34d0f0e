import Mathlib.Data.Nat.Digits.Lemmas

/-!
# Bytes as texts

Hexadecimal texts as `binascii.hexlify` and `binascii.unhexlify` write and read
them, the numbers they stand for, and base 64 as `base64.b64encode` and
`base64.b64decode` write and read it.
-/

namespace Hexadecimal

def digits : List Char := "0123456789abcdef".toList

/-- The letter of a hexadecimal digit. -/
def letter (digit : ℕ) : Char :=
  digits.getD digit '0'

/-- The digit of a letter of either case. -/
def digitOf (char : Char) : Option ℕ :=
  digits.idxOf? char.toLower

/-- The digits of some bytes, two for each. -/
def nibbles (bytes : List UInt8) : List ℕ :=
  bytes.flatMap fun byte => [byte.toNat / 16, byte.toNat % 16]

/-- `binascii.hexlify`. -/
def hexlify (bytes : List UInt8) : List Char :=
  (nibbles bytes).map letter

/-- `binascii.unhexlify`; `none` for an odd length and for other letters. -/
def unhexlify : List Char → Option (List UInt8)
  | [] => some []
  | [_] => none
  | high :: low :: rest => do
      let high ← digitOf high
      let low ← digitOf low
      let bytes ← unhexlify rest
      return UInt8.ofNat (16 * high + low) :: bytes

/-- `int(text, 16)` of a text of digits; an empty text is no number. -/
def readNumber (text : List Char) : Option ℕ :=
  if text = [] then none
  else (text.mapM digitOf).map fun digits => Nat.ofDigits 16 digits.reverse

/-- `"{0:0{1}x}".format(number, width)`. -/
def padded (number width : ℕ) : List Char :=
  (Nat.digitsAppend 16 width number).reverse.map letter

/-- The number whose digits in base 256 are some bytes. -/
def bytesNumber (bytes : List UInt8) : ℕ :=
  Nat.ofDigits 256 (bytes.map UInt8.toNat).reverse

theorem digitOf_letter {digit : ℕ} (valid : digit < 16) :
    digitOf (letter digit) = some digit := by
  revert digit
  decide

theorem nibbles_lt {bytes : List UInt8} :
    ∀ digit ∈ nibbles bytes, digit < 16 := by
  intro digit member
  simp only [nibbles, List.mem_flatMap, List.mem_cons, List.not_mem_nil,
    or_false] at member
  obtain ⟨byte, -, rfl | rfl⟩ := member
  · have := byte.toNat_lt
    omega
  · omega

theorem nibbles_cons (byte : UInt8) (bytes : List UInt8) :
    nibbles (byte :: bytes) =
      byte.toNat / 16 :: byte.toNat % 16 :: nibbles bytes := rfl

theorem length_nibbles (bytes : List UInt8) :
    (nibbles bytes).length = 2 * bytes.length := by
  induction bytes with
  | nil => rfl
  | cons byte bytes hypothesis =>
      rw [nibbles_cons]
      simp only [List.length_cons, hypothesis]
      omega

@[simp] theorem length_hexlify (bytes : List UInt8) :
    (hexlify bytes).length = 2 * bytes.length := by
  rw [hexlify, List.length_map, length_nibbles]

theorem hexlify_append (first second : List UInt8) :
    hexlify (first ++ second) = hexlify first ++ hexlify second := by
  simp [hexlify, nibbles]

/-- A text of bytes is read back. -/
@[simp] theorem unhexlify_hexlify (bytes : List UInt8) :
    unhexlify (hexlify bytes) = some bytes := by
  induction bytes with
  | nil => rfl
  | cons byte bytes hypothesis =>
      have high : byte.toNat / 16 < 16 := by
        have := byte.toNat_lt
        omega
      have low : byte.toNat % 16 < 16 := by omega
      have whole : UInt8.ofNat (16 * (byte.toNat / 16) + byte.toNat % 16) =
          byte := by
        rw [Nat.div_add_mod, UInt8.ofNat_toNat]
      rw [hexlify] at hypothesis
      rw [hexlify, nibbles_cons, List.map_cons, List.map_cons, unhexlify,
        digitOf_letter high, digitOf_letter low, hypothesis]
      simp only [Option.bind_eq_bind, Option.bind_some, whole]
      rfl

theorem mapM_digitOf_letter
    {numeral : List ℕ}
    (valid : ∀ digit ∈ numeral, digit < 16) :
    (numeral.map letter).mapM digitOf = some numeral := by
  induction numeral with
  | nil => rfl
  | cons digit numeral hypothesis =>
      rw [List.forall_mem_cons] at valid
      rw [List.map_cons, List.mapM_cons, digitOf_letter valid.1,
        hypothesis valid.2]
      rfl

theorem readNumber_letters
    {numeral : List ℕ}
    (nonempty : numeral ≠ [])
    (valid : ∀ digit ∈ numeral, digit < 16) :
    readNumber (numeral.map letter) =
      some (Nat.ofDigits 16 numeral.reverse) := by
  rw [readNumber, if_neg (by simpa using nonempty),
    mapM_digitOf_letter valid, Option.map_some]

theorem ofDigits_nibbles (bytes : List UInt8) :
    Nat.ofDigits 16 (nibbles bytes).reverse = bytesNumber bytes := by
  rw [bytesNumber]
  induction bytes with
  | nil => rfl
  | cons byte bytes hypothesis =>
      have power : 16 ^ (2 * bytes.length) = 256 ^ bytes.length := by
        rw [pow_mul]
        norm_num
      have whole := Nat.div_add_mod byte.toNat 16
      rw [nibbles_cons, Nat.ofDigits_reverse_cons, Nat.ofDigits_reverse_cons,
        hypothesis, List.map_cons, Nat.ofDigits_reverse_cons,
        List.length_cons, length_nibbles, List.length_map, pow_succ, power,
        Nat.add_assoc, Nat.mul_assoc, ← Nat.mul_add, Nat.add_comm (_ % 16),
        whole]

/-- The number of a text of bytes. -/
theorem readNumber_hexlify
    {bytes : List UInt8}
    (nonempty : bytes ≠ []) :
    readNumber (hexlify bytes) = some (bytesNumber bytes) := by
  have some_digit : nibbles bytes ≠ [] := by
    rw [← List.length_pos_iff_ne_nil, length_nibbles]
    have := List.length_pos_iff_ne_nil.mpr nonempty
    omega
  rw [hexlify, readNumber_letters some_digit nibbles_lt, ofDigits_nibbles]

/-- Without its first digit the text of some bytes still shows whether their
number is even. -/
theorem exists_readNumber_drop_one
    {bytes : List UInt8}
    (nonempty : bytes ≠ []) :
    ∃ number, readNumber ((hexlify bytes).drop 1) = some number ∧
      number % 2 = bytesNumber bytes % 2 := by
  cases bytes with
  | nil => exact absurd rfl nonempty
  | cons byte bytes =>
      have valid : ∀ digit ∈ byte.toNat % 16 :: nibbles bytes, digit < 16 := by
        intro digit member
        have listed : digit ∈ nibbles (byte :: bytes) :=
          List.mem_cons_of_mem _ member
        exact nibbles_lt digit listed
      have read := readNumber_letters (List.cons_ne_nil _ _) valid
      refine ⟨_, read, ?_⟩
      have split : Nat.ofDigits 16 (nibbles (byte :: bytes)).reverse =
          Nat.ofDigits 16 (byte.toNat % 16 :: nibbles bytes).reverse +
            16 ^ ((nibbles bytes).length + 1) * (byte.toNat / 16) :=
        Nat.ofDigits_reverse_cons _ _
      have even : 2 ∣ 16 ^ ((nibbles bytes).length + 1) *
          (byte.toNat / 16) := by
        apply Dvd.dvd.mul_right
        exact dvd_pow (by norm_num) (by omega)
      rw [← ofDigits_nibbles, split]
      omega

/-- Padding to the length of some bytes writes them again. -/
theorem padded_bytesNumber (bytes : List UInt8) :
    padded (bytesNumber bytes) (2 * bytes.length) = hexlify bytes := by
  have inverse := (Nat.setInvOn_digitsAppend_ofDigits (b := 16) (by norm_num)
    (2 * bytes.length)).1
  have back : Nat.digitsAppend 16 (2 * bytes.length)
      (Nat.ofDigits 16 (nibbles bytes).reverse) =
        (nibbles bytes).reverse := by
    apply inverse
    refine ⟨by rw [List.length_reverse, length_nibbles], ?_⟩
    intro digit member
    exact nibbles_lt digit (List.mem_reverse.mp member)
  rw [padded, ← ofDigits_nibbles, back, List.reverse_reverse, hexlify]

end Hexadecimal

namespace Base64

def alphabet : List Char :=
  "ABCDEFGHIJKLMNOPQRSTUVWXYZabcdefghijklmnopqrstuvwxyz0123456789+/".toList

/-- The letter of six bits. -/
def letter (bits : ℕ) : Char :=
  alphabet.getD bits 'A'

/-- `base64.b64encode`. -/
def encode : List UInt8 → List Char
  | [] => []
  | [first] =>
      [letter (first.toNat / 4), letter (first.toNat % 4 * 16), '=', '=']
  | [first, second] =>
      [letter (first.toNat / 4),
        letter (first.toNat % 4 * 16 + second.toNat / 16),
        letter (second.toNat % 16 * 4), '=']
  | first :: second :: third :: rest =>
      letter (first.toNat / 4) ::
        letter (first.toNat % 4 * 16 + second.toNat / 16) ::
        letter (second.toNat % 16 * 4 + third.toNat / 64) ::
        letter (third.toNat % 64) :: encode rest

/-- The loop of `base64.b64decode` at a place in a group of four letters, with
the bits left of the last one and the padding seen.  Letters outside the
alphabet are passed over, and enough padding ends the text. -/
def decodeFrom (place left pads : ℕ) : List Char → Option (List UInt8)
  | [] => if place = 0 then some [] else none
  | char :: rest =>
      if char = '=' then
        if place < 2 then decodeFrom place left pads rest
        else if 4 ≤ place + (pads + 1) then some []
        else decodeFrom place left (pads + 1) rest
      else
        match alphabet.idxOf? char with
        | none => decodeFrom place left pads rest
        | some bits =>
            match place with
            | 0 => decodeFrom 1 bits 0 rest
            | 1 => (decodeFrom 2 (bits % 16) 0 rest).map
                (UInt8.ofNat (left * 4 + bits / 16) :: ·)
            | 2 => (decodeFrom 3 (bits % 4) 0 rest).map
                (UInt8.ofNat (left * 16 + bits / 4) :: ·)
            | _ => (decodeFrom 0 0 0 rest).map
                (UInt8.ofNat (left * 64 + bits) :: ·)

-- The equations are made once here, before the proofs that use them.
attribute [local grind =] encode decodeFrom

/-- `base64.b64decode`. -/
def decode (text : List Char) : Option (List UInt8) :=
  decodeFrom 0 0 0 text

theorem idxOf?_letter {bits : ℕ} (valid : bits < 64) :
    letter bits ≠ '=' ∧ alphabet.idxOf? (letter bits) = some bits := by
  revert bits
  decide +kernel

section Steps

variable (left pads : ℕ) {bits : ℕ} (valid : bits < 64) (rest : List Char)
include valid

theorem decodeFrom_zero :
    decodeFrom 0 left pads (letter bits :: rest) =
      decodeFrom 1 bits 0 rest := by
  rw [decodeFrom, if_neg (idxOf?_letter valid).1, (idxOf?_letter valid).2]
  rfl

theorem decodeFrom_one :
    decodeFrom 1 left pads (letter bits :: rest) =
      (decodeFrom 2 (bits % 16) 0 rest).map
        (UInt8.ofNat (left * 4 + bits / 16) :: ·) := by
  rw [decodeFrom, if_neg (idxOf?_letter valid).1, (idxOf?_letter valid).2]
  rfl

theorem decodeFrom_two :
    decodeFrom 2 left pads (letter bits :: rest) =
      (decodeFrom 3 (bits % 4) 0 rest).map
        (UInt8.ofNat (left * 16 + bits / 4) :: ·) := by
  rw [decodeFrom, if_neg (idxOf?_letter valid).1, (idxOf?_letter valid).2]
  rfl

theorem decodeFrom_three :
    decodeFrom 3 left pads (letter bits :: rest) =
      (decodeFrom 0 0 0 rest).map (UInt8.ofNat (left * 64 + bits) :: ·) := by
  rw [decodeFrom, if_neg (idxOf?_letter valid).1, (idxOf?_letter valid).2]
  rfl

end Steps

theorem ofNat_eq {byte : UInt8} {number : ℕ} (same : number = byte.toNat) :
    UInt8.ofNat number = byte := by
  rw [same, UInt8.ofNat_toNat]

/-- An encoded text is read back. -/
@[simp] theorem decode_encode (bytes : List UInt8) :
    decode (encode bytes) = some bytes := by
  unfold decode
  induction bytes using encode.induct with
  | case1 => rfl
  | case2 first =>
      have first_lt := first.toNat_lt
      have whole : UInt8.ofNat (first.toNat / 4 * 4 +
          first.toNat % 4 * 16 / 16) = first := ofNat_eq (by omega)
      rw [encode, decodeFrom_zero _ _ (by omega),
        decodeFrom_one _ _ (by omega), whole]
      rfl
  | case3 first second =>
      have first_lt := first.toNat_lt
      have second_lt := second.toNat_lt
      have whole : UInt8.ofNat (first.toNat / 4 * 4 +
          (first.toNat % 4 * 16 + second.toNat / 16) / 16) = first :=
        ofNat_eq (by omega)
      have next : UInt8.ofNat
          ((first.toNat % 4 * 16 + second.toNat / 16) % 16 * 16 +
            second.toNat % 16 * 4 / 4) = second := ofNat_eq (by omega)
      rw [encode, decodeFrom_zero _ _ (by omega),
        decodeFrom_one _ _ (by omega), decodeFrom_two _ _ (by omega), whole,
        next]
      rfl
  | case4 first second third rest hypothesis =>
      have first_lt := first.toNat_lt
      have second_lt := second.toNat_lt
      have third_lt := third.toNat_lt
      have whole : UInt8.ofNat (first.toNat / 4 * 4 +
          (first.toNat % 4 * 16 + second.toNat / 16) / 16) = first :=
        ofNat_eq (by omega)
      have next : UInt8.ofNat
          ((first.toNat % 4 * 16 + second.toNat / 16) % 16 * 16 +
            (second.toNat % 16 * 4 + third.toNat / 64) / 4) = second :=
        ofNat_eq (by omega)
      have last : UInt8.ofNat
          ((second.toNat % 16 * 4 + third.toNat / 64) % 4 * 64 +
            third.toNat % 64) = third := ofNat_eq (by omega)
      rw [encode, decodeFrom_zero _ _ (by omega),
        decodeFrom_one _ _ (by omega), decodeFrom_two _ _ (by omega),
        decodeFrom_three _ _ (by omega), hypothesis, whole, next, last]
      rfl

theorem length_encode (bytes : List UInt8) :
    (encode bytes).length = 4 * ((bytes.length + 2) / 3) := by
  induction bytes using encode.induct with
  | case1 => rfl
  | case2 first => simp [encode]
  | case3 first second => simp [encode]
  | case4 first second third rest hypothesis =>
      simp only [encode, List.length_cons, hypothesis]
      omega

/-- A last symbol outside the alphabet is passed over. -/
theorem decodeFrom_append_junk
    {junk : Char}
    (no_padding : junk ≠ '=')
    (outside : alphabet.idxOf? junk = none)
    (place left pads : ℕ)
    (text : List Char) :
    decodeFrom place left pads (text ++ [junk]) =
      decodeFrom place left pads text := by
  induction text generalizing place left pads with
  | nil => simp only [List.nil_append, decodeFrom, if_neg no_padding, outside]
  | cons char text hypothesis =>
      simp only [List.cons_append, decodeFrom, hypothesis]

/-- An encoded text has letters of the alphabet and padding only. -/
theorem mem_encode
    {bytes : List UInt8} :
    ∀ char ∈ encode bytes, char ∈ alphabet ∨ char = '=' := by
  have letters (bits : ℕ) : letter bits ∈ alphabet := by
    rw [letter, List.getD_eq_getElem?_getD]
    cases found : alphabet[bits]? with
    | none => decide
    | some char => exact List.mem_of_getElem? found
  intro char member
  induction bytes using encode.induct with
  | case1 => cases member
  | case2 first =>
      simp only [encode, List.mem_cons, List.not_mem_nil, or_false] at member
      rcases member with rfl | rfl | rfl | rfl <;> simp [letters]
  | case3 first second =>
      simp only [encode, List.mem_cons, List.not_mem_nil, or_false] at member
      rcases member with rfl | rfl | rfl | rfl <;> simp [letters]
  | case4 first second third rest hypothesis =>
      simp only [encode, List.mem_cons] at member
      rcases member with rfl | rfl | rfl | rfl | member
      · exact Or.inl (letters _)
      · exact Or.inl (letters _)
      · exact Or.inl (letters _)
      · exact Or.inl (letters _)
      · exact hypothesis member

end Base64
