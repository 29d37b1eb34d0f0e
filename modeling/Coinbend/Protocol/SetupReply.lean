import Coinbend.Currency.Objects
import Coinbend.Library.Dict
import Coinbend.Library.DigitText
import Coinbend.Library.Regex
import Coinbend.Library.TextCodes
import Coinbend.Library.Words
import Coinbend.Network.Sock
import Coinbend.Protocol.Handlers

/-!
# Setup transactions in messages

`new_return_setup_tx` writes the setup transaction of a node with the
collateral messages of its contracts, `parse_return_setup_tx` reads it and
`parse_collateral_info` reads each of the collateral messages.  The writer
ends every collateral message with a separator; the reader also asks for a
space in front of each.
-/

namespace Coinbend

open Regex

/-! ## Collateral messages -/

namespace CollateralInfo

/-- The entry without the message it was read from. -/
def contents (info : CollateralInfo) : CollateralInfo :=
  { info with msg := "" }

/-- An entry of `collateral_info`, read from a base 64 message. -/
def Stored (info : CollateralInfo) : Prop :=
  (∃ bytes, info.msg.toList = Base64.encode bytes) ∧
    parseCollateralInfo info.msg.toList = .ok info

end CollateralInfo

/-! ## The message -/

/-- A key whose signatures are 64 bytes, in base 64. -/
structure Signer where
  sign : Text → Text
  signature : ∀ msg, ∃ bytes : Bytes,
    bytes.length = 64 ∧ sign msg = Base64.encode bytes

/-- `new_return_setup_tx`, for version 1. -/
def newReturnSetupTx
    (ntp : Nat)
    (contractHash txHex : Text)
    (collateralInfo : List Text)
    (ecdsa1 : Signer) : Text :=
  let msg := ['1', ' ']
  let msg := msg ++ Nat.toDigits 10 ntp ++ ' ' :: rpcName ++ [' ']
  let msg := msg ++ contractHash ++ [' ']
  let msg := msg ++ txHex ++ [' ']
  let msg := msg ++ (collateralInfo.map (· ++ ['@'])).flatten
  msg ++ ' ' :: ecdsa1.sign msg

/-- What `parse_return_setup_tx` reads from a message that matches. -/
structure ReturnSetupTx where
  contractHash : Text
  setupTxHex : Text
  collateralInfo : Dict String CollateralInfo

/-- The reading in `parse_return_setup_tx`; no value stands for a message that
does not match. -/
def readReturnSetupTx (msg : Text) :
    Except PyError (Option ReturnSetupTx) :=
  match (returnSetupTxPattern.search msg).map Match.groups with
  | some [_, contractHash, setupTxHex, collateralInfo, _] => do
      let collateralInfo ← Protocol.parseCollateralInfos
        (readCollateralInfos collateralInfo)
      .ok (some { contractHash, setupTxHex, collateralInfo })
  | _ => .ok none

/-- The message is read as the hash, the transaction and the entries, one for
each, as far as a view of them shows. -/
def DecodesTo
    {β : Type}
    (view : CollateralInfo → β)
    (msg contractHash txHex : Text)
    (infos : List CollateralInfo) : Prop :=
  ∃ read, readReturnSetupTx msg = .ok (some read) ∧
    read.contractHash = contractHash ∧ read.setupTxHex = txHex ∧
    read.collateralInfo.values.map view = infos.map view

/-! ## Base 64 text in messages -/

theorem base64_safe :
    (Base64.alphabet ++ ['=']).all (fun char =>
      isSolid char && char != '@' && char.toNat < 128) = true := by
  rfl

theorem safe_of_mem_encode
    {bytes : Bytes}
    {char : Char}
    (member : char ∈ Base64.encode bytes) :
    isSpace char = false ∧ char ≠ '@' ∧ char.toNat < 128 := by
  have listed : char ∈ Base64.alphabet ++ ['='] := by
    rw [List.mem_append, List.mem_singleton]
    exact Base64.mem_encode char member
  have safe := List.all_eq_true.mp base64_safe char listed
  simpa [isSolid, and_assoc] using safe

theorem solid_encode (bytes : Bytes) :
    Words.Solid isSpace (Base64.encode bytes) :=
  fun _ member => (safe_of_mem_encode member).1

theorem readCollateral_map
    (msg other : Text)
    (bytes : Bytes) :
    readCollateral other bytes =
      (readCollateral msg bytes).map fun info =>
        { info with msg := String.ofList other } := by
  unfold readCollateral
  cases decodeUtf8 bytes with
  | none => rfl
  | some text =>
      simp only [Except.ofOption, Except.ok_bind]
      split
      · rename_i chunkSize _ _ _ _ _ _
        cases C.parse chunkSize <;> rfl
      · rfl

/-- A message that decodes is read from its bytes. -/
theorem parseCollateralInfo_of_decode
    {msg : Text}
    {bytes : Bytes}
    (ascii : ∀ char ∈ msg, char.toNat < 128)
    (decoded : Base64.decode msg = some bytes) :
    parseCollateralInfo msg = readCollateral msg bytes := by
  have encoded : ∃ bytes, encodeAscii msg = .ok bytes := by
    refine ⟨_, if_pos (List.all_eq_true.mpr ?_)⟩
    simpa using ascii
  obtain ⟨encoded, encoded_eq⟩ := encoded
  rw [parseCollateralInfo, encoded_eq, Except.ok_bind, decoded,
    Except.ofOption, Except.ok_bind]

theorem parseCollateralInfo_encode (bytes : Bytes) :
    parseCollateralInfo (Base64.encode bytes) =
      readCollateral (Base64.encode bytes) bytes :=
  parseCollateralInfo_of_decode
    (fun _ member => (safe_of_mem_encode member).2.2)
    (Base64.decode_encode bytes)

/-- The separator at its end leaves the contents of a collateral message. -/
theorem parseCollateralInfo_append
    {info : CollateralInfo}
    (stored : info.Stored) :
    parseCollateralInfo (info.msg.toList ++ ['@']) =
      .ok { info with msg := String.ofList (info.msg.toList ++ ['@']) } := by
  obtain ⟨⟨bytes, encoded⟩, parsed⟩ := stored
  rw [encoded, parseCollateralInfo_encode] at parsed
  rw [encoded, @parseCollateralInfo_of_decode _ bytes,
    readCollateral_map (Base64.encode bytes), parsed]
  · rfl
  · rw [List.forall_mem_append]
    exact ⟨fun _ member => (safe_of_mem_encode member).2.2, by simp⟩
  · rw [Base64.decode, Base64.decodeFrom_append_junk (by decide) (by decide)]
    exact Base64.decode_encode bytes

/-! ## The words of the message -/

theorem isSpace_space : isSpace ' ' = true := rfl

theorem solid_of_all
    {text : Text}
    (all : text.all isSolid = true) :
    Words.Solid isSpace text := by
  simpa [Words.Solid, isSolid] using all

theorem solid_name : Words.Solid isSpace rpcName :=
  solid_of_all rfl

/-- A text that stands between spaces. -/
structure IsToken (text : Text) : Prop where
  solid : Words.Solid isSpace text
  nonempty : text ≠ []

/-- A separator, a message of no separators and an at sign. -/
def IsCollateral (word : Text) : Prop :=
  ∃ separator msg, isSpace separator = true ∧
    (∀ char ∈ msg, isSolid char = true ∧ char ≠ '@') ∧ msg ≠ [] ∧
    word = separator :: (msg ++ ['@'])

theorem takes_collateral : collateralPattern.Takes IsCollateral := by
  have takes := (Pattern.takes_one isSpace).append
    ((Pattern.takes_many_one (fun char => isSolid char && char != '@') 1
      none (by simp)).append ((Pattern.takes_symbol '@').append
        Pattern.takes_empty))
  refine takes.congr fun word => ?_
  constructor
  · rintro ⟨_, _, ⟨separator, separates, rfl⟩, ⟨msg, _, ⟨safe, some_char, -⟩,
      ⟨_, _, rfl, rfl, rfl⟩, rfl⟩, rfl⟩
    refine ⟨separator, msg, separates, ?_, ?_, rfl⟩
    · simpa using safe
    · exact List.length_pos_iff_ne_nil.mp some_char
  · rintro ⟨separator, msg, separates, safe, nonempty, rfl⟩
    refine ⟨_, _, ⟨separator, separates, rfl⟩, ⟨msg, _, ⟨?_, ?_, by simp⟩,
      ⟨_, _, rfl, rfl, rfl⟩, rfl⟩, rfl⟩
    · simpa using safe
    · exact List.length_pos_iff_ne_nil.mpr nonempty

/-- The pieces of a message that matches. -/
structure Pieces where
  contractHash : Text
  setupTxHex : Text
  collateralInfo : List Text
  sig : Text
  rest : Text

namespace Pieces

structure Valid (pieces : Pieces) : Prop where
  contractHash : IsToken pieces.contractHash
  setupTxHex : IsToken pieces.setupTxHex
  collateralInfo : ∀ word ∈ pieces.collateralInfo, IsCollateral word
  some_collateral : pieces.collateralInfo ≠ []
  sig : IsToken pieces.sig
  short : pieces.contractHash.length ≤ 256 ∧ pieces.sig.length ≤ 256
  rest : endOfText pieces.rest = true

def text (pieces : Pieces) : Text :=
  rpcName ++ (' ' :: (pieces.contractHash ++
    (' ' :: (pieces.setupTxHex ++ (pieces.collateralInfo.flatten ++
      (' ' :: (pieces.sig ++ pieces.rest)))))))

def groups (pieces : Pieces) : List Text :=
  [rpcName, pieces.contractHash, pieces.setupTxHex,
    pieces.collateralInfo.flatten, pieces.sig]

end Pieces

theorem isToken_iff {text : Text} :
    IsToken text ↔ (∀ char ∈ text, isSolid char = true) ∧ 1 ≤ text.length := by
  have solid_iff : Words.Solid isSpace text ↔
      ∀ char ∈ text, isSolid char = true := by
    simp [Words.Solid, isSolid]
  rw [← solid_iff, Nat.one_le_iff_ne_zero, ne_eq, List.length_eq_zero_iff]
  exact ⟨fun token => ⟨token.solid, token.nonempty⟩,
    fun both => ⟨both.1, both.2⟩⟩

/-- The matches of the pattern are the messages of valid pieces. -/
theorem reads_returnSetupTx_iff {here : Text} {groups : List Text} :
    returnSetupTxPattern.Reads here groups ↔
      ∃ pieces : Pieces, pieces.Valid ∧ here = pieces.text ∧
        groups = pieces.groups := by
  have token := Pattern.takes_many_one isSolid 1 none (by simp)
  have short := Pattern.takes_many_one isSolid 1 (some 256) (by simp)
  have space := Pattern.takes_symbol ' '
  have collateral := takes_collateral.many (by
    rintro ⟨_, _, -, -, -, same⟩
    cases same) 1
  have name := Pattern.takes_literal rpcName
  rw [returnSetupTxPattern]
  simp only [name.reads_group_cons, space.reads_cons, short.reads_group_cons,
    token.reads_group_cons, collateral.reads_group_cons,
    Pattern.reads_atEnd_cons, Pattern.reads_nil]
  constructor
  · rintro ⟨_, _, _, rfl, rfl, rfl, _, _, rfl, rfl, contractHash, _, _,
      ⟨hash_solid, some_hash, hash_short⟩, rfl, rfl, _, _, rfl, rfl,
      setupTxHex, _, _, ⟨hex_solid, some_hex, -⟩, rfl, rfl, _, _, _,
      ⟨collateralInfo, infos, some_info, rfl⟩, rfl, rfl, _, _, rfl, rfl, sig,
      rest, _, ⟨sig_solid, some_sig, sig_short⟩, rfl, rfl, ended, rfl⟩
    refine ⟨⟨contractHash, setupTxHex, collateralInfo, sig, rest⟩,
      { contractHash := isToken_iff.mpr ⟨hash_solid, some_hash⟩
        setupTxHex := isToken_iff.mpr ⟨hex_solid, some_hex⟩
        collateralInfo := infos
        some_collateral := List.length_pos_iff_ne_nil.mp some_info
        sig := isToken_iff.mpr ⟨sig_solid, some_sig⟩
        short := ⟨hash_short 256 rfl, sig_short 256 rfl⟩
        rest := ended }, rfl, rfl⟩
  · rintro ⟨pieces, valid, rfl, rfl⟩
    obtain ⟨hash_solid, some_hash⟩ := isToken_iff.mp valid.contractHash
    obtain ⟨hex_solid, some_hex⟩ := isToken_iff.mp valid.setupTxHex
    obtain ⟨sig_solid, some_sig⟩ := isToken_iff.mp valid.sig
    refine ⟨_, _, _, rfl, rfl, rfl, _, _, rfl, rfl, pieces.contractHash, _, _,
      ⟨hash_solid, some_hash, ?_⟩, rfl, rfl, _, _, rfl, rfl,
      pieces.setupTxHex, _, _, ⟨hex_solid, some_hex, by simp⟩, rfl, rfl,
      _, _, _, ⟨pieces.collateralInfo, valid.collateralInfo,
        List.length_pos_iff_ne_nil.mpr valid.some_collateral, rfl⟩, rfl, rfl,
      _, _, rfl, rfl, pieces.sig, pieces.rest, _,
      ⟨sig_solid, some_sig, ?_⟩, rfl, rfl, valid.rest, rfl⟩
    · simpa using valid.short.1
    · simpa using valid.short.2

theorem splitOnP_collateral
    {word : Text}
    (solid : Words.Solid isSpace word)
    {infos : List Text}
    (collateral : ∀ info ∈ infos, IsCollateral info)
    (text : Text) :
    (word ++ (infos.flatten ++ ' ' :: text)).splitOnP isSpace =
      word :: (infos.map List.tail ++ text.splitOnP isSpace) := by
  induction infos generalizing word with
  | nil => exact Words.splitOnP_word solid isSpace_space text
  | cons info infos hypothesis =>
      obtain ⟨⟨separator, msg, separates, safe, -, rfl⟩, others⟩ :=
        List.forall_mem_cons.mp collateral
      have msg_solid : Words.Solid isSpace (msg ++ ['@']) := by
        rw [Words.Solid, List.forall_mem_append]
        refine ⟨fun char member => ?_, by simp; rfl⟩
        simpa [isSolid] using (safe char member).1
      have next : word ++ (((separator :: (msg ++ ['@'])) :: infos).flatten ++
          ' ' :: text) = word ++ separator ::
            ((msg ++ ['@']) ++ (infos.flatten ++ ' ' :: text)) := by
        simp
      rw [next, Words.splitOnP_word solid separates,
        hypothesis msg_solid others]
      rfl

/-- The words of a text that matches. -/
theorem Pieces.words
    {pieces : Pieces}
    (valid : pieces.Valid) :
    ∃ last, pieces.text.splitOnP isSpace =
      rpcName :: pieces.contractHash :: pieces.setupTxHex ::
        (pieces.collateralInfo.map List.tail ++ pieces.sig :: last) := by
  have ended : ∃ last, (pieces.sig ++ pieces.rest).splitOnP isSpace =
      pieces.sig :: last := by
    have rest_eq : pieces.rest = [] ∨ pieces.rest = ['\n'] := by
      simpa [endOfText] using valid.rest
    rcases rest_eq with rest_eq | rest_eq
    · rw [rest_eq, List.append_nil, Words.splitOnP_solid valid.sig.solid]
      exact ⟨_, rfl⟩
    · rw [rest_eq, Words.splitOnP_word valid.sig.solid
        (show isSpace '\n' = true from rfl)]
      exact ⟨_, rfl⟩
  obtain ⟨last, ended⟩ := ended
  refine ⟨last, ?_⟩
  rw [Pieces.text, Words.splitOnP_word solid_name isSpace_space,
    Words.splitOnP_word valid.contractHash.solid isSpace_space,
    splitOnP_collateral valid.setupTxHex.solid valid.collateralInfo, ended]

section Message

variable (ntp : Nat) {contractHash txHex : Text} {infos : List Text}
  (ecdsa1 : Signer)

/-- The collateral messages as they are written. -/
def ended (infos : List Text) : Text :=
  (infos.map (· ++ ['@'])).flatten

/-- The message without its signature. -/
def unsignedReturnSetupTx (contractHash txHex : Text) (infos : List Text) :
    Text :=
  ['1'] ++ ' ' :: (Nat.toDigits 10 ntp ++ ' ' :: (rpcName ++ ' ' ::
    (contractHash ++ ' ' :: (txHex ++ ' ' :: ended infos))))

theorem newReturnSetupTx_eq :
    newReturnSetupTx ntp contractHash txHex infos ecdsa1 =
      unsignedReturnSetupTx ntp contractHash txHex infos ++ ' ' ::
        ecdsa1.sign (unsignedReturnSetupTx ntp contractHash txHex infos) := by
  have unsigned : ['1', ' '] ++ Nat.toDigits 10 ntp ++ ' ' :: rpcName ++
      [' '] ++ (contractHash ++ [' ']) ++ (txHex ++ [' ']) ++ ended infos =
        unsignedReturnSetupTx ntp contractHash txHex infos := by
    simp [unsignedReturnSetupTx]
  rw [← unsigned]
  simp only [newReturnSetupTx, ended, List.append_assoc]

/-- It is the text a node signs when it replies with its setup transaction. -/
theorem text_returnSetupTx
    {Hex : Type}
    (contractHash : ContractHash)
    (setupTxHex : Option Hex)
    (collateralInfo : List CollateralInfo)
    (hexText : Hex → Text) :
    (Payload.returnSetupTx contractHash setupTxHex
        (collateralInfo.map some)).text 1 ntp hexText =
      unsignedReturnSetupTx ntp contractHash.toList
        (Payload.setupText hexText setupTxHex)
        (collateralInfo.map fun info => info.msg.toList) := by
  have version : Nat.toDigits 10 1 = ['1'] := by
    decide
  have infos_read : (collateralInfo.map some).filterMap id = collateralInfo := by
    rw [List.filterMap_map]
    exact List.filterMap_some
  change Nat.toDigits 10 1 ++ ' ' :: Nat.toDigits 10 ntp ++ ' ' :: rpcName ++
    ' ' :: (contractHash.toList ++ ' ' :: Payload.setupText hexText setupTxHex ++
      ' ' :: (((collateralInfo.map some).filterMap id).map fun info =>
        info.msg.toList ++ ['@']).flatten) = _
  rw [version, infos_read]
  simp only [unsignedReturnSetupTx, ended, List.append_assoc, List.cons_append,
    List.map_map, Function.comp_def]

theorem newReturnSetupTx_nested :
    newReturnSetupTx ntp contractHash txHex infos ecdsa1 =
      ['1'] ++ ' ' :: (Nat.toDigits 10 ntp ++ ' ' :: (rpcName ++ ' ' ::
        (contractHash ++ ' ' :: (txHex ++ ' ' :: (ended infos ++ ' ' ::
          ecdsa1.sign
            (unsignedReturnSetupTx ntp contractHash txHex infos)))))) := by
  rw [newReturnSetupTx_eq]
  generalize ecdsa1.sign _ = sig
  simp [unsignedReturnSetupTx]

theorem isToken_sign (msg : Text) :
    IsToken (ecdsa1.sign msg) ∧ (ecdsa1.sign msg).length ≤ 256 := by
  obtain ⟨bytes, length, sig_eq⟩ := ecdsa1.signature msg
  have sig_length := Base64.length_encode bytes
  rw [length] at sig_length
  rw [sig_eq]
  refine ⟨⟨solid_encode bytes, ?_⟩, by omega⟩
  rw [← List.length_pos_iff_ne_nil]
  omega

theorem solid_one : Words.Solid isSpace ['1'] :=
  solid_of_all rfl

theorem solid_digits : Words.Solid isSpace (Nat.toDigits 10 ntp) :=
  fun digit member =>
    isSpace_of_isDigit digit (DigitText.digits_toDigits ntp digit member)

/-- What a hash and a transaction are in a message, and the collateral
messages. -/
structure Sendable (contractHash txHex : Text) (infos : List Text) :
    Prop where
  hash_token : IsToken contractHash
  hash_short : contractHash.length ≤ 256
  hex_token : IsToken txHex
  encoded : ∀ info ∈ infos, ∃ bytes, info = Base64.encode bytes
  nonempty : ∀ info ∈ infos, info ≠ []

variable {ntp ecdsa1} (sendable : Sendable contractHash txHex infos)
include sendable

theorem solid_ended : Words.Solid isSpace (ended infos) := by
  intro char member
  obtain ⟨_, listed, inside⟩ := List.mem_flatten.mp member
  obtain ⟨info, info_member, rfl⟩ := List.mem_map.mp listed
  obtain ⟨bytes, rfl⟩ := sendable.encoded info info_member
  rcases List.mem_append.mp inside with inside | inside
  · exact solid_encode bytes char inside
  · rw [List.mem_singleton.mp inside]
    rfl

/-- Every collateral message is followed by one separator. -/
theorem count_ended : (ended infos).count '@' = infos.length := by
  have each : ∀ info ∈ infos, (info ++ ['@']).count '@' = 1 := by
    intro info member
    obtain ⟨bytes, rfl⟩ := sendable.encoded info member
    have absent : '@' ∉ Base64.encode bytes :=
      fun inside => (safe_of_mem_encode inside).2.1 rfl
    rw [List.count_append, List.count_eq_zero_of_not_mem absent,
      List.count_singleton_self]
  rw [ended, List.count_flatten, List.map_map]
  have counts : infos.map (List.count '@' ∘ (· ++ ['@'])) =
      infos.map fun _ => 1 := List.map_congr_left each
  rw [counts, List.map_const']
  simp

theorem words_newReturnSetupTx :
    (newReturnSetupTx ntp contractHash txHex infos ecdsa1).splitOnP isSpace =
      [['1'], Nat.toDigits 10 ntp, rpcName, contractHash, txHex, ended infos,
        ecdsa1.sign (unsignedReturnSetupTx ntp contractHash txHex infos)] := by
  obtain ⟨bytes, -, sig_eq⟩ := ecdsa1.signature
    (unsignedReturnSetupTx ntp contractHash txHex infos)
  rw [newReturnSetupTx_nested, sig_eq,
    Words.splitOnP_word solid_one isSpace_space,
    Words.splitOnP_word (solid_digits ntp) isSpace_space,
    Words.splitOnP_word solid_name isSpace_space,
    Words.splitOnP_word sendable.hash_token.solid isSpace_space,
    Words.splitOnP_word sendable.hex_token.solid isSpace_space,
    Words.splitOnP_word (solid_ended sendable) isSpace_space,
    Words.splitOnP_solid (solid_encode bytes)]

/-- A match in the message has its hash, its transaction and one collateral
message. -/
theorem pieces_of_message
    {pieces : Pieces}
    (valid : pieces.Valid)
    (place : pieces.text <:+
      newReturnSetupTx ntp contractHash txHex infos ecdsa1) :
    pieces.contractHash = contractHash ∧ pieces.setupTxHex = txHex ∧
      pieces.sig =
        ecdsa1.sign (unsignedReturnSetupTx ntp contractHash txHex infos) ∧
      ∃ info, pieces.collateralInfo = [info] ∧ info.tail = ended infos := by
  obtain ⟨last, words⟩ := Pieces.words valid
  obtain ⟨before, start, word, later, here_words, message_words⟩ :=
    @Words.exists_words_of_suffix Char isSpace _ _ place
  rw [words, List.cons.injEq] at here_words
  obtain ⟨rfl, rfl⟩ := here_words
  rw [words_newReturnSetupTx sendable] at message_words
  have name_length : rpcName.length = 15 := rfl
  have some_infos := List.length_pos_iff_ne_nil.mpr valid.some_collateral
  -- Only from the name on are there enough words.
  match before with
  | [] =>
      obtain ⟨first, -⟩ := List.cons.inj message_words
      have lengths := congrArg List.length first
      rw [List.length_append, name_length] at lengths
      simp at lengths
  | [_] =>
      simp only [List.cons_append, List.nil_append, List.cons.injEq]
        at message_words
      obtain ⟨-, second, -⟩ := message_words
      have digits := DigitText.digits_toDigits ntp
      rw [second] at digits
      have r_digit := digits 'r' (List.mem_append_right start (by decide))
      cases r_digit
  | [_, _] =>
      simp only [List.cons_append, List.nil_append, List.cons.injEq]
        at message_words
      obtain ⟨-, -, -, rfl, rfl, rest⟩ := message_words
      match collateral : pieces.collateralInfo with
      | [] => exact absurd collateral valid.some_collateral
      | [info] =>
          rw [collateral] at rest
          simp only [List.map_cons, List.map_nil, List.cons_append,
            List.nil_append, List.cons.injEq] at rest
          exact ⟨rfl, rfl, rest.2.1.symm, info, rfl, rest.1.symm⟩
      | _ :: _ :: _ =>
          rw [collateral] at rest
          have lengths := congrArg List.length rest
          simp at lengths
  | _ :: _ :: _ :: more =>
      have lengths := congrArg List.length message_words
      simp only [List.length_cons, List.length_append, List.length_map,
        List.length_nil] at lengths
      omega

/-- The separators of the message are spaces. -/
theorem eq_space_of_mem
    {char : Char}
    (member : char ∈ newReturnSetupTx ntp contractHash txHex infos ecdsa1)
    (separates : isSpace char = true) :
    char = ' ' := by
  obtain ⟨bytes, -, sig_eq⟩ := ecdsa1.signature
    (unsignedReturnSetupTx ntp contractHash txHex infos)
  have solid {word : Text} (word_solid : Words.Solid isSpace word) :
      char ∉ word := by
    intro inside
    rw [word_solid char inside] at separates
    cases separates
  rw [newReturnSetupTx_nested, sig_eq] at member
  simpa only [List.mem_append, List.mem_cons, solid solid_one,
    solid (solid_digits ntp), solid solid_name,
    solid sendable.hash_token.solid, solid sendable.hex_token.solid,
    solid (solid_ended sendable), solid (solid_encode bytes), false_or,
    or_false, or_self] using member

/-- With one collateral message the pieces are read, and with another number
of them nothing is. -/
theorem search_newReturnSetupTx :
    (returnSetupTxPattern.search
      (newReturnSetupTx ntp contractHash txHex infos ecdsa1)).map
        Match.groups =
      if infos.length = 1 then
        some [rpcName, contractHash, txHex, ' ' :: ended infos,
          ecdsa1.sign (unsignedReturnSetupTx ntp contractHash txHex infos)]
      else none := by
  split_ifs with single
  · obtain ⟨info, rfl⟩ := List.length_eq_one_iff.mp single
    have listed := List.mem_singleton_self info
    obtain ⟨bytes, encoded⟩ := sendable.encoded info listed
    have safe : ∀ char ∈ info, isSolid char = true ∧ char ≠ '@' := by
      intro char member
      rw [encoded] at member
      obtain ⟨solid, no_at, -⟩ := safe_of_mem_encode member
      exact ⟨by rw [isSolid, solid]; rfl, no_at⟩
    have written : ended [info] = info ++ ['@'] := List.append_nil _
    obtain ⟨sig_token, sig_short⟩ := @isToken_sign ecdsa1
      (unsignedReturnSetupTx ntp contractHash txHex [info])
    let pieces : Pieces :=
      ⟨contractHash, txHex, [' ' :: ended [info]],
        ecdsa1.sign (unsignedReturnSetupTx ntp contractHash txHex [info]), []⟩
    have valid : pieces.Valid :=
      { contractHash := sendable.hash_token
        setupTxHex := sendable.hex_token
        collateralInfo := by
          intro word member
          rw [List.mem_singleton.mp member]
          exact ⟨' ', info, rfl, safe, sendable.nonempty info listed,
            congrArg _ written⟩
        some_collateral := List.cons_ne_nil _ _
        sig := sig_token
        short := ⟨sendable.hash_short, sig_short⟩
        rest := rfl }
    have groups_eq : pieces.groups = [rpcName, contractHash, txHex,
        ' ' :: ended [info],
        ecdsa1.sign (unsignedReturnSetupTx ntp contractHash txHex [info])] :=
      by simp [pieces, Pieces.groups]
    rw [← groups_eq]
    have place : pieces.text <:+
        newReturnSetupTx ntp contractHash txHex [info] ecdsa1 := by
      refine ⟨['1'] ++ ' ' :: (Nat.toDigits 10 ntp ++ [' ']), ?_⟩
      rw [newReturnSetupTx_nested]
      simp [pieces, Pieces.text]
    refine Pattern.search_groups_eq place
      (reads_returnSetupTx_iff.mpr ⟨pieces, valid, rfl, rfl⟩) ?_
    intro there groups there_place reads
    obtain ⟨other, other_valid, rfl, rfl⟩ := reads_returnSetupTx_iff.mp reads
    obtain ⟨hash_eq, hex_eq, sig_eq, word, same, tail_eq⟩ :=
      pieces_of_message sendable other_valid there_place
    obtain ⟨separator, msg, separates, -, -, rfl⟩ :=
      other_valid.collateralInfo word (same ▸ List.mem_singleton_self word)
    have inside : separator ∈ other.text := by
      simp [Pieces.text, same]
    obtain rfl := eq_space_of_mem sendable (there_place.subset inside) separates
    rw [Pieces.groups, hash_eq, hex_eq, sig_eq, same, groups_eq, ← tail_eq]
    simp
  · have nowhere : returnSetupTxPattern.search
        (newReturnSetupTx ntp contractHash txHex infos ecdsa1) = none := by
      apply Pattern.search_eq_none
      intro here groups place reads
      obtain ⟨pieces, valid, rfl, -⟩ := reads_returnSetupTx_iff.mp reads
      obtain ⟨-, -, -, info, same, tail_eq⟩ :=
        pieces_of_message sendable valid place
      obtain ⟨separator, msg, -, safe, -, rfl⟩ :=
        valid.collateralInfo info (same ▸ List.mem_singleton_self info)
      have count := count_ended sendable
      have absent : '@' ∉ msg := fun inside => (safe '@' inside).2 rfl
      rw [← tail_eq, List.tail_cons, List.count_append,
        List.count_eq_zero_of_not_mem absent,
        List.count_singleton_self] at count
      exact single count.symm
    rw [nowhere, Option.map_none]

end Message

/-! ## What is read -/

theorem parseCollateralInfo_nil :
    parseCollateralInfo [] = .error .valueError := by
  have read : readCollateral [] [] = .error .valueError := by
    rw [readCollateral, decodeUtf8_nil]
    rfl
  exact read

theorem CollateralInfo.Stored.ne_nil
    {info : CollateralInfo}
    (stored : info.Stored) :
    info.msg.toList ≠ [] := by
  intro empty
  have parsed := stored.2
  rw [empty, parseCollateralInfo_nil] at parsed
  cases parsed

theorem sendable_of_stored
    {contractHash txHex : Text}
    {infos : List CollateralInfo}
    (hash_token : IsToken contractHash)
    (hash_short : contractHash.length ≤ 256)
    (hex_token : IsToken txHex)
    (stored : ∀ info ∈ infos, info.Stored) :
    Sendable contractHash txHex (infos.map fun info => info.msg.toList) where
  hash_token := hash_token
  hash_short := hash_short
  hex_token := hex_token
  encoded := by
    intro text member
    obtain ⟨info, listed, rfl⟩ := List.mem_map.mp member
    exact (stored info listed).1
  nonempty := by
    intro text member
    obtain ⟨info, listed, rfl⟩ := List.mem_map.mp member
    exact (stored info listed).ne_nil

/-- A single collateral message is read with the separator behind it. -/
theorem parseCollateralInfos_single
    {info : CollateralInfo}
    (stored : info.Stored) :
    Protocol.parseCollateralInfos
        (readCollateralInfos (' ' :: ended [info.msg.toList])) =
      .ok ⟨[(info.pub1,
        { info with msg := String.ofList (info.msg.toList ++ ['@']) })]⟩ := by
  have written : ended [info.msg.toList] = info.msg.toList ++ ['@'] :=
    List.append_nil _
  obtain ⟨bytes, encoded⟩ := stored.1
  have no_space : ' ' ∉ info.msg.toList ++ ['@'] := by
    rw [encoded, List.mem_append, not_or]
    refine ⟨fun inside => ?_, by simp⟩
    have solid := (safe_of_mem_encode inside).1
    cases solid
  have split : (' ' :: ended [info.msg.toList]).splitOn ' ' =
      [[], info.msg.toList ++ ['@']] := by
    rw [written, ← List.nil_append (' ' :: _),
      List.splitOn_append_cons_self_of_not_mem List.not_mem_nil,
      List.splitOn_eq_singleton no_space]
  have kept : ([[], info.msg.toList ++ ['@']].filter (· ≠ [])) =
      [info.msg.toList ++ ['@']] := by
    simp
  rw [readCollateralInfos, split, kept, List.map_singleton,
    parseCollateralInfo_append stored]
  rfl

section Decoding

variable (ntp : Nat) (ecdsa1 : Signer) {contractHash txHex : Text}
  (hash_token : IsToken contractHash)
  (hash_short : contractHash.length ≤ 256)
  (hex_token : IsToken txHex)
include hash_token hash_short hex_token

theorem readReturnSetupTx_of_single
    {info : CollateralInfo}
    (stored : info.Stored) :
    readReturnSetupTx
        (newReturnSetupTx ntp contractHash txHex [info.msg.toList] ecdsa1) =
      .ok (some
        { contractHash
          setupTxHex := txHex
          collateralInfo := ⟨[(info.pub1,
            { info with
              msg := String.ofList (info.msg.toList ++ ['@']) })]⟩ }) := by
  have searched := @search_newReturnSetupTx ntp _ _ [info.msg.toList] ecdsa1
    (sendable_of_stored hash_token hash_short hex_token
      (List.forall_mem_singleton.mpr stored))
  rw [if_pos List.length_singleton] at searched
  rw [readReturnSetupTx, searched]
  simp only [parseCollateralInfos_single stored, Except.ok_bind]

theorem readReturnSetupTx_of_ne
    {infos : List CollateralInfo}
    (stored : ∀ info ∈ infos, info.Stored)
    (several : infos.length ≠ 1) :
    readReturnSetupTx
        (newReturnSetupTx ntp contractHash txHex
          (infos.map fun info => info.msg.toList) ecdsa1) =
      .ok none := by
  have searched := @search_newReturnSetupTx ntp _ _ _ ecdsa1
    (sendable_of_stored hash_token hash_short hex_token stored)
  rw [if_neg (by rwa [List.length_map])] at searched
  rw [readReturnSetupTx, searched]

end Decoding

/-- The setup reply of a factory is read as it was written when there is one
contract, and then the entry has the message with its separator. -/
theorem returnSetupTx_decodes_iff
    (ntp : Nat)
    (ecdsa1 : Signer)
    {contractHash txHex : Text}
    (hash_token : IsToken contractHash)
    (hash_short : contractHash.length ≤ 256)
    (hex_token : IsToken txHex)
    (infos : List CollateralInfo)
    (stored : ∀ info ∈ infos, info.Stored) :
    let msg := newReturnSetupTx ntp contractHash txHex
      (infos.map fun info => info.msg.toList) ecdsa1
    (DecodesTo CollateralInfo.contents msg contractHash txHex infos ↔
        infos.length = 1) ∧
      ¬DecodesTo id msg contractHash txHex infos := by
  intro msg
  by_cases single : infos.length = 1
  · obtain ⟨info, rfl⟩ := List.length_eq_one_iff.mp single
    have read : readReturnSetupTx msg = _ :=
      readReturnSetupTx_of_single ntp ecdsa1 hash_token hash_short hex_token
        (stored info (List.mem_singleton_self info))
    constructor
    · exact iff_of_true ⟨_, read, rfl, rfl, rfl⟩ rfl
    · rintro ⟨other, other_read, -, -, same⟩
      rw [read] at other_read
      obtain rfl := Option.some.inj (Except.ok.inj other_read)
      have messages := congrArg
        (List.map fun info : CollateralInfo => info.msg.toList.length) same
      simp [Dict.values] at messages
  · have read : readReturnSetupTx msg = .ok none :=
      readReturnSetupTx_of_ne ntp ecdsa1 hash_token hash_short hex_token
        stored single
    have undecoded {β : Type} (view : CollateralInfo → β) :
        ¬DecodesTo view msg contractHash txHex infos := by
      rintro ⟨other, other_read, -⟩
      rw [read] at other_read
      cases other_read
    exact ⟨iff_of_false (undecoded _) single, undecoded _⟩

namespace Sample

/-- A key whose signatures are zeros. -/
def zeroSigner : Signer where
  sign := fun _ => Base64.encode (List.replicate 64 0)
  signature := fun _ => ⟨_, rfl, rfl⟩

def setupHash : Text := ['a']

def setupHex : Text := ['f', '0']

/-- A collateral message before it is put in base 64. -/
def collateralText (pub1 : String) : String :=
  String.ofList ("1 arbiter sig ".toList ++ pub1.toList ++ " sig pub".toList)

/-- The entry of that message. -/
def collateral (pub1 : String) : CollateralInfo where
  msg := String.ofList
    (Base64.encode (collateralText pub1).toByteArray.data.toList)
  chunkSize := C.ofVal (10 ^ 16) C.oneCoin_bounded
  sig1 := "sig"
  sig2 := "sig"
  pub1 := pub1
  pub2 := "pub"
  pubArbiter := "arbiter"

end Sample

theorem decodeUtf8_toByteArray (text : String) :
    decodeUtf8 text.toByteArray.data.toList = some text.toList := by
  have valid := String.isValidUTF8 text
  unfold decodeUtf8 String.fromUTF8?
  rw [dif_pos (by simpa using valid)]
  rfl

theorem Sample.collateral_stored :
    ∀ info ∈ [Sample.collateral "a", Sample.collateral "b"], info.Stored := by
  have parsed : C.parse ['1'] = .ok (C.ofVal (10 ^ 16) (by decide)) := by
    decide +kernel
  have stored {pub1 : String}
      (split : (Sample.collateralText pub1).toList.splitOn ' ' =
        [['1'], "arbiter".toList, "sig".toList, pub1.toList, "sig".toList,
          "pub".toList]) :
      (Sample.collateral pub1).Stored := by
    refine ⟨⟨_, String.toList_ofList⟩, ?_⟩
    rw [Sample.collateral, String.toList_ofList, parseCollateralInfo_encode,
      readCollateral, decodeUtf8_toByteArray, Except.ofOption, Except.ok_bind,
      split]
    simp only [parsed, Except.ok_bind, String.ofList_toList]
  simp only [List.forall_mem_cons]
  exact ⟨stored (by decide +kernel), stored (by decide +kernel), by simp⟩

theorem Sample.tokens : IsToken Sample.setupHash ∧ IsToken Sample.setupHex :=
  ⟨⟨solid_of_all rfl, by decide⟩, solid_of_all rfl, by decide⟩

/-- One collateral message comes back. -/
theorem returnSetupTx_decodes_of_one :
    DecodesTo CollateralInfo.contents
      (newReturnSetupTx 7 Sample.setupHash Sample.setupHex
        ([Sample.collateral "a"].map fun info => info.msg.toList)
        Sample.zeroSigner)
      Sample.setupHash Sample.setupHex [Sample.collateral "a"] := by
  have decodes := returnSetupTx_decodes_iff 7 Sample.zeroSigner
    Sample.tokens.1 (by decide) Sample.tokens.2 [Sample.collateral "a"]
    (by simp [Sample.collateral_stored])
  exact decodes.1.mpr rfl

/-- Two collateral messages do not. -/
theorem returnSetupTx_two_unread :
    (∀ info ∈ [Sample.collateral "a", Sample.collateral "b"],
        info.Stored) ∧
      ¬DecodesTo CollateralInfo.contents
        (newReturnSetupTx 7 Sample.setupHash Sample.setupHex
          ([Sample.collateral "a", Sample.collateral "b"].map fun info =>
            info.msg.toList)
          Sample.zeroSigner)
        Sample.setupHash Sample.setupHex
        [Sample.collateral "a", Sample.collateral "b"] := by
  refine ⟨Sample.collateral_stored, ?_⟩
  rintro ⟨read, read_eq, -⟩
  rw [readReturnSetupTx_of_ne 7 Sample.zeroSigner Sample.tokens.1 (by decide)
    Sample.tokens.2 Sample.collateral_stored (by decide)] at read_eq
  cases read_eq

end Coinbend
