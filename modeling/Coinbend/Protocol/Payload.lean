import Coinbend.Currency.Text
import Coinbend.Library.Regex
import Coinbend.Library.TextCodes
import Coinbend.Microtransfer.Factory
import Coinbend.Network.Replies
import Coinbend.Network.Sock

/-!
# Messages of the microtransfer protocol

The six messages of two matched nodes: what they carry, the lines the `new_...`
functions of `hybrid_protocol.py` write, and the regular expressions with which
the handlers read a line.  A handler answers nothing to a line its expression
does not find.
-/

namespace Coinbend

open Regex

/-- What a node signs and sends during the microtransfer protocol.  A base64
field without a value is one that does not decode; a missing setup transaction
is the text `None`. -/
inductive Payload (Hex : Type)
  | shakeOnIt (contractHash : ContractHash)
  | getRefundSig (contractHash : ContractHash) (refundTxHex : Hex)
  | returnRefundSig (contractHash : ContractHash) (refundSig : Option Sig)
  | getSetupTx (contractHash : ContractHash) (setupTxid : Txid)
  | returnSetupTx
      (contractHash : ContractHash)
      (setupTxHex : Option Hex)
      (collateralInfo : List (Option CollateralInfo))
  | returnAdjustedRefund
      (contractHash : ContractHash)
      (refundTx : Hex)
      (refundSig1 refundSig2 : Option Sig)
  deriving DecidableEq

/-- A signed message: `text` is what the signature is for. -/
structure Message (Hex : Type) where
  payload : Payload Hex
  text : String
  sig : String
  deriving DecidableEq

/-- The line a message is sent as. -/
def Message.line {Hex : Type} (msg : Message Hex) : Text :=
  msg.text.toList ++ ' ' :: msg.sig.toList

/-! ## Fields -/

/-- `base64.b64encode` of a signature. -/
def encodeSig (sig : Sig) : Text :=
  Base64.encode (textBytes sig)

/-- `base64.b64decode(sig.encode("ascii"))`. -/
def decodeSig (text : Text) : Option Sig := do
  let _ ← (encodeAscii text).toOption
  let bytes ← Base64.decode text
  return String.ofList (bytes.map fun byte => Char.ofNat byte.toNat)

/-- The fields of a collateral message, split and read. -/
def readCollateral (msg : Text) (bytes : Bytes) :
    Except PyError CollateralInfo := do
  let text ← Except.ofOption .valueError (decodeUtf8 bytes)
  match text.splitOn ' ' with
  | [chunkSize, pubArbiter, sig1, pub1, sig2, pub2] => do
      let chunkSize ← C.parse chunkSize
      .ok
        { msg := String.ofList msg
          chunkSize
          sig1 := String.ofList sig1
          sig2 := String.ofList sig2
          pub1 := String.ofList pub1
          pub2 := String.ofList pub2
          pubArbiter := String.ofList pubArbiter }
  | _ => .error .valueError

/-- `parse_collateral_info`. -/
def parseCollateralInfo (msg : Text) : Except PyError CollateralInfo := do
  let _ ← encodeAscii msg
  let bytes ← Except.ofOption .binasciiError (Base64.decode msg)
  readCollateral msg bytes

/-- The collateral messages of a line, each read. -/
def readCollateralInfos (collateralInfo : Text) :
    List (Option CollateralInfo) :=
  ((collateralInfo.splitOn ' ').filter (· ≠ [])).map fun info =>
    (parseCollateralInfo info).toOption

/-! ## Patterns -/

/-- `[^\s]`. -/
def isSolid (char : Char) : Bool :=
  !isSpace char

/-- `[a-fA-F0-9]`. -/
def isHexLetter (char : Char) : Bool :=
  (Hexadecimal.digitOf char).isSome

/-- A space and `([^\s]{1,most})`. -/
def solidField (most : Nat) : List (Pattern Char) :=
  [.one (· = ' '), .group (.many 1 (some most) (.one isSolid))]

/-- The name of a message and fields up to some lengths, to the end of the
line. -/
def fieldsPattern (rpc : Text) (limits : List Nat) : Pattern Char :=
  .sequence (.group (.literal rpc) ::
    (limits.flatMap solidField ++ [.atEnd endOfText]))

/-- `(shake_on_it) ([a-fA-F0-9]+) ([^\s]{1,256})$`. -/
def shakeOnItPattern : Pattern Char :=
  .sequence [.group (.literal "shake_on_it".toList),
    .one (· = ' '), .group (.many 1 none (.one isHexLetter)),
    .one (· = ' '), .group (.many 1 (some 256) (.one isSolid)),
    .atEnd endOfText]

/-- `(get_refund_sig) ([^\s]{1,256}) ([^\s]{1,4000}) ([^\s]{1,256})$`. -/
def getRefundSigPattern : Pattern Char :=
  fieldsPattern "get_refund_sig".toList [256, 4000, 256]

/-- `(return_refund_sig) ([^\s]{1,256}) ([^\s]{1,256}) ([^\s]{1,256})$`. -/
def returnRefundSigPattern : Pattern Char :=
  fieldsPattern "return_refund_sig".toList [256, 256, 256]

/-- `(get_setup_tx) ([^\s]{1,256}) ([^\s]{1,256}) ([^\s]{1,256})$`. -/
def getSetupTxPattern : Pattern Char :=
  fieldsPattern "get_setup_tx".toList [256, 256, 256]

/-- `(return_adjusted_refund) ([^\s]{1,256}) ([^\s]{1,10240}) ([^\s]{1,256})
([^\s]{1,256}) ([^\s]{1,256})$`. -/
def returnAdjustedRefundPattern : Pattern Char :=
  fieldsPattern "return_adjusted_refund".toList [256, 10240, 256, 256, 256]

def rpcName : Text := "return_setup_tx".toList

/-- `[^\s@]+[@]` after a `\s`. -/
def collateralPattern : Pattern Char :=
  .sequence [.one isSpace,
    .many 1 none (.one fun char => isSolid char && char != '@'),
    .one (· = '@')]

/-- `(return_setup_tx) ([^\s]{1,256}) ([^\s]+)((?:\s[^\s@]+[@])+)
([^\s]{1,256})$`. -/
def returnSetupTxPattern : Pattern Char :=
  .sequence [.group (.literal rpcName),
    .one (· = ' '), .group (.many 1 (some 256) (.one isSolid)),
    .one (· = ' '), .group (.many 1 none (.one isSolid)),
    .group (.many 1 none collateralPattern),
    .one (· = ' '), .group (.many 1 (some 256) (.one isSolid)),
    .atEnd endOfText]

namespace Payload

variable {Hex : Type}

/-- The contract a message is about. -/
def contractHash : Payload Hex → ContractHash
  | .shakeOnIt contractHash => contractHash
  | .getRefundSig contractHash _ => contractHash
  | .returnRefundSig contractHash _ => contractHash
  | .getSetupTx contractHash _ => contractHash
  | .returnSetupTx contractHash _ _ => contractHash
  | .returnAdjustedRefund contractHash _ _ _ => contractHash

/-- The name of a message. -/
def rpc : Payload Hex → Text
  | .shakeOnIt _ => "shake_on_it".toList
  | .getRefundSig _ _ => "get_refund_sig".toList
  | .returnRefundSig _ _ => "return_refund_sig".toList
  | .getSetupTx _ _ => "get_setup_tx".toList
  | .returnSetupTx _ _ _ => rpcName
  | .returnAdjustedRefund _ _ _ _ => "return_adjusted_refund".toList

/-- What the handler of a message looks for. -/
def pattern : Payload Hex → Pattern Char
  | .shakeOnIt _ => shakeOnItPattern
  | .getRefundSig _ _ => getRefundSigPattern
  | .returnRefundSig _ _ => returnRefundSigPattern
  | .getSetupTx _ _ => getSetupTxPattern
  | .returnSetupTx _ _ _ => returnSetupTxPattern
  | .returnAdjustedRefund _ _ _ _ => returnAdjustedRefundPattern

/-- `str(setup_tx_hex)`. -/
def setupText (hexText : Hex → Text) : Option Hex → Text
  | some setupTxHex => hexText setupTxHex
  | none => "None".toList

/-- What follows the name in the text that is signed. -/
def fields (hexText : Hex → Text) : Payload Hex → Text
  | .shakeOnIt contractHash => contractHash.toList
  | .getRefundSig contractHash refundTxHex =>
      contractHash.toList ++ ' ' :: hexText refundTxHex
  | .returnRefundSig contractHash refundSig =>
      contractHash.toList ++ ' ' :: (refundSig.map encodeSig).getD []
  | .getSetupTx contractHash setupTxid =>
      contractHash.toList ++ ' ' :: setupTxid.toList
  | .returnSetupTx contractHash setupTxHex collateralInfo =>
      contractHash.toList ++ ' ' :: setupText hexText setupTxHex ++
        ' ' :: ((collateralInfo.filterMap id).map fun info =>
          info.msg.toList ++ ['@']).flatten
  | .returnAdjustedRefund contractHash refundTx refundSig1 refundSig2 =>
      contractHash.toList ++ ' ' :: hexText refundTx ++
        ' ' :: (refundSig1.map encodeSig).getD [] ++
        ' ' :: (refundSig2.map encodeSig).getD []

/-- The text that is signed: the common form of `new_get_refund_sig`,
`new_return_refund_sig`, `new_get_setup_tx`, `new_return_setup_tx`,
`new_return_adjusted_refund` and `new_shake_on_it`. -/
def text
    (version ntp : Nat)
    (hexText : Hex → Text)
    (payload : Payload Hex) : Text :=
  Nat.toDigits 10 version ++ ' ' :: Nat.toDigits 10 ntp ++
    ' ' :: payload.rpc ++ ' ' :: payload.fields hexText

/-- The groups between the name and the signature are what the payload
says. -/
def agrees (hexText : Hex → Text) : Payload Hex → List Text → Bool
  | .shakeOnIt contractHash, [hash] => hash = contractHash.toList
  | .getRefundSig contractHash refundTxHex, [hash, txHex] =>
      hash = contractHash.toList && txHex = hexText refundTxHex
  | .returnRefundSig contractHash refundSig, [hash, sig] =>
      hash = contractHash.toList && decodeSig sig = refundSig
  | .getSetupTx contractHash setupTxid, [hash, txid] =>
      hash = contractHash.toList && txid = setupTxid.toList
  | .returnSetupTx contractHash setupTxHex collateralInfo,
      [hash, txHex, infos] =>
      hash = contractHash.toList && txHex = setupText hexText setupTxHex &&
        readCollateralInfos infos = collateralInfo
  | .returnAdjustedRefund contractHash refundTx refundSig1 refundSig2,
      [hash, txHex, sig1, sig2] =>
      hash = contractHash.toList && txHex = hexText refundTx &&
        decodeSig sig1 = refundSig1 && decodeSig sig2 = refundSig2
  | _, _ => false

end Payload

/-- `parse_msg` hands a line to the handler of that name. -/
def MsgParser.hands
    (parser : MsgParser)
    (clock : ℚ)
    (rpc line : Text) : Bool :=
  (parser.parseMsg [] ⟨line, clock, .ok ()⟩).state ≠ [] &&
    (msgHeader line).map MsgHeader.rpc = some rpc

namespace Message

variable {Hex : Type}

/-- A handler takes a line apart like this: the signature is what follows the
last space, and its expression finds what the payload says. -/
def isFound (hexText : Hex → Text) (msg : Message Hex) : Bool :=
  msg.sig.toList.all (· ≠ ' ') &&
    match (msg.payload.pattern.search msg.line).map Match.groups with
    | some (_ :: fields) => msg.payload.agrees hexText fields.dropLast
    | _ => false

/-- The line of a message gets to its handler, which reads it as the
message. -/
def isRead
    (parser : MsgParser)
    (hexText : Hex → Text)
    (clock : ℚ)
    (msg : Message Hex) : Bool :=
  parser.hands clock msg.payload.rpc msg.line && msg.isFound hexText

end Message
end Coinbend
