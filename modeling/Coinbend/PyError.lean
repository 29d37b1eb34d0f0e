import Mathlib.Logic.Basic

/-!
# Exceptions raised by the program

The model distinguishes the exceptions the modelled code raises itself from
the ones Python and the libraries raise.
-/

namespace Coinbend

/-- A raised Python exception. -/
inductive PyError
  /-- `raise Exception(message)`. -/
  | exception (message : String)
  /-- An unbound global name was read. -/
  | nameError (name : String)
  | attributeError
  | typeError
  | valueError
  | assertionError (message : String)
  | indexError
  | keyError
  | zeroDivision
  /-- A number too large for a machine type. -/
  | overflowError
  /-- `decimal.Overflow`: a result beyond the largest exponent. -/
  | decimalOverflow
  /-- `decimal.InvalidOperation`, such as zero by zero. -/
  | invalidOperation
  /-- `binascii.Error`: text that is not base64 or hexadecimal. -/
  | binasciiError
  /-- A transaction that does not parse. -/
  | deserializationError
  /-- A transaction field out of the range of its wire format. -/
  | structError
  /-- The coin daemon refused a call or did not answer. -/
  | jsonRpcException
  deriving DecidableEq, Repr

end Coinbend
