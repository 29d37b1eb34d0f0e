import Coinbend.Currency.Objects
import Coinbend.Library.Dict
import Coinbend.Trade.Fees
import Mathlib.Data.List.Infix

/-!
# Amounts in database rows

`Trade.save` and `OrderBook.open_order` store the two integers of an amount;
`trade_from_row`, `get_order` and `combine_number_parts` build amounts from
them again.  Columns that hold no amount and that no reader uses are left out.
-/

namespace Coinbend

open Numerals (Conversion)

/-- What a column of a row holds. -/
inductive SqlValue
  | int (n : Nat)
  | text (s : String)
  deriving DecidableEq

/-- A row as a dictionary. -/
abbrev Row := Dict String SqlValue

namespace Row

/-- `row[key]`. -/
def read (row : Row) (key : String) : Except PyError SqlValue :=
  Except.ofOption .keyError (row.get? key)

/-- `str(row[key])`. -/
def readText (row : Row) (key : String) : Except PyError String := do
  match ← row.read key with
  | .text s => return s
  | .int _ => throw .attributeError

end Row

/-- `int(value)`. -/
def SqlValue.toInt (conversion : Conversion) : SqlValue → Except PyError Int
  | .int n => .ok n
  | .text s => CObject.intStr conversion s.toList

namespace C

/-- `C(whole, dec)` with two integers of any sign. -/
def ofIntegers (conversion : Conversion) (whole dec : Int) :
    Except PyError C := do
  match ← CObject.numberOf conversion (.pair whole dec) with
  | (.int (.ofNat whole), .int (.ofNat dec)) => ofPieces whole dec
  | _ => .error (.exception "Invalid number format for pieces.")

/-- `C(whole, dec)`: arguments that are not integers leave zero. -/
def fromColumns : SqlValue → SqlValue → Except PyError C
  | .int whole, .int dec => ofInts whole dec
  | _, _ => .ok 0

/-- `C(value)`: an integer beyond the sixteen decimals is split into texts,
which the range check cannot compare. -/
def fromColumn : SqlValue → Except PyError C
  | .text s => parse s.toList
  | .int n => if n < decBase then ofPieces n 0 else .error .typeError

end C

/-- The action a text names. -/
def Action.ofText (s : String) : Except PyError Action :=
  if s.toLower = "buy" then .ok .buy
  else if s.toLower = "sell" then .ok .sell
  else .error (.exception "Invalid action for trade.")

/-- The text of an action. -/
def Action.text : Action → String
  | .buy => "buy"
  | .sell => "sell"

/-! ## Writing -/

/-- The amounts `Trade.save` stores, under the names of their columns. -/
def Trade.storedAmounts (trade : Trade) : List (String × C) :=
  [("total", trade.total), ("recv", trade.recv), ("amount", trade.amount),
    ("ppc", trade.ppc), ("sent", trade.sent), ("fees", trade.fees)]

/-- Put a row into the database, which does not take every row: an integer may
be too large for it, and `Database.execute` refuses some texts. -/
def Row.insert (takes : Row → Bool) (row : Row) : Except PyError Row :=
  if takes row then .ok row else .error (.exception "database")

/-- The row `Trade.save` inserts. -/
def Trade.savedRow (trade : Trade) : Row :=
  ⟨[("total_whole", .int trade.total.whole),
    ("total_dec", .int trade.total.dec),
    ("recv_whole", .int trade.recv.whole),
    ("recv_dec", .int trade.recv.dec),
    ("amount_whole", .int trade.amount.whole),
    ("amount_dec", .int trade.amount.dec),
    ("ppc_whole", .int trade.ppc.whole),
    ("ppc_dec", .int trade.ppc.dec),
    ("base_currency", .text trade.pair.base),
    ("quote_currency", .text trade.pair.quote),
    ("action", .text trade.action.text),
    ("sent_whole", .int trade.sent.whole),
    ("sent_dec", .int trade.sent.dec),
    ("recv_addr", .text trade.recvAddr),
    ("dest_ip", .text trade.destIp),
    ("fees_whole", .int trade.fees.whole),
    ("fees_dec", .int trade.fees.dec)]⟩

/-- `Trade.save`. -/
def Trade.save (takes : Row → Bool) (trade : Trade) : Except PyError Row :=
  trade.savedRow.insert takes

/-- The row `OrderBook.open_order` inserts for a trade. -/
def Trade.openOrderRow (trade : Trade) (orderHash : String) : Row :=
  ⟨[("action", .text trade.action.text),
    ("base_currency", .text trade.pair.base),
    ("quote_currency", .text trade.pair.quote),
    ("amount_whole", .int trade.amount.whole),
    ("amount_dec", .int trade.amount.dec),
    ("ppc_whole", .int trade.ppc.whole),
    ("ppc_dec", .int trade.ppc.dec),
    ("order_hash", .text orderHash)]⟩

/-- `OrderBook.open_order`. -/
def openOrder (takes : Row → Bool) (trade : Trade) (orderHash : String) :
    Except PyError Row :=
  (trade.openOrderRow orderHash).insert takes

/-! ## Reading -/

/-- `C(row[name + "_whole"], row[name + "_dec"])`. -/
def Row.twoColumns (row : Row) (name : String) : Except PyError C := do
  C.fromColumns (← row.read (name ++ "_whole")) (← row.read (name ++ "_dec"))

/-- An amount stored in two columns or in one. -/
def Row.amount (row : Row) (name : String) : Except PyError C :=
  if row.contains (name ++ "_whole") then row.twoColumns name
  else row.read name >>= C.fromColumn

/-- An amount that may be missing, where one column goes before two. -/
def Row.optionalAmount (row : Row) (name : String) : Except PyError C :=
  if row.contains name then row.read name >>= C.fromColumn
  else if row.contains (name ++ "_whole") ∧ row.contains (name ++ "_dec") then
    row.twoColumns name
  else return 0

/-- The order hash of a row, empty where there is no such column. -/
def Row.orderHash (row : Row) : Except PyError String :=
  if row.contains "order_hash" then row.readText "order_hash" else return ""

/-- `trade_from_row`. -/
def tradeFromRow (context : TradeContext) (row : Row) :
    Except PyError Trade := do
  let action ← row.readText "action"
  let amount ← row.amount "amount"
  let base ← row.readText "base_currency"
  let quote ← row.readText "quote_currency"
  let ppc ← row.amount "ppc"
  let sent ← row.optionalAmount "sent"
  let recv ← row.optionalAmount "recv"
  let orderHash ← row.orderHash
  Trade.new context {
    action := ← Action.ofText action
    amount
    pair := { base := base.toLower, quote := quote.toLower }
    ppc
    orderHash
    sent
    recv }

/-- The trade `get_order` builds from a row of the order book. -/
def getOrderTrade (context : TradeContext) (row : Row) :
    Except PyError Trade := do
  let action ← row.readText "action"
  let amount ← row.twoColumns "amount"
  let base ← row.readText "base_currency"
  let quote ← row.readText "quote_currency"
  let ppc ← row.twoColumns "ppc"
  let orderHash ← row.readText "order_hash"
  Trade.new context {
    action := ← Action.ofText action
    amount
    pair := { base := base.toLower, quote := quote.toLower }
    ppc
    orderHash }

/-- What a combined row holds under a key. -/
inductive PrettyValue
  | raw (value : SqlValue)
  | text (s : String)
  | amount (c : C)
  deriving DecidableEq

/-- `str(n)` or `n`. -/
def prettyAmount (asText : Bool) (c : C) : PrettyValue :=
  if asText then .text c.str else .amount c

/-- The name `^(.+?)_(whole|dec)$` finds in a key with `whole` or `dec` in it;
`some none` where it finds nothing. -/
def partOf (key : String) : Option (Option String) :=
  let text := key.toList
  if "whole".toList <:+: text ∨ "dec".toList <:+: text then
    if "_whole".toList <:+ text ∧ 6 < text.length then
      some (some (String.ofList (text.take (text.length - 6))))
    else if "_dec".toList <:+ text ∧ 4 < text.length then
      some (some (String.ofList (text.take (text.length - 4))))
    else some none
  else none

/-- `C(int(row[name + "_whole"]), int(row[name + "_dec"]))`. -/
def Row.intColumns
    (conversion : Conversion)
    (row : Row)
    (name : String) : Except PyError C := do
  let whole ← (← row.read (name ++ "_whole")).toInt conversion
  let dec ← (← row.read (name ++ "_dec")).toInt conversion
  C.ofIntegers conversion whole dec

/-- One key of a row in `combine_number_parts`; the state is the combined row
and the names already done. -/
def combineKey
    (conversion : Conversion)
    (asText : Bool)
    (row : Row)
    (state : Dict String PrettyValue × List String)
    (key : String) :
    Except PyError (Dict String PrettyValue × List String) :=
  match partOf key with
  | none => do
      let value ← row.read key
      return (state.1.set key (.raw value), state.2)
  | some none => throw .indexError
  | some (some name) =>
      if name ∈ state.2 then return state
      else do
        let n ← row.intColumns conversion name
        return (state.1.set name (prettyAmount asText n), state.2 ++ [name])

/-- `combine_number_parts` for one row. -/
def combineNumberParts
    (conversion : Conversion)
    (asText : Bool)
    (row : Row) : Except PyError (Dict String PrettyValue) :=
  (row.keys.foldlM (combineKey conversion asText row) (∅, [])).map Prod.fst

/-! ## Building a trade again -/

/-- The numbers of a trade that are read back. -/
structure Trade.SameAmounts (loaded trade : Trade) : Prop where
  amount : loaded.amount = trade.amount
  ppc : loaded.ppc = trade.ppc
  total : loaded.total = trade.total
  sent : loaded.sent = trade.sent
  recv : loaded.recv = trade.recv
  fees : loaded.fees = trade.fees

/-- Without addresses the constructor only analyses. -/
theorem new_of_no_addresses
    (context : TradeContext)
    {args : TradeArgs}
    (no_ip : args.destIp = "")
    (no_address : args.recvAddr = "") :
    Trade.new context args = Trade.analyzeTrade context args := by
  rw [Trade.new, if_neg (by simp [no_ip]), if_neg (by simp [no_address])]

/-- The arguments of the constructor when a trade is read back. -/
def readArgs
    (trade : Trade)
    (amount ppc sent recv : C)
    (orderHash : String) : TradeArgs where
  action := trade.action
  amount := amount
  pair := trade.pair
  ppc := ppc
  orderHash := orderHash
  sent := sent
  recv := recv

/-- A trade that is read back has the amounts read, and no fees. -/
theorem new_readArgs
    {context : TradeContext}
    {trade loaded : Trade}
    (settled : trade.Settled)
    {amount ppc sent recv : C}
    {orderHash : String}
    (analysed : Trade.new context
      (readArgs trade amount ppc sent recv orderHash) = .ok loaded) :
    loaded.amount = amount ∧ loaded.ppc = ppc ∧ loaded.sent = sent ∧
      loaded.recv = recv ∧ loaded.fees = 0 := by
  rw [new_of_no_addresses context rfl rfl, Trade.analyzeTrade_eq_ok_iff]
    at analysed
  obtain ⟨numbers, remaining, found, _, rfl⟩ := analysed
  obtain ⟨total, _, rfl⟩ :=
    (Trade.priceNumbers_eq_ok_iff_of_straight settled.straight _).mp found
  exact ⟨rfl, rfl, rfl, rfl, rfl⟩

/-- A trade can be built again from its own amount and price when what was
sent and received is not more than before. -/
theorem exists_new_readArgs
    (context : TradeContext)
    {trade : Trade}
    (settled : trade.Settled)
    {sent recv remaining : C}
    (left : remainingOf trade.action trade.amount sent recv = .ok remaining)
    (orderHash : String) :
    ∃ loaded, Trade.new context
        (readArgs trade trade.amount trade.ppc sent recv orderHash) =
          .ok loaded ∧
      loaded.total = trade.total := by
  refine ⟨Trade.analysedTrade
    (readArgs trade trade.amount trade.ppc sent recv orderHash)
    (trade.amount, trade.ppc, trade.total) remaining, ?_, rfl⟩
  rw [new_of_no_addresses context rfl rfl, Trade.analyzeTrade_eq_ok_iff]
  refine ⟨_, remaining,
    (Trade.priceNumbers_eq_ok_iff_of_straight settled.straight _).mpr
      ⟨trade.total, settled.total, rfl⟩, ?_, rfl⟩
  have action : Trade.TradeArgs.analysedAction
      (readArgs trade trade.amount trade.ppc sent recv orderHash) =
        trade.action := if_neg settled.straight
  rw [action]
  exact left

/-- A trade is built again from amounts exactly when they are its own and it
has no fees. -/
theorem new_sameAmounts_iff
    (context : TradeContext)
    {trade : Trade}
    (settled : trade.Settled)
    (amount ppc sent recv : C)
    (orderHash : String) :
    (∃ loaded, Trade.new context
          (readArgs trade amount ppc sent recv orderHash) = .ok loaded ∧
        loaded.SameAmounts trade) ↔
      amount = trade.amount ∧ ppc = trade.ppc ∧ sent = trade.sent ∧
        recv = trade.recv ∧ trade.fees = 0 := by
  constructor
  · rintro ⟨loaded, analysed, same⟩
    obtain ⟨amount_eq, ppc_eq, sent_eq, recv_eq, fees_eq⟩ :=
      new_readArgs settled analysed
    exact ⟨amount_eq.symm.trans same.amount, ppc_eq.symm.trans same.ppc,
      sent_eq.symm.trans same.sent, recv_eq.symm.trans same.recv,
      same.fees.symm.trans fees_eq⟩
  · rintro ⟨rfl, rfl, rfl, rfl, no_fees⟩
    obtain ⟨loaded, analysed, total⟩ :=
      exists_new_readArgs context settled settled.remaining orderHash
    obtain ⟨amount_eq, ppc_eq, sent_eq, recv_eq, fees_eq⟩ :=
      new_readArgs settled analysed
    exact ⟨loaded, analysed, amount_eq, ppc_eq, total, sent_eq, recv_eq,
      fees_eq.trans no_fees.symm⟩

/-! ## What is read back -/

theorem Action.ofText_text (action : Action) :
    Action.ofText action.text = .ok action := by
  cases action <;> decide +kernel

/-- The row holds the two integers of an amount under a name. -/
def Row.Holds (row : Row) (name : String) (c : C) : Prop :=
  row.get? (name ++ "_whole") = some (.int c.whole) ∧
    row.get? (name ++ "_dec") = some (.int c.dec)

theorem Row.read_of_get?
    {row : Row}
    {key : String}
    {value : SqlValue}
    (found : row.get? key = some value) :
    row.read key = .ok value := by
  rw [Row.read, found]
  rfl

/-- Two columns that are held make the reloaded amount. -/
theorem Row.Holds.twoColumns
    {row : Row}
    {name : String}
    {c : C}
    (holds : row.Holds name c) :
    row.twoColumns name = .ok c.reloaded := by
  rw [Row.twoColumns, Except.bind_of_eq_ok (Row.read_of_get? holds.1),
    Except.bind_of_eq_ok (Row.read_of_get? holds.2)]
  exact C.ofInts_eq_reloaded c

/-- So do their integers. -/
theorem Row.Holds.intColumns
    {conversion : Conversion}
    {row : Row}
    {name : String}
    {c : C}
    (holds : row.Holds name c) :
    row.intColumns conversion name = .ok c.reloaded := by
  have dec_lt : c.dec < 10 ^ 40 := Nat.lt_trans c.dec_lt (by norm_num [decBase])
  have padded := @CObject.paddedInt_natCast conversion c.dec
    (not_tooLong_of_lt dec_lt)
  have whole_le : ¬(wholeNoLimit : Int) < c.whole := by
    have bound := c.whole_le
    omega
  have reloaded_lt : ¬(C.decNoLimit : Int) < C.paddedDec (Nat.toDigits 10 c.dec) := by
    have bound := c.reloaded.dec_lt
    change C.paddedDec (Nat.toDigits 10 c.dec) < decBase at bound
    unfold C.decNoLimit decBase at *
    omega
  have number : CObject.numberOf conversion (.pair c.whole c.dec) =
      .ok (.int c.whole, .int (C.paddedDec (Nat.toDigits 10 c.dec))) := by
    rw [CObject.numberOf, Except.bind_of_eq_ok padded, CObject.numberOfInts,
      Except.raiseIf_bind whole_le, Except.raiseIf_bind reloaded_lt]
    rfl
  rw [Row.intColumns, Except.bind_of_eq_ok (Row.read_of_get? holds.1)]
  simp only [SqlValue.toInt, Except.ok_bind]
  rw [Except.bind_of_eq_ok (Row.read_of_get? holds.2), Except.ok_bind,
    C.ofIntegers, Except.bind_of_eq_ok number]
  exact C.ofInts_eq_reloaded c

theorem Row.Holds.amount
    {row : Row}
    {name : String}
    {c : C}
    (holds : row.Holds name c) :
    row.amount name = .ok c.reloaded := by
  rw [Row.amount, if_pos (by rw [Dict.contains, holds.1]; rfl)]
  exact holds.twoColumns

theorem Row.Holds.optionalAmount
    {row : Row}
    {name : String}
    {c : C}
    (holds : row.Holds name c)
    (two_columns : row.contains name = false) :
    row.optionalAmount name = .ok c.reloaded := by
  rw [Row.optionalAmount, if_neg (by simp [two_columns]), if_pos]
  · exact holds.twoColumns
  · rw [Dict.contains, Dict.contains, holds.1, holds.2]
    exact ⟨rfl, rfl⟩

/-- The row the database has is the one that was put into it. -/
theorem exists_insert_iff
    {takes : Row → Bool}
    {row : Row}
    {Property : Row → Prop} :
    (∃ stored, row.insert takes = .ok stored ∧ Property stored) ↔
      takes row = true ∧ Property row := by
  unfold Row.insert
  constructor
  · rintro ⟨stored, inserted, holds⟩
    split at inserted
    next taken =>
      cases inserted
      exact ⟨taken, holds⟩
    · cases inserted
  · rintro ⟨taken, holds⟩
    exact ⟨row, if_pos taken, holds⟩

theorem Trade.savedRow_holds (trade : Trade) :
    trade.savedRow.Holds "total" trade.total ∧
      trade.savedRow.Holds "recv" trade.recv ∧
      trade.savedRow.Holds "amount" trade.amount ∧
      trade.savedRow.Holds "ppc" trade.ppc ∧
      trade.savedRow.Holds "sent" trade.sent ∧
      trade.savedRow.Holds "fees" trade.fees :=
  ⟨⟨rfl, rfl⟩, ⟨rfl, rfl⟩, ⟨rfl, rfl⟩, ⟨rfl, rfl⟩, ⟨rfl, rfl⟩, ⟨rfl, rfl⟩⟩

/-- `trade_from_row` gives the trade back exactly when its amounts reload and it
has no fees. -/
theorem tradeFromRow_savedRow_iff
    (context : TradeContext)
    {trade : Trade}
    (settled : trade.Settled)
    (lower : trade.pair.LowerCase) :
    (∃ loaded, tradeFromRow context trade.savedRow = .ok loaded ∧
        loaded.SameAmounts trade) ↔
      trade.amount.Reloads ∧ trade.ppc.Reloads ∧ trade.sent.Reloads ∧
        trade.recv.Reloads ∧ trade.fees = 0 := by
  obtain ⟨_, recv, amount, ppc, sent, _⟩ := trade.savedRow_holds
  have action : trade.savedRow.readText "action" = .ok trade.action.text := rfl
  have base : trade.savedRow.readText "base_currency" = .ok trade.pair.base :=
    rfl
  have quote :
      trade.savedRow.readText "quote_currency" = .ok trade.pair.quote :=
    rfl
  have no_hash : trade.savedRow.orderHash = .ok "" := by
    rw [Row.orderHash, if_neg]
    · rfl
    · exact Bool.false_ne_true
  have read : tradeFromRow context trade.savedRow =
      Trade.new context (readArgs trade trade.amount.reloaded
        trade.ppc.reloaded trade.sent.reloaded trade.recv.reloaded "") := by
    rw [tradeFromRow, Except.bind_of_eq_ok action,
      Except.bind_of_eq_ok amount.amount, Except.bind_of_eq_ok base,
      Except.bind_of_eq_ok quote, Except.bind_of_eq_ok ppc.amount,
      Except.bind_of_eq_ok (sent.optionalAmount rfl),
      Except.bind_of_eq_ok (recv.optionalAmount rfl),
      Except.bind_of_eq_ok no_hash,
      Except.bind_of_eq_ok (Action.ofText_text _), lower.1,
      lower.2]
    rfl
  rw [read, new_sameAmounts_iff context settled]
  simp only [C.reloaded_eq_iff]

/-- `get_order` gives the amount and the price back exactly when they
reload. -/
theorem getOrderTrade_iff
    (context : TradeContext)
    {trade : Trade}
    (settled : trade.Settled)
    (lower : trade.pair.LowerCase)
    (orderHash : String) :
    (∃ loaded,
        getOrderTrade context (trade.openOrderRow orderHash) = .ok loaded ∧
        loaded.amount = trade.amount ∧ loaded.ppc = trade.ppc) ↔
      trade.amount.Reloads ∧ trade.ppc.Reloads := by
  have amount : (trade.openOrderRow orderHash).Holds "amount" trade.amount :=
    ⟨rfl, rfl⟩
  have ppc : (trade.openOrderRow orderHash).Holds "ppc" trade.ppc := ⟨rfl, rfl⟩
  have action : (trade.openOrderRow orderHash).readText "action" =
    .ok trade.action.text := rfl
  have base : (trade.openOrderRow orderHash).readText "base_currency" =
    .ok trade.pair.base := rfl
  have quote : (trade.openOrderRow orderHash).readText "quote_currency" =
    .ok trade.pair.quote := rfl
  have hash : (trade.openOrderRow orderHash).readText "order_hash" =
    .ok orderHash := rfl
  have read : getOrderTrade context (trade.openOrderRow orderHash) =
      Trade.new context (readArgs trade trade.amount.reloaded
        trade.ppc.reloaded 0 0 orderHash) := by
    rw [getOrderTrade, Except.bind_of_eq_ok action,
      Except.bind_of_eq_ok amount.twoColumns, Except.bind_of_eq_ok base,
      Except.bind_of_eq_ok quote, Except.bind_of_eq_ok ppc.twoColumns,
      Except.bind_of_eq_ok hash, Except.bind_of_eq_ok (Action.ofText_text _),
      lower.1, lower.2]
    rfl
  rw [read, ← C.reloaded_eq_iff, ← C.reloaded_eq_iff]
  constructor
  · rintro ⟨loaded, analysed, same⟩
    obtain ⟨amount_eq, ppc_eq, _, _, _⟩ := new_readArgs settled analysed
    exact ⟨amount_eq.symm.trans same.1, ppc_eq.symm.trans same.2⟩
  · rintro ⟨amount_eq, ppc_eq⟩
    rw [amount_eq, ppc_eq]
    obtain ⟨remaining, left⟩ := remainingOf_zero trade.action trade.amount
    obtain ⟨loaded, analysed, _⟩ :=
      exists_new_readArgs context settled left orderHash
    obtain ⟨amount_eq, ppc_eq, _⟩ := new_readArgs settled analysed
    exact ⟨loaded, analysed, amount_eq, ppc_eq⟩

/-! ## Combined rows -/

variable {conversion : Conversion}

/-- The names of the amounts a row holds, with their amounts. -/
structure Row.HoldsAll (row : Row) (amounts : Dict String C) : Prop where
  /-- A key with `whole` or `dec` in it is a part of one of the amounts. -/
  parts : ∀ key ∈ row.keys, ∀ part, partOf key = some part →
    ∃ name c, part = some name ∧ amounts.get? name = some c ∧ row.Holds name c
  /-- No other column has the name of an amount. -/
  others : ∀ key ∈ row.keys, partOf key = none → amounts.get? key = none

/-- After some keys the names done are combined. -/
structure Combined
    (asText : Bool)
    (amounts : Dict String C)
    (state : Dict String PrettyValue × List String) : Prop where
  done : ∀ name ∈ state.2, ∃ c, amounts.get? name = some c ∧
    state.1.get? name = some (prettyAmount asText c.reloaded)

/-- One key is combined, and its name with it. -/
theorem combineKey_spec
    {asText : Bool}
    {row : Row}
    {amounts : Dict String C}
    (holds : row.HoldsAll amounts)
    {state : Dict String PrettyValue × List String}
    (combined : Combined asText amounts state)
    {key : String}
    (mem : key ∈ row.keys) :
    ∃ after, combineKey conversion asText row state key = .ok after ∧
      Combined asText amounts after ∧ state.2 ⊆ after.2 ∧
      ∀ name, partOf key = some (some name) → name ∈ after.2 := by
  obtain ⟨pretty, names⟩ := state
  unfold combineKey
  cases part : partOf key with
  | none =>
      have other := holds.others key mem part
      obtain ⟨value, stored⟩ := row.exists_get?_of_mem_keys mem
      refine ⟨(pretty.set key (.raw value), names), ?_, ⟨?_⟩,
        List.Subset.refl _, fun name impossible => by cases impossible⟩
      · rw [Except.bind_of_eq_ok (Row.read_of_get? stored)]
        rfl
      · intro name done
        obtain ⟨c, amount, found⟩ := combined.done name done
        refine ⟨c, amount, ?_⟩
        rw [Dict.get?_set, if_neg]
        · exact found
        · rintro rfl
          rw [other] at amount
          cases amount
  | some part_name =>
      obtain ⟨name, c, rfl, amount, columns⟩ :=
        holds.parts key mem part_name part
      by_cases done : name ∈ names
      · refine ⟨(pretty, names), ?_, combined, List.Subset.refl _, ?_⟩
        · simp only [if_pos done]
          rfl
        · rintro _ ⟨⟩
          exact done
      · refine ⟨(pretty.set name (prettyAmount asText c.reloaded),
          names ++ [name]), ?_, ⟨?_⟩, ?_, ?_⟩
        · simp only [if_neg done]
          rw [Except.bind_of_eq_ok columns.intColumns]
          rfl
        · intro other mem_other
          by_cases same : other = name
          · subst same
            exact ⟨c, amount, Dict.get?_set_same _ _ _⟩
          · have before : other ∈ names := by simpa [same] using mem_other
            obtain ⟨amount_c, amount_other, found⟩ :=
              combined.done other before
            refine ⟨amount_c, amount_other, ?_⟩
            rw [Dict.get?_set, if_neg same]
            exact found
        · exact List.subset_append_left _ _
        · rintro _ ⟨⟩
          exact List.mem_append_right _ List.mem_cons_self

/-- All keys are combined. -/
theorem combineKeys_spec
    {asText : Bool}
    {row : Row}
    {amounts : Dict String C}
    (holds : row.HoldsAll amounts)
    {keys : List String}
    (columns : keys ⊆ row.keys)
    {state : Dict String PrettyValue × List String}
    (combined : Combined asText amounts state) :
    ∃ after, keys.foldlM (combineKey conversion asText row) state = .ok after ∧
      Combined asText amounts after ∧ state.2 ⊆ after.2 ∧
      ∀ key ∈ keys, ∀ name, partOf key = some (some name) →
        name ∈ after.2 := by
  induction keys generalizing state with
  | nil =>
      exact ⟨state, rfl, combined, List.Subset.refl _, by simp⟩
  | cons key keys inductionHypothesis =>
      obtain ⟨mem, rest⟩ := List.cons_subset.mp columns
      obtain ⟨next, step, next_combined, next_names, next_done⟩ :=
        combineKey_spec holds combined mem
      obtain ⟨after, found, after_combined, after_names, after_done⟩ :=
        inductionHypothesis rest next_combined
      refine ⟨after, ?_, after_combined, List.Subset.trans next_names after_names, ?_⟩
      · rw [List.foldlM_cons, Except.bind_of_eq_ok step]
        exact found
      · intro other mem_other name part
        rcases List.mem_cons.mp mem_other with rfl | later
        · exact after_names (next_done name part)
        · exact after_done other later name part

/-- A row of amounts is combined into the reloaded ones. -/
theorem combineNumberParts_spec
    (asText : Bool)
    {row : Row}
    {amounts : Dict String C}
    (holds : row.HoldsAll amounts) :
    ∃ pretty, combineNumberParts conversion asText row = .ok pretty ∧
      ∀ key ∈ row.keys, ∀ name c, partOf key = some (some name) →
        amounts.get? name = some c →
        pretty.get? name = some (prettyAmount asText c.reloaded) := by
  have start : Combined asText amounts (∅, []) := ⟨by simp⟩
  obtain ⟨after, found, combined, _, done⟩ :=
    combineKeys_spec holds (List.Subset.refl _) start
  refine ⟨after.1, ?_, ?_⟩
  · rw [combineNumberParts, found]
    rfl
  · intro key mem name c part amount
    obtain ⟨stored, same, pretty⟩ := combined.done name (done key mem name part)
    rw [amount] at same
    cases same
    exact pretty

/-- The six amounts of a trade, under the names of their columns. -/
def Trade.amounts (trade : Trade) : Dict String C :=
  ⟨trade.storedAmounts⟩

/-- The columns `Trade.save` writes. -/
def savedColumns : List String :=
  ["total_whole", "total_dec", "recv_whole", "recv_dec", "amount_whole",
    "amount_dec", "ppc_whole", "ppc_dec", "base_currency", "quote_currency",
    "action", "sent_whole", "sent_dec", "recv_addr", "dest_ip", "fees_whole",
    "fees_dec"]

/-- The names of the amounts among them. -/
def savedNames : List String :=
  ["total", "recv", "amount", "ppc", "sent", "fees"]

theorem partOf_savedColumns :
    ∀ key ∈ savedColumns,
      partOf key = none ∧ key ∉ savedNames ∨
        ∃ name ∈ savedNames, partOf key = some (some name) := by
  decide +kernel

theorem partOf_whole_savedNames :
    ∀ name ∈ savedNames, name ++ "_whole" ∈ savedColumns ∧
      partOf (name ++ "_whole") = some (some name) := by
  decide +kernel

/-- Each name stands for the amount whose parts are stored. -/
theorem Trade.amounts_of_mem
    (trade : Trade)
    {name : String}
    (mem : name ∈ savedNames) :
    ∃ c, trade.amounts.get? name = some c ∧ trade.savedRow.Holds name c := by
  obtain ⟨total, recv, amount, ppc, sent, fees⟩ := trade.savedRow_holds
  simp only [savedNames, List.mem_cons, List.not_mem_nil, or_false] at mem
  rcases mem with rfl | rfl | rfl | rfl | rfl | rfl
  · exact ⟨_, rfl, total⟩
  · exact ⟨_, rfl, recv⟩
  · exact ⟨_, rfl, amount⟩
  · exact ⟨_, rfl, ppc⟩
  · exact ⟨_, rfl, sent⟩
  · exact ⟨_, rfl, fees⟩

theorem Trade.savedRow_holdsAll (trade : Trade) :
    trade.savedRow.HoldsAll trade.amounts where
  parts := by
    intro key mem part found
    rcases partOf_savedColumns key mem with ⟨other, _⟩ | ⟨name, named, whole⟩
    · rw [other] at found
      cases found
    · rw [whole] at found
      cases found
      obtain ⟨c, amount, columns⟩ := trade.amounts_of_mem named
      exact ⟨name, c, rfl, amount, columns⟩
  others := by
    intro key mem other
    rcases partOf_savedColumns key mem with ⟨_, unnamed⟩ | ⟨name, _, whole⟩
    · exact Dict.get?_eq_none_of_notMem unnamed
    · rw [other] at whole
      cases whole

/-- `combine_number_parts` shows the amounts of a saved trade exactly when
all of them reload. -/
theorem combineNumberParts_savedRow_iff
    (conversion : Conversion)
    (asText : Bool)
    (trade : Trade) :
    (∃ pretty, combineNumberParts conversion asText trade.savedRow =
          .ok pretty ∧
        ∀ entry ∈ trade.storedAmounts,
          pretty.get? entry.1 = some (prettyAmount asText entry.2)) ↔
      ∀ entry ∈ trade.storedAmounts, entry.2.Reloads := by
  have named : ∀ entry ∈ trade.storedAmounts,
      entry.1 ∈ savedNames ∧ trade.amounts.get? entry.1 = some entry.2 := by
    simp only [Trade.storedAmounts, List.forall_mem_cons]
    exact ⟨⟨by decide, rfl⟩, ⟨by decide, rfl⟩, ⟨by decide, rfl⟩,
      ⟨by decide, rfl⟩, ⟨by decide, rfl⟩, ⟨by decide, rfl⟩, by simp⟩
  obtain ⟨combined, found, shown⟩ :=
    @combineNumberParts_spec conversion asText _ _ trade.savedRow_holdsAll
  have each : ∀ entry ∈ trade.storedAmounts,
      combined.get? entry.1 =
        some (prettyAmount asText entry.2.reloaded) := by
    intro entry mem
    obtain ⟨name, amount⟩ := named entry mem
    obtain ⟨column, part⟩ := partOf_whole_savedNames _ name
    exact shown _ column _ _ part amount
  constructor
  · rintro ⟨_, again, expected⟩ entry mem
    rw [found, Except.ok.injEq] at again
    subst again
    have same := (each entry mem).symm.trans (expected entry mem)
    rw [Option.some.injEq] at same
    cases asText with
    | true => exact (C.str_reloaded_eq_iff _).mp (PrettyValue.text.inj same)
    | false => exact (C.reloaded_eq_iff _).mp (PrettyValue.amount.inj same)
  · intro reloads
    refine ⟨combined, found, fun entry mem => ?_⟩
    rw [each entry mem, (C.reloaded_eq_iff _).mpr (reloads entry mem)]

/-- Amounts are read back exactly when the database takes the row and the
digits of their fractions fill the sixteen places: `C(whole, dec)`, a trade from
its row, which has no fees, an open trade from its order and a combined row. -/
theorem storedAmounts_iff
    (takes : Row → Bool)
    (conversion : Conversion)
    (context : TradeContext)
    (trade : Trade)
    (settled : trade.Settled)
    (lower : trade.pair.LowerCase)
    (orderHash : String) :
    (∀ c : C, C.ofInts c.whole c.dec = .ok c ↔ c.Reloads) ∧
      ((∃ row, trade.save takes = .ok row ∧
          ∃ loaded, tradeFromRow context row = .ok loaded ∧
            loaded.SameAmounts trade) ↔
        takes trade.savedRow = true ∧ trade.amount.Reloads ∧
          trade.ppc.Reloads ∧ trade.sent.Reloads ∧ trade.recv.Reloads ∧
          trade.fees = 0) ∧
      ((∃ row, openOrder takes trade orderHash = .ok row ∧
          ∃ loaded, getOrderTrade context row = .ok loaded ∧
            loaded.amount = trade.amount ∧ loaded.ppc = trade.ppc) ↔
        takes (trade.openOrderRow orderHash) = true ∧
          trade.amount.Reloads ∧ trade.ppc.Reloads) ∧
      ∀ asText,
        (∃ row, trade.save takes = .ok row ∧
          ∃ pretty, combineNumberParts conversion asText row = .ok pretty ∧
            ∀ entry ∈ trade.storedAmounts,
              pretty.get? entry.1 = some (prettyAmount asText entry.2)) ↔
        takes trade.savedRow = true ∧
          ∀ entry ∈ trade.storedAmounts, entry.2.Reloads := by
  refine ⟨C.ofInts_eq_ok_iff, ?_, ?_, fun asText => ?_⟩
  · rw [Trade.save, exists_insert_iff,
      tradeFromRow_savedRow_iff context settled lower]
  · rw [openOrder, exists_insert_iff,
      getOrderTrade_iff context settled lower orderHash]
  · rw [Trade.save, exists_insert_iff,
      combineNumberParts_savedRow_iff conversion asText trade]

/-! ## A lost zero -/

namespace Sample

def rowContext : TradeContext where
  prec := 28
  isIpValid := fun _ => true
  isAddressValid := fun _ => true

/-- A sell of 1.05 coins at the price 2. -/
def leadingZeroArgs : TradeArgs where
  action := .sell
  amount := C.ofVal 10500000000000000 (by decide)
  pair := { base := "bitcoin", quote := "litecoin" }
  ppc := C.coins 2

/-- A sell of 1.5 coins at the price 2. -/
def fullArgs : TradeArgs :=
  { leadingZeroArgs with amount := C.ofVal 15000000000000000 (by decide) }

/-- The trade analysed from these arguments. -/
def rowTrade (args : TradeArgs) (total : C) : Trade :=
  Trade.analysedTrade args (args.amount, args.ppc, total) args.amount

theorem settled_rowTrade_fullArgs :
    (rowTrade fullArgs (C.coins 3)).Settled where
  ordered := by decide +kernel
  total := by decide +kernel
  remaining := by decide +kernel

end Sample

/-- 1.05 coins are read back as 1.5 coins. -/
theorem leadingZero_lost :
    (C.ofInts Sample.leadingZeroArgs.amount.whole
        Sample.leadingZeroArgs.amount.dec = .ok Sample.fullArgs.amount) ∧
      ¬∀ c : C, C.ofInts c.whole c.dec = .ok c := by
  refine ⟨by decide +kernel, fun reload => ?_⟩
  have reloads :=
    (C.ofInts_eq_ok_iff _).mp (reload Sample.leadingZeroArgs.amount)
  revert reloads
  decide +kernel

/-- 1.5 coins are read back as they were stored. -/
theorem fullArgs_readBack :
    ∃ row, (Sample.rowTrade Sample.fullArgs (C.coins 3)).save
        (fun _ => true) = .ok row ∧
      ∃ loaded, tradeFromRow Sample.rowContext row = .ok loaded ∧
        loaded.SameAmounts (Sample.rowTrade Sample.fullArgs (C.coins 3)) :=
  (storedAmounts_iff (fun _ => true) .plain Sample.rowContext
      (Sample.rowTrade Sample.fullArgs (C.coins 3))
      Sample.settled_rowTrade_fullArgs
      (by constructor <;> decide +kernel) "").2.1.mpr
    (by decide +kernel)

end Coinbend
