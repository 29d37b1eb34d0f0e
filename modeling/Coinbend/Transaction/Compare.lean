import Coinbend.Transaction.Defs

/-!
# Comparing transactions

`compare_transactions` of `coinlib.py`.  It is meant to see through a changed
`scriptSig`; it also sees through a changed output index of an outpoint,
because the loop over the inputs compares `nSequence` twice and `prevout.n`
never.
-/

namespace Coinbend

namespace CTxIn

/-- An input without its script. -/
def withoutScript (input : CTxIn) : CTxIn :=
  { input with scriptSig := .raw [] }

/-- An input without the output index of its outpoint. -/
def withoutIndex (input : CTxIn) : CTxIn :=
  { input with prevout := { input.prevout with n := 0 } }

/-- What `compare_transactions` looks at. -/
def compared (input : CTxIn) : CTxIn :=
  input.withoutScript.withoutIndex

theorem withoutScript_eq_iff (input other : CTxIn) :
    input.withoutScript = other.withoutScript ↔
      input.compared = other.compared ∧
        input.prevout.n = other.prevout.n := by
  obtain ⟨⟨hash, n⟩, script, sequence⟩ := input
  obtain ⟨⟨otherHash, otherN⟩, otherScript, otherSequence⟩ := other
  simp only [compared, withoutScript, withoutIndex, CTxIn.mk.injEq,
    COutPoint.mk.injEq]
  tauto

theorem compared_eq_iff (input other : CTxIn) :
    input.compared = other.compared ↔
      input.nSequence = other.nSequence ∧
        input.prevout.hash = other.prevout.hash := by
  obtain ⟨⟨hash, n⟩, script, sequence⟩ := input
  obtain ⟨⟨otherHash, otherN⟩, otherScript, otherSequence⟩ := other
  simp only [compared, withoutScript, withoutIndex, CTxIn.mk.injEq,
    COutPoint.mk.injEq]
  tauto

end CTxIn

namespace CTransaction

/-- A transaction without the scripts of its inputs. -/
def withoutScripts (tx : CTransaction) : CTransaction :=
  { tx with vin := tx.vin.map CTxIn.withoutScript }

/-- The output indices a transaction spends, in order. -/
def outpointIndices (tx : CTransaction) : List Nat :=
  tx.vin.map fun input => input.prevout.n

/-- A transaction without the scripts and the output indices of its
inputs. -/
def compared (tx : CTransaction) : CTransaction :=
  { tx with vin := tx.vin.map CTxIn.compared }

end CTransaction

theorem map_withoutScript_eq_iff (inputs others : List CTxIn) :
    inputs.map CTxIn.withoutScript = others.map CTxIn.withoutScript ↔
      inputs.map CTxIn.compared = others.map CTxIn.compared ∧
        inputs.map (fun input => input.prevout.n) =
          others.map fun input => input.prevout.n := by
  induction inputs generalizing others with
  | nil => cases others <;> simp
  | cons input inputs hypothesis =>
      cases others with
      | nil => simp
      | cons other others =>
          simp only [List.map_cons, List.cons.injEq, hypothesis,
            CTxIn.withoutScript_eq_iff]
          tauto

/-- The scripts apart, two transactions are equal when the compared fields
and the output indices are. -/
theorem CTransaction.withoutScripts_eq_iff (tx other : CTransaction) :
    tx.withoutScripts = other.withoutScripts ↔
      tx.compared = other.compared ∧
        tx.outpointIndices = other.outpointIndices := by
  obtain ⟨version, inputs, outputs, lockTime⟩ := tx
  obtain ⟨otherVersion, otherInputs, otherOutputs, otherLockTime⟩ := other
  simp only [withoutScripts, compared, outpointIndices,
    CTransaction.mk.injEq, map_withoutScript_eq_iff]
  tauto

/-- The loop over the inputs; the lists have one length. -/
def compareInputs : List CTxIn → List CTxIn → Bool
  | input1 :: inputs1, input2 :: inputs2 =>
      if input1.nSequence ≠ input2.nSequence then
        false
      else if input1.prevout.hash ≠ input2.prevout.hash then
        false
      else if input1.nSequence ≠ input2.nSequence then
        false
      else
        compareInputs inputs1 inputs2
  | _, _ => true

theorem compareInputs_eq_true_iff
    (inputs others : List CTxIn)
    (sameLength : inputs.length = others.length) :
    compareInputs inputs others = true ↔
      inputs.map CTxIn.compared = others.map CTxIn.compared := by
  induction inputs generalizing others with
  | nil => cases others <;> simp_all [compareInputs]
  | cons input inputs hypothesis =>
      cases others with
      | nil => simp at sameLength
      | cons other others =>
          have tails := hypothesis others (by simpa using sameLength)
          simp only [List.map_cons, List.cons.injEq, CTxIn.compared_eq_iff,
            ← tails, compareInputs]
          split_ifs <;> simp_all

/-- The loop over the outputs; the lists have one length. -/
def compareOutputs : List CTxOut → List CTxOut → Bool
  | output1 :: outputs1, output2 :: outputs2 =>
      if output1 ≠ output2 then
        false
      else
        compareOutputs outputs1 outputs2
  | _, _ => true

theorem compareOutputs_eq_true_iff
    (outputs others : List CTxOut)
    (sameLength : outputs.length = others.length) :
    compareOutputs outputs others = true ↔ outputs = others := by
  induction outputs generalizing others with
  | nil => cases others <;> simp_all [compareOutputs]
  | cons output outputs hypothesis =>
      cases others with
      | nil => simp at sameLength
      | cons other others =>
          have tails := hypothesis others (by simpa using sameLength)
          simp only [List.cons.injEq, ← tails, compareOutputs]
          split_ifs <;> simp_all

/-- `compare_transactions` on decoded transactions. -/
def compareDecoded (tx1 tx2 : CTransaction) : Bool :=
  if tx1.vin.length ≠ tx2.vin.length then
    false
  else if tx1.vout.length ≠ tx2.vout.length then
    false
  else if tx1.nVersion ≠ tx2.nVersion then
    false
  else if tx1.nLockTime ≠ tx2.nLockTime then
    false
  else if compareInputs tx1.vin tx2.vin = false then
    false
  else
    compareOutputs tx1.vout tx2.vout

theorem compareDecoded_eq_true_iff (tx1 tx2 : CTransaction) :
    compareDecoded tx1 tx2 = true ↔ tx1.compared = tx2.compared := by
  obtain ⟨version, inputs, outputs, lockTime⟩ := tx1
  obtain ⟨otherVersion, otherInputs, otherOutputs, otherLockTime⟩ := tx2
  simp only [compareDecoded, CTransaction.compared, CTransaction.mk.injEq]
  by_cases inputsLength : inputs.length = otherInputs.length
  · by_cases outputsLength : outputs.length = otherOutputs.length
    · rw [← compareInputs_eq_true_iff inputs otherInputs inputsLength,
        ← compareOutputs_eq_true_iff outputs otherOutputs outputsLength]
      split_ifs <;> simp_all
    · have differ : outputs ≠ otherOutputs := by
        rintro rfl
        exact outputsLength rfl
      simp [outputsLength, differ]
  · have differ :
        inputs.map CTxIn.compared ≠ otherInputs.map CTxIn.compared := by
      intro same
      exact inputsLength (by simpa using congrArg List.length same)
    simp [inputsLength, differ]

section

variable {Hex : Type} [DecidableEq Hex] (lib : BitcoinLib Hex)

/-- `compare_transactions`.  Every exception ends in `0`. -/
def compareTransactions (txHex1 txHex2 : Hex) : Nat :=
  if txHex1 = txHex2 then
    1
  else
    match lib.deserialize txHex1, lib.deserialize txHex2 with
    | some tx1, some tx2 => if compareDecoded tx1 tx2 then 1 else 0
    | _, _ => 0

/-- What a text stands for in a comparison: the compared fields of its
transaction, or itself when it has none. -/
def comparedText (txHex : Hex) : Hex ⊕ CTransaction :=
  match lib.deserialize txHex with
  | some tx => .inr tx.compared
  | none => .inl txHex

theorem compareTransactions_eq_one_iff (txHex1 txHex2 : Hex) :
    compareTransactions lib txHex1 txHex2 = 1 ↔
      comparedText lib txHex1 = comparedText lib txHex2 := by
  unfold compareTransactions
  split_ifs with sameText
  · simp [sameText]
  · cases first : lib.deserialize txHex1 <;>
      cases second : lib.deserialize txHex2 <;>
      simp [comparedText, first, second, sameText,
        compareDecoded_eq_true_iff]

/-- The comparison is an equivalence of texts. -/
theorem compareTransactions_equivalence :
    Equivalence fun txHex1 txHex2 : Hex =>
      compareTransactions lib txHex1 txHex2 = 1 := by
  simp only [compareTransactions_eq_one_iff]
  exact eq_equivalence.comap (comparedText lib)

theorem compareTransactions_of_deserialize
    {txHex1 txHex2 : Hex}
    {tx1 tx2 : CTransaction}
    (first : lib.deserialize txHex1 = some tx1)
    (second : lib.deserialize txHex2 = some tx2) :
    compareTransactions lib txHex1 txHex2 = 1 ↔
      tx1.compared = tx2.compared := by
  rw [compareTransactions_eq_one_iff]
  simp [comparedText, first, second]

/-- The comparison is an equivalence, and on a pair of transactions it decides
equality up to input scripts unless they differ in an output index and in
nothing else it looks at. -/
theorem compareTransactions_exact_iff :
    (Equivalence fun txHex1 txHex2 : Hex =>
      compareTransactions lib txHex1 txHex2 = 1) ∧
    ∀ (txHex1 txHex2 : Hex) (tx1 tx2 : CTransaction),
      lib.deserialize txHex1 = some tx1 →
      lib.deserialize txHex2 = some tx2 →
      ((compareTransactions lib txHex1 txHex2 = 1 ↔
          tx1.withoutScripts = tx2.withoutScripts) ↔
        (tx1.outpointIndices = tx2.outpointIndices ∨
          tx1.compared ≠ tx2.compared)) := by
  refine ⟨compareTransactions_equivalence lib, ?_⟩
  intro txHex1 txHex2 tx1 tx2 first second
  rw [compareTransactions_of_deserialize lib first second,
    CTransaction.withoutScripts_eq_iff]
  tauto

end

/-- Spends one output of a transaction. -/
def Sample.spendOutput (index : Nat) (script : Script) : CTransaction where
  nVersion := 1
  vin := [⟨⟨"deposit", index⟩, script, finalSequence⟩]
  vout := [⟨50000, .p2pkh [1]⟩]
  nLockTime := 0

/-- Two signatures of one payment are the same transaction. -/
theorem compareTransactions_exact_of_resigned :
    compareTransactions BitcoinLib.transparent
        (Sample.spendOutput 0 (.raw [1])) (Sample.spendOutput 0 (.raw [2])) =
          1 ↔
      (Sample.spendOutput 0 (.raw [1])).withoutScripts =
        (Sample.spendOutput 0 (.raw [2])).withoutScripts :=
  ((compareTransactions_exact_iff BitcoinLib.transparent).2 _ _ _ _
    rfl rfl).mpr (.inl rfl)

/-- Spending another output of the same transaction is taken for a
mutation. -/
theorem compareTransactions_not_exact :
    compareTransactions BitcoinLib.transparent
        (Sample.spendOutput 0 (.raw [1])) (Sample.spendOutput 1 (.raw [1])) =
          1 ∧
      (Sample.spendOutput 0 (.raw [1])).withoutScripts ≠
        (Sample.spendOutput 1 (.raw [1])).withoutScripts := by
  decide

end Coinbend
