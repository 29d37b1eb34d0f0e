import Coinbend.Library.Machine
import Coinbend.Library.RoundingError
import Coinbend.Microtransfer.Factory

/-!
# Loading the inputs of a green address

`load_inputs` and `get_input` of `green_address.py`.  A load appends the
outputs of the deposit that are unspent at that moment to `inputs`, which it
never clears: the list is right after the load of the constructor and keeps
everything it ever held after the load of every setup that is built.
-/

namespace Coinbend

open DecimalRounding

/-- An output of `getrawtransaction(txid, 1)`. -/
structure VerboseOutput where
  n : Nat
  value : ℚ
  scriptType : String
  addresses : List Address

/-- `getrawtransaction(txid, 1)`; a transaction outside the chain has no
confirmations. -/
structure VerboseTx where
  confirmations : Option Nat
  vout : List VerboseOutput

/-- What the coin daemon answers during one load, and the decimal precision
the load runs under. -/
structure DepositCall where
  prec : ℕ+
  getrawtransaction : Except PyError VerboseTx
  /-- Whether `gettxout(deposit_txid, n)` is not `None`. -/
  gettxout : Nat → Except PyError Bool

namespace DepositCall

def isUnspent (call : DepositCall) (n : Nat) : Bool :=
  match call.gettxout n with
  | .ok unspent => unspent
  | .error _ => false

end DepositCall

namespace VerboseOutput

/-- The output is a script hash output to an address. -/
def Pays (output : VerboseOutput) (address : Address) : Prop :=
  output.scriptType = "scripthash" ∧ output.addresses.head? = some address

instance (output : VerboseOutput) (address : Address) :
    Decidable (output.Pays address) :=
  inferInstanceAs (Decidable (_ ∧ _))

end VerboseOutput

namespace GreenAddress

variable {Hex : Type}

/-- `get_input`. -/
def getInput
    (greenAddress : GreenAddress Hex) :
    Option Nat → Option GreenInput
  | none => greenAddress.inputs.head?
  | some vout => greenAddress.inputs.find? fun input => input.vout = vout

/-- The record of an output, with its full value. -/
def inputOf
    (greenAddress : GreenAddress Hex)
    (txFee : C)
    (depositTx : VerboseTx)
    (output : VerboseOutput) : GreenInput where
  txid := greenAddress.depositTxid
  vout := output.n
  amount := output.value - txFee.asDecimal
  confirmations := depositTx.confirmations.getD 0

/-- Decimal arithmetic keeps the digits of the precision. -/
def rounded (prec : Nat) (input : GreenInput) : GreenInput :=
  { input with amount := roundDigits prec input.amount }

/-- The loop of `load_inputs` over the outputs of the deposit.  The value is
`address_found`. -/
def loadOutputs
    (greenAddress : GreenAddress Hex)
    (txFee : C)
    (call : DepositCall)
    (depositTx : VerboseTx) :
    List GreenInput → Bool → List VerboseOutput →
      Outcome (List GreenInput) PyError Bool
  | inputs, addressFound, [] => Outcome.pure inputs addressFound
  | inputs, addressFound, output :: outputs =>
      if output.scriptType ≠ "scripthash" then
        loadOutputs greenAddress txFee call depositTx inputs addressFound
          outputs
      else
        Outcome.attempt inputs
          (Except.ofOption .indexError output.addresses.head?)
        fun address =>
        if address ≠ greenAddress.address then
          loadOutputs greenAddress txFee call depositTx inputs addressFound
            outputs
        else
          let jason :=
            rounded call.prec (inputOf greenAddress txFee depositTx output)
          Outcome.attempt inputs (call.gettxout output.n) fun unspent =>
          if unspent then
            loadOutputs greenAddress txFee call depositTx (inputs ++ [jason])
              true outputs
          else
            loadOutputs greenAddress txFee call depositTx inputs true outputs

/-- `load_inputs`. -/
def loadInputs
    (greenAddress : GreenAddress Hex)
    (txFee : C)
    (call : DepositCall) : Outcome (GreenAddress Hex) PyError Unit :=
  Outcome.attempt greenAddress call.getrawtransaction fun depositTx =>
  let loaded := loadOutputs greenAddress txFee call depositTx
    greenAddress.inputs false depositTx.vout
  let greenAddress := { greenAddress with inputs := loaded.state }
  Outcome.attempt greenAddress loaded.result fun addressFound =>
  if addressFound then
    Outcome.pure greenAddress ()
  else
    Outcome.raise greenAddress (.exception "Not a valid green address.")

/-- What a load finds, whatever was loaded before: the `loadInputs` of the
answers a factory works with. -/
def foundInputs
    (greenAddress : GreenAddress Hex)
    (txFee : C)
    (call : DepositCall) : Outcome (List GreenInput) PyError Unit :=
  let loaded := loadInputs { greenAddress with inputs := [] } txFee call
  ⟨loaded.state.inputs, loaded.result⟩

/-- The unspent outputs of the deposit that pay the address, in order, each
with its confirmations and its value without the fee. -/
def currentInputs
    (greenAddress : GreenAddress Hex)
    (txFee : C)
    (call : DepositCall) : List GreenInput :=
  match call.getrawtransaction with
  | .ok depositTx =>
      (depositTx.vout.filter fun output =>
        output.Pays greenAddress.address ∧ call.isUnspent output.n).map
          (inputOf greenAddress txFee depositTx)
  | .error _ => []

/-! ## One load -/

/-- The loop appends to the inputs and reads nothing of them. -/
theorem loadOutputs_append
    (greenAddress : GreenAddress Hex)
    (txFee : C)
    (call : DepositCall)
    (depositTx : VerboseTx)
    (inputs : List GreenInput)
    (addressFound : Bool)
    (outputs : List VerboseOutput) :
    loadOutputs greenAddress txFee call depositTx inputs addressFound
        outputs =
      let found := loadOutputs greenAddress txFee call depositTx []
        addressFound outputs
      ⟨inputs ++ found.state, found.result⟩ := by
  induction outputs generalizing inputs addressFound with
  | nil => simp [loadOutputs, Outcome.pure]
  | cons output outputs hypothesis =>
      simp only [loadOutputs, List.nil_append]
      split_ifs with script
      · exact hypothesis inputs addressFound
      · cases output.addresses.head? with
        | none => simp [Except.ofOption, Outcome.attempt, Outcome.raise]
        | some address =>
            simp only [Except.ofOption, Outcome.attempt]
            split_ifs with other
            · exact hypothesis inputs addressFound
            · cases call.gettxout output.n with
              | error error => simp [Outcome.raise]
              | ok unspent =>
                  cases unspent with
                  | false => exact hypothesis inputs true
                  | true =>
                      simp only [if_true]
                      rw [hypothesis (inputs ++ _), hypothesis [_]]
                      simp

/-- A load is what it finds, appended. -/
theorem loadInputs_eq
    (greenAddress : GreenAddress Hex)
    (txFee : C)
    (call : DepositCall) :
    greenAddress.loadInputs txFee call =
      let found := greenAddress.foundInputs txFee call
      ⟨{ greenAddress with inputs := greenAddress.inputs ++ found.state },
        found.result⟩ := by
  simp only [foundInputs, loadInputs]
  cases call.getrawtransaction with
  | error error => simp [Outcome.attempt, Outcome.raise]
  | ok depositTx =>
      have same (inputs : List GreenInput) :
          loadOutputs { greenAddress with inputs := [] } txFee call
              depositTx inputs false depositTx.vout =
            loadOutputs greenAddress txFee call depositTx inputs false
              depositTx.vout := by
        generalize false = addressFound
        induction depositTx.vout generalizing inputs addressFound with
        | nil => rfl
        | cons output outputs hypothesis =>
            simp only [loadOutputs, hypothesis, inputOf]
      simp only [Outcome.attempt]
      rw [loadOutputs_append, same]
      generalize loadOutputs greenAddress txFee call depositTx [] false
        depositTx.vout = found
      obtain ⟨state, result⟩ := found
      cases result with
      | error error => rfl
      | ok addressFound => cases addressFound <;> rfl

/-- A loop that goes through finds the unspent outputs to the address. -/
theorem loadOutputs_of_ok
    {greenAddress : GreenAddress Hex}
    {txFee : C}
    {call : DepositCall}
    {depositTx : VerboseTx}
    {addressFound found : Bool}
    {outputs : List VerboseOutput}
    (returned : (loadOutputs greenAddress txFee call depositTx []
      addressFound outputs).result = .ok found) :
    (loadOutputs greenAddress txFee call depositTx [] addressFound
        outputs).state =
      ((outputs.filter fun output =>
        output.Pays greenAddress.address ∧ call.isUnspent output.n).map
          (inputOf greenAddress txFee depositTx)).map
            (rounded call.prec) := by
  induction outputs generalizing addressFound with
  | nil => rfl
  | cons output outputs hypothesis =>
      simp only [loadOutputs, List.nil_append] at returned ⊢
      split_ifs at returned ⊢ with script
      · rw [List.filter_cons_of_neg (by simp [VerboseOutput.Pays, script])]
        exact hypothesis returned
      · cases first : output.addresses.head? with
        | none =>
            simp [first, Except.ofOption, Outcome.attempt, Outcome.raise]
              at returned
        | some address =>
            simp only [first, Except.ofOption, Outcome.attempt]
              at returned ⊢
            split_ifs at returned ⊢ with other
            · rw [List.filter_cons_of_neg
                (by simp [VerboseOutput.Pays, first, other])]
              exact hypothesis returned
            · have pays : output.Pays greenAddress.address := by
                simp_all [VerboseOutput.Pays]
              cases answer : call.gettxout output.n with
              | error error => simp [answer, Outcome.raise] at returned
              | ok unspent =>
                  have isUnspent : call.isUnspent output.n = unspent := by
                    rw [DepositCall.isUnspent, answer]
                  simp only [answer] at returned ⊢
                  cases unspent with
                  | false =>
                      rw [List.filter_cons_of_neg (by simp [isUnspent])]
                      exact hypothesis returned
                  | true =>
                      rw [List.filter_cons_of_pos (by simp [isUnspent, pays])]
                      simp only [if_true] at returned ⊢
                      rw [loadOutputs_append] at returned ⊢
                      rw [List.map_cons, List.map_cons,
                        ← hypothesis returned]
                      rfl

/-- A load that returns finds the current inputs, their amounts rounded. -/
theorem foundInputs_of_ok
    {greenAddress : GreenAddress Hex}
    {txFee : C}
    {call : DepositCall}
    (returned :
      (greenAddress.foundInputs txFee call).result = .ok ()) :
    (greenAddress.foundInputs txFee call).state =
      (greenAddress.currentInputs txFee call).map
        (rounded call.prec) := by
  simp only [foundInputs, loadInputs, currentInputs] at returned ⊢
  cases answer : call.getrawtransaction with
  | error error =>
      simp [answer, Outcome.attempt, Outcome.raise] at returned
  | ok depositTx =>
      simp only [answer, Outcome.attempt] at returned ⊢
      cases loaded : (loadOutputs { greenAddress with inputs := [] } txFee
          call depositTx [] false depositTx.vout).result with
      | error error => simp [loaded, Outcome.raise] at returned
      | ok addressFound =>
          have found := loadOutputs_of_ok loaded
          simp only [loaded] at returned ⊢
          split_ifs <;> exact found

/-! ## Every load -/

/-- What a green address is meant to hold after a load. -/
structure Current
    (greenAddress : GreenAddress Hex)
    (txFee : C)
    (call : DepositCall) : Prop where
  /-- Each current input is listed once, and nothing else is. -/
  listed : greenAddress.inputs.Perm (greenAddress.currentInputs txFee call)
  /-- The contract text shows the outputs of the deposit that are unspent, as
  it does on every other node. -/
  vouts :
    greenAddress.inputs.map GreenInput.vout =
      (greenAddress.currentInputs txFee call).map GreenInput.vout
  /-- An input handed out is not spent. -/
  unspent : ∀ vout input,
    greenAddress.getInput vout = some input →
      call.gettxout input.vout = .ok true

/-- No amount of a current input has more digits than the precision. -/
def Unrounded
    (greenAddress : GreenAddress Hex)
    (txFee : C)
    (call : DepositCall) : Prop :=
  ∀ input ∈ greenAddress.currentInputs txFee call,
    roundDigits call.prec input.amount = input.amount

theorem currentInputs_unspent
    {greenAddress : GreenAddress Hex}
    {txFee : C}
    {call : DepositCall}
    {input : GreenInput}
    (current : input ∈ greenAddress.currentInputs txFee call) :
    call.gettxout input.vout = .ok true := by
  simp only [currentInputs] at current
  cases answer : call.getrawtransaction with
  | error error => simp [answer] at current
  | ok depositTx =>
      simp only [answer, List.mem_map, List.mem_filter,
        decide_eq_true_eq] at current
      obtain ⟨output, ⟨-, -, isUnspent⟩, rfl⟩ := current
      change call.gettxout output.n = .ok true
      cases found : call.gettxout output.n with
      | error error => simp [DepositCall.isUnspent, found] at isUnspent
      | ok unspent =>
          simp only [DepositCall.isUnspent, found] at isUnspent
          rw [isUnspent]

theorem getInput_mem
    {greenAddress : GreenAddress Hex}
    {vout : Option Nat}
    {input : GreenInput}
    (handed : greenAddress.getInput vout = some input) :
    input ∈ greenAddress.inputs := by
  cases vout with
  | none => exact List.mem_of_mem_head? handed
  | some vout => exact List.mem_of_find?_eq_some handed

theorem map_rounded
    {prec : Nat}
    {inputs : List GreenInput}
    (few : ∀ input ∈ inputs, roundDigits prec input.amount = input.amount) :
    inputs.map (rounded prec) = inputs := by
  rw [List.map_congr_left (g := id), List.map_id]
  intro input member
  rw [rounded, few input member, id]

/-- A list that lists the current inputs is the list itself. -/
theorem current_of_inputs_eq
    {greenAddress : GreenAddress Hex}
    {txFee : C}
    {call : DepositCall}
    (same :
      greenAddress.inputs = greenAddress.currentInputs txFee call) :
    greenAddress.Current txFee call where
  listed := by rw [same]
  vouts := by rw [same]
  unspent := by
    intro vout input handed
    have listed := getInput_mem handed
    rw [same] at listed
    exact currentInputs_unspent listed

/-- One load leaves the current inputs exactly when none were held before and
no amount is rounded. -/
theorem loadInputs_current_iff
    {greenAddress : GreenAddress Hex}
    {txFee : C}
    {call : DepositCall}
    (returned :
      (greenAddress.loadInputs txFee call).result = .ok ()) :
    (greenAddress.loadInputs txFee call).state.Current txFee call ↔
      greenAddress.inputs = [] ∧ greenAddress.Unrounded txFee call := by
  rw [loadInputs_eq] at returned ⊢
  have found := foundInputs_of_ok returned
  simp only [found]
  constructor
  · intro after
    have listed : (greenAddress.inputs ++
        (greenAddress.currentInputs txFee call).map
          (rounded call.prec)).Perm (greenAddress.currentInputs txFee call) :=
      after.listed
    have held : greenAddress.inputs = [] := by
      have lengths := listed.length_eq
      rw [List.length_append, List.length_map] at lengths
      exact List.length_eq_zero_iff.mp (by omega)
    refine ⟨held, ?_⟩
    intro input member
    -- A listed amount is a rounded one, and rounding it again changes nothing.
    have mem_rounded := listed.mem_iff.mpr member
    rw [held, List.nil_append, List.mem_map] at mem_rounded
    obtain ⟨exactInput, -, rfl⟩ := mem_rounded
    exact roundDigits_roundDigits call.prec.pos exactInput.amount
  · rintro ⟨held, unrounded⟩
    apply current_of_inputs_eq
    rw [held, List.nil_append]
    exact map_rounded unrounded

/-- A load as a step. -/
def loadStep
    (txFee : C)
    (greenAddress : GreenAddress Hex)
    (call : DepositCall) : GreenAddress Hex :=
  (greenAddress.loadInputs txFee call).state

/-- Every load of a sequence leaves the current inputs exactly when each one
starts from an empty list and rounds no amount. -/
theorem loads_current_iff
    (txFee : C)
    (greenAddress : GreenAddress Hex)
    (calls : List DepositCall) :
    Machine.Allowed (loadStep txFee)
        (fun before call =>
          (before.loadInputs txFee call).result = .ok () →
            (loadStep txFee before call).Current txFee call)
        greenAddress calls ↔
      Machine.Allowed (loadStep txFee)
        (fun before call =>
          (before.loadInputs txFee call).result = .ok () →
            before.inputs = [] ∧ before.Unrounded txFee call)
        greenAddress calls := by
  refine @Machine.allowed_iff_of_invariant _ _ (loadStep txFee) _ _
    (fun _ => True) ?_ ?_ _ trivial calls
  · intro before call _
    exact forall_congr' fun returned => loadInputs_current_iff returned
  · intros
    trivial

end GreenAddress

namespace Sample

/-- A green address as its constructor makes it. -/
def newAddress : GreenAddress CTransaction where
  trade := trade .sell
  ecdsa1 := "first"
  ecdsa2 := "second"
  ecdsaEncrypted := "encrypted"
  address := "green"
  depositTxid := "deposit"
  depositTxHex := none
  inputs := []

/-- A load while three coins lie at the address, or once they are spent. -/
def depositCall (unspent : Bool) : DepositCall where
  prec := 28
  getrawtransaction := .ok ⟨some 1, [⟨0, 3, "scripthash", ["green"]⟩]⟩
  gettxout := fun _ => .ok unspent

end Sample

/-- The load of the constructor, which finds nothing unspent, and one after it
leave the current inputs. -/
theorem GreenAddress.loads_current_of_new :
    Machine.Allowed (GreenAddress.loadStep 0)
      (fun before call =>
        (before.loadInputs 0 call).result = .ok () →
          (GreenAddress.loadStep 0 before call).Current 0 call)
      Sample.newAddress [Sample.depositCall false, Sample.depositCall true] := by
  apply (GreenAddress.loads_current_iff 0 _ _).mpr
  have still_empty : GreenAddress.loadStep 0 Sample.newAddress
      (Sample.depositCall false) = Sample.newAddress := rfl
  refine ⟨?_, ?_, trivial⟩
  · intro _
    refine ⟨rfl, ?_⟩
    intro input member
    cases member
  rw [still_empty]
  intro _
  refine ⟨rfl, ?_⟩
  intro input member
  have amount : input.amount = ((3 : ℕ) : ℚ) / 10 ^ 0 := by
    have listed : input = GreenAddress.inputOf Sample.newAddress 0
        ⟨some 1, [⟨0, 3, "scripthash", ["green"]⟩]⟩
        ⟨0, 3, "scripthash", ["green"]⟩ :=
      List.mem_singleton.mp member
    have free : (0 : C).satoshi = 0 := rfl
    rw [listed, GreenAddress.inputOf]
    norm_num [C.asDecimal, free]
  rw [amount]
  exact roundDigits_of_few_digits (by norm_num [Sample.depositCall])

/-- The load for a setup lists an input a second time. -/
theorem GreenAddress.reload_not_current :
    let loaded := GreenAddress.loadStep 0 Sample.newAddress
      (Sample.depositCall true)
    (loaded.loadInputs 0 (Sample.depositCall true)).result = .ok () ∧
      ¬(GreenAddress.loadStep 0 loaded (Sample.depositCall true)).Current 0
        (Sample.depositCall true) := by
  refine ⟨rfl, ?_⟩
  intro current
  exact absurd current.listed.length_eq (by decide)

/-- A spent input is still handed out. -/
example :
    let loaded := GreenAddress.loadStep 0 Sample.newAddress
      (Sample.depositCall true)
    let reloaded := GreenAddress.loadStep 0 loaded (Sample.depositCall false)
    (reloaded.getInput none).map GreenInput.vout = some 0 := by
  decide

end Coinbend
