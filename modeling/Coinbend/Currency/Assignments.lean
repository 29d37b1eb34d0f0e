import Coinbend.Currency.Objects

/-!
# Runs of constructors and assignments

Constructors make amounts or raise.  An assignment that fits its key keeps the
object an amount; any other one raises, after it has written something that is
no amount, or before it has written anything, because the text of the integer
is needed and it is too long.  The single-integer key fits nothing else.
-/

namespace Coinbend
namespace CObject

open DigitText (number)
open Numerals (Conversion)

variable {conversion : Conversion}

/-! ## Constructors -/

/-- The parts of an amount in range. -/
theorem exists_amount_of_range
    {whole dec : Int}
    (whole_nonneg : 0 ≤ whole)
    (whole_le : whole ≤ wholeNoLimit)
    (dec_nonneg : 0 ≤ dec)
    (dec_lt : dec < decBase) :
    ∃ c : C, Stored.int whole = .int c.whole ∧ Stored.int dec = .int c.dec := by
  refine ⟨{
    whole := whole.toNat
    dec := dec.toNat
    dec_lt := by omega
    whole_le := by omega }, ?_, ?_⟩
  · simp only [Int.toNat_of_nonneg whole_nonneg]
  · simp only [Int.toNat_of_nonneg dec_nonneg]

theorem range_of_amount
    {whole dec : Int}
    {c : C}
    (whole_eq : Stored.int whole = .int c.whole)
    (dec_eq : Stored.int dec = .int c.dec) :
    0 ≤ whole ∧ whole ≤ wholeNoLimit ∧ 0 ≤ dec ∧ dec < decBase := by
  rw [Stored.int.injEq] at whole_eq dec_eq
  have whole_le := c.whole_le
  have dec_lt := c.dec_lt
  omega

theorem fresh_valid (limitPrecision : Nat) : (fresh limitPrecision).Valid := by
  have zero : C.toRat 0 = 0 := by
    rw [C.toRat_eq, C.val_zero]
    norm_num
  have cut : C.cutTo limitPrecision 0 = 0 := by
    simp [C.cutTo]
  have shown : decimalOf ['0', '.', '0'] = 0 := by
    simp [decimalOf, C.written, List.splitOn_cons_eq_if_modifyHead, number,
      Nat.ofDigitChars]
  refine ⟨0, rfl, rfl, ?_, ?_⟩
  · rw [zero]
    exact shown.trans cut.symm
  · rw [zero]
    exact cut.symm

/-- A constructor that does not raise makes an amount. -/
theorem construct_valid
    {limitPrecision : Nat}
    {argument : Argument}
    {object : CObject}
    (built : construct conversion limitPrecision argument = .ok object) :
    object.Valid := by
  unfold construct at built
  rw [Except.bind_eq_ok_iff] at built
  obtain ⟨stored, _, built⟩ := built
  simp only at built
  split at built
  · cases built
    exact fresh_valid limitPrecision
  · rw [Except.bind_eq_ok_iff] at built
    obtain ⟨_, updated, returned⟩ := built
    rw [Except.pure_eq_ok_iff] at returned
    subst returned
    rcases @update_cases conversion { fresh limitPrecision with
        whole := stored.1, dec := stored.2 } with
      ⟨c, _, _, _, holds, _⟩ | ⟨_, ⟨error, raised⟩, _⟩
    · exact ⟨c, holds⟩
    · rw [raised] at updated
      cases updated

/-! ## Assignments -/

/-- A value that can be assigned to a key. -/
def Fits : Key → Int → Prop
  | .whole, n | .zero, n => 0 ≤ n ∧ n ≤ wholeNoLimit
  | .dec, n | .one, n => 0 ≤ n ∧ n < decBase
  | .int, _ | .two, _ => False

instance Fits.decidable : (key : Key) → (n : Int) → Decidable (Fits key n)
  | .whole, n | .zero, n =>
      inferInstanceAs (Decidable (0 ≤ n ∧ n ≤ (wholeNoLimit : Int)))
  | .dec, n | .one, n =>
      inferInstanceAs (Decidable (0 ≤ n ∧ n < (decBase : Int)))
  | .int, _ | .two, _ => inferInstanceAs (Decidable False)

/-- An integer that is too long raises before its key is written. -/
def RaisesFirst (conversion : Conversion) : Key → Int → Prop
  | .whole, _ | .zero, _ => False
  | _, n => conversion.TooLong n

instance RaisesFirst.decidable (conversion : Conversion) :
    (key : Key) → (n : Int) → Decidable (RaisesFirst conversion key n)
  | .whole, _ | .zero, _ => inferInstanceAs (Decidable False)
  | .dec, n | .one, n | .int, n | .two, n =>
      inferInstanceAs (Decidable (conversion.TooLong n))

/-- A padded integer is in range when the integer is. -/
theorem paddedInt_spec
    {n : Int}
    (short : ¬conversion.TooLong n) :
    ∃ padded, paddedInt conversion n = .ok padded ∧
      ((0 ≤ n ∧ n < decBase) ↔ (0 ≤ padded ∧ padded < decBase)) := by
  cases n with
  | ofNat n =>
      refine ⟨C.paddedDec (Nat.toDigits 10 n), paddedInt_natCast short, ?_⟩
      change 0 ≤ (n : Int) ∧ (n : Int) < decBase ↔ _
      constructor
      · rintro ⟨_, n_lt⟩
        have small : n < decBase := by exact_mod_cast n_lt
        have bound := (C.paddedDec_toDigits small).1
        exact ⟨Int.natCast_nonneg _, by exact_mod_cast bound⟩
      · rintro ⟨_, padded_lt⟩
        refine ⟨Int.natCast_nonneg _, ?_⟩
        have bound : C.paddedDec (Nat.toDigits 10 n) < decBase := by
          exact_mod_cast padded_lt
        rw [C.paddedDec_eq, Nat.ofDigitChars_ten_toDigits] at bound
        have le := Nat.le_mul_of_pos_right n
          (Nat.pow_pos (n := C.precision - (Nat.toDigits 10 n).length)
            (by decide : 0 < 10))
        exact_mod_cast Nat.lt_of_le_of_lt le bound
  | negSucc n =>
      have text : strInt conversion (.negSucc n) =
          .ok ('-' :: Nat.toDigits 10 (n + 1)) :=
        (strInt_eq_ok_iff _ _).mpr ⟨short, rfl⟩
      have converts :
          conversion.tooLong (Nat.toDigits 10 (n + 1)).length = false :=
        Bool.not_eq_true _ |>.mp short
      obtain ⟨zeros, fills, padded⟩ :
          ∃ zeros, zeros ≤ C.precision - (Nat.toDigits 10 (n + 1)).length ∧
            C.padRight ('-' :: Nat.toDigits 10 (n + 1)) =
              '-' :: (Nat.toDigits 10 (n + 1) ++ List.replicate zeros '0') :=
        ⟨_, Nat.sub_le_sub_left (Nat.le_succ _) _, rfl⟩
      have digits : DigitText.Digits
          (Nat.toDigits 10 (n + 1) ++ List.replicate zeros '0') :=
        (DigitText.digits_toDigits _).append (DigitText.digits_replicate_zero _)
      have nonempty :
          Nat.toDigits 10 (n + 1) ++ List.replicate zeros '0' ≠ [] :=
        List.append_ne_nil_of_left_ne_nil Nat.toDigits_ne_nil _
      have positive :
          0 < number (Nat.toDigits 10 (n + 1) ++ List.replicate zeros '0') := by
        rw [DigitText.number_append_zeros, DigitText.number_toDigits]
        positivity
      refine ⟨-(number (Nat.toDigits 10 (n + 1) ++
        List.replicate zeros '0') : Int), ?_, ?_⟩
      · have converted : ¬conversion.tooLong (Nat.toDigits 10 (n + 1) ++
            List.replicate zeros '0').length = true :=
          not_tooLong_append_zeros converts fills
        rw [paddedInt, Except.bind_of_eq_ok text, intStr, padded, Conversion.readInt_neg nonempty digits,
          if_neg converted]
        rfl
      · constructor
        · rintro ⟨nonneg, _⟩
          exact absurd nonneg (by omega)
        · rintro ⟨nonneg, _⟩
          exact absurd nonneg (by omega)

/-- An integer whose text is needed and too long raises. -/
theorem write_of_raisesFirst
    {object : CObject}
    {key : Key}
    {n : Int}
    (raises : RaisesFirst conversion key n) :
    object.write conversion key n = .error .valueError := by
  have text : conversion.TooLong n →
      strInt conversion n = .error .valueError := by
    intro long
    rw [strInt, Conversion.writeInt, if_pos long]
    rfl
  cases key with
  | whole => exact raises.elim
  | zero => exact raises.elim
  | dec => simp only [write, paddedInt, text raises, Except.error_bind]
  | one => simp only [write, paddedInt, text raises, Except.error_bind]
  | int => simp only [write, fromSingleInt, text raises, Except.error_bind]
  | two => simp only [write, fromSingleInt, text raises, Except.error_bind]

/-- What an assignment writes into an amount is an amount exactly when it
fits; it changes the object when it does not. -/
theorem write_spec
    {object : CObject}
    {c : C}
    (holds : object.Holds c)
    {key : Key}
    {n : Int}
    (writes : ¬RaisesFirst conversion key n) :
    ∃ written, object.write conversion key n = .ok written ∧
      written.limitPrecision = object.limitPrecision ∧
      (Fits key n ↔
        ∃ c : C, written.whole = .int c.whole ∧ written.dec = .int c.dec) := by
  have whole_range := c.whole_le
  have dec_range := c.dec_lt
  have wholes : ∃ written : CObject,
      (.ok { object with whole := .int n } : Except PyError CObject) =
          .ok written ∧
        written.limitPrecision = object.limitPrecision ∧
        (0 ≤ n ∧ n ≤ wholeNoLimit ↔
          ∃ c : C, written.whole = .int c.whole ∧ written.dec = .int c.dec) := by
    refine ⟨_, rfl, rfl, ?_⟩
    simp only [holds.dec]
    constructor
    · rintro ⟨nonneg, le⟩
      exact exists_amount_of_range nonneg le (Int.natCast_nonneg _)
        (by exact_mod_cast dec_range)
    · rintro ⟨other, whole_eq, dec_eq⟩
      have range := range_of_amount whole_eq dec_eq
      exact ⟨range.1, range.2.1⟩
  have decs : ¬conversion.TooLong n → ∃ written : CObject,
      (paddedInt conversion n >>= fun dec =>
          (.ok { object with dec := .int dec } : Except PyError CObject)) =
          .ok written ∧
        written.limitPrecision = object.limitPrecision ∧
        (0 ≤ n ∧ n < decBase ↔
          ∃ c : C, written.whole = .int c.whole ∧ written.dec = .int c.dec) := by
    intro short
    obtain ⟨padded, found, range⟩ := paddedInt_spec short
    rw [Except.bind_of_eq_ok found, range]
    refine ⟨_, rfl, rfl, ?_⟩
    simp only [holds.whole]
    constructor
    · rintro ⟨nonneg, lt⟩
      exact exists_amount_of_range (Int.natCast_nonneg _)
        (by exact_mod_cast whole_range) nonneg lt
    · rintro ⟨other, whole_eq, dec_eq⟩
      have range := range_of_amount whole_eq dec_eq
      exact ⟨range.2.2.1, range.2.2.2⟩
  have singles : ¬conversion.TooLong n → ∃ written : CObject,
      (fromSingleInt conversion n >>= fun stored =>
          (.ok { object with whole := stored.1, dec := stored.2 } :
            Except PyError CObject)) = .ok written ∧
        written.limitPrecision = object.limitPrecision ∧
        (False ↔
          ∃ c : C, written.whole = .int c.whole ∧ written.dec = .int c.dec) := by
    intro short
    obtain ⟨stored, found, digits, isText⟩ :
        ∃ stored, fromSingleInt conversion n = .ok stored ∧
          ∃ digits, stored.2 = .str digits := by
      have text : strInt conversion n = .ok (Numerals.printInt n) :=
        (strInt_eq_ok_iff _ _).mpr ⟨short, rfl⟩
      rw [fromSingleInt, Except.bind_of_eq_ok text]
      split
      · exact ⟨_, rfl, _, rfl⟩
      · exact ⟨_, rfl, _, rfl⟩
    rw [Except.bind_of_eq_ok found]
    refine ⟨_, rfl, rfl, ?_⟩
    simp only [false_iff, not_exists, not_and]
    intro other _ dec_eq
    rw [isText] at dec_eq
    cases dec_eq
  cases key with
  | whole => exact wholes
  | zero => exact wholes
  | dec => exact decs writes
  | one => exact decs writes
  | int => exact singles writes
  | two => exact singles writes

/-- An assignment to an amount: it does nothing when the value is no integer or
its text is needed and too long, keeps the object an amount when it fits, and
otherwise raises and leaves something else behind. -/
theorem setItem_cases
    {object : CObject}
    (valid : object.Valid)
    (key : Key)
    (value : Value) :
    ((∀ n, value.toInt conversion = .ok n → RaisesFirst conversion key n) ∧
        (∃ error, (object.setItem conversion key value).result =
          .error error) ∧
        (object.setItem conversion key value).state = object) ∨
      ∃ n, value.toInt conversion = .ok n ∧ ¬RaisesFirst conversion key n ∧
        (Fits key n ∧ (object.setItem conversion key value).result = .ok () ∧
            (object.setItem conversion key value).state.Valid ∨
          ¬Fits key n ∧
            (∃ error, (object.setItem conversion key value).result =
              .error error) ∧
            ¬(object.setItem conversion key value).state.Valid) := by
  obtain ⟨c, holds⟩ := valid
  cases read : value.toInt conversion with
  | error error =>
      refine Or.inl ⟨nofun, ⟨error, ?_⟩, ?_⟩
      · rw [setItem, read]
        rfl
      · rw [setItem, read]
        rfl
  | ok n =>
      by_cases raises : RaisesFirst conversion key n
      · have raised := @write_of_raisesFirst conversion object key n raises
        refine Or.inl ⟨?_, ⟨.valueError, ?_⟩, ?_⟩
        · rintro _ ⟨⟩
          exact raises
        · rw [setItem, read, Outcome.attempt_ok, raised]
          rfl
        · rw [setItem, read, Outcome.attempt_ok, raised]
          rfl
      obtain ⟨written, wrote, _, fits⟩ := write_spec holds raises
      have assigned : object.setItem conversion key value =
          written.update conversion := by
        rw [setItem, read, Outcome.attempt_ok, wrote, Outcome.attempt_ok]
      refine Or.inr ⟨n, rfl, raises, ?_⟩
      rw [assigned, fits]
      rcases @update_cases conversion written with
        ⟨amount, whole, dec, updated, shown, _⟩ | ⟨none, raised, same⟩
      · exact Or.inl ⟨⟨amount, whole, dec⟩, updated, amount, shown⟩
      · refine Or.inr ⟨none, raised, ?_⟩
        rw [same]
        rintro ⟨amount, held⟩
        exact none ⟨amount, held.whole, held.dec⟩

/-! ## Runs -/

/-- A constructor call, or an item assignment to one of the objects made so
far. -/
inductive Event
  | create (limitPrecision : Nat) (argument : Argument)
  | assign (object : Nat) (key : Key) (value : Value)

section

variable (conversion : Conversion)

/-- The objects after an event. -/
def step (objects : List CObject) : Event → List CObject
  | .create limitPrecision argument =>
      match construct conversion limitPrecision argument with
      | .ok object => objects ++ [object]
      | .error _ => objects
  | .assign ref key value =>
      match objects[ref]? with
      | some object =>
          objects.set ref (object.setItem conversion key value).state
      | none => objects

/-- An assignment raises. -/
def AssignmentRaises (objects : List CObject) : Event → Prop
  | .create _ _ => False
  | .assign ref key value =>
      ∃ object error, objects[ref]? = some object ∧
        (object.setItem conversion key value).result = .error error

/-- `y["int"] = x["int"]` makes `y == x`. -/
def CopiesInt (objects : List CObject) : Event → Prop
  | .create _ _ => True
  | .assign y key value =>
      ∀ (x : CObject) (n : Int), y < objects.length → x ∈ objects →
        x.singleInt = some n → (key = .int ∨ key = .two) →
        value.toInt conversion = .ok n →
        ∃ after,
          (step conversion objects (.assign y key value))[y]? = some after ∧
          after.whole = x.whole ∧ after.dec = x.dec

/-- After an event all objects are amounts, nothing has changed if it was an
assignment that raised, and an assigned single integer was copied. -/
structure StepRight (objects : List CObject) (event : Event) : Prop where
  valid : ∀ object ∈ step conversion objects event, object.Valid
  unchanged : AssignmentRaises conversion objects event →
    step conversion objects event = objects
  copies : CopiesInt conversion objects event

/-- An assigned integer fits its key, or raises before it is written. -/
def EventFits (objects : List CObject) : Event → Prop
  | .create _ _ => True
  | .assign ref key value =>
      ∀ n, ref < objects.length → value.toInt conversion = .ok n →
        Fits key n ∨ RaisesFirst conversion key n

end

theorem valid_of_mem_set
    {objects : List CObject}
    (valid : ∀ object ∈ objects, object.Valid)
    {ref : Nat}
    {changed : CObject}
    (changed_valid : changed.Valid) :
    ∀ object ∈ objects.set ref changed, object.Valid := by
  intro object mem
  rcases List.mem_or_eq_of_mem_set mem with mem | rfl
  · exact valid object mem
  · exact changed_valid

/-- The single integer of an amount is not too long. -/
theorem not_tooLong_of_singleInt
    {object : CObject}
    {n : Int}
    (valid : object.Valid)
    (single : object.singleInt = some n) :
    ¬conversion.TooLong n := by
  obtain ⟨c, holds⟩ := valid
  rw [singleInt, holds.whole, holds.dec, Option.some.injEq] at single
  subst single
  have small : c.whole * decBase + c.dec < 10 ^ 40 := by
    have whole_le := c.whole_le
    have dec_lt := c.dec_lt
    have bound : c.whole * decBase + c.dec <
        (wholeNoLimit + 1) * decBase := by
      unfold wholeNoLimit decBase at *
      omega
    exact bound.trans (by norm_num [wholeNoLimit, decBase])
  exact_mod_cast @not_tooLong_of_lt conversion _ small

/-- Objects that are amounts stay right in a step exactly when it fits. -/
theorem stepRight_iff_fits
    {objects : List CObject}
    (valid : ∀ object ∈ objects, object.Valid)
    (event : Event) :
    StepRight conversion objects event ↔
      EventFits conversion objects event := by
  cases event with
  | create limitPrecision argument =>
      refine ⟨fun _ => trivial, fun _ => ⟨?_, nofun, trivial⟩⟩
      intro object mem
      simp only [step] at mem
      split at mem
      next built =>
        rcases List.mem_append.mp mem with mem | mem
        · exact valid object mem
        · rw [List.mem_singleton] at mem
          exact mem ▸ construct_valid built
      · exact valid object mem
  | assign ref key value =>
      rcases Nat.lt_or_ge ref objects.length with inside | outside
      · have found : objects[ref]? = some objects[ref] :=
          List.getElem?_eq_getElem inside
        have stepped : step conversion objects (.assign ref key value) =
            objects.set ref
              (objects[ref].setItem conversion key value).state := by
          simp only [step, found]
        have object_valid := valid _ (List.getElem_mem inside)
        have same : objects.set ref objects[ref] = objects :=
          List.set_getElem_self inside
        generalize objects[ref] = object at *
        rcases @setItem_cases conversion object object_valid key value with
          ⟨raisesFirst, _, kept⟩ | ⟨n, read, writes,
            ⟨fits, returned, after⟩ | ⟨unfit, raised, after⟩⟩
        · constructor
          · intro _ n _ read_ok
            exact Or.inr (raisesFirst n read_ok)
          · intro _
            rw [kept, same] at stepped
            refine ⟨?_, fun _ => stepped, ?_⟩
            · rw [stepped]
              exact valid
            · intro x n _ mem single isInt read_ok
              have short := @not_tooLong_of_singleInt conversion _ _
                (valid x mem) single
              have raises := raisesFirst n read_ok
              rcases isInt with rfl | rfl <;> exact absurd raises short
        · constructor
          · intro _ m _ read_ok
            rw [read, Except.ok.injEq] at read_ok
            exact Or.inl (read_ok ▸ fits)
          · intro _
            refine ⟨?_, ?_, ?_⟩
            · rw [stepped]
              exact valid_of_mem_set valid after
            · rintro ⟨other, error, found_other, raised⟩
              rw [found, Option.some.injEq] at found_other
              rw [← found_other, returned] at raised
              cases raised
            · intro x m _ _ _ single _
              rcases single with rfl | rfl <;> exact absurd fits (by simp [Fits])
        · constructor
          · intro right
            have mem : (object.setItem conversion key value).state ∈
                step conversion objects (.assign ref key value) := by
              rw [stepped]
              exact List.mem_set inside _
            exact absurd (right.valid _ mem) after
          · intro fits
            rcases fits n inside read with isFit | raises
            · exact absurd isFit unfit
            · exact absurd raises writes
      · have missing : objects[ref]? = none :=
          List.getElem?_eq_none outside
        have stepped :
            step conversion objects (.assign ref key value) = objects := by
          simp only [step, missing]
        refine ⟨fun _ n inside _ => absurd inside (Nat.not_lt_of_le outside),
          fun _ => ⟨?_, fun _ => stepped, ?_⟩⟩
        · rw [stepped]
          exact valid
        · intro _ _ inside
          exact absurd inside (Nat.not_lt_of_le outside)

/-- The objects of a run are amounts throughout, and its raising assignments
change nothing, exactly when every assigned integer fits its key or raises
before it is written, whatever characters and lengths the interpreter
converts. -/
theorem run_right_iff_fits (conversion : Conversion) (events : List Event) :
    Machine.Allowed (step conversion) (StepRight conversion) [] events ↔
      Machine.Allowed (step conversion) (EventFits conversion) [] events := by
  have agree (objects : List CObject) (event : Event)
      (valid : ∀ object ∈ objects, object.Valid) :
      StepRight conversion objects event ↔
        EventFits conversion objects event :=
    stepRight_iff_fits valid event
  have keeps (objects : List CObject) (event : Event)
      (valid : ∀ object ∈ objects, object.Valid)
      (fits : EventFits conversion objects event) :
      ∀ object ∈ step conversion objects event, object.Valid :=
    ((stepRight_iff_fits valid event).mpr fits).valid
  have none : ∀ object ∈ ([] : List CObject), object.Valid := by
    intro object mem
    cases mem
  exact Machine.allowed_iff_of_invariant (step conversion) agree keeps none
    events

end CObject

/-- An amount is assigned its own single integer. -/
def Sample.copiedInt : List CObject.Event :=
  [.create 8 (.str ['1', '.', '5']), .assign 0 .int (.int 15000000000000000)]

/-- Assigning the single integer of an amount raises and leaves texts behind. -/
theorem copiedInt_raises :
    (Machine.run (CObject.step .plain) [] Sample.copiedInt).map
        (fun object => (object.whole, object.dec)) =
      [(.str ['1'], .str "5000000000000000".toList)] ∧
    ¬Machine.Allowed (CObject.step .plain) (CObject.StepRight .plain) []
      Sample.copiedInt := by
  refine ⟨by decide +kernel, ?_⟩
  rintro ⟨created, assigned, _⟩
  have fits := (CObject.stepRight_iff_fits created.valid _).mp assigned
  have either := fits 15000000000000000 (by decide +kernel) rfl
  revert either
  decide +kernel

end Coinbend
