import Coinbend.Protocol.Match

/-!
# The lock time of a refund

`format_contract` takes the mean of the two timestamps in decimal arithmetic
with eight digits, and each node turns it into its refunds' lock time through
its local clock.  The mean of two current timestamps is exact only when the
digits that are cut off are zeros, and the lock time is the same on both nodes
only when no clock change lies in between.
-/

namespace Coinbend

open DecimalRounding

/-! ## The mean of the timestamps -/

/-- The digits of the sum that are cut off are zeros, up to the one that the
half drops, and half of the others has no more than eight digits. -/
def MeanExact (sum : Nat) : Prop :=
  let unit := 10 ^ cutDigits contractPrec sum
  sum % unit ≤ 1 ∧
    (sum / unit < 20000000 ∨ sum / unit % 2 = 0 ∨
      unit = 1 ∧ sum / unit % 4 = 1)

instance (sum : Nat) : Decidable (MeanExact sum) :=
  inferInstanceAs (Decidable (_ ∧ _))

/-- The mean of a sum of at most eight digits. -/
theorem mean_of_few_digits
    {sum : Nat}
    (few : sum < 10 ^ contractPrec) :
    ⌊roundDigits contractPrec ((sum : ℚ) / 2)⌋ = (sum / 2 : Nat) ↔
      sum < 20000000 ∨ sum % 2 = 0 ∨ sum % 4 = 1 := by
  by_cases small : sum < 20000000
  · have halves : (sum : ℚ) / 2 = (5 * sum : Nat) / 10 ^ 1 := by
      push_cast
      ring
    have kept := @roundDigits_of_few_digits contractPrec (5 * sum) 1
      (by unfold contractPrec; omega)
    rw [halves, kept, ← halves]
    exact ⟨fun _ => Or.inl small, fun _ => by
      exact_mod_cast Rat.floor_natCast_div_natCast sum 2⟩
  · rcases Nat.even_or_odd' sum with ⟨half, rfl | rfl⟩
    · have whole : ((2 * half : Nat) : ℚ) / 2 = half / 10 ^ 0 := by
        push_cast
        ring
      have kept := @roundDigits_of_few_digits contractPrec half 0
        (by unfold contractPrec at *; omega)
      rw [whole, kept, pow_zero, div_one, Int.floor_natCast,
        Nat.mul_div_cancel_left half (by decide)]
      exact ⟨fun _ => Or.inr (Or.inl (Nat.mul_mod_right 2 half)), fun _ => rfl⟩
    · have tie : ((2 * half + 1 : Nat) : ℚ) / 2 = (half : ℤ) + 1 / 2 := by
        push_cast
        ring
      have log : Int.log 10 |((half : ℤ) : ℚ) + 1 / 2| = 7 := by
        have positive : (0 : ℚ) < (half : ℤ) + 1 / 2 := by positivity
        rw [abs_of_pos positive]
        have low : (10000000 : ℚ) ≤ half := by
          exact_mod_cast (by omega : 10000000 ≤ half)
        have high : (half : ℚ) < 50000000 := by
          exact_mod_cast (by unfold contractPrec at few; omega : half < 50000000)
        apply le_antisymm
        · rw [← Int.lt_add_one_iff]
          refine (Int.lt_zpow_iff_log_lt (by norm_num) positive).mp ?_
          norm_num
          linarith
        · refine (Int.zpow_le_iff_le_log (by norm_num) positive).mp ?_
          norm_num
          linarith
      rw [tie, roundDigits, log]
      have places : ((contractPrec : ℕ) : ℤ) - 1 - 7 = 0 := rfl
      rw [places, roundPlaces, zpow_zero, mul_one, div_one,
        roundHalfEven_add_half, Int.floor_intCast]
      omega

/-- Half of a number with eight digits and zeros after them is rounded to a
multiple of half the unit of the zeros. -/
theorem dvd_two_mul_floor
    {count zeros : Nat}
    (some_zeros : 0 < zeros)
    (long : 10000000 ≤ count) :
    ((10 ^ zeros : Nat) : ℤ) ∣
      2 * ⌊roundDigits contractPrec ((5 * count * 10 ^ (zeros - 1) : Nat) : ℚ)⌋ := by
  obtain ⟨rest, rfl⟩ : ∃ rest, zeros = rest + 1 :=
    ⟨zeros - 1, (Nat.sub_add_cancel some_zeros).symm⟩
  rw [Nat.add_sub_cancel]
  have log_ge : rest + 7 ≤ Nat.log 10 (5 * count * 10 ^ rest) := by
    refine Nat.le_log_of_pow_le (by decide) ?_
    rw [Nat.pow_add, Nat.mul_comm]
    exact Nat.mul_le_mul_right _ (by omega)
  rcases Nat.lt_or_ge (cutDigits contractPrec (5 * count * 10 ^ rest))
    (rest + 1) with short | cut
  · have zeros : 10 ^ cutDigits contractPrec (5 * count * 10 ^ rest) ∣
        5 * count * 10 ^ rest := by
      refine dvd_mul_of_dvd_right (Nat.pow_dvd_pow 10 ?_) _
      exact Nat.le_of_lt_succ short
    rw [(floor_roundDigits_natCast_eq_iff _ _).mpr zeros]
    refine ⟨count, ?_⟩
    push_cast
    ring
  · have divides := dvd_floor_roundDigits_natCast contractPrec
      (5 * count * 10 ^ rest)
    refine dvd_mul_of_dvd_right (dvd_trans ?_ divides) _
    exact_mod_cast Nat.pow_dvd_pow 10 cut

/-- Half of a number with eight digits and zeros after them keeps its value
when it has eight digits itself. -/
theorem floor_half_eq_iff
    {count zeros : Nat}
    (some_zeros : 0 < zeros)
    (long : 10000000 ≤ count)
    (short : count < 100000000) :
    ⌊roundDigits contractPrec
        ((5 * count * 10 ^ (zeros - 1) : Nat) : ℚ)⌋ =
          (5 * count * 10 ^ (zeros - 1) : Nat) ↔
      count < 20000000 ∨ count % 2 = 0 := by
  obtain ⟨rest, rfl⟩ : ∃ rest, zeros = rest + 1 :=
    ⟨zeros - 1, (Nat.sub_add_cancel some_zeros).symm⟩
  rw [Nat.add_sub_cancel, floor_roundDigits_natCast_eq_iff]
  have nonzero : 5 * count * 10 ^ rest ≠ 0 :=
    Nat.mul_ne_zero (by omega) (Nat.pow_pos (by decide)).ne'
  by_cases less : count < 20000000
  · have log_lt : Nat.log 10 (5 * count * 10 ^ rest) < rest + 8 := by
      refine Nat.log_lt_of_lt_pow nonzero ?_
      rw [Nat.pow_add, Nat.mul_comm]
      exact Nat.mul_lt_mul_of_pos_left (by omega) (Nat.pow_pos (by decide))
    refine ⟨fun _ => Or.inl less, fun _ => ?_⟩
    refine dvd_mul_of_dvd_right (Nat.pow_dvd_pow 10 ?_) _
    unfold cutDigits contractPrec
    omega
  · have log_eq : Nat.log 10 (5 * count * 10 ^ rest) = rest + 8 := by
      refine (Nat.log_eq_iff (Or.inl (by omega))).mpr ⟨?_, ?_⟩
      · rw [Nat.pow_add, Nat.mul_comm]
        exact Nat.mul_le_mul_right _ (by omega)
      · rw [Nat.add_assoc, Nat.pow_add, Nat.mul_comm]
        exact Nat.mul_lt_mul_of_pos_left (by omega) (Nat.pow_pos (by decide))
    have cut : cutDigits contractPrec (5 * count * 10 ^ rest) = rest + 1 := by
      unfold cutDigits contractPrec
      omega
    rw [cut, Nat.pow_succ, Nat.mul_comm (10 ^ rest),
      Nat.mul_dvd_mul_iff_right (Nat.pow_pos (by decide))]
    omega

section LongSums

variable {sum zeros : Nat} (cut : cutDigits contractPrec sum = zeros)
  (some_zeros : 0 < zeros)
include cut some_zeros

/-- A sum with digits to cut has eight others. -/
theorem eight_digits :
    10000000 ≤ sum / 10 ^ zeros ∧ sum / 10 ^ zeros < 100000000 := by
  have log_eq : Nat.log 10 sum = zeros + 7 := by
    unfold cutDigits contractPrec at cut
    omega
  have sum_ne : sum ≠ 0 := by
    rintro rfl
    rw [Nat.log_zero_right] at log_eq
    omega
  have low := Nat.pow_log_le_self 10 sum_ne
  have high := Nat.lt_pow_succ_log_self (by decide : 1 < 10) sum
  rw [log_eq] at low high
  constructor
  · rw [Nat.le_div_iff_mul_le (Nat.pow_pos (by decide)), Nat.mul_comm]
    rw [Nat.pow_add] at low
    exact low
  · rw [Nat.div_lt_iff_lt_mul (Nat.pow_pos (by decide)), Nat.mul_comm]
    rw [Nat.succ_eq_add_one, Nat.add_assoc, Nat.pow_add] at high
    exact high

/-- The mean of a sum is half of what it is rounded to. -/
theorem mean_of_rounded
    {count : Nat}
    (rounded : roundHalfEven ((sum : ℚ) / 10 ^ zeros) = count) :
    roundDigits contractPrec (sum : ℚ) / 2 =
      (5 * count * 10 ^ (zeros - 1) : Nat) := by
  have long : contractPrec ≤ Nat.log 10 sum + 1 := by
    unfold cutDigits at cut
    omega
  have split : (10 : ℚ) ^ zeros = 10 * 10 ^ (zeros - 1) := by
    rw [← pow_succ', Nat.sub_add_cancel some_zeros]
  rw [roundDigits_natCast_of_long long, cut, rounded, split]
  push_cast
  ring

/-- A mean that is exact comes from a sum whose last digits are cut off
without loss. -/
theorem remainder_of_exact
    (exact_ : ⌊roundDigits contractPrec
      (roundDigits contractPrec (sum : ℚ) / 2)⌋ = (sum / 2 : Nat)) :
    sum % 10 ^ zeros ≤ 1 := by
  have floor : ⌊(sum : ℚ) / 10 ^ zeros⌋ = (sum / 10 ^ zeros : Nat) := by
    have quotient := Rat.floor_natCast_div_natCast sum (10 ^ zeros)
    rw [Nat.cast_pow] at quotient
    exact_mod_cast quotient
  have above := floor_le_roundHalfEven ((sum : ℚ) / 10 ^ zeros)
  rw [floor] at above
  obtain ⟨count, count_eq⟩ := Int.eq_ofNat_of_zero_le
    (le_trans (Int.natCast_nonneg _) above)
  have long := (eight_digits cut some_zeros).1
  have divides := @dvd_two_mul_floor count zeros some_zeros (by omega)
  rw [← mean_of_rounded cut some_zeros count_eq, exact_] at divides
  have divides : 10 ^ zeros ∣ 2 * (sum / 2) := by exact_mod_cast divides
  have ten_le : 10 ≤ 10 ^ zeros := Nat.le_self_pow some_zeros.ne' 10
  obtain ⟨times, doubled⟩ := divides
  have parity := Nat.div_add_mod sum 2
  rw [doubled] at parity
  rw [← parity, Nat.mul_add_mod, Nat.mod_eq_of_lt (by omega)]
  omega

/-- Without loss in the sum the mean is exact when half of the eight digits
has eight digits. -/
theorem exact_iff_of_remainder (remainder : sum % 10 ^ zeros ≤ 1) :
    ⌊roundDigits contractPrec (roundDigits contractPrec (sum : ℚ) / 2)⌋ =
        (sum / 2 : Nat) ↔
      sum / 10 ^ zeros < 20000000 ∨ sum / 10 ^ zeros % 2 = 0 := by
  obtain ⟨long, short⟩ := eight_digits cut some_zeros
  have unit : 10 ^ zeros = 10 * 10 ^ (zeros - 1) := by
    rw [← Nat.pow_succ', Nat.succ_eq_add_one, Nat.sub_add_cancel some_zeros]
  have rest_lt : ((sum % 10 ^ zeros : Nat) : ℚ) / 10 ^ zeros < 1 / 2 := by
    have small : ((sum % 10 ^ zeros : Nat) : ℚ) ≤ 1 := by
      exact_mod_cast remainder
    have ten_le : (10 : ℚ) ≤ 10 ^ zeros := by
      exact_mod_cast Nat.le_self_pow some_zeros.ne' 10
    rw [div_lt_div_iff₀ (by positivity) (by norm_num)]
    linarith
  have split : (sum : ℚ) / 10 ^ zeros =
      ((sum / 10 ^ zeros : Nat) : ℤ) +
        ((sum % 10 ^ zeros : Nat) : ℚ) / 10 ^ zeros := by
    have unit_ne : (10 : ℚ) ^ zeros ≠ 0 := by positivity
    have parts : (sum : ℚ) =
        10 ^ zeros * (sum / 10 ^ zeros : Nat) + (sum % 10 ^ zeros : Nat) := by
      exact_mod_cast (Nat.div_add_mod sum (10 ^ zeros)).symm
    rw [div_eq_iff unit_ne, add_mul, div_mul_cancel₀ _ unit_ne,
      Int.cast_natCast]
    linarith
  have rounded : roundHalfEven ((sum : ℚ) / 10 ^ zeros) =
      (sum / 10 ^ zeros : Nat) := by
    rw [split]
    exact roundHalfEven_add_of_lt _ (by positivity) rest_lt
  have half : sum / 2 = 5 * (sum / 10 ^ zeros) * 10 ^ (zeros - 1) := by
    have parts := Nat.div_add_mod sum (10 ^ zeros)
    have regroup : 10 ^ zeros * (sum / 10 ^ zeros) =
        2 * (5 * (sum / 10 ^ zeros) * 10 ^ (zeros - 1)) := by
      generalize sum / 10 ^ zeros = count
      rw [unit]
      ring
    omega
  rw [mean_of_rounded cut some_zeros rounded, half]
  exact floor_half_eq_iff some_zeros long short

end LongSums

/-- The mean of two timestamps is exact under the condition, and only then. -/
theorem contractTimestamp_eq_iff (buyNtp sellNtp : Nat) :
    contractTimestamp buyNtp sellNtp = (buyNtp + sellNtp) / 2 ↔
      MeanExact (buyNtp + sellNtp) := by
  have sum : (buyNtp : ℚ) + sellNtp = (buyNtp + sellNtp : Nat) := by
    push_cast
    rfl
  unfold contractTimestamp MeanExact
  simp only
  rw [sum]
  generalize buyNtp + sellNtp = sum
  have nonneg : 0 ≤ ⌊roundDigits contractPrec
      (roundDigits contractPrec (sum : ℚ) / 2)⌋ := by
    refine Int.floor_nonneg.mpr (roundDigits_nonneg _ ?_)
    have sum_nonneg : (0 : ℚ) ≤ sum := Nat.cast_nonneg sum
    have rounded_nonneg := roundDigits_nonneg contractPrec sum_nonneg
    positivity
  have toNat : ⌊roundDigits contractPrec
      (roundDigits contractPrec (sum : ℚ) / 2)⌋.toNat = sum / 2 ↔
        ⌊roundDigits contractPrec (roundDigits contractPrec (sum : ℚ) / 2)⌋ =
          (sum / 2 : Nat) := by
    omega
  rw [toNat]
  rcases Nat.eq_zero_or_pos (cutDigits contractPrec sum) with none | some_zeros
  · have few : sum < 10 ^ contractPrec := by
      have high := Nat.lt_pow_succ_log_self (by decide : 1 < 10) sum
      refine Nat.lt_of_lt_of_le high (Nat.pow_le_pow_right (by decide) ?_)
      unfold cutDigits at none
      omega
    have kept : roundDigits contractPrec (sum : ℚ) = sum :=
      roundDigits_natCast_of_dvd (by rw [none]; exact one_dvd sum)
    rw [kept, none, mean_of_few_digits few, pow_zero, Nat.mod_one, Nat.div_one]
    omega
  · have unit_ne : ¬10 ^ cutDigits contractPrec sum = 1 := by
      have ten_le := Nat.le_self_pow some_zeros.ne' 10
      omega
    constructor
    · intro exact_
      have remainder := remainder_of_exact rfl some_zeros exact_
      have digits :=
        (exact_iff_of_remainder rfl some_zeros remainder).mp exact_
      refine ⟨remainder, ?_⟩
      rcases digits with small | even
      · exact Or.inl small
      · exact Or.inr (Or.inl even)
    · rintro ⟨remainder, digits⟩
      refine (exact_iff_of_remainder rfl some_zeros remainder).mpr ?_
      rcases digits with small | even | ⟨one, _⟩
      · exact Or.inl small
      · exact Or.inr even
      · exact absurd one unit_ne

/-! ## Local clocks -/

/-- The local time of a node: its offset from UTC at each moment, and the
moment `time.mktime` finds for a local time. -/
structure LocalZone where
  offset : Int → Int
  mktime : Int → Int

namespace LocalZone

/-- What the local clock shows at a moment, in seconds. -/
def localTime (zone : LocalZone) (moment : Int) : Int :=
  moment + zone.offset moment

/-- Some moment shows a local time. -/
def Shown (zone : LocalZone) (wall : Int) : Prop :=
  ∃ moment, zone.localTime moment = wall

/-- `time.mktime` returns a moment that shows the local time, if there is
one. -/
def Lawful (zone : LocalZone) : Prop :=
  ∀ wall, zone.Shown wall → zone.localTime (zone.mktime wall) = wall

end LocalZone

/-- `contract_duration`: two hours. -/
def contractDuration : Nat := 2 * 60 * 60

/-- The local time from which on `datetime` has no value: the year 10000. -/
def datetimeEnd : Int := 253402300800

/-- `self.nlock_time` of `MicrotransferContract`. -/
def nlockTime (zone : LocalZone) (ntp : Nat) : Except PyError Int := do
  let localNtp := zone.localTime ntp
  Except.raiseIf (datetimeEnd ≤ localNtp) .valueError
  let wall := localNtp + contractDuration
  Except.raiseIf (datetimeEnd ≤ wall) .overflowError
  return zone.mktime wall

/-- The lock time of a contract is two hours after its timestamp on a node's
clock. -/
def LocksAfterDuration (zone : LocalZone) (ntp : Nat) : Prop :=
  nlockTime zone ntp = .ok (ntp + contractDuration)

/-- The clock of a node is not changed in the two hours, and the system knows
the moment they end by its local time. -/
def ClockKept (zone : LocalZone) (ntp : Nat) : Prop :=
  let done : Int := ntp + contractDuration
  zone.offset done = zone.offset ntp ∧
    zone.mktime (zone.localTime done) = done

/-- The clock is changed in the two hours so that no moment shows the local
time they end at, and of such a time the system makes that end. -/
def GapResolved (zone : LocalZone) (ntp : Nat) : Prop :=
  let done : Int := ntp + contractDuration
  zone.offset done ≠ zone.offset ntp ∧
    ¬zone.Shown (zone.localTime ntp + contractDuration) ∧
    zone.mktime (zone.localTime ntp + contractDuration) = done

/-- The clock of a node finds the end of the two hours, which `datetime` can
write down. -/
structure ClockRight (zone : LocalZone) (ntp : Nat) : Prop where
  in_range : zone.localTime ntp + contractDuration < datetimeEnd
  finds : ClockKept zone ntp ∨ GapResolved zone ntp

theorem nlockTime_eq_ok_iff (zone : LocalZone) (ntp : Nat) (moment : Int) :
    nlockTime zone ntp = .ok moment ↔
      zone.localTime ntp + contractDuration < datetimeEnd ∧
        zone.mktime (zone.localTime ntp + contractDuration) = moment := by
  unfold nlockTime
  simp only [Except.bind_eq_ok_iff, Except.raiseIf_eq_ok_iff,
    Except.pure_eq_ok_iff, not_le]
  constructor
  · rintro ⟨_, _, _, before, found⟩
    exact ⟨before, found⟩
  · rintro ⟨before, found⟩
    have duration_nonneg : (0 : Int) ≤ contractDuration := Int.natCast_nonneg _
    exact ⟨(), by omega, (), before, found⟩

/-- A clock that is right and no other makes the lock time right. -/
theorem locksAfterDuration_iff
    {zone : LocalZone}
    (lawful : zone.Lawful)
    (ntp : Nat) :
    LocksAfterDuration zone ntp ↔ ClockRight zone ntp := by
  rw [LocksAfterDuration, nlockTime_eq_ok_iff]
  by_cases same : zone.offset (ntp + contractDuration) = zone.offset ntp
  · have wall : zone.localTime ntp + contractDuration =
        zone.localTime (ntp + contractDuration) := by
      unfold LocalZone.localTime
      rw [same]
      omega
    constructor
    · rintro ⟨in_range, found⟩
      rw [wall] at found
      exact ⟨in_range, Or.inl ⟨same, found⟩⟩
    · rintro ⟨in_range, ⟨_, found⟩ | ⟨changed, _⟩⟩
      · rw [← wall] at found
        exact ⟨in_range, found⟩
      · exact absurd same changed
  · constructor
    · rintro ⟨in_range, found⟩
      refine ⟨in_range, Or.inr ⟨same, fun shown => same ?_, found⟩⟩
      have kept := lawful _ shown
      rw [found] at kept
      unfold LocalZone.localTime at kept
      omega
    · rintro ⟨in_range, ⟨kept, _⟩ | ⟨_, _, found⟩⟩
      · exact absurd kept same
      · exact ⟨in_range, found⟩

/-- The contract's timestamp is the mean of the matches', and both nodes lock
two hours after it, so that each finds the other's lock time. -/
structure LockTimesAgree
    (buyNtp sellNtp : Nat)
    (buyerZone sellerZone : LocalZone) : Prop where
  mean : contractTimestamp buyNtp sellNtp = (buyNtp + sellNtp) / 2
  between : min buyNtp sellNtp ≤ contractTimestamp buyNtp sellNtp ∧
    contractTimestamp buyNtp sellNtp ≤ max buyNtp sellNtp
  buyer : LocksAfterDuration buyerZone (contractTimestamp buyNtp sellNtp)
  seller : LocksAfterDuration sellerZone (contractTimestamp buyNtp sellNtp)
  same : nlockTime buyerZone (contractTimestamp buyNtp sellNtp) =
    nlockTime sellerZone (contractTimestamp buyNtp sellNtp)

/-- Both nodes find the right lock time exactly when the mean is exact and
both clocks are right. -/
theorem lockTimesAgree_iff
    (buyNtp sellNtp : Nat)
    {buyerZone sellerZone : LocalZone}
    (buyer_lawful : buyerZone.Lawful)
    (seller_lawful : sellerZone.Lawful) :
    LockTimesAgree buyNtp sellNtp buyerZone sellerZone ↔
      MeanExact (buyNtp + sellNtp) ∧
        ClockRight buyerZone ((buyNtp + sellNtp) / 2) ∧
        ClockRight sellerZone ((buyNtp + sellNtp) / 2) := by
  constructor
  · intro agree
    have buyer := agree.buyer
    have seller := agree.seller
    rw [agree.mean] at buyer seller
    exact ⟨(contractTimestamp_eq_iff _ _).mp agree.mean,
      (locksAfterDuration_iff buyer_lawful _).mp buyer,
      (locksAfterDuration_iff seller_lawful _).mp seller⟩
  · rintro ⟨exact_, buyer_right, seller_right⟩
    have mean := (contractTimestamp_eq_iff buyNtp sellNtp).mpr exact_
    have buyer := (locksAfterDuration_iff buyer_lawful _).mpr buyer_right
    have seller := (locksAfterDuration_iff seller_lawful _).mpr seller_right
    refine ⟨mean, ?_, ?_, ?_, ?_⟩
    · rw [mean]
      omega
    · rw [mean]
      exact buyer
    · rw [mean]
      exact seller
    · rw [mean]
      exact Eq.trans buyer seller.symm

namespace Sample

/-- A clock without changes. -/
def utc : LocalZone where
  offset := fun _ => 0
  mktime := fun wall => wall

theorem utc_lawful : utc.Lawful := by
  intro wall _
  simp [LocalZone.localTime, utc]

/-- The clock is put forward by an hour at a moment. -/
def summerTime (start : Int) : LocalZone where
  offset := fun moment => if moment < start then 0 else 3600
  mktime := fun wall => if wall < start then wall else wall - 3600

end Sample

/-- The sum of two current timestamps has ten digits. -/
theorem cutDigits_of_ten_digits
    {sum : Nat}
    (low : 1000000000 ≤ sum)
    (high : sum < 10000000000) :
    cutDigits contractPrec sum = 2 := by
  have log_eq : Nat.log 10 sum = 9 :=
    (Nat.log_eq_iff (Or.inl (by decide))).mpr ⟨by omega, by omega⟩
  rw [cutDigits, log_eq]
  rfl

/-- The mean of two equal timestamps of the year 2015 is off by some seconds;
a clock change makes the lock time of an exact mean wrong by an hour. -/
theorem lockTimes_differ :
    ¬LockTimesAgree 1430000033 1430000033 Sample.utc Sample.utc ∧
      nlockTime (Sample.summerTime 1430003600) 1430000000 =
        .ok 1430003600 ∧
      ¬LockTimesAgree 1430000000 1430000000
        Sample.utc (Sample.summerTime 1430003600) := by
  have locked : nlockTime (Sample.summerTime 1430003600) 1430000000 =
      .ok 1430003600 := by
    decide +kernel
  refine ⟨fun agree => ?_, locked, fun agree => ?_⟩
  · have exact_ := (contractTimestamp_eq_iff _ _).mp agree.mean
    rw [MeanExact, cutDigits_of_ten_digits (by decide) (by decide)] at exact_
    revert exact_
    decide
  · have mean := agree.mean
    have seller := agree.seller
    rw [mean, LocksAfterDuration] at seller
    have right := seller.symm.trans locked
    revert right
    decide

/-- Timestamps whose sum ends in two zeros, on clocks that are kept. -/
theorem lockTimes_agree_in_utc :
    LockTimesAgree 1430000000 1430000200 Sample.utc Sample.utc := by
  have exact_ : MeanExact (1430000000 + 1430000200) := by
    rw [MeanExact, cutDigits_of_ten_digits (by decide) (by decide)]
    decide
  exact (lockTimesAgree_iff 1430000000 1430000200 Sample.utc_lawful
    Sample.utc_lawful).mpr
    ⟨exact_, ⟨by decide, Or.inl ⟨rfl, by decide⟩⟩,
      ⟨by decide, Or.inl ⟨rfl, by decide⟩⟩⟩

end Coinbend
