import Coinbend.Library.Outcome
import Coinbend.PyError
import Mathlib.Algebra.Order.Ring.Int
import Mathlib.Data.List.Basic
import Mathlib.Data.List.Count
import Mathlib.Data.List.Dedup
import Mathlib.Data.List.Nodup
import Mathlib.Tactic.Linarith

/-!
# The delta test

`delta_test` of `rendezvous_client.py`.  For every difference of neighbouring
remote ports it counts the ports that agree with enough others, but agreement
with some others is not agreement with one progression, and a test without a
result returns a variable that was never set.
-/

namespace Coinbend

/-- The types of address translation. -/
inductive NatType
  | unknown
  | random
  | preserving
  | delta
  | reuse
  deriving DecidableEq

namespace DeltaTest

/-- A remote port and its place in the mappings. -/
abbrev Mapping := ℤ × ℕ

/-- The differences of neighbouring remote ports. -/
def neighbourDifferences (ports : List ℤ) : List ℤ :=
  List.zipWith (fun first second => second - first) ports ports.tail

/-- What a mapping predicts for another one. -/
def testVal (difference : ℤ) (i j : Mapping) : ℤ :=
  if j.2 < i.2 then i.1 - difference * ((i.2 : ℤ) - j.2)
  else i.1 + difference * ((j.2 : ℤ) - i.2)

/-- The other mappings that a mapping predicts. -/
def agreeing (ports : List ℤ) (difference : ℤ) (i : Mapping) : ℕ :=
  ports.zipIdx.countP fun j => i.2 ≠ j.2 ∧ testVal difference i j = j.1

/-- The ports that pass the threshold. -/
def masked (portCollisions : ℕ) (ports : List ℤ) (difference : ℤ) : List ℤ :=
  (ports.zipIdx.filter fun i =>
    portCollisions < agreeing ports difference i + 1).map Prod.fst

/-- Whether the loop stops at a difference. -/
def accepts (portCollisions : ℕ) (ports : List ℤ) (difference : ℤ) : Bool :=
  let mappingNo := ports.length
  let collisionNo := mappingNo - (masked portCollisions ports difference).length
  if portCollisions < collisionNo then false
  else if collisionNo * 2 = mappingNo ∧ mappingNo % 2 = 0 then false
  else true

/-- `delta_test` on `self.delta`; `listSet` is `list(set(...))`. -/
def deltaTest
    (listSet : List ℤ → List ℤ)
    (portCollisions : ℕ)
    (ports : List ℤ)
    (delta : ℤ) : Outcome ℤ PyError NatType :=
  match (listSet (neighbourDifferences ports)).find?
      (accepts portCollisions ports) with
  | some difference => Outcome.pure difference .delta
  | none => Outcome.raise delta (.nameError "nat_type")

/-! ## Progressions -/

/-- All but some ports are on one progression with a step. -/
def OnProgression (portCollisions : ℕ) (ports : List ℤ) (step : ℤ) : Prop :=
  ∃ start : ℤ,
    ports.zipIdx.countP (fun entry => entry.1 ≠ start + step * entry.2) ≤
      portCollisions

/-- Where a progression through a mapping starts. -/
def origin (step : ℤ) (entry : Mapping) : ℤ :=
  entry.1 - step * entry.2

/-- The ports on the progression through one of them. -/
def companions (ports : List ℤ) (step : ℤ) (entry : Mapping) : ℕ :=
  ports.zipIdx.countP fun other => origin step other = origin step entry

/-- The ports on progressions with few ports. -/
def scattered (portCollisions : ℕ) (ports : List ℤ) (step : ℤ) : ℕ :=
  ports.zipIdx.countP fun entry =>
    companions ports step entry ≤ portCollisions

/-- The ports that are not scattered are on one progression. -/
def OneLine (portCollisions : ℕ) (ports : List ℤ) (step : ℤ) : Prop :=
  ∀ first ∈ ports.zipIdx, ∀ second ∈ ports.zipIdx,
    portCollisions < companions ports step first →
      portCollisions < companions ports step second →
        origin step first = origin step second

instance (portCollisions : ℕ) (ports : List ℤ) (step : ℤ) :
    Decidable (OneLine portCollisions ports step) :=
  inferInstanceAs (Decidable (∀ _ ∈ _, ∀ _ ∈ _, _ → _ → _))

/-- In an order of the differences, those up to the first one that scatters few
ports scatter too many, and that one has the others on one progression. -/
def LinesUp (portCollisions : ℕ) (ports differences : List ℤ) : Prop :=
  ∃ before step after, differences = before ++ step :: after ∧
    (∀ earlier ∈ before, portCollisions < scattered portCollisions ports earlier) ∧
    scattered portCollisions ports step ≤ portCollisions ∧
    OneLine portCollisions ports step

theorem testVal_eq_iff (difference : ℤ) (i j : Mapping) :
    testVal difference i j = j.1 ↔
      origin difference j = origin difference i := by
  unfold testVal origin
  split <;> constructor <;> intro same <;> linarith

theorem nodup_places (ports : List ℤ) :
    (ports.zipIdx.map Prod.snd).Nodup := by
  rw [List.zipIdx_map_snd]
  exact List.nodup_range'

/-- A port agrees with its companions but itself. -/
theorem agreeing_add_one
    {ports : List ℤ}
    (difference : ℤ)
    {i : Mapping}
    (member : i ∈ ports.zipIdx) :
    agreeing ports difference i + 1 = companions ports difference i := by
  have places := nodup_places ports
  have perm := List.perm_cons_erase member
  rw [agreeing, companions, perm.countP_eq, perm.countP_eq,
    List.countP_cons_of_neg (by simp), List.countP_cons_of_pos (by simp)]
  congr 1
  apply List.countP_congr
  intro j other
  have elsewhere : i.2 ≠ j.2 := by
    intro same
    have same_entry := List.inj_on_of_nodup_map places member
      (List.mem_of_mem_erase other) same
    rw [← same_entry] at other
    exact places.of_map.not_mem_erase other
  simp only [decide_eq_true_eq, testVal_eq_iff, ne_eq, elsewhere,
    not_false_eq_true, true_and]

/-- The collisions are the scattered ports. -/
theorem collisionNo_eq
    (portCollisions : ℕ)
    (ports : List ℤ)
    (difference : ℤ) :
    ports.length - (masked portCollisions ports difference).length =
      scattered portCollisions ports difference := by
  have kept : (masked portCollisions ports difference).length =
      ports.zipIdx.countP fun entry =>
        !decide (companions ports difference entry ≤ portCollisions) := by
    rw [masked, List.length_map, ← List.countP_eq_length_filter]
    apply List.countP_congr
    intro entry member
    rw [agreeing_add_one difference member]
    simp
  have total := List.length_eq_countP_add_countP
    (fun entry => decide (companions ports difference entry ≤ portCollisions))
    (l := ports.zipIdx)
  simp only [List.length_zipIdx, Bool.decide_eq_true, decide_not] at total
  rw [kept, total, scattered]
  omega

/-- Companions have the same companions. -/
theorem companions_congr
    {ports : List ℤ}
    {step : ℤ}
    {first second : Mapping}
    (same : origin step first = origin step second) :
    companions ports step first = companions ports step second := by
  rw [companions, companions, same]

/-- The companions of a port that is not scattered are not scattered. -/
theorem companions_add_scattered_le
    {portCollisions : ℕ}
    {ports : List ℤ}
    {step : ℤ}
    {entry : Mapping}
    (many : portCollisions < companions ports step entry) :
    companions ports step entry + scattered portCollisions ports step ≤
      ports.length := by
  have total := List.length_eq_countP_add_countP
    (fun other => decide (companions ports step other ≤ portCollisions))
    (l := ports.zipIdx)
  have apart : companions ports step entry ≤ ports.zipIdx.countP fun other =>
      decide ¬(decide (companions ports step other ≤ portCollisions) = true) := by
    rw [companions]
    apply List.countP_mono_left
    intro other member same
    have level : companions ports step other = companions ports step entry :=
      companions_congr (of_decide_eq_true same)
    simp only [decide_eq_true_eq]
    omega
  rw [List.length_zipIdx] at total
  rw [scattered]
  omega

/-- The ports are never scattered by half. -/
theorem scattered_ne_half
    {portCollisions : ℕ}
    {ports : List ℤ}
    {step : ℤ}
    (some_port : ports ≠ [])
    (few : scattered portCollisions ports step ≤ portCollisions) :
    scattered portCollisions ports step * 2 ≠ ports.length := by
  intro half
  have length_pos := List.length_pos_iff.mpr some_port
  have not_all : scattered portCollisions ports step <
      ports.zipIdx.length := by
    rw [List.length_zipIdx]
    omega
  obtain ⟨entry, -, many⟩ : ∃ entry ∈ ports.zipIdx,
      portCollisions < companions ports step entry := by
    by_contra! every
    refine absurd not_all (not_lt.mpr (le_of_eq ?_))
    symm
    rw [scattered, List.countP_eq_length]
    intro entry member
    exact decide_eq_true (every entry member)
  have bound := companions_add_scattered_le many
  omega

/-- The loop stops at a difference that scatters few ports. -/
theorem accepts_iff
    {ports : List ℤ}
    (some_port : ports ≠ [])
    (portCollisions : ℕ)
    (difference : ℤ) :
    accepts portCollisions ports difference = true ↔
      scattered portCollisions ports difference ≤ portCollisions := by
  unfold accepts
  simp only [collisionNo_eq]
  by_cases many : portCollisions < scattered portCollisions ports difference
  · rw [if_pos many]
    simp only [Bool.false_eq_true, false_iff]
    omega
  · have not_half := scattered_ne_half some_port (not_lt.mp many)
    rw [if_neg many, if_neg fun half => not_half half.1]
    simpa using many

/-- With few ports scattered, a progression has enough of them exactly when all
the others are on it. -/
theorem onProgression_iff_oneLine
    {portCollisions : ℕ}
    {ports : List ℤ}
    {step : ℤ}
    (few : scattered portCollisions ports step ≤ portCollisions) :
    OnProgression portCollisions ports step ↔
      OneLine portCollisions ports step := by
  constructor
  · rintro ⟨start, off⟩
    have on_start : ∀ entry ∈ ports.zipIdx,
        portCollisions < companions ports step entry →
          origin step entry = start := by
      intro entry member many
      by_contra elsewhere
      have all_off : companions ports step entry ≤ ports.zipIdx.countP
          fun other => decide (other.1 ≠ start + step * other.2) := by
        rw [companions]
        apply List.countP_mono_left
        intro other _ same
        have there := of_decide_eq_true same
        simp only [origin] at there elsewhere
        refine decide_eq_true fun on => elsewhere ?_
        linarith
      omega
    intro first first_member second second_member first_many second_many
    rw [on_start first first_member first_many,
      on_start second second_member second_many]
  · intro line
    have off_scattered (start : ℤ)
        (through : ∀ entry ∈ ports.zipIdx,
          portCollisions < companions ports step entry →
            origin step entry = start) :
        OnProgression portCollisions ports step := by
      refine ⟨start, le_trans ?_ few⟩
      rw [scattered]
      apply List.countP_mono_left
      intro entry member off
      refine decide_eq_true (not_lt.mp fun many => ?_)
      have on := through entry member many
      apply of_decide_eq_true off
      rw [origin] at on
      linarith
    by_cases kept : ∃ entry ∈ ports.zipIdx,
        portCollisions < companions ports step entry
    · obtain ⟨entry, member, many⟩ := kept
      exact off_scattered (origin step entry) fun other other_member other_many =>
        line other other_member entry member other_many many
    · push Not at kept
      exact off_scattered 0 fun entry member many =>
        absurd many (not_lt.mpr (kept entry member))

/-- The set's elements in some order. -/
def ListsSet (listSet : List ℤ → List ℤ) : Prop :=
  ∀ list difference, difference ∈ listSet list ↔ difference ∈ list

/-- What the test promises about its ports. -/
structure MeetsPromise
    (portCollisions : ℕ)
    (ports : List ℤ)
    (outcome : Outcome ℤ PyError NatType) : Prop where
  returns : outcome.result = .ok .delta ∨ outcome.result = .ok .random
  sound : outcome.result = .ok .delta →
    OnProgression portCollisions ports outcome.state
  random : (∀ difference ∈ neighbourDifferences ports,
    ¬OnProgression portCollisions ports difference) →
      outcome.result = .ok .random

end DeltaTest

namespace Sample

/-- The elements of a list once each. -/
def listSet : List ℤ → List ℤ := List.dedup

/-- Ports two apart, with one collision. -/
def evenPorts : List ℤ := [4000, 4002, 4003, 4006, 4008]

/-- Ports without any order. -/
def randomPorts : List ℤ := [4000, 5111, 4777, 9300, 6100]

/-- Two neighbours, and three neighbours elsewhere. -/
def splitPorts : List ℤ := [4000, 4001, 7000, 7001, 7002]

end Sample

open DeltaTest

theorem listsSet_dedup : ListsSet Sample.listSet := fun _ _ => List.mem_dedup

end Coinbend
