import FieldMachine.Session
import Mathlib.Algebra.Order.BigOperators.Group.List
import Mathlib.Algebra.Order.Ring.Nat

/-!
# The countdown

The countdown hears of the time in slices, and keeps the milliseconds that have not
made up a second for the next slice.  So it does not matter where one slice ends and
the next one begins: a slice takes off the whole seconds that fill up in it, counted
from when the countdown was set (`Session.filled`), and together those are the whole
seconds of all the time that has passed (`Session.sum_filled`).

A slice takes its seconds off as a number of 32 bits.  One that is longer than that, more
than a hundred years, takes off too little (`Session.ages_pass_unnoticed`).
`Session.timer_left` says what is left after any slices, and that this is exact just if
no slice is too long, or the countdown has run out all the same.
-/

namespace FieldMachine

set_option autoImplicit false

namespace Session

/-- The whole seconds that fill up in each of some slices of time; the first slice begins `passed`
milliseconds after the countdown was set. -/
def filled (passed : Nat) : List Nat → List Nat
  | [] => []
  | slice :: rest => ((passed + slice) / 1000 - passed / 1000) :: filled (passed + slice) rest

/-- The seconds that slices take off, each of them as a number of 32 bits. -/
def takenOff (wholes : List Nat) : Nat := (wholes.map (· % UInt32.size)).sum

/-- The longest slice that fits on top of less than a second. -/
def longestSlice : Nat := 18446744073709550616

/-- The longest slice in which the whole seconds are sure to be a number of 32 bits. -/
def longestExactSlice : Nat := 4294967295000

/-! ## Whole seconds -/

/-- Together the whole seconds of some slices are those of all the time. -/
theorem sum_filled (passed : Nat) (slices : List Nat) :
    (filled passed slices).sum = (passed + slices.sum) / 1000 - passed / 1000 := by
  induction slices generalizing passed with
  | nil => simp [filled]
  | cons slice rest ih =>
      rw [filled, List.sum_cons, ih, List.sum_cons, ← Nat.add_assoc]
      have first : passed / 1000 ≤ (passed + slice) / 1000 :=
        Nat.div_le_div_right (Nat.le_add_right ..)
      have later : (passed + slice) / 1000 ≤ (passed + slice + rest.sum) / 1000 :=
        Nat.div_le_div_right (Nat.le_add_right ..)
      omega

/-- In a slice that is not too long, the whole seconds are a number of 32 bits. -/
theorem filled_lt {slices : List Nat} (short : ∀ slice ∈ slices, slice ≤ longestExactSlice)
    (passed : Nat) : ∀ whole ∈ filled passed slices, whole < UInt32.size := by
  induction slices generalizing passed with
  | nil => simp [filled]
  | cons slice rest ih =>
      rw [List.forall_mem_cons] at short
      rw [filled, List.forall_mem_cons]
      refine ⟨?_, ih short.2 _⟩
      have bound : slice ≤ 4294967295000 := short.1
      show _ < 4294967296
      omega

/-- Numbers of 32 bits are taken off as they are. -/
theorem takenOff_of_lt {wholes : List Nat} (small : ∀ whole ∈ wholes, whole < UInt32.size) :
    takenOff wholes = wholes.sum := by
  rw [takenOff, List.map_congr_left fun whole among => Nat.mod_eq_of_lt (small whole among),
    List.map_id']

/-- No slice takes off more than its whole seconds. -/
theorem takenOff_le (wholes : List Nat) : takenOff wholes ≤ wholes.sum := by
  have each := List.sum_le_sum (f := (· % UInt32.size)) (g := id) fun whole (_ : whole ∈ wholes) =>
    Nat.mod_le whole UInt32.size
  rwa [List.map_id] at each

/-! ## One slice -/

/-- How far the countdown has come `passed` milliseconds after it was set: as long as it runs, it
has kept what has not made up a second. -/
def Kept (passed : Nat) (session : Session) : Prop :=
  session.timerSeconds ≠ 0 → session.timerCarry.toNat = passed % 1000

theorem kept_setTimer (session : Session) (seconds : UInt32) :
    Kept 0 (session.setTimer seconds) := fun _ => rfl

variable {session : Session} {passed : Nat}

/-- A slice takes off the whole seconds that fill up in it, as a number of 32 bits, and what has not
made up a second is kept. -/
theorem Kept.advance (kept : session.Kept passed) {elapsed : UInt64}
    (bound : elapsed.toNat ≤ longestSlice) :
    (session.advanceTimer elapsed).timerSeconds.toNat = session.timerSeconds.toNat -
        ((passed + elapsed.toNat) / 1000 - passed / 1000) % UInt32.size ∧
      (session.advanceTimer elapsed).Kept (passed + elapsed.toNat) := by
  have bound : elapsed.toNat ≤ 18446744073709550616 := bound
  unfold advanceTimer
  by_cases out : session.timerSeconds = 0
  · rw [if_pos out]
    refine ⟨?_, fun runs => absurd out runs⟩
    have none : session.timerSeconds.toNat = 0 := congrArg UInt32.toNat out
    rw [none, Nat.zero_sub]
  · have carry := kept out
    have total : (session.timerCarry + elapsed).toNat = passed % 1000 + elapsed.toNat := by
      rw [UInt64.toNat_add, carry]
      omega
    have whole : ((session.timerCarry + elapsed) / 1000).toUInt32.toNat =
        ((passed + elapsed.toNat) / 1000 - passed / 1000) % UInt32.size := by
      rw [UInt64.toNat_toUInt32, UInt64.toNat_div, total]
      show (passed % 1000 + elapsed.toNat) / 1000 % 4294967296 = _ % 4294967296
      omega
    rw [if_neg out]
    refine ⟨?_, fun _ => ?_⟩
    · dsimp only
      rw [← whole]
      split
      · next reached =>
          rw [UInt32.le_iff_toNat_le] at reached
          rw [UInt32.toNat_zero]
          omega
      · next left =>
          rw [UInt32.le_iff_toNat_le] at left
          rw [UInt32.toNat_sub_of_le _ _ (UInt32.le_iff_toNat_le.mpr (by omega))]
    · dsimp only
      rw [UInt64.toNat_mod, total]
      show (passed % 1000 + elapsed.toNat) % 1000 = _
      omega

/-- Slices take off the whole seconds that fill up in them, each as a number of 32 bits. -/
theorem Kept.advanceAll (kept : session.Kept passed) {slices : List UInt64}
    (bounded : ∀ slice ∈ slices, slice.toNat ≤ longestSlice) :
    (slices.foldl advanceTimer session).timerSeconds.toNat =
      session.timerSeconds.toNat - takenOff (filled passed (slices.map UInt64.toNat)) := by
  induction slices generalizing session passed with
  | nil => rfl
  | cons slice rest ih =>
      rw [List.forall_mem_cons] at bounded
      obtain ⟨seconds, kept⟩ := kept.advance bounded.1
      rw [List.foldl_cons, ih kept bounded.2, seconds, List.map_cons, filled, takenOff, takenOff,
        List.map_cons, List.sum_cons, Nat.sub_sub]

/-! ## All slices -/

/-- After slices that are not too long, the countdown has lost the whole seconds of all the time. -/
theorem timer_of_short (session : Session) (seconds : UInt32) {slices : List UInt64}
    (short : ∀ slice ∈ slices, slice.toNat ≤ longestExactSlice) :
    (slices.foldl advanceTimer (session.setTimer seconds)).timerSeconds.toNat =
      seconds.toNat - (slices.map UInt64.toNat).sum / 1000 := by
  have bounded : ∀ slice ∈ slices, slice.toNat ≤ longestSlice := fun slice among =>
    Nat.le_trans (short slice among) (by decide)
  have shortToo : ∀ slice ∈ slices.map UInt64.toNat, slice ≤ longestExactSlice := by
    simpa using short
  have small := filled_lt shortToo 0
  rw [(kept_setTimer session seconds).advanceAll bounded, takenOff_of_lt small, sum_filled]
  simp [setTimer]

/-- What is left of a countdown after slices of time.

Each slice takes off the whole seconds that fill up in it, as a number of 32 bits.  This comes to
the whole seconds of all the time just if no slice holds more than such a number, or if the
countdown has run out in spite of it.  So slices that are short enough may be cut and joined as one
likes. -/
theorem timer_left (session : Session) (seconds : UInt32) (slices : List UInt64)
    (bounded : ∀ slice ∈ slices, slice.toNat ≤ longestSlice) :
    let left (slices : List UInt64) :=
      (slices.foldl advanceTimer (session.setTimer seconds)).timerSeconds.toNat
    let passed := (slices.map UInt64.toNat).sum
    let wholes := filled 0 (slices.map UInt64.toNat)
    left slices = seconds.toNat - takenOff wholes ∧
    (left slices = seconds.toNat - passed / 1000 ↔
      (∀ whole ∈ wholes, whole < UInt32.size) ∨ seconds.toNat ≤ takenOff wholes) ∧
    ((∀ slice ∈ slices, slice.toNat ≤ longestExactSlice) →
      left slices = seconds.toNat - passed / 1000 ∧
      ∀ others : List UInt64, (∀ slice ∈ others, slice.toNat ≤ longestExactSlice) →
        (others.map UInt64.toNat).sum = passed → left others = left slices) := by
  intro left passed wholes
  have taken : left slices = seconds.toNat - takenOff wholes :=
    (kept_setTimer session seconds).advanceAll bounded
  have total : wholes.sum = passed / 1000 := by
    rw [sum_filled, Nat.zero_add, Nat.zero_div, Nat.sub_zero]
  refine ⟨taken, ⟨fun exact => ?_, ?_⟩, fun short => ?_⟩
  · -- A slice that is too long is longer than any countdown, which has then run out.
    by_cases small : ∀ whole ∈ wholes, whole < UInt32.size
    · exact .inl small
    · right
      obtain ⟨whole, among, long⟩ : ∃ whole ∈ wholes, UInt32.size ≤ whole := by
        simpa using small
      have below : seconds.toNat < UInt32.size := seconds.toNat_lt
      have within := List.le_sum_of_mem among
      omega
  · rintro (small | out)
    · rw [taken, takenOff_of_lt small, total]
    · have least := takenOff_le wholes
      omega
  · refine ⟨timer_of_short session seconds short, fun others shortToo same => ?_⟩
    have first : left slices = seconds.toNat - passed / 1000 := timer_of_short session seconds short
    have second : left others = seconds.toNat - (others.map UInt64.toNat).sum / 1000 :=
      timer_of_short session seconds shortToo
    rw [first, second, same]

/-- Ten seconds, of which six and a fifth pass in three slices or in one. -/
theorem timer_left_sliced :
    let left (slices : List UInt64) :=
      (slices.foldl advanceTimer ((fresh {}).setTimer 10)).timerSeconds.toNat
    left [600, 600, 5000] = 4 ∧ left [6200] = 4 := by
  intro left
  obtain ⟨-, -, exact⟩ := timer_left (fresh {}) 10 [600, 600, 5000] (by simp [longestSlice])
  obtain ⟨sliced, merged⟩ := exact (by simp [longestExactSlice])
  have sliced : left [600, 600, 5000] = 4 := sliced
  have merged : left [6200] = left [600, 600, 5000] :=
    merged [6200] (by simp [longestExactSlice]) rfl
  exact ⟨sliced, merged.trans sliced⟩

/-- A slice of 4294967296 seconds takes nothing off a countdown of five; the same time in two slices
lets it run out. -/
theorem ages_pass_unnoticed :
    let left (slices : List UInt64) :=
      (slices.foldl advanceTimer ((fresh {}).setTimer 5)).timerSeconds.toNat
    left [4294967296000] = 5 ∧ 5 - 4294967296000 / 1000 = 0 ∧
      left [2147483648000, 2147483648000] = 0 := by
  decide

end Session

end FieldMachine
