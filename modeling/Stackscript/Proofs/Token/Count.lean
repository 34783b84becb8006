import Mathlib
import Stackscript.Position

set_option autoImplicit false

/- Places counted without a bound, and the counters of 32 bits that tell them. Whatever the text, the
counters hold the place modulo their range, since a line feed does the same to both; they hold the
place itself as long as it is in their range. -/
namespace Stackscript

/-- A line and a column that are counted without a bound. -/
structure Place where
  line : Nat
  column : Nat
  deriving DecidableEq

namespace Place

def start : Place := ⟨1, 1⟩

/-- A line feed leads to the first column of the next line, any other character to the next column. -/
def advance (p : Place) (c : Char) : Place :=
  if c = '\n' then ⟨p.line + 1, 1⟩ else ⟨p.line, p.column + 1⟩

def advanceAll (p : Place) (t : Text) : Place :=
  t.foldl advance p

@[simp] theorem advanceAll_cons (p : Place) (c : Char) (t : Text) :
    p.advanceAll (c :: t) = (p.advance c).advanceAll t := rfl

/-- What the counters hold at a place: both numbers modulo `2 ^ 32`. -/
def counters (p : Place) : Position := ⟨p.line, p.column⟩

/-- Neither counter has wrapped around. -/
structure Fits (p : Place) : Prop where
  line : p.line < 2 ^ 32
  column : p.column < 2 ^ 32

theorem counters_advance (p : Place) (c : Char) :
    (p.advance c).counters = p.counters.advance c := by
  unfold advance Position.advance
  split
  · exact congrArg (Position.mk · 1) (UInt32.ofNat_add p.line 1)
  · exact congrArg (Position.mk p.line) (UInt32.ofNat_add p.column 1)

theorem counters_advanceAll (p : Place) (t : Text) :
    (p.advanceAll t).counters = p.counters.advanceAll t := by
  induction t generalizing p with
  | nil => rfl
  | cons c t ih =>
    rw [advanceAll_cons, ih, counters_advance]
    rfl

/-- Each line feed leads to a further line. -/
theorem line_advanceAll (p : Place) (t : Text) :
    (p.advanceAll t).line = p.line + t.count '\n' := by
  induction t generalizing p with
  | nil => rfl
  | cons c t ih =>
    rw [advanceAll_cons, ih, advance]
    by_cases feed : c = '\n'
    · rw [if_pos feed, feed, List.count_cons_self]
      exact Nat.succ_add_eq_add_succ _ _
    · rw [if_neg feed, List.count_cons_of_ne feed]

/-- Columns count from one, and no line is longer than the text. -/
theorem column_advanceAll {p : Place} (counted : 1 ≤ p.column) (t : Text) :
    1 ≤ (p.advanceAll t).column ∧ (p.advanceAll t).column ≤ p.column + t.length := by
  induction t generalizing p with
  | nil => exact ⟨counted, Nat.le_refl _⟩
  | cons c t ih =>
    have next : 1 ≤ (p.advance c).column ∧ (p.advance c).column ≤ p.column + 1 := by
      unfold advance
      split
      · exact ⟨Nat.le_refl 1, Nat.le_add_left 1 _⟩
      · exact ⟨Nat.le_add_left 1 _, Nat.le_refl _⟩
    obtain ⟨first, last⟩ := ih next.1
    rw [advanceAll_cons, List.length_cons]
    omega

/-- A text that is short enough does not make the counters wrap around. -/
theorem fits_of_short {t : Text} (short : t.length + 1 < 2 ^ 32) : (start.advanceAll t).Fits := by
  have line := start.line_advanceAll t
  have feeds : t.count '\n' ≤ t.length := List.count_le_length
  obtain ⟨-, column⟩ : _ ∧ (start.advanceAll t).column ≤ 1 + t.length :=
    column_advanceAll (Nat.le_refl 1) t
  have first : start.line = 1 := rfl
  exact ⟨by omega, by omega⟩

end Place

namespace Position

def place (p : Position) : Place := ⟨p.line, p.column⟩

theorem counters_place (p : Position) : p.place.counters = p := by
  simp only [place, Place.counters, UInt32.ofNat_toNat]

/-- The counters tell a place: they hold it modulo their range, and itself if it fits. -/
structure Tells (p : Position) (place : Place) : Prop where
  counters : p = place.counters
  exact : place.Fits → p.place = place

theorem tells_counters (place : Place) : place.counters.Tells place := by
  refine ⟨rfl, fun fits => ?_⟩
  simp only [Position.place, Place.counters, UInt32.toNat_ofNat_of_lt' fits.line,
    UInt32.toNat_ofNat_of_lt' fits.column]

/-- Counting from `p` on tells the place where the text leads to from there. -/
theorem tells_advanceAll (p : Position) (t : Text) :
    (p.advanceAll t).Tells (p.place.advanceAll t) := by
  have counted := p.place.counters_advanceAll t
  rw [p.counters_place] at counted
  exact counted ▸ tells_counters _

/-- A text that is short enough leads to a place that the counters hold as it is. -/
theorem place_of_short {t : Text} (short : t.length + 1 < 2 ^ 32) :
    (start.advanceAll t).place = Place.start.advanceAll t :=
  (start.tells_advanceAll t).exact (Place.fits_of_short short)

theorem line_of_short {t : Text} (short : t.length + 1 < 2 ^ 32) :
    (start.advanceAll t).line.toNat = 1 + t.count '\n' :=
  (congrArg Place.line (place_of_short short)).trans (Place.start.line_advanceAll t)

/-- Lines do not wrap around to zero when they fit. -/
theorem line_ne_zero {p : Position} (known : p.line ≠ 0) {t : Text}
    (short : p.line.toNat + t.count '\n' < 2 ^ 32) : (p.advanceAll t).line ≠ 0 := by
  have counted : (p.advanceAll t).line = .ofNat (p.line.toNat + t.count '\n') := by
    rw [(p.tells_advanceAll t).counters, Place.counters, Place.line_advanceAll]
    rfl
  intro wrapped
  have none := congrArg UInt32.toNat (counted.symm.trans wrapped)
  rw [UInt32.toNat_ofNat_of_lt' short] at none
  exact known (UInt32.toNat_inj.1 (Nat.eq_zero_of_add_eq_zero_right none))

end Position

end Stackscript
