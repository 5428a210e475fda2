/-!
# Lone units

A UTF-16 unit that is half of a pair is no character by itself, yet an escape may put one into a
text.  In texts a character of the private planes stands in for each of these units, and is shown
as the unit in messages.  Which characters these are is left open: all that is read and written is
relative to `StandIns`, so that they can be chosen apart from the characters of the texts at hand.

* `StandIns.standIn` is the character for a unit, `StandIns.loneUnit?` the unit of a character.
* `LastPlane` has the stand-ins of the last private plane, which are taken where none are chosen.
* `loneRow?` finds the first lone units of a text, where no encoding takes it.
-/

namespace TieredTerms

/-- Whether a unit is the first half of a pair. -/
def isFirstHalf (unit : Nat) : Bool :=
  0xd800 ≤ unit && unit < 0xdc00

/-- Whether a unit is the second half of a pair. -/
def isSecondHalf (unit : Nat) : Bool :=
  0xdc00 ≤ unit && unit < 0xe000

/-- Whether a unit is half of a pair. -/
def isHalf (unit : Nat) : Bool :=
  isFirstHalf unit || isSecondHalf unit

theorem isHalf_iff {unit : Nat} : isHalf unit = true ↔ 0xd800 ≤ unit ∧ unit < 0xe000 := by
  simp only [isHalf, isFirstHalf, isSecondHalf, Bool.or_eq_true, Bool.and_eq_true,
    decide_eq_true_eq]
  omega

/-- The first code point of the private planes. -/
def privatePlanes : Nat := 0xf0000

/-- The characters that stand in for lone units, one of the private planes for each unit. -/
class StandIns where
  /-- The character that stands in for half of a pair. -/
  standIn (unit : Nat) : Char
  /-- The unit that a character stands in for. -/
  loneUnit? (c : Char) : Option Nat
  loneUnit?_eq_some {c : Char} {unit : Nat} :
    loneUnit? c = some unit ↔ isHalf unit = true ∧ standIn unit = c
  privatePlanes_le {unit : Nat} (half : isHalf unit = true) : privatePlanes ≤ (standIn unit).toNat

export StandIns (standIn loneUnit?)

/-- Outside of the private planes no character stands in for a unit. -/
theorem loneUnit?_eq_none_of_lt [StandIns] {c : Char} (h : c.toNat < privatePlanes) :
    loneUnit? c = none := by
  cases hunit : loneUnit? c with
  | none => rfl
  | some unit =>
    obtain ⟨half, rfl⟩ := StandIns.loneUnit?_eq_some.mp hunit
    exact absurd (StandIns.privatePlanes_le half) (Nat.not_le_of_lt h)

/-! ## Stand-ins of the last plane -/

namespace LastPlane

/-- The first code point of the last private plane. -/
def start : Nat := 0x100000

/-- The character with the same last four hexadecimal digits as a unit. -/
def character (unit : Nat) : Char :=
  Char.ofNat (start + unit)

theorem toNat_character {unit : Nat} (half : isHalf unit = true) :
    (character unit).toNat = start + unit := by
  have valid : (start + unit).isValidChar := by
    rw [isHalf_iff] at half
    unfold Nat.isValidChar start
    omega
  rw [character, Char.ofNat, dif_pos valid]
  rfl

/-- The unit with the same last four hexadecimal digits as a character of the plane. -/
def unit? (c : Char) : Option Nat :=
  if isHalf (c.toNat - start) then some (c.toNat - start) else none

theorem unit?_eq_some {c : Char} {unit : Nat} :
    unit? c = some unit ↔ isHalf unit = true ∧ character unit = c := by
  unfold unit?
  constructor
  · intro h
    split at h
    · next half =>
      obtain rfl := Option.some.inj h
      have code : start + (c.toNat - start) = c.toNat := by
        rw [isHalf_iff] at half
        omega
      exact ⟨half, by rw [character, code, Char.ofNat_toNat]⟩
    · cases h
  · rintro ⟨half, rfl⟩
    rw [toNat_character half, Nat.add_sub_cancel_left, if_pos half]

/-- Where none are chosen, the stand-ins are these. -/
instance (priority := low) standIns : StandIns where
  standIn := character
  loneUnit? := unit?
  loneUnit?_eq_some := unit?_eq_some
  privatePlanes_le half := by
    rw [toNat_character half]
    exact Nat.le_trans (m := start) (Nat.le_of_ble_eq_true rfl) (Nat.le_add_right _ _)

end LastPlane

/-! ## Rows of lone units -/

/-- Lone units next to each other in a text: the first of them, its place, and how many they are. -/
structure LoneRow where
  unit : Nat
  place : Nat
  count : Nat
  deriving DecidableEq

/-- The first lone units of a text. -/
def loneRow? [StandIns] (cs : List Char) : Option LoneRow :=
  let place := (cs.takeWhile fun c => (loneUnit? c).isNone).length
  let row := (cs.drop place).takeWhile fun c => (loneUnit? c).isSome
  (row.head?.bind loneUnit?).map fun unit => { unit, place, count := row.length }

end TieredTerms
