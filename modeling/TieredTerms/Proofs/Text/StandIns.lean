import Mathlib.Data.Finset.Sort
import TieredTerms.Text.LoneUnit

/-!
# Stand-ins apart from given characters

All that is read and written is relative to the characters that stand in for lone units.  For texts
at hand these can be chosen among the characters that no text holds, so that every character of a
text stands for itself.  Only texts with nearly all characters of the private planes leave too few.

* `StandIns.ofChoice` are the stand-ins of any choice of private characters.
* `StandIns.exists_avoiding` is about stand-ins apart from given characters.
-/

namespace TieredTerms.StandIns

/-! ## Choices -/

/-- The half of a pair that a character is chosen for. -/
def chosenUnit? (choice : Nat → Char) (c : Char) : Option Nat :=
  (List.range' 0xd800 0x800).find? fun unit => choice unit == c

theorem mem_range'_iff {unit : Nat} : unit ∈ List.range' 0xd800 0x800 ↔ isHalf unit = true := by
  rw [List.mem_range'_1, isHalf_iff]

theorem chosenUnit?_eq_some {choice : Nat → Char}
    (injective : ∀ unit other, isHalf unit = true → isHalf other = true →
      choice unit = choice other → unit = other) {c : Char} {unit : Nat} :
    chosenUnit? choice c = some unit ↔ isHalf unit = true ∧ choice unit = c := by
  constructor
  · intro h
    have hsame := List.find?_some h
    exact ⟨mem_range'_iff.mp (List.mem_of_find?_eq_some h), eq_of_beq hsame⟩
  · rintro ⟨half, rfl⟩
    cases hfind : chosenUnit? choice (choice unit) with
    | none => simpa using List.find?_eq_none.mp hfind unit (mem_range'_iff.mpr half)
    | some other =>
      have hother := mem_range'_iff.mp (List.mem_of_find?_eq_some hfind)
      have hsame := List.find?_some hfind
      rw [injective other unit hother half (eq_of_beq hsame)]

/-- The stand-ins of a choice of one private character for each half of a pair. -/
@[reducible]
def ofChoice (choice : Nat → Char)
    (injective : ∀ unit other, isHalf unit = true → isHalf other = true →
      choice unit = choice other → unit = other)
    (isPrivate : ∀ unit, isHalf unit = true → privatePlanes ≤ (choice unit).toNat) : StandIns where
  standIn := choice
  loneUnit? := chosenUnit? choice
  loneUnit?_eq_some := chosenUnit?_eq_some injective
  privatePlanes_le := isPrivate _

/-- What stands in for no half of a pair is no lone unit. -/
theorem loneUnit?_eq_none_of_ne (standIns : StandIns) {c : Char}
    (h : ∀ unit, isHalf unit = true → standIns.standIn unit ≠ c) : standIns.loneUnit? c = none := by
  cases hunit : standIns.loneUnit? c with
  | none => rfl
  | some unit =>
    obtain ⟨half, hsame⟩ := standIns.loneUnit?_eq_some.mp hunit
    exact absurd hsame (h unit half)

/-! ## Private characters -/

/-- The number of characters of the private planes. -/
def privateCount : Nat := 0x20000

/-- The character at a place of the private planes. -/
def privateCharacter (place : Nat) : Char :=
  Char.ofNat (privatePlanes + place)

theorem toNat_privateCharacter {place : Nat} (h : place < privateCount) :
    (privateCharacter place).toNat = privatePlanes + place := by
  have hvalid : (privatePlanes + place).isValidChar := by
    unfold Nat.isValidChar privatePlanes
    unfold privateCount at h
    omega
  rw [privateCharacter, Char.ofNat, dif_pos hvalid]
  rfl

theorem privateCharacter_injOn :
    Set.InjOn privateCharacter (Finset.range privateCount : Finset Nat) := by
  intro place hplace other hother h
  rw [Finset.mem_coe, Finset.mem_range] at hplace hother
  have hcode := congrArg Char.toNat h
  rw [toNat_privateCharacter hplace, toNat_privateCharacter hother] at hcode
  exact Nat.add_left_cancel hcode

/-- The places of the private planes whose characters are not among given ones. -/
def freePlaces (used : Finset Char) : Finset Nat :=
  (Finset.range privateCount).filter fun place => privateCharacter place ∉ used

theorem lt_of_mem_freePlaces {used : Finset Char} {place : Nat} (h : place ∈ freePlaces used) :
    place < privateCount :=
  Finset.mem_range.mp (Finset.mem_filter.mp h).1

/-- Every character that is not free is used. -/
theorem privateCount_le (used : Finset Char) :
    privateCount ≤ used.card + (freePlaces used).card := by
  have hused : ((Finset.range privateCount).filter fun place =>
      privateCharacter place ∈ used).card ≤ used.card := by
    refine Finset.card_le_card_of_injOn privateCharacter ?_ ?_
    · exact fun place hplace => (Finset.mem_filter.mp hplace).2
    · exact privateCharacter_injOn.mono (Finset.coe_subset.mpr (Finset.filter_subset _ _))
  have hall := Finset.card_filter_add_card_filter_not (s := Finset.range privateCount)
    fun place => privateCharacter place ∈ used
  rw [Finset.card_range] at hall
  rw [freePlaces]
  omega

/-! ## Stand-ins apart from characters -/

/-- The free character for half of a pair: the halves take the free places in their order. -/
def freeCharacter (used : Finset Char) (unit : Nat) : Char :=
  privateCharacter (((freePlaces used).sort (· ≤ ·)).getD (unit - 0xd800) 0)

section Enough

variable {used : Finset Char} (h : used.card + 0x800 ≤ privateCount)

include h

theorem exists_freePlace {unit : Nat} (half : isHalf unit = true) :
    ∃ hlt : unit - 0xd800 < ((freePlaces used).sort (· ≤ ·)).length,
      ((freePlaces used).sort (· ≤ ·))[unit - 0xd800] ∈ freePlaces used ∧
      freeCharacter used unit =
        privateCharacter ((freePlaces used).sort (· ≤ ·))[unit - 0xd800] := by
  have hlt : unit - 0xd800 < ((freePlaces used).sort (· ≤ ·)).length := by
    have hcount := privateCount_le used
    rw [isHalf_iff] at half
    rw [Finset.length_sort]
    omega
  refine ⟨hlt, (Finset.mem_sort _).mp (List.getElem_mem hlt), ?_⟩
  rw [freeCharacter, List.getD_eq_getElem?_getD, List.getElem?_eq_getElem hlt, Option.getD_some]

theorem freeCharacter_inj {unit other : Nat} (half : isHalf unit = true)
    (half' : isHalf other = true) (hsame : freeCharacter used unit = freeCharacter used other) :
    unit = other := by
  obtain ⟨hlt, hplace, hcharacter⟩ := exists_freePlace h half
  obtain ⟨hlt', hplace', hcharacter'⟩ := exists_freePlace h half'
  rw [hcharacter, hcharacter'] at hsame
  have hplaces := privateCharacter_injOn
    (Finset.mem_coe.mpr (Finset.mem_range.mpr (lt_of_mem_freePlaces hplace)))
    (Finset.mem_coe.mpr (Finset.mem_range.mpr (lt_of_mem_freePlaces hplace'))) hsame
  have hindex := (Finset.sort_nodup _ _).getElem_inj_iff.mp hplaces
  rw [isHalf_iff] at half half'
  omega

theorem privatePlanes_le_freeCharacter {unit : Nat} (half : isHalf unit = true) :
    privatePlanes ≤ (freeCharacter used unit).toNat := by
  obtain ⟨hlt, hplace, hcharacter⟩ := exists_freePlace h half
  rw [hcharacter, toNat_privateCharacter (lt_of_mem_freePlaces hplace)]
  exact Nat.le_add_right _ _

theorem freeCharacter_not_mem {unit : Nat} (half : isHalf unit = true) :
    freeCharacter used unit ∉ used := by
  obtain ⟨hlt, hplace, hcharacter⟩ := exists_freePlace h half
  rw [hcharacter]
  exact (Finset.mem_filter.mp hplace).2

/-- There are stand-ins that are none of the given characters, where these leave a private character
for each half of a pair. -/
theorem exists_avoiding : ∃ standIns : StandIns, ∀ c ∈ used, standIns.loneUnit? c = none := by
  refine ⟨ofChoice (freeCharacter used) (fun _ _ => freeCharacter_inj h)
    fun _ => privatePlanes_le_freeCharacter h, fun c hc => ?_⟩
  refine loneUnit?_eq_none_of_ne _ fun unit half hsame => ?_
  have hcharacter : freeCharacter used unit = c := hsame
  rw [← hcharacter] at hc
  exact freeCharacter_not_mem h half hc

end Enough

end TieredTerms.StandIns
