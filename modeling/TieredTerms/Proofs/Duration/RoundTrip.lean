import TieredTerms.Fault
import TieredTerms.Proofs.Duration.Written

/-!
# Writing and reading durations

Reading undoes writing.  A clock duration comes back to the microsecond over its whole range,
although its seconds are read as a double; a calendar duration comes back with numerically the same
years and months, as a clock duration where both are zero.

* `Duration.ReadsBack` relates a duration to what its written form is read as.
* `Duration.IsPlain.readsBack_reread` holds of every plain duration, `Duration.written_reads_back`
  spells it out for both forms.
-/

namespace TieredTerms.Duration

/-- The first duration can be written, and what is written is read as the second, which has
numerically the same parts and is written in the same way. -/
structure ReadsBack (d e : Duration) : Prop where
  written : d.written = .ok d.format
  read : Duration.read d.format = .ok e
  parts : d.SameParts e
  again : e.written = .ok d.format

theorem IsPlain.written_eq {d : Duration} (h : d.IsPlain) : d.written = .ok d.format := by
  rw [Duration.written, if_pos h.isWritable]

theorem IsPlain.readsBack_reread {d : Duration} (h : d.IsPlain) : d.ReadsBack d.reread where
  written := h.written_eq
  read := read_format h
  parts := d.sameParts_reread
  again := by
    rw [(isPlain_reread h).written_eq, format, h.formatChars_reread, format]

/-- What is written of a duration without negative parts is read back: a clock duration as itself,
a calendar duration with its years and months, if they are plain, or as its clock part where both
are zero. -/
theorem written_reads_back (time : Clock) (htime : 0 ≤ time.micros) :
    (clock time).ReadsBack (clock time) ∧
      ∀ years months : Decimal, years.IsPlain → months.IsPlain →
        ∃ e, (calendar years months time).ReadsBack e ∧
          (years.isZero = true ∧ months.isZero = true → e = clock time) ∧
          (¬(years.isZero = true ∧ months.isZero = true) → ∃ y m, e = calendar y m time) := by
  constructor
  · exact IsPlain.readsBack_reread ⟨Decimal.isPlain_zero, Decimal.isPlain_zero, htime⟩
  · intro years months hyears hmonths
    have hplain : (calendar years months time).IsPlain := ⟨hyears, hmonths, htime⟩
    refine ⟨_, hplain.readsBack_reread, fun hzero => ?_, fun hnonzero => ?_⟩
    · rw [reread, if_pos (Bool.and_eq_true _ _ ▸ hzero)]
      rfl
    · rw [reread, if_neg (Bool.and_eq_true _ _ ▸ hnonzero)]
      exact ⟨_, _, rfl⟩

/-- The longest clock duration, alone and behind one and a half years. -/
theorem written_reads_back_longest :
    ∃ longest : Clock, longest.micros = 86399999999999999999 ∧ 0 ≤ longest.micros ∧
      (clock longest).ReadsBack (clock longest) ∧
      ∃ e, (calendar ⟨false, 150, -2⟩ (Decimal.ofInt 0) longest).ReadsBack e ∧
        ∃ y m, e = calendar y m longest := by
  have hback := written_reads_back ⟨86399999999999999999, by decide, by decide⟩ (by decide)
  obtain ⟨e, hread, -, hcalendar⟩ := hback.2 ⟨false, 150, -2⟩ (Decimal.ofInt 0)
    ⟨by decide, by decide, by decide⟩ Decimal.isPlain_zero
  exact ⟨_, rfl, by decide, hback.1, e, hread, hcalendar (by decide)⟩

end TieredTerms.Duration
