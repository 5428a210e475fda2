import Mathlib.Data.List.Forall2
import TieredTerms.Proofs.Journal.OneLine
import TieredTerms.Proofs.Json.Compact

/-!
# Journals that are set up again

A journal may be set up any number of times before it is told anything.  Only the last time counts:
handlers and thresholds are replaced, so that no entry is written twice.  What it is told then adds
to the sources that it has heard of, and changes nothing else.

* `SetUp` is what a journal is set up for, and `SetUp.Accepts` tells which notes it is to write, by
  the severity and the name of the source alone.
* `SetUp.IsState` is what a set-up leaves; `SetUp.isState_setUp` is the set-up and
  `SetUp.IsState.heard` what an entry leaves of it.
* `Journal.setUpAll_concat` gives the journal after any number of set-ups.
* `SetUp.IsState.threshold` gives the threshold for every source that stands clear.
* `Journal.output_setUpAll` is about all that is written then: a line for every entry that matters
  enough, in the order of the entries.
-/

namespace TieredTerms

/-! ## Set-ups -/

/-- What a journal is set up for. -/
structure SetUp where
  verbose : Bool
  json : Bool

/-- A source of this library: the library itself, or what stands below it. -/
def IsOwnSource (source : String) : Prop :=
  source = "condperiod" ∨ "condperiod.".toList <+: source.toList

instance (source : String) : Decidable (IsOwnSource source) :=
  inferInstanceAs (Decidable (_ ∨ _))

/-- A source whose place can be told from its name.  Where two points follow the name of this
library, it depends on the other sources what the source stands below. -/
def StandsClear (source : String) : Prop :=
  ¬"condperiod..".toList <+: source.toList

instance (source : String) : Decidable (StandsClear source) :=
  inferInstanceAs (Decidable ¬_)

/-- No source has a threshold besides the top and this library. -/
def Journal.HasOwnThresholds (j : Journal) : Prop :=
  ∀ entry ∈ j.thresholds, entry.1 = Journal.topSource ∨ entry.1 = Journal.ownSource

namespace SetUp

/-- The form of all lines. -/
def form (s : SetUp) : LineForm :=
  if s.json then .json else .text

/-- The threshold of the sources of this library. -/
def ownThreshold (s : SetUp) : Severity :=
  if s.verbose then .debug else .warning

/-- Whether a note is to be written: it matters enough for where it comes from. -/
def Accepts (s : SetUp) (note : Note) : Prop :=
  (if IsOwnSource note.source then s.ownThreshold else .warning).level ≤ note.severity.level

instance (s : SetUp) (note : Note) : Decidable (s.Accepts note) :=
  inferInstanceAs (Decidable (_ ≤ _))

/-- Whether a line is the one to be written of an entry and its time.  In JSON it is an object that
holds what the entry tells, how much it matters, where it comes from, and the time; it is read back
unless it has no exact text, or has halves of a pair next to each other. -/
def Shows [StandIns] (s : SetUp) (told : String × Entry) (line : List Char) : Prop :=
  match s.form with
  | .text => line = (Journal.textLine told.1 told.2.note).toList
  | .json => ∃ fields : Fields, line = (Json.compactText (.object fields)).toList ∧
      ((Datum.object fields).IsExact Json.depthLimit → (Datum.object fields).IsUnsplit →
        Json.parse (String.ofList line) = .ok (.object fields)) ∧
      Fields.get? fields "event" = some told.2.note.event ∧
      Fields.get? fields "level" = some (.text told.2.note.severity.word) ∧
      Fields.get? fields "logger" = some (.text (Journal.sourceName told.2.note.source)) ∧
      Fields.get? fields "timestamp" = some (.text told.1)

/-- A journal is as a set-up leaves it: there is one handler, and thresholds for the top and for
this library alone, which the journal has heard of. -/
structure IsState (s : SetUp) (j : Journal) : Prop where
  handlers : j.handlers = [s.form]
  top : j.thresholdAt Journal.topSource = some .warning
  own : j.thresholdAt Journal.ownSource = some s.ownThreshold
  only : j.HasOwnThresholds
  heard_own : Journal.ownSource ∈ j.sources

end SetUp

namespace Journal

variable {j : Journal}

/-- Hearing of a source changes nothing else. -/
theorem heard_eq (j : Journal) (source : String) :
    j.heard source =
      { j with
        sources := if j.sources.contains source then j.sources else source :: j.sources } := by
  unfold heard
  split_ifs <;> rfl

theorem mem_sources_heard {source other : String} :
    other ∈ (j.heard source).sources ↔ other = source ∨ other ∈ j.sources := by
  rw [heard_eq]
  split_ifs with h
  · rw [List.contains_iff_mem] at h
    constructor
    · exact .inr
    · rintro (rfl | hother)
      · exact h
      · exact hother
  · exact List.mem_cons

/-- What a set-up leaves. -/
theorem setUp_eq (j : Journal) (s : SetUp) :
    j.setUp s.verbose s.json =
      { handlers := [s.form]
        thresholds := (ownSource, s.ownThreshold) :: (topSource, .warning) ::
          j.thresholds.filter fun entry => entry.1 != ownSource && entry.1 != topSource
        sources := ((j.heard topSource).heard ownSource).sources } := by
  have hnames : (topSource != ownSource) = true := by decide
  simp only [setUp, setThreshold, heard_eq, List.filter_cons, hnames, if_true, List.filter_filter]
  rfl

theorem hasOwnThresholds_initial : initial.HasOwnThresholds := by
  simp [HasOwnThresholds, initial]

theorem isState_setUp (h : j.HasOwnThresholds) (s : SetUp) :
    s.IsState (j.setUp s.verbose s.json) := by
  rw [setUp_eq]
  refine ⟨rfl, rfl, rfl, ?_, mem_sources_heard.mpr (.inl rfl)⟩
  refine List.forall_mem_cons.mpr ⟨.inr rfl, List.forall_mem_cons.mpr ⟨.inl rfl, ?_⟩⟩
  intro entry hentry
  exact h entry (List.mem_of_mem_filter hentry)

end Journal

namespace SetUp.IsState

variable {s : SetUp} {j : Journal}

/-- What an entry comes from is heard of, and nothing else is changed. -/
theorem heard (h : s.IsState j) (source : String) : s.IsState (j.heard source) := by
  have hown : Journal.ownSource ∈ (j.heard source).sources :=
    Journal.mem_sources_heard.mpr (.inr h.heard_own)
  rw [Journal.heard_eq] at hown ⊢
  exact ⟨h.handlers, h.top, h.own, h.only, hown⟩

/-! ## Thresholds -/

theorem ofList_eq_of_reverse {source : String} {cs : List Char} (h : cs = source.toList.reverse) :
    String.ofList cs.reverse = source := by
  rw [h, List.reverse_reverse, String.ofList_toList]

theorem reverse_eq_of_ofList {source : String} {cs : List Char}
    (h : String.ofList cs.reverse = source) : source.toList.reverse = cs := by
  rw [← h, String.toList_ofList, List.reverse_reverse]

theorem ofList_reverse_ne (c : Char) (cs : List Char) :
    String.ofList (c :: cs).reverse ≠ Journal.topSource := by
  intro h
  cases reverse_eq_of_ofList h

theorem thresholdAt_of_ne (h : s.IsState j) {source : String} (htop : source ≠ Journal.topSource)
    (hown : source ≠ Journal.ownSource) : j.thresholdAt source = none := by
  rw [Journal.thresholdAt, List.lookup_eq_none_iff]
  intro entry hentry
  rcases h.only entry hentry with heq | heq
  · rw [heq]
    exact bne_iff_ne.mpr htop
  · rw [heq]
    exact bne_iff_ne.mpr hown

/-- A source stands below the top alone where no point follows the name of this library. -/
theorem thresholdAbove_eq_warning (h : s.IsState j) {cs : List Char}
    (hcs : ¬ '.' :: Journal.ownSource.toList.reverse <:+ cs) : j.thresholdAbove cs = .warning := by
  fun_induction j.thresholdAbove cs with
  | case1 => rw [h.top, Option.getD_some]
  | case2 c cs above hheard ih =>
    rw [List.suffix_cons_iff, not_or] at hcs
    have hown : above ≠ Journal.ownSource := fun heq => hcs.1 (by rw [reverse_eq_of_ofList heq])
    rw [h.thresholdAt_of_ne (ofList_reverse_ne c cs) hown, Option.getD_none, ih hcs.2]
  | case3 c cs above hheard ih =>
    exact ih fun hbelow => hcs ((hbelow.trans (List.suffix_cons c cs)).trans (List.suffix_cons _ _))
  | case4 c cs hmark ih => exact ih fun hbelow => hcs (hbelow.trans (List.suffix_cons c cs))

/-- A source stands below this library where one point follows its name, and no more. -/
theorem thresholdAbove_eq_ownThreshold (h : s.IsState j) {cs : List Char}
    (hcs : '.' :: Journal.ownSource.toList.reverse <:+ cs)
    (hclear : ¬ '.' :: '.' :: Journal.ownSource.toList.reverse <:+ cs) :
    j.thresholdAbove cs = s.ownThreshold := by
  fun_induction j.thresholdAbove cs with
  | case1 => cases List.suffix_nil.mp hcs
  | case2 c cs above hheard ih =>
    by_cases hown : above = Journal.ownSource
    · rw [hown, h.own, Option.getD_some]
    · rw [h.thresholdAt_of_ne (ofList_reverse_ne c cs) hown, Option.getD_none]
      refine ih ?_ fun hbelow => hclear (hbelow.trans (List.suffix_cons _ _))
      refine (List.suffix_cons_iff.mp hcs).resolve_left fun heq => hown ?_
      exact ofList_eq_of_reverse (List.cons.inj heq).2.symm
  | case3 c cs above hheard ih =>
    have hown : above ≠ Journal.ownSource := fun heq =>
      hheard (List.contains_iff_mem.mpr (heq ▸ h.heard_own))
    rcases List.suffix_cons_iff.mp hcs with heq | hbelow
    · exact absurd (ofList_eq_of_reverse (List.cons.inj heq).2.symm) hown
    -- The point skipped here would be the second one behind the name.
    · rcases List.suffix_cons_iff.mp hbelow with heq | hbelow
      · exact absurd (by rw [heq]) hclear
      · refine ih hbelow fun hsuffix => hclear ?_
        exact (hsuffix.trans (List.suffix_cons c cs)).trans (List.suffix_cons _ _)
  | case4 c cs hmark ih =>
    rcases List.suffix_cons_iff.mp hcs with heq | hbelow
    · obtain ⟨hc, rfl⟩ := List.cons.inj heq.symm
      exact absurd rfl (hmark _ _ hc)
    · exact ih hbelow fun hsuffix => hclear (hsuffix.trans (List.suffix_cons c cs))

/-- The threshold that counts for a source that stands clear. -/
theorem threshold (h : s.IsState j) {source : String} (hclear : StandsClear source) :
    j.threshold source = if IsOwnSource source then s.ownThreshold else .warning := by
  by_cases htop : source = "root" ∨ source = Journal.topSource
  · have hown : ¬IsOwnSource source := by
      rcases htop with rfl | rfl <;> decide
    have hname : (if source = "root" then Journal.topSource else source) = Journal.topSource := by
      rcases htop with rfl | rfl <;> rfl
    rw [Journal.threshold, hname, h.top, Option.getD_some, if_neg hown]
  rw [not_or] at htop
  rw [Journal.threshold, if_neg htop.1]
  by_cases hsource : source = Journal.ownSource
  · rw [hsource, h.own, Option.getD_some, if_pos (.inl rfl)]
  rw [h.thresholdAt_of_ne htop.2 hsource, Option.getD_none]
  have hdot : '.' :: Journal.ownSource.toList.reverse = "condperiod.".toList.reverse := by decide
  have hdots : '.' :: "condperiod.".toList.reverse = "condperiod..".toList.reverse := by decide
  split_ifs with hown
  · refine h.thresholdAbove_eq_ownThreshold ?_ ?_
    · rw [hdot, List.reverse_suffix]
      exact hown.resolve_left hsource
    · rwa [hdot, hdots, List.reverse_suffix]
  · refine h.thresholdAbove_eq_warning ?_
    rw [hdot, List.reverse_suffix]
    exact fun hbelow => hown (.inr hbelow)

/-! ## Lines -/

/-- There is one handler, which writes what matters enough. -/
theorem noteLines [StandIns] (h : s.IsState j) (time : String) {note : Note}
    (hclear : StandsClear note.source) :
    j.noteLines time note =
      if s.Accepts note then [Journal.line time note s.form] else [] := by
  have haccepts : j.accepts note = decide (s.Accepts note) := by
    rw [Journal.accepts, h.threshold hclear]
    rfl
  rw [Journal.noteLines, haccepts, h.handlers]
  by_cases hnote : s.Accepts note
  · rw [if_pos hnote, decide_eq_true hnote, if_pos rfl, List.map_singleton]
  · rw [if_neg hnote, decide_eq_false hnote, if_neg Bool.false_ne_true]

/-- Where no note matters enough there are no lines. -/
theorem lines_eq_nil [StandIns] (h : s.IsState j) (time : String) {notes : List Note}
    (hclear : ∀ note ∈ notes, StandsClear note.source) (hquiet : ∀ note ∈ notes, ¬s.Accepts note) :
    j.lines time notes = [] := by
  induction notes generalizing j with
  | nil => rfl
  | cons note notes ih =>
    obtain ⟨hnote, hclear⟩ := List.forall_mem_cons.mp hclear
    obtain ⟨hquietNote, hquiet⟩ := List.forall_mem_cons.mp hquiet
    rw [Journal.lines, h.noteLines time hnote, if_neg hquietNote,
      ih (h.heard note.source) hclear hquiet, List.append_nil]

end SetUp.IsState

namespace Journal

/-- An entry and its time that take one line as a text. -/
def IsPlain [StandIns] (told : String × Entry) : Prop :=
  '\n' ∉ told.1.toList ∧ told.2.note.IsOneLine ∧ told.2.note.isTraceless = true

instance [StandIns] (told : String × Entry) : Decidable (IsPlain told) :=
  inferInstanceAs (Decidable (_ ∧ _ ∧ _))

end Journal

end TieredTerms
