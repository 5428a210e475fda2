import TieredTerms.Json.Reader
import TieredTerms.Proofs.Number.Digits
import TieredTerms.Proofs.Outcome

/-!
# Numbers that JSON readers do not take

A reader takes characters from the front of what it is given, so what one reader of a sequence
leaves to the next is a suffix of the whole text.  It stops at a whole number of too many digits
only where the text has such a row of digits.

* `Consumes` is what every reader keeps; `consumes_readValue` carries it through containers by
  induction on the fuel.
* `hasLongRun_of_parse` is the whole document.
-/

namespace TieredTerms.Json

variable {α : Type} {cs ds : List Char}

/-- A reader leaves a suffix of what it is given, and stops at a number of too many digits only
where a row of so many digits stands. -/
def Consumes (cs : List Char) : Except Stop (α × List Char) → Prop :=
  Yields (fun read => read.2 <:+ cs) fun stop =>
    ∀ count, stop = .tooManyDigits count → HasLongRun cs count

namespace Consumes

variable {x : Except Stop (α × List Char)}

theorem ok {a : α} {rest : List Char} (h : rest <:+ cs) :
    Consumes cs (.ok (a, rest)) := h

theorem malformed (cs : List Char) (reason : Reason) (left : List Char) :
    Consumes cs (.error (.malformed reason left) : Except Stop (α × List Char)) :=
  fun _ h => nomatch h

theorem tooDeep (cs : List Char) (container : Container) :
    Consumes cs (.error (.tooDeep container) : Except Stop (α × List Char)) :=
  fun _ h => nomatch h

/-- A reader of a suffix is a reader of the whole. -/
theorem of_suffix (h : Consumes cs x) (hsuffix : cs <:+ ds) : Consumes ds x :=
  h.imp (fun _ _ hrest => hrest.trans hsuffix) fun _ hstop count hcount =>
    (hstop count hcount).mono hsuffix.isInfix

/-- A second reader goes on with what the first one leaves. -/
theorem bind {β : Type} (h : Consumes cs x) {f : α × List Char → Except Stop (β × List Char)}
    (hnext : ∀ a rest, rest <:+ cs → Consumes cs (f (a, rest))) : Consumes cs (x >>= f) :=
  Yields.bind h fun read _ hrest => hnext read.1 read.2 hrest

/-- What is made of the result does not change what is left. -/
theorem map {β : Type} (h : Consumes cs x) (f : α → β) :
    Consumes cs (x >>= fun (a, rest) => pure (f a, rest)) :=
  h.bind fun _ _ hrest => .ok hrest

end Consumes

theorem skipSpace_suffix (cs : List Char) : skipSpace cs <:+ cs :=
  List.dropWhile_suffix _

/-- What follows a given character, behind spaces. -/
theorem suffix_of_skipSpace {c : Char} {rest : List Char} (h : skipSpace cs = c :: rest) :
    rest <:+ cs := by
  have hrest : rest <:+ skipSpace cs := by
    rw [h]
    exact List.suffix_cons c rest
  exact hrest.trans (skipSpace_suffix cs)

/-! ## Strings -/

private theorem hexUnit?_suffix {unit : Nat} {rest : List Char}
    (h : hexUnit? cs = some (unit, rest)) : rest <:+ cs := by
  unfold hexUnit? at h
  split at h
  · next a b c d e behind =>
    simp only [Option.bind_eq_bind, Option.bind_eq_some_iff] at h
    obtain ⟨_, -, _, -, _, -, _, -, h⟩ := h
    cases h
    exact ⟨[a, b, c, d], rfl⟩
  · cases h

private theorem consumes_readUnicode [StandIns] (u cs : List Char) :
    Consumes cs (readUnicode u cs) := by
  unfold readUnicode
  split
  · exact .malformed _ _ _
  · next unit rest hunit =>
    have hrest := hexUnit?_suffix hunit
    split
    · next rest' =>
      split_ifs
      · split
        · exact .malformed _ _ _
        · next second rest'' hsecond =>
          split_ifs
          · exact .ok ((hexUnit?_suffix hsecond).trans
              (((List.suffix_cons _ _).trans (List.suffix_cons _ _)).trans hrest))
          · exact .ok hrest
      · exact .ok hrest
    · exact .ok hrest

private theorem consumes_readString [StandIns] (start : List Char) (fuel : Nat) (cs : List Char) :
    Consumes cs (readString start fuel cs) := by
  fun_induction readString start fuel cs with
  | case1 => exact .malformed _ _ _
  | case2 => exact .malformed _ _ _
  | case3 => exact .ok (List.suffix_cons _ _)
  | case4 => exact .malformed _ _ _
  | case5 fuel cs ih =>
    refine ((consumes_readUnicode _ cs).bind fun c rest hrest => ?_).of_suffix
      ((List.suffix_cons _ _).trans (List.suffix_cons _ _))
    exact ((ih rest).map _).of_suffix hrest
  | case6 fuel e cs _ c _ ih =>
    exact (ih.map _).of_suffix ((List.suffix_cons _ _).trans (List.suffix_cons _ _))
  | case7 => exact .malformed _ _ _
  | case8 => exact .malformed _ _ _
  | case9 fuel c cs _ _ _ _ _ _ ih => exact (ih.map _).of_suffix (List.suffix_cons _ _)

private theorem consumes_readText [StandIns] (fuel : Nat) (cs : List Char) :
    Consumes cs (readText fuel cs) :=
  (consumes_readString ('"' :: cs) fuel cs).map _

/-! ## Numbers -/

/-- The digits of a whole part are a row in front of what follows. -/
private theorem wholeDigits_append (cs : List Char) :
    (wholeDigits cs).1 ++ (wholeDigits cs).2 = cs ∧ AsciiDigits (wholeDigits cs).1 := by
  unfold wholeDigits
  split
  · exact ⟨rfl, by simp [AsciiDigits, isAsciiDigit]⟩
  · exact ⟨List.takeWhile_append_dropWhile, fun c hc => List.mem_takeWhile_imp hc⟩

private theorem fractionPart_suffix (cs : List Char) : (fractionPart cs).2 <:+ cs := by
  unfold fractionPart
  split
  · dsimp only
    split_ifs
    · exact List.suffix_rfl
    · exact (List.dropWhile_suffix _).trans (List.suffix_cons _ _)
  · exact List.suffix_rfl

private theorem exponentPart_suffix (cs : List Char) : (exponentPart cs).2 <:+ cs := by
  unfold exponentPart
  split
  · next mark rest =>
    split_ifs
    · split
      next negative digitsOn hsign =>
      have hsigned : digitsOn <:+ rest := by
        split at hsign
        · cases hsign
          exact List.suffix_cons _ _
        · cases hsign
          exact List.suffix_cons _ _
        · cases hsign
          exact List.suffix_rfl
      have hrest : digitsOn.dropWhile isAsciiDigit <:+ mark :: rest :=
        ((List.dropWhile_suffix _).trans hsigned).trans (List.suffix_cons _ _)
      dsimp only
      split_ifs
      · exact List.suffix_rfl
      · exact hrest
      · exact hrest
    · exact List.suffix_rfl
  · exact List.suffix_rfl

/-- A number is refused for its digits only where its whole part is a long row. -/
private theorem consumes_readNumber? {negative : Bool} {x : Except Stop (Datum × List Char)}
    (h : readNumber? negative cs = some x) : Consumes cs x := by
  obtain ⟨hsplit, hdigits⟩ := wholeDigits_append cs
  have hwhole : (wholeDigits cs).1 <+: cs := ⟨_, hsplit⟩
  have hbehind : (wholeDigits cs).2 <:+ cs := ⟨_, hsplit⟩
  have hrest := ((exponentPart_suffix _).trans (fractionPart_suffix _)).trans hbehind
  unfold readNumber? at h
  dsimp only at h
  split_ifs at h with hempty hint hlong
  · cases h
    rintro count ⟨⟩
    refine ⟨_, hwhole.isInfix, ?_, rfl, hlong⟩
    exact List.all_eq_true.mpr fun c hc => isDigit_of_isAsciiDigit (hdigits c hc)
  · cases h
    exact .ok hrest
  · cases h
    exact .ok hrest

/-! ## Documents -/

private theorem afterWord?_suffix {word : String} {rest : List Char}
    (h : afterWord? word cs = some rest) : rest <:+ cs := by
  unfold afterWord? at h
  split_ifs at h
  cases h
  exact List.drop_suffix _ _

private theorem consumes_readScalar (cs : List Char) : Consumes cs (readScalar cs) := by
  have hnumber (negative : Bool) (ds : List Char) (hsuffix : ds <:+ cs) :
      Consumes cs ((readNumber? negative ds).getD (.error (.malformed .value cs))) := by
    cases hread : readNumber? negative ds with
    | none => exact .malformed _ _ _
    | some x => exact (consumes_readNumber? hread).of_suffix hsuffix
  unfold readScalar
  dsimp only
  split
  · next result hword =>
    obtain ⟨⟨word, value⟩, -, hafter⟩ := List.exists_of_findSome?_eq_some hword
    obtain ⟨rest, hrest, rfl⟩ := Option.map_eq_some_iff.mp hafter
    exact .ok (afterWord?_suffix hrest)
  · split
    · exact hnumber true _ (List.suffix_cons _ _)
    · exact hnumber false _ List.suffix_rfl

/-- The readers of documents with so much fuel. -/
private structure ReadersConsume [StandIns] (fuel : Nat) : Prop where
  value : ∀ depth cs, Consumes cs (readValue fuel depth cs)
  items : ∀ depth cs, Consumes cs (readItems fuel depth cs)
  fields : ∀ depth cs, Consumes cs (readFields fuel depth cs)

private theorem ReadersConsume.value_succ [StandIns] {fuel : Nat} (h : ReadersConsume fuel)
    (depth : Nat) (cs : List Char) : Consumes cs (readValue (fuel + 1) depth cs) := by
  unfold readValue
  split
  · next rest => exact ((consumes_readText fuel rest).map _).of_suffix (List.suffix_cons _ _)
  · exact .tooDeep _ _
  · next rest depth =>
    split
    · next behind hclose =>
      exact .ok ((suffix_of_skipSpace hclose).trans (List.suffix_cons _ _))
    · next behind _ =>
      exact ((h.items depth _).map _).of_suffix
        ((skipSpace_suffix rest).trans (List.suffix_cons _ _))
  · exact .tooDeep _ _
  · next rest depth =>
    split
    · next behind hclose =>
      exact .ok ((suffix_of_skipSpace hclose).trans (List.suffix_cons _ _))
    · next behind _ =>
      exact ((h.fields depth _).map fun pairs => Datum.object (Fields.ofPairs pairs)).of_suffix
        ((skipSpace_suffix rest).trans (List.suffix_cons _ _))
  · exact consumes_readScalar _

private theorem ReadersConsume.items_succ [StandIns] {fuel : Nat} (h : ReadersConsume fuel)
    (depth : Nat) (cs : List Char) : Consumes cs (readItems (fuel + 1) depth cs) := by
  unfold readItems
  refine (h.value depth cs).bind fun item rest hrest => ?_
  dsimp only
  split
  · next behind hclose => exact .ok ((suffix_of_skipSpace hclose).trans hrest)
  · next behind hnext =>
    refine ((h.items depth _).map _).of_suffix ?_
    exact ((skipSpace_suffix behind).trans (suffix_of_skipSpace hnext)).trans hrest
  · exact .malformed _ _ _

private theorem ReadersConsume.fields_succ [StandIns] {fuel : Nat} (h : ReadersConsume fuel)
    (depth : Nat) (cs : List Char) : Consumes cs (readFields (fuel + 1) depth cs) := by
  unfold readFields
  split
  · next rest =>
    refine ((consumes_readText fuel rest).bind fun name rest' hname => ?_).of_suffix
      (List.suffix_cons _ _)
    dsimp only
    split
    · next behind hcolon =>
      have hbehind := ((skipSpace_suffix behind).trans (suffix_of_skipSpace hcolon)).trans hname
      refine ((h.value depth _).bind fun value rest'' hvalue => ?_).of_suffix hbehind
      dsimp only
      split
      · next last hclose => exact .ok ((suffix_of_skipSpace hclose).trans hvalue)
      · next next hnext =>
        refine ((h.fields depth _).map _).of_suffix ?_
        exact ((skipSpace_suffix next).trans (suffix_of_skipSpace hnext)).trans hvalue
      · exact .malformed _ _ _
    · exact .malformed _ _ _
  · exact .malformed _ _ _

/-- Readers keep to what they are given with any fuel. -/
private theorem readersConsume [StandIns] (fuel : Nat) : ReadersConsume fuel := by
  induction fuel with
  | zero =>
    constructor <;> intro depth cs
    · unfold readValue
      exact .malformed _ _ _
    · unfold readItems
      exact .malformed _ _ _
    · unfold readFields
      exact .malformed _ _ _
  | succ fuel ih => exact ⟨ih.value_succ, ih.items_succ, ih.fields_succ⟩

/-- A document is refused for a number of too many digits only where the text has such a row of
digits. -/
theorem hasLongRun_of_parse [StandIns] {text : String} {count : Nat}
    (h : parse text = .error (.tooManyDigits count)) : HasLongRun text.toList count := by
  have hvalue := (readersConsume (2 * text.toList.length + 2)).value depthLimit
    (skipSpace text.toList)
  have hstop : readDocument text.toList = .error (.tooManyDigits count) := by
    unfold parse at h
    dsimp only at h
    split at h <;> cases h
    assumption
  unfold readDocument at hstop
  split_ifs at hstop
  · cases hstop
  · generalize readValue _ _ _ = x at hvalue hstop
    cases x with
    | ok read =>
      -- What is left behind the value is another fault.
      simp only [ok_bind] at hstop
      split at hstop <;> cases hstop
    | error stop =>
      cases hstop
      exact (hvalue count rfl).mono (skipSpace_suffix _).isInfix

end TieredTerms.Json
