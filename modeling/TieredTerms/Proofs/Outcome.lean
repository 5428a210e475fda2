/-!
# Outcomes of steps that may fail

Equations that take a sequence of steps apart, each of which gives a result or a fault.

* `ok_bind` and `error_bind` are one step forward.
* `bind_eq_ok` is the way back: a sequence succeeds where each step does.
* `map_bind_congr` compares two sequences of which only a part of the results counts.
* `Yields` says of which sort the result of a step is and of which sort its fault; `Yields.bind`
  carries this through a sequence.
-/

namespace TieredTerms

variable {ε α β γ δ : Type}

@[simp] theorem ok_bind (a : α) (f : α → Except ε β) : (Except.ok a >>= f) = f a := rfl

@[simp] theorem error_bind (e : ε) (f : α → Except ε β) :
    ((Except.error e : Except ε α) >>= f) = .error e := rfl

@[simp] theorem ok_map (f : α → β) (a : α) : f <$> (Except.ok a : Except ε α) = .ok (f a) := rfl

@[simp] theorem error_map (f : α → β) (e : ε) :
    f <$> (Except.error e : Except ε α) = .error e := rfl

@[simp] theorem pure_eq_ok (a : α) : (pure a : Except ε α) = .ok a := rfl

@[simp] theorem throw_eq_error (e : ε) : (throw e : Except ε α) = .error e := rfl

theorem bind_eq_ok {x : Except ε α} {f : α → Except ε β} {b : β} :
    (x >>= f) = .ok b ↔ ∃ a, x = .ok a ∧ f a = .ok b := by
  cases x with
  | ok a => simp
  | error e => simp

theorem map_eq_ok {x : Except ε α} {f : α → β} {b : β} :
    f <$> x = .ok b ↔ ∃ a, x = .ok a ∧ f a = b := by
  cases x with
  | ok a => simp
  | error e => simp

theorem map_eq_error {x : Except ε α} {f : α → β} {e : ε} : f <$> x = .error e ↔ x = .error e := by
  cases x with
  | ok a => simp
  | error e' => simp

/-- A step whose fault is told in other words gives what it did. -/
theorem mapError_eq_ok {x : Except ε α} {f : ε → γ} {a : α} :
    x.mapError f = .ok a ↔ x = .ok a := by
  cases x with
  | ok b => exact ⟨fun h => congrArg _ (Except.ok.inj h), fun h => congrArg _ (Except.ok.inj h)⟩
  | error e => exact ⟨nofun, nofun⟩

/-- A step whose result passes a test gives one that does. -/
theorem exists_ok_of_any {x : Except ε α} {p : α → Bool} (h : x.toOption.any p = true) :
    ∃ a, x = .ok a ∧ p a = true := by
  cases x with
  | ok a => exact ⟨a, rfl, h⟩
  | error e => cases h

/-- Steps that agree on a part of what they give make sequences that agree, if what follows them
depends on that part only. -/
theorem map_bind_congr {x y : Except ε α} {part : α → γ} (h : part <$> x = part <$> y)
    {next next' : α → Except ε β} {part' : β → δ}
    (hnext : ∀ a b, part a = part b → part' <$> next a = part' <$> next' b) :
    part' <$> (x >>= next) = part' <$> (y >>= next') := by
  cases x with
  | error e =>
    cases y with
    | error e' =>
      cases h
      rfl
    | ok b => cases h
  | ok a =>
    cases y with
    | error e => cases h
    | ok b => exact hnext a b (Except.ok.inj h)

/-! ## Sorts of results and faults -/

/-- A step gives a result of one sort or fails with a fault of another. -/
def Yields (P : α → Prop) (E : ε → Prop) : Except ε α → Prop
  | .ok a => P a
  | .error e => E e

namespace Yields

variable {P P' : α → Prop} {Q : β → Prop} {E E' : ε → Prop} {x : Except ε α}

theorem imp (h : Yields P E x) (hresult : ∀ a, x = .ok a → P a → P' a) (hfault : ∀ e, E e → E' e) :
    Yields P' E' x := by
  cases x with
  | ok a => exact hresult a rfl h
  | error e => exact hfault e h

theorem imp_fault (h : Yields P E x) (hfault : ∀ e, E e → E' e) : Yields P E' x :=
  h.imp (fun _ _ hresult => hresult) hfault

/-- A sequence fails as its first step does or as the second. -/
theorem bind (h : Yields P E x) {f : α → Except ε β}
    (hnext : ∀ a, x = .ok a → P a → Yields Q E (f a)) : Yields Q E (x >>= f) := by
  cases x with
  | ok a => exact hnext a rfl h
  | error e => exact h

end Yields

end TieredTerms
