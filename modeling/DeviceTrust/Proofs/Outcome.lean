import DeviceTrust.Platform

/-!
# Outcomes

Facts about sequences of operations that hold whatever the operations are. A sequence gives a value
exactly when each of its steps gives one, and fails with the error of the first step that fails
(`errorOf_bind`); log records have no part in it (`Traced.result_bind`). Which errors a sequence can
end in follows from the errors of its steps (`FailsOnly.bind`), that two sequences agree from the
agreement of their steps (`Agree.bind`), and that one keeps what the other gives from the same of
their steps (`Traced.KeptBy.bind`).
-/

set_option autoImplicit false

namespace DeviceTrust

/-! ## Sequences of operations without records -/

theorem bind_eq_ok {ε α β : Type} {x : Except ε α} {f : α → Except ε β} {b : β} :
    x >>= f = .ok b ↔ ∃ a, x = .ok a ∧ f a = .ok b := by
  constructor
  · intro h
    cases x with
    | error e => cases h
    | ok a => exact ⟨a, rfl, h⟩
  · rintro ⟨a, rfl, hf⟩
    exact hf

theorem mapError_eq_ok {ε ε' α : Type} {f : ε → ε'} {x : Except ε α} {a : α} :
    x.mapError f = .ok a ↔ x = .ok a := by
  cases x with
  | error e =>
      constructor
      · intro h
        cases h
      · intro h
        cases h
  | ok b =>
      constructor
      · intro h
        exact congrArg Except.ok (Except.ok.inj h)
      · intro h
        exact congrArg Except.ok (Except.ok.inj h)

theorem mapError_eq_error {ε ε' α : Type} {f : ε → ε'} {x : Except ε α} {e' : ε'} :
    x.mapError f = .error e' ↔ ∃ e, x = .error e ∧ f e = e' := by
  cases x with
  | error e =>
      constructor
      · intro h
        exact ⟨e, rfl, Except.error.inj h⟩
      · rintro ⟨_, ⟨⟩, rfl⟩
        rfl
  | ok a =>
      constructor
      · intro h
        cases h
      · rintro ⟨_, ⟨⟩, _⟩

def errorOf {α : Type} : Except Error α → Option Error
  | .ok _ => none
  | .error e => some e

theorem errorOf_eq_some_iff {α : Type} {x : Except Error α} {e : Error} :
    errorOf x = some e ↔ x = .error e := by
  cases x <;> simp [errorOf]

/-- **The error of a sequence** is that of its first step, or else that of the steps that follow a
value of the first. -/
theorem errorOf_bind {α β : Type} {x : Except Error α} {f : α → Except Error β}
    {first rest : Option Error} (hx : errorOf x = first)
    (hf : ∀ a, x = .ok a → errorOf (f a) = rest) : errorOf (x >>= f) = first.or rest := by
  subst hx
  cases x with
  | error e => rfl
  | ok a => exact hf a rfl

/-! ## The result of a sequence with records -/

namespace Traced

variable {α β : Type}

@[simp] theorem result_lift (x : Except Error α) : (liftM x : Traced α).result = x := rfl

@[simp] theorem result_mapError (f : Error → Error) (x : Traced α) :
    (x.mapError f).result = x.result.mapError f := rfl

/-- **Records have no part in results**: the result of a sequence is that of the sequence of
results. -/
@[simp] theorem result_bind (x : Traced α) (f : α → Traced β) :
    (x >>= f).result = x.result >>= fun a => (f a).result := by
  show (x.andThen f).result = _
  unfold andThen
  cases x.result <;> rfl

/-- Two sequences with the same first step are the same if they go on in the same way after any
value that this step gives. -/
theorem bind_congr {x : Traced α} {f g : α → Traced β} (h : ∀ a, x.result = .ok a → f a = g a) :
    x >>= f = x >>= g := by
  show x.andThen f = x.andThen g
  unfold andThen
  split
  · rfl
  · rename_i a ha
    rw [h a ha]

/-- **An outcome is kept by another one**: if it has a result, the other is the same, records
included. Where it is an error, the other can be anything. -/
def KeptBy (x y : Traced α) : Prop := ∀ a, x.result = .ok a → y = x

namespace KeptBy

theorem refl (x : Traced α) : x.KeptBy x := fun _ _ => rfl

theorem lift {x y : Except Error α} (h : ∀ a, x = .ok a → y = .ok a) :
    KeptBy (liftM x) (liftM y) := by
  intro a (ha : x = .ok a)
  rw [h a ha, ha]

theorem bind {x y : Traced α} {f g : α → Traced β} (hx : x.KeptBy y)
    (hf : ∀ a, x.result = .ok a → (f a).KeptBy (g a)) : (x >>= f).KeptBy (y >>= g) := by
  intro b hb
  rw [result_bind] at hb
  obtain ⟨a, ha, hb⟩ := bind_eq_ok.1 hb
  rw [hx a ha]
  refine bind_congr fun a' ha' => ?_
  cases ha.symm.trans ha'
  exact hf a ha b hb

theorem mapError {x y : Traced α} (h : x.KeptBy y) (f : Error → Error) :
    (x.mapError f).KeptBy (y.mapError f) := by
  intro a ha
  rw [h a (mapError_eq_ok.1 ha)]

end KeptBy

end Traced

/-! ## Errors that an outcome can be -/

/-- An outcome whose error, if it is one, has a property. -/
def FailsOnly {ε α : Type} (P : ε → Prop) (x : Except ε α) : Prop :=
  ∀ e, x = .error e → P e

namespace FailsOnly

variable {ε α β : Type} {P Q : ε → Prop}

theorem ok (a : α) : FailsOnly P (.ok a) := by
  intro e h
  cases h

theorem error {e : ε} (h : P e) : FailsOnly P (.error e : Except ε α) := by
  intro e' he
  cases he
  exact h

theorem mono {x : Except ε α} (h : FailsOnly P x) (hPQ : ∀ e, P e → Q e) : FailsOnly Q x :=
  fun e he => hPQ e (h e he)

/-- A sequence fails as its first step does, or as its second does after a value of the first. -/
theorem bind {x : Except ε α} {f : α → Except ε β} (hx : FailsOnly P x)
    (hf : ∀ a, x = .ok a → FailsOnly P (f a)) : FailsOnly P (x >>= f) := by
  intro e h
  cases x with
  | error e' => cases h; exact hx _ rfl
  | ok a => exact hf a rfl e h

theorem map {x : Except ε α} (hx : FailsOnly P x) (f : α → β) : FailsOnly P (x.map f) := by
  intro e h
  cases x with
  | error e' => cases h; exact hx _ rfl
  | ok a => cases h

theorem mapM {f : α → Except ε β} (hf : ∀ a, FailsOnly P (f a)) (l : List α) :
    FailsOnly P (l.mapM f) := by
  induction l with
  | nil => exact .ok []
  | cons a l ih =>
      rw [List.mapM_cons]
      exact (hf a).bind fun _ _ => ih.bind fun _ _ => .ok _

theorem ok_or_error {x : Except ε α} (h : FailsOnly P x) :
    (∃ a, x = .ok a) ∨ ∃ e, x = .error e ∧ P e := by
  cases x with
  | ok a => exact .inl ⟨a, rfl⟩
  | error e => exact .inr ⟨e, rfl, h e rfl⟩

end FailsOnly

/-! ## Outcomes that agree -/

/-- **Two outcomes that agree** up to a relation of values: both are values that are related, or both
are errors. -/
inductive Agree {α β : Type} (R : α → β → Prop) : Except Error α → Except Error β → Prop
  | ok {a : α} {b : β} (h : R a b) : Agree R (.ok a) (.ok b)
  | error (e e' : Error) : Agree R (.error e) (.error e')

namespace Agree

variable {α β γ δ : Type} {R : α → β → Prop} {S : γ → δ → Prop}

theorem refl {T : α → α → Prop} (hT : ∀ a, T a a) (x : Except Error α) : Agree T x x := by
  cases x with
  | error e => exact .error e e
  | ok a => exact .ok (hT a)

theorem bind {x : Except Error α} {y : Except Error β} (h : Agree R x y) {f : α → Except Error γ}
    {g : β → Except Error δ} (hfg : ∀ a b, R a b → Agree S (f a) (g b)) :
    Agree S (x >>= f) (y >>= g) := by
  cases h with
  | ok h => exact hfg _ _ h
  | error e e' => exact .error e e'

theorem mapError_left {x : Except Error α} {y : Except Error β} (h : Agree R x y)
    (f : Error → Error) : Agree R (x.mapError f) y := by
  cases h with
  | ok h => exact .ok h
  | error e e' => exact .error (f e) e'

theorem mapError_right {x : Except Error α} {y : Except Error β} (h : Agree R x y)
    (f : Error → Error) : Agree R x (y.mapError f) := by
  cases h with
  | ok h => exact .ok h
  | error e e' => exact .error e (f e')

theorem ok_iff {x y : Except Error α} (h : Agree Eq x y) (a : α) : x = .ok a ↔ y = .ok a := by
  cases h with
  | ok h => rw [h]
  | error e e' =>
      constructor
      · intro h
        cases h
      · intro h
        cases h

theorem error_iff {x : Except Error α} {y : Except Error β} (h : Agree R x y) :
    (∃ e, x = .error e) ↔ ∃ e, y = .error e := by
  cases h with
  | ok h =>
      constructor
      · rintro ⟨_, ⟨⟩⟩
      · rintro ⟨_, ⟨⟩⟩
  | error e e' => exact ⟨fun _ => ⟨e', rfl⟩, fun _ => ⟨e, rfl⟩⟩

end Agree

/-! ## Errors of the library -/

/-- An error of the library itself, not a fault passed on. -/
abbrev IsReported (e : Error) : Prop := e.isReported = true

def IsDeserialization (e : Error) : Prop := e.reason? = some .deserialization

def IsVerificationFailure (e : Error) : Prop := e.reason? = some .verificationFailure

theorem Error.isReported_of_reason? {e : Error} {r : Reason} (h : e.reason? = some r) :
    e.isReported = true := by
  obtain ⟨report, hr, -⟩ := Option.map_eq_some_iff.1 h
  simp [Error.isReported, hr]

end DeviceTrust
