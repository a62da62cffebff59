/-
What can go wrong, as values with one place for their wording. `Invalid` is a value refused
before any request is made; `Failure` is the outcome of an operation that did not succeed.
-/
namespace Fleet

/-- Why a value was refused. -/
inductive Invalid where
  /-- One named field has an unacceptable value. -/
  | field (name text : String)
  /-- A text does not have the form it must have. -/
  | format (text : String)
  /-- The value is well formed and not allowed. -/
  | constraint (text : String)
deriving DecidableEq, Repr

/-- The words for a refusal. -/
def Invalid.message : Invalid → String
  | field name text => s!"Field '{name}' validation failed: {text}"
  | format text => s!"Format error: {text}"
  | constraint text => s!"Domain constraint violation: {text}"

/-- Why an operation did not succeed. -/
inductive Failure where
  /-- No reply arrived. -/
  | connection (text : String)
  /-- The backend refused the request. -/
  | api (status : UInt16) (text : String)
  /-- The backend refused the credentials. -/
  | authentication (text : String)
  /-- The backend accepted the request and its answer cannot be used. -/
  | payload (text : String)
  /-- The request was never made. -/
  | invalid (reason : Invalid)
  /-- The settings could not be read. -/
  | settings (text : String)
deriving DecidableEq, Repr

/-- The words for a failure. -/
def Failure.message : Failure → String
  | connection text => s!"Connection error: {text}"
  | api status text => s!"API error ({status}): {text}"
  | authentication text => s!"Authentication error: {text}"
  | payload text => s!"Payload error: {text}"
  | invalid reason => s!"Validation error: {reason.message}"
  | settings text => s!"Configuration error: {text}"

/-! ## Lemmas -/

/-- Two steps succeed if the second does on what the first gives. -/
theorem bind_eq_ok_iff {ε α β : Type} {first : Except ε α} {next : α → Except ε β} {value : β} :
    first >>= next = .ok value ↔ ∃ given, first = .ok given ∧ next given = .ok value := by
  cases first with
  | ok given => exact ⟨fun h => ⟨given, rfl, h⟩, fun ⟨_, rfl, h⟩ => h⟩
  | error fault =>
    constructor
    · rintro ⟨⟩
    · rintro ⟨_, ⟨⟩, -⟩

/-- Two steps fail if the first does, or the second does on what the first gives. -/
theorem bind_eq_error_iff {ε α β : Type} {first : Except ε α} {next : α → Except ε β} {fault : ε} :
    first >>= next = .error fault ↔
      first = .error fault ∨ ∃ given, first = .ok given ∧ next given = .error fault := by
  cases first with
  | ok given => simp [bind, Except.bind]
  | error other => simp [bind, Except.bind]

/-- A refusal under a condition lets pass what does not meet the condition. -/
theorem refuse_eq_ok_iff {ε α : Type} {condition : Prop} [Decidable condition] {fault : ε}
    {next : Unit → Except ε α} {value : α} :
    (if condition then throw fault >>= next else next ()) = .ok value ↔
      ¬ condition ∧ next () = .ok value := by
  split
  · rename_i met
    constructor
    · rintro ⟨⟩
    · rintro ⟨unmet, -⟩
      exact absurd met unmet
  · rename_i unmet
    exact ⟨fun h => ⟨unmet, h⟩, fun h => h.2⟩

/-- A step for each item succeeds if each of them does. -/
theorem forM_eq_ok_iff {ε α : Type} {step : α → Except ε Unit} {items : List α} :
    items.forM step = .ok () ↔ ∀ item ∈ items, step item = .ok () := by
  induction items with
  | nil => simp [List.forM, pure, Except.pure]
  | cons item items ih =>
    have one : (item :: items).forM step = (step item >>= fun _ => items.forM step) := rfl
    rw [one, bind_eq_ok_iff, List.forall_mem_cons, ← ih]
    exact ⟨fun ⟨_, first, rest⟩ => ⟨first, rest⟩, fun ⟨first, rest⟩ => ⟨(), first, rest⟩⟩

theorem toOption_eq_some_iff {ε α : Type} {result : Except ε α} {value : α} :
    result.toOption = some value ↔ result = .ok value := by
  cases result <;> simp [Except.toOption]

/-- Another error in the place of an error makes no success. -/
theorem ok_of_mapError {ε ε' α : Type} {f : ε → ε'} {result : Except ε α} {value : α}
    (h : result.mapError f = .ok value) : result = .ok value := by
  cases result with
  | ok other =>
    cases h
    rfl
  | error fault => cases h

end Fleet
