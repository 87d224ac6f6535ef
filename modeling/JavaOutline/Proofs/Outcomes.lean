import JavaOutline.Traced

namespace JavaOutline

/-!
# How computations end

A traced computation ends with a value or with a fault. Statements about one
run look at the fault alone; statements about two runs say that they end
alike, with the same fault or with values that are related.
-/

namespace Traced

variable {Fault Value Result : Type}

/-- How two computations in a row end does not depend on what they tell. -/
@[simp] theorem outcome_bind
    (first : Traced Fault Value)
    (next : Value → Traced Fault Result) :
    (first >>= next).outcome =
      first.outcome >>= fun value => (next value).outcome := by
  rcases first with ⟨events, outcome⟩
  cases outcome with
  | ok value =>
      rfl
  | error fault =>
      rfl

@[simp] theorem outcome_pure (value : Value) :
    (pure value : Traced Fault Value).outcome = .ok value :=
  rfl

@[simp] theorem outcome_tell (event : Event) :
    (tell event : Traced Fault Unit).outcome = .ok () :=
  rfl

@[simp] theorem outcome_ofExcept (outcome : Except Fault Value) :
    (ofExcept outcome).outcome = outcome :=
  rfl

end Traced

section Faults

variable {Fault Value Result : Type}

/-- The fault that a computation ends with, if it does. -/
def faultOf? : Except Fault Value → Option Fault
  | .ok _ => none
  | .error fault => some fault

@[simp] theorem faultOf?_ok (value : Value) :
    faultOf? (.ok value : Except Fault Value) = none :=
  rfl

@[simp] theorem faultOf?_map
    (convert : Value → Result)
    (outcome : Except Fault Value) :
    faultOf? (outcome.map convert) = faultOf? outcome := by
  cases outcome <;> rfl

/-- A later step can only fail if the earlier one has not. -/
theorem faultOf?_bind
    {first : Except Fault Value}
    {next : Value → Except Fault Result}
    {later : Option Fault}
    (same : ∀ value, faultOf? (next value) = later) :
    faultOf? (first >>= next) = (faultOf? first).or later := by
  cases first with
  | ok value =>
      exact same value
  | error fault =>
      rfl

/-- A last step that cannot fail leaves the fault as it is. -/
theorem faultOf?_bind_ok
    {first : Except Fault Value}
    {next : Value → Except Fault Result}
    (same : ∀ value, faultOf? (next value) = none) :
    faultOf? (first >>= next) = faultOf? first := by
  rw [faultOf?_bind same, Option.or_none]

theorem faultOf?_eq_some_iff
    {outcome : Except Fault Value}
    {fault : Fault} :
    faultOf? outcome = some fault ↔ outcome = .error fault := by
  cases outcome <;> simp [faultOf?]

end Faults

section Values

variable {Fault Value Result : Type}

/-- Two computations in a row end with a value exactly if both do. -/
theorem bind_eq_ok_iff
    {first : Except Fault Value}
    {next : Value → Except Fault Result}
    {result : Result} :
    first >>= next = .ok result ↔
      ∃ value, first = .ok value ∧ next value = .ok result := by
  cases first with
  | ok value =>
      constructor
      · intro ended
        exact ⟨value, rfl, ended⟩
      · rintro ⟨other, same, ended⟩
        cases same
        exact ended
  | error fault =>
      constructor
      · intro ended
        cases ended
      · rintro ⟨other, same, -⟩
        cases same

theorem map_eq_ok_iff
    {convert : Value → Result}
    {outcome : Except Fault Value}
    {result : Result} :
    outcome.map convert = .ok result ↔
      ∃ value, outcome = .ok value ∧ convert value = result := by
  cases outcome <;> simp [Except.map]

end Values

section Runs

variable {Fault Value First Second FirstResult SecondResult : Type}

/-- Two computations end with the same fault, or with values that are related. -/
inductive EndAlike
    (related : First → Second → Prop) :
    Except Fault First → Except Fault Second → Prop where
  | failed (fault : Fault) :
      EndAlike related (.error fault) (.error fault)
  | ended
      {first : First}
      {second : Second}
      (values : related first second) :
      EndAlike related (.ok first) (.ok second)

namespace EndAlike

variable {related : First → Second → Prop} {results : FirstResult → SecondResult → Prop}

/-- Computations that go on from the same end do so with the same value. -/
theorem bind_same
    {outcome : Except Fault Value}
    {first : Value → Except Fault FirstResult}
    {second : Value → Except Fault SecondResult}
    (next : ∀ value,
      outcome = .ok value → EndAlike results (first value) (second value)) :
    EndAlike results (outcome >>= first) (outcome >>= second) := by
  cases outcome with
  | error fault =>
      exact .failed fault
  | ok value =>
      exact next value rfl

/-- Computations that end alike go on alike, if they do from related values. -/
theorem bind
    {firstOutcome : Except Fault First}
    {secondOutcome : Except Fault Second}
    {first : First → Except Fault FirstResult}
    {second : Second → Except Fault SecondResult}
    (alike : EndAlike related firstOutcome secondOutcome)
    (next : ∀ {firstValue secondValue},
      related firstValue secondValue →
      EndAlike results (first firstValue) (second secondValue)) :
    EndAlike results (firstOutcome >>= first) (secondOutcome >>= second) := by
  cases alike with
  | failed fault =>
      exact .failed fault
  | ended values =>
      exact next values

end EndAlike

/-- Two computations end with related faults, or with values that are related. -/
inductive EndRelated
    (faults : Fault → Fault → Prop)
    (related : First → Second → Prop) :
    Except Fault First → Except Fault Second → Prop where
  | failed
      {first second : Fault}
      (alike : faults first second) :
      EndRelated faults related (.error first) (.error second)
  | ended
      {first : First}
      {second : Second}
      (values : related first second) :
      EndRelated faults related (.ok first) (.ok second)

namespace EndRelated

variable {faults otherFaults : Fault → Fault → Prop}
variable {related : First → Second → Prop} {results : FirstResult → SecondResult → Prop}
variable {firstOutcome : Except Fault First} {secondOutcome : Except Fault Second}

theorem bind
    {first : First → Except Fault FirstResult}
    {second : Second → Except Fault SecondResult}
    (alike : EndRelated faults related firstOutcome secondOutcome)
    (next : ∀ {firstValue secondValue},
      related firstValue secondValue →
      EndRelated faults results (first firstValue) (second secondValue)) :
    EndRelated faults results (firstOutcome >>= first) (secondOutcome >>= second) := by
  cases alike with
  | failed alike =>
      exact .failed alike
  | ended values =>
      exact next values

theorem map
    {first : First → FirstResult}
    {second : Second → SecondResult}
    (alike : EndRelated faults related firstOutcome secondOutcome)
    (next : ∀ {firstValue secondValue},
      related firstValue secondValue → results (first firstValue) (second secondValue)) :
    EndRelated faults results (firstOutcome.map first) (secondOutcome.map second) := by
  cases alike with
  | failed alike =>
      exact .failed alike
  | ended values =>
      exact .ended (next values)

theorem imp
    {others : First → Second → Prop}
    (alike : EndRelated faults related firstOutcome secondOutcome)
    (onFaults : ∀ {first second}, faults first second → otherFaults first second)
    (onValues : ∀ {first second}, related first second → others first second) :
    EndRelated otherFaults others firstOutcome secondOutcome := by
  cases alike with
  | failed alike =>
      exact .failed (onFaults alike)
  | ended values =>
      exact .ended (onValues values)

/-- Computations that end with equal faults or equal values end in the same way. -/
theorem eq
    {firstOutcome secondOutcome : Except Fault Value}
    (alike : EndRelated Eq Eq firstOutcome secondOutcome) :
    firstOutcome = secondOutcome := by
  cases alike with
  | failed alike =>
      exact congrArg Except.error alike
  | ended values =>
      exact congrArg Except.ok values

end EndRelated

end Runs

end JavaOutline
