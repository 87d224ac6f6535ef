import JavaOutline.Event

namespace JavaOutline

/-!
# Computations with a trace

A traced computation ends with a value or a fault and tells what happened on
the way. Events told before a fault are kept.
-/

/-- The end of a computation and the events up to it. -/
structure Traced (Fault Value : Type) where
  events : List Event
  outcome : Except Fault Value

namespace Traced

variable {Fault Value Result : Type}

/-- End with a value and tell nothing. -/
def done (value : Value) : Traced Fault Value :=
  ⟨[], .ok value⟩

/-- Tell one event. -/
def tell (event : Event) : Traced Fault Unit :=
  ⟨[event], .ok ()⟩

/-- End as an untraced computation does and tell nothing. -/
def ofExcept (outcome : Except Fault Value) : Traced Fault Value :=
  ⟨[], outcome⟩

/-- Go on with the value, unless there is a fault. -/
def andThen
    (first : Traced Fault Value)
    (next : Value → Traced Fault Result) :
    Traced Fault Result :=
  match first.outcome with
  | .ok value => ⟨first.events ++ (next value).events, (next value).outcome⟩
  | .error fault => ⟨first.events, .error fault⟩

instance : Monad (Traced Fault) where
  pure := done
  bind := andThen

instance : MonadExceptOf Fault (Traced Fault) where
  throw fault := ⟨[], .error fault⟩
  tryCatch first handler :=
    match first.outcome with
    | .ok _ => first
    | .error fault => ⟨first.events ++ (handler fault).events, (handler fault).outcome⟩

/-- Express the fault in other terms. -/
def mapFault
    {Other : Type}
    (convert : Fault → Other)
    (computation : Traced Fault Value) :
    Traced Other Value :=
  ⟨computation.events, computation.outcome.mapError convert⟩

theorem pure_eq (value : Value) :
    (pure value : Traced Fault Value) = ⟨[], .ok value⟩ :=
  rfl

theorem ok_bind
    (events : List Event)
    (value : Value)
    (next : Value → Traced Fault Result) :
    (⟨events, .ok value⟩ >>= next) =
      ⟨events ++ (next value).events, (next value).outcome⟩ :=
  rfl

theorem error_bind
    (events : List Event)
    (fault : Fault)
    (next : Value → Traced Fault Result) :
    ((⟨events, .error fault⟩ : Traced Fault Value) >>= next) =
      ⟨events, .error fault⟩ :=
  rfl

/-- Telling nothing changes nothing, and the grouping of steps does not matter. -/
instance : LawfulMonad (Traced Fault) :=
  LawfulMonad.mk' _
    (by
      intro Value computation
      rcases computation with ⟨events, outcome⟩
      cases outcome <;> simp [Functor.map, andThen, done])
    (by
      intro Value Result value next
      simp [pure_eq, ok_bind])
    (by
      intro First Second Third first second third
      rcases first with ⟨events, outcome⟩
      cases outcome with
      | error fault =>
          simp [error_bind]
      | ok value =>
          simp only [ok_bind]
          rcases second value with ⟨laterEvents, laterOutcome⟩
          cases laterOutcome <;> simp [ok_bind, error_bind])

end Traced

end JavaOutline
