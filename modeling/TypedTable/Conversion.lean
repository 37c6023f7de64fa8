import TypedTable.Error
/-!
# Conversion and validation

`SqlType.convert` brings a value to a type and names the value and the type if that fails;
`SqlType.validate` also checks what a column with this type and name asks for, and tells a number
that is out of range from a value that has no form in the type. Both give the same values, apart
from null (`validate_of_not_null`).
-/

namespace TypedTable.SqlType

/-- The value in the form that the type stores. -/
def convert (t : SqlType) (v : Value) : Except Error Value :=
  (t.coerce v).mapError fun _ => .conversion v t

/-- The value in the form that the type stores, if the column takes it. -/
def validate (t : SqlType) (column : String) (notNull : Bool) (v : Value) :
    Except Violation Value :=
  if v.isNull then
    if notNull then .error (.notNull column) else .ok .null
  else
    (t.coerce v).mapError fun
      | .outOfRange number => .outOfRange column t number
      | .unsupported => .invalidType column t v

/-- A value other than null is taken exactly if it can be converted. -/
theorem validate_of_not_null {t : SqlType} {column : String} {notNull : Bool} {v w : Value}
    (hv : v.isNull = false) : t.validate column notNull v = .ok w ↔ t.convert v = .ok w := by
  unfold validate convert
  rw [if_neg (by simp [hv])]
  cases t.coerce v with
  | error r => exact ⟨fun h => (nomatch h), fun h => (nomatch h)⟩
  | ok u =>
    show (Except.ok u : Except Violation Value) = .ok w ↔ (Except.ok u : Except Error Value) = .ok w
    simp only [Except.ok.injEq]

end TypedTable.SqlType
