import PolarPortal.Schema

/-!
# `MeterForm`

The fields of the form that creates a meter, with the validation rules the form hands to its
form library: the name, the filters, the aggregation function, and the property the function
aggregates over.  The property field is rendered, and so validated, only when the chosen function
is not `count`, which counts events and has no property.  The filter input and the rules'
evaluation belong to collaborators outside this slice.
-/

namespace PolarPortal

/-- The aggregation functions: the keys of `AGGREGATION_FUNCTION_DISPLAY_NAMES`. -/
inductive AggregationFunc
  | count
  | sum
  | avg
  | min
  | max
  deriving DecidableEq, Repr

/-- The display names of `AGGREGATION_FUNCTION_DISPLAY_NAMES`. -/
def AggregationFunc.displayName : AggregationFunc → String
  | count => "Count"
  | sum => "Sum"
  | avg => "Average"
  | min => "Minimum"
  | max => "Maximum"

/-- The options of the aggregation select: the table's entries, in the object's order. -/
def aggregationOptions : List (AggregationFunc × String) :=
  [.count, .sum, .avg, .min, .max].map fun func => (func, func.displayName)

/-- The `rules` of a form field: the message of `required`, and `minLength` with its message. -/
structure FieldRules where
  required : Option String
  minLength : Option (Nat × String)
  deriving DecidableEq, Repr

/-- The fields `MeterForm` registers, with their rules, when the watched aggregation function
is `aggregationFunction` (`none` before one is chosen). -/
def meterFormFields (aggregationFunction : Option AggregationFunc) : List (String × FieldRules) :=
  [("name", ⟨some "This field is required",
      some (3, "This field must be at least 3 characters long")⟩),
    ("aggregation.func", ⟨some "This field is required", none⟩)] ++
  if aggregationFunction ≠ some .count then
    [("aggregation.property", ⟨some "This field is required", none⟩)]
  else []

end PolarPortal
