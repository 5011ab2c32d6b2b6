import ProxyKeeper.Text.Quoted

/-!
Values described for a log: a name and its fields, in one line.
-/

namespace ProxyKeeper.Text

/-- `Name { field: value, field: value }`. -/
def describe (name : String) (fields : List (String × String)) : String :=
  name ++ " \x7b " ++ ", ".intercalate (fields.map fun (field, value) => field ++ ": " ++ value)
    ++ " \x7d"

end ProxyKeeper.Text
