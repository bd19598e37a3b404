/-!
# Record texts

Diagnostic texts show a record as its name and its fields in a fixed order, and
an optional value as `None` or `Some(…)`.
-/

namespace StreamControl.Text

def record (name : String) (fields : List (String × String)) : String :=
  name ++ " \x7b " ++ ", ".intercalate (fields.map fun f => f.1 ++ ": " ++ f.2) ++ " \x7d"

def applied (name argument : String) : String := name ++ "(" ++ argument ++ ")"

def option {α : Type} (render : α → String) : Option α → String
  | none => "None"
  | some a => applied "Some" (render a)

def bool : Bool → String
  | true => "true"
  | false => "false"

end StreamControl.Text
