import StorageDispatch.Text.Invisible

set_option autoImplicit false

/-! # Text of values for logs and diagnostics

`quoted s` writes a string between double quotes, `record name fields` writes a structure as
`Name { field: value, field: value }`, and `list` writes items between square brackets.
-/

namespace StorageDispatch.Text

/-- The lower-case hexadecimal digits of a number, without leading zeros. -/
def hexDigits (n : Nat) : String := String.ofList (Nat.toDigits 16 n)

/-- How one character stands inside quotes. Quote and backslash are escaped by a backslash, the
usual control characters by their letter, and every other character that does not show by its code
point. -/
def escapeChar (c : Char) : String :=
  match c with
  | '"' => "\\\""
  | '\\' => "\\\\"
  | '\n' => "\\n"
  | '\t' => "\\t"
  | '\r' => "\\r"
  | '\x00' => "\\0"
  | _ => if isInvisible c then "\\u\x7b" ++ hexDigits c.toNat ++ "\x7d" else c.toString

def quoted (s : String) : String := "\"" ++ String.join (s.toList.map escapeChar) ++ "\""

/-- An optional value: `None`, or `Some(..)` around the text of the value. -/
def optional {α : Type} (render : α → String) : Option α → String
  | none => "None"
  | some a => "Some(" ++ render a ++ ")"

def list (items : List String) : String := "[" ++ ", ".intercalate items ++ "]"

def record (name : String) (fields : List (String × String)) : String :=
  name ++ " \x7b " ++ ", ".intercalate (fields.map fun f => f.1 ++ ": " ++ f.2) ++ " \x7d"

end StorageDispatch.Text
