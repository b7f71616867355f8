/-!
# Lists and records in text

The shapes in which structured values are written on one line.
-/

namespace MatrixFree.Text

/-- Texts between a pair of delimiters, separated by a comma and a space. -/
def listing (opening closing : String) (items : List String) : String :=
  opening ++ ", ".intercalate items ++ closing

/-- `(a, b, c)`. -/
def tuple (items : List String) : String := listing "(" ")" items

/-- `[a, b, c]`. -/
def bracketed (items : List String) : String := listing "[" "]" items

/-- `key: value`. -/
def keyed (key value : String) : String := key ++ ": " ++ value

/-- `Name { key: value, … }`, with a blank inside each brace. -/
def record (name : String) (entries : List (String × String)) : String :=
  name ++ listing " \x7b " " \x7d" (entries.map fun (key, value) => keyed key value)

/-- A record that shows only some of its entries. -/
def partialRecord (name : String) (entries : List (String × String)) : String :=
  name ++ listing " \x7b " " \x7d" (entries.map (fun (key, value) => keyed key value) ++ [".."])

/-- `None` or `Some(a)`. -/
def optional : Option String → String
  | none => "None"
  | some s => "Some(" ++ s ++ ")"

/-- `Name(a)`. -/
def applied (name argument : String) : String := name ++ "(" ++ argument ++ ")"

/-- A text moved to the right end of `width` characters. -/
def padLeft (width : Nat) (s : String) : String :=
  String.ofList (List.replicate (width - s.length) ' ') ++ s

end MatrixFree.Text
