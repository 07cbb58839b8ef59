/-!
# Structural text

Values are shown to a reader in a structural form: a record with named fields, a tuple, a list, or a
plain word. A form is a tree, and it has two renderings of one content: on one line (`Form.plain`), and
spread over lines with four blanks of indent a level and a comma after every item (`Form.pretty`).
-/

namespace ElasticBuffer.Text

/-- The bracket pairs around the items of a group. -/
inductive Bracket where
  /-- Around the fields of a record. -/
  | brace
  /-- Around the components of a tuple. -/
  | round
  /-- Around the items of a list. -/
  | square
deriving DecidableEq, Repr

namespace Bracket

/-- What opens the group; a record's brace stands apart from its name. -/
def opening : Bracket → String
  | brace => " \x7b"
  | round => "("
  | square => "["

/-- What closes the group. -/
def closing : Bracket → String
  | brace => "\x7d"
  | round => ")"
  | square => "]"

/-- What stands between a bracket and the items on the same line. -/
def gap : Bracket → String
  | brace => " "
  | round => ""
  | square => ""

end Bracket

/-- The structural form of a value. -/
inductive Form where
  /-- A word shown as it is. -/
  | atom (text : String)
  /-- A form behind its label, as a record shows its fields. -/
  | labelled (label : String) (value : Form)
  /-- A bracketed sequence behind a name; a list has the empty name. -/
  | group (name : String) (bracket : Bracket) (items : List Form)

namespace Form

/-! ### Building forms -/

/-- A number in base ten. -/
def number (n : Nat) : Form := atom (toString n)

/-- A record with its fields in order. -/
def record (name : String) (fields : List (String × Form)) : Form :=
  group name .brace (fields.map fun field => labelled field.1 field.2)

/-- A named tuple. -/
def tuple (name : String) (components : List Form) : Form := group name .round components

/-- A list of forms. -/
def list (items : List Form) : Form := group "" .square items

/-! ### Rendering on one line -/

mutual

/-- The form on one line. -/
def plain : Form → String
  | atom text => text
  | labelled label value => label ++ ": " ++ plain value
  | group name bracket items =>
    name ++ bracket.opening ++ bracket.gap ++ String.intercalate ", " (plainItems items)
      ++ bracket.gap ++ bracket.closing

/-- The items of a group, each on one line. -/
def plainItems : List Form → List String
  | [] => []
  | item :: rest => plain item :: plainItems rest

end

/-! ### Rendering over lines -/

/-- The blanks in front of a line at a given depth. -/
def indent (depth : Nat) : String := "".pushn ' ' (4 * depth)

mutual

/-- The form spread over lines, its first line at the given depth. An empty group stays on one line. -/
def prettyAt (depth : Nat) : Form → String
  | atom text => text
  | labelled label value => label ++ ": " ++ prettyAt depth value
  | group name bracket [] => name ++ bracket.opening ++ bracket.closing
  | group name bracket (item :: rest) =>
    name ++ bracket.opening ++ "\n" ++ prettyLines (depth + 1) (item :: rest)
      ++ indent depth ++ bracket.closing

/-- The items of a group, each on lines of its own and followed by a comma. -/
def prettyLines (depth : Nat) : List Form → String
  | [] => ""
  | item :: rest => indent depth ++ prettyAt depth item ++ ",\n" ++ prettyLines depth rest

end

/-- The form spread over lines. -/
def pretty (form : Form) : String := prettyAt 0 form

end Form

end ElasticBuffer.Text
