import CodeShape.Regex.CharSet
import CodeShape.Unicode.BinaryProperty
import CodeShape.Unicode.Category
import CodeShape.Unicode.Script

/-!
# Sets of characters by the name of a property

`\p{…}` names a set of characters by a binary property, a general category or a script, in this
order; `\p{gc=…}` and `\p{sc=…}` say which kind is meant. Names are compared without regard to
letter case, blanks, underscores and hyphens, and a leading `is` is dropped.
-/

namespace CodeShape.Regex.CharSet

/-- The form in which property names are compared. -/
def propertyKey (name : List Char) : String :=
  let plain := (name.filter fun c => c != ' ' && c != '_' && c != '-').map Char.toLower
  match plain with
  | 'i' :: 's' :: rest => if rest.isEmpty || rest == ['c'] then String.ofList plain else String.ofList rest
  | _ => String.ofList plain

/-- The set of a general category or of a group of categories. -/
def ofCategory? (key : String) : Option CharSet :=
  match Unicode.categoryTables.lookup key with
  | some bounds => some (.table bounds)
  | none =>
    match Unicode.categoryGroups.lookup key with
    | some members =>
      some (.unions ((members.filterMap (Unicode.categoryTables.lookup ·)).map .table))
    | none =>
      match key with
      | "any" => some .all
      | "ascii" => some (.range 0 0x7f)
      | "assigned" => (Unicode.categoryTables.lookup "cn").map fun bounds => .compl (.table bounds)
      | _ => none

/-- The set of a script. -/
def ofScript? (key : String) : Option CharSet :=
  (Unicode.scriptTables.lookup key).map .table

/-- The set of a binary property. The names `cf`, `sc` and `lc` are left to the categories. -/
def ofBinaryProperty? (key : String) : Option CharSet :=
  (Unicode.propertyTables.lookup key).map .table

/-- The set that a property name alone stands for. -/
def ofName? (name : List Char) : Option CharSet :=
  let key := propertyKey name
  (ofBinaryProperty? key).orElse fun _ => (ofCategory? key).orElse fun _ => ofScript? key

/-- The set that a property and a value stand for. -/
def ofValue? (property value : List Char) : Option CharSet :=
  match propertyKey property with
  | "gc" | "generalcategory" => ofCategory? (propertyKey value)
  | "sc" | "script" | "scx" | "scriptextensions" => ofScript? (propertyKey value)
  | _ => none

/-- The set between the braces of `\p{…}`: a name, or a property and a value joined by `=`, `:` or
`!=`; a leading `^` takes the complement. -/
def ofProperty? (inside : List Char) : Option CharSet :=
  match inside with
  | '^' :: rest => (ofProperty? rest).map .compl
  | _ =>
    match inside.span (· != '!') with
    | (property, '!' :: '=' :: value) => (ofValue? property value).map .compl
    | _ =>
      match inside.span fun c => c != '=' && c != ':' with
      | (property, _ :: value) => ofValue? property value
      | (_, []) => ofName? inside

/-- The sets of `[:name:]`, all within ASCII. -/
def ofAsciiName? : String → Option CharSet
  | "alnum" => some (.unions [.range 0x30 0x39, .range 0x41 0x5a, .range 0x61 0x7a])
  | "alpha" => some (.union (.range 0x41 0x5a) (.range 0x61 0x7a))
  | "ascii" => some (.range 0 0x7f)
  | "blank" => some (.union (.range 9 9) (.range 0x20 0x20))
  | "cntrl" => some (.union (.range 0 0x1f) (.range 0x7f 0x7f))
  | "digit" => some (.range 0x30 0x39)
  | "graph" => some (.range 0x21 0x7e)
  | "lower" => some (.range 0x61 0x7a)
  | "print" => some (.range 0x20 0x7e)
  | "punct" =>
    some (.unions [.range 0x21 0x2f, .range 0x3a 0x40, .range 0x5b 0x60, .range 0x7b 0x7e])
  | "space" => some (.union (.range 9 13) (.range 0x20 0x20))
  | "upper" => some (.range 0x41 0x5a)
  | "word" =>
    some (.unions [.range 0x30 0x39, .range 0x41 0x5a, .range 0x61 0x7a, .range 0x5f 0x5f])
  | "xdigit" => some .hexDigit
  | _ => none

end CodeShape.Regex.CharSet
