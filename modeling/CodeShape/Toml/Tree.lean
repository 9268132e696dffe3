import CodeShape.Toml.Value

/-!
# Building tables

A document gives its tables piece by piece: headers open tables, keys with dots open tables on their
way, and entries are put into the table that was opened last. A `Tree` is what has been built so far.
It remembers where each table comes from, because that decides who may add to it: a table is opened
by one header at most, a table made by dotted keys is extended by dotted keys of the same section
only, and a table or an array that was written as a value is never extended.
-/

namespace CodeShape.Toml

/-- Where a table comes from. -/
inductive Origin where
  /-- From a header of its own, or it is the whole document. -/
  | header
  /-- From the header of a table inside it. -/
  | passing
  /-- From a dotted key. -/
  | dotted
deriving Repr, DecidableEq

/-- What stands under a key while the document is being read. -/
inductive Tree where
  | value (v : Value)
  | table (origin : Origin) (branches : List (String × Tree))
  /-- Tables that were given one by one under a header in double brackets. Further headers and entries
  go to the latest of them. -/
  | tables (earlier : List (List (String × Tree))) (latest : List (String × Tree))
deriving Repr

/-- What a table holds while the document is being read. -/
abbrev Branches := List (String × Tree)

namespace Branches

/-- Changes what stands under a key, or puts something there. -/
def alter (key : String) (change : Option Tree → Option Tree) : Branches → Option Branches
  | [] => do return [(key, ← change none)]
  | (k, t) :: rest => do
    if k = key then return (k, ← change (some t)) :: rest
    else return (k, t) :: (← alter key change rest)

/-- Goes down a path through tables and to the latest of several tables, and changes the table at its
end. Tables that are missing on the way are made with the origin `made`. Where dotted keys lead, no
table may lie on the way that has a header of its own. -/
def descend (made : Origin) (change : Origin → Branches → Option Branches) (origin : Origin) :
    List String → Branches → Option Branches
  | [], bs => change origin bs
  | key :: path, bs =>
    bs.alter key fun
      | none => (descend made change made path []).map (.table made)
      | some (.table o inner) =>
        if made = .dotted ∧ o = .header then none
        else (descend made change o path inner).map (.table o)
      | some (.tables earlier latest) =>
        (descend made change .header path latest).map (.tables earlier)
      | some (.value _) => none

/-- Puts a value under a dotted key, `path` being what comes before its last dot. Entries that are
reached through dots lie in a table made by dots, and no key is given twice. -/
def assign (path : List String) (key : String) (v : Value) (bs : Branches) : Option Branches :=
  bs.descend .dotted (fun origin inner =>
    if (origin == .dotted) == !path.isEmpty then
      inner.alter key fun
        | none => some (.value v)
        | some _ => none
    else none) .header path

/-- Opens a table by its header. A table that other headers passed through is still to be opened. -/
def openTable (path : List String) (key : String) (bs : Branches) : Option Branches :=
  bs.descend .passing (fun _ inner =>
    inner.alter key fun
      | none => some (.table .header [])
      | some (.table .passing branches) => some (.table .header branches)
      | some _ => none) .header path

/-- Opens one more table under a header in double brackets. -/
def openNext (path : List String) (key : String) (bs : Branches) : Option Branches :=
  bs.descend .passing (fun _ inner =>
    inner.alter key fun
      | none => some (.tables [] [])
      | some (.tables earlier latest) => some (.tables (earlier ++ [latest]) [])
      | some _ => none) .header path

/-- Puts a value under a dotted key of the table that was opened at the path `opened`. -/
def assignIn (opened path : List String) (key : String) (v : Value) (bs : Branches) :
    Option Branches :=
  bs.descend .passing (fun _ inner => inner.assign path key v) .header opened

end Branches

/-- Puts an entry at its place in an alphabetical list. -/
def insertEntry (entry : String × Value) : Table → Table
  | [] => [entry]
  | e :: rest => if entry.1 < e.1 then entry :: e :: rest else e :: insertEntry entry rest

mutual

/-- The value that has been built. -/
def Tree.toValue : Tree → Value
  | .value v => v
  | .table _ branches => .table (branchesTable branches)
  | .tables earlier latest =>
    .array (tablesValues earlier ++ [.table (branchesTable latest)])

/-- The table that has been built, its keys in alphabetical order. -/
def branchesTable : List (String × Tree) → Table
  | [] => []
  | (key, t) :: rest => insertEntry (key, t.toValue) (branchesTable rest)

/-- Several tables that have been built. -/
def tablesValues : List (List (String × Tree)) → List Value
  | [] => []
  | t :: rest => .table (branchesTable t) :: tablesValues rest

end

end CodeShape.Toml
