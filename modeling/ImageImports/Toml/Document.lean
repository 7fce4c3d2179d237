import ImageImports.Toml.Fault
import ImageImports.Toml.Value

/-!
# Documents under construction

A document grows by tables and values under keys of several parts.  A table may be declared once, a
value may be set once, and what was written in one piece, an inline table or a list, cannot be added
to afterwards.
-/

namespace ImageImports.Toml

/-- Named values in the order in which the names first occur. -/
abbrev Fields := List (String × Value)

/-- Changes the value of a name, or adds it. -/
def Fields.set (name : String) (value : Value) : Fields → Fields
  | [] => [(name, value)]
  | (other, old) :: rest =>
    if other = name then (name, value) :: rest else (other, old) :: Fields.set name value rest

/-- Changes the table that a key leads to, which is made if it is not there.  Where the way leads to
a list of tables, it goes on in the last of them, if `throughLists` allows that. -/
def Fields.change (throughLists : Bool) (f : Fields → Except Cause Fields) :
    Key → Fields → Except Cause Fields
  | [], fields => f fields
  | name :: key, fields =>
    match fields.lookup name with
    | none => (Fields.change throughLists f key []).map fun inner => fields ++ [(name, .table inner)]
    | some (.table inner) =>
      (Fields.change throughLists f key inner).map fun inner => fields.set name (.table inner)
    | some (.list items) =>
      match throughLists, items.getLast? with
      | true, some (.table inner) =>
        (Fields.change throughLists f key inner).map fun inner =>
          fields.set name (.list (items.dropLast ++ [.table inner]))
      | _, _ => .error .valueOverwritten
    | some _ => .error .valueOverwritten

/-- Adds a value under a name that is free. -/
def Fields.insertNew (name : String) (value : Value) (fields : Fields) : Except Cause Fields :=
  match fields.lookup name with
  | some _ => .error .valueOverwritten
  | none => .ok (fields ++ [(name, value)])

/-- Adds an empty table to the list of tables under a name. -/
def Fields.appendTable (name : String) (fields : Fields) : Except Cause Fields :=
  match fields.lookup name with
  | none => .ok (fields ++ [(name, .list [.table []])])
  | some (.list items) => .ok (fields.set name (.list (items ++ [.table []])))
  | some _ => .error .valueOverwritten

/-- A document under construction. -/
structure Document where
  fields : Fields := []
  /-- Tables that cannot be declared any more. -/
  declared : List Key := []
  /-- What was written in one piece. -/
  frozen : List Key := []
  /-- Tables that cannot be declared once the next declaration is met. -/
  pending : List Key := []
  /-- The table that values are set in. -/
  header : Key := []
  deriving Inhabited

/-- Whether a key lies in what was written in one piece. -/
def isFrozen (frozen : List Key) (key : Key) : Bool := frozen.any (·.isPrefixOf key)

namespace Document

/-- The document at the beginning of a declaration. -/
def settle (d : Document) : Document :=
  { d with declared := d.declared ++ d.pending, pending := [] }

/-- The document with a table declared, whose values follow. -/
def declareTable (d : Document) (key : Key) : Except Cause Document :=
  if d.declared.contains key || isFrozen d.frozen key then .error (.declaredTwice key)
  else
    (d.fields.change true .ok key).map fun fields =>
      { d with fields, declared := d.declared ++ [key], header := key }

/-- The document with one more table in a list of tables, whose values follow.  What was declared
below the list belongs to the table before. -/
def declareTableItem (d : Document) (key : Key) : Except Cause Document :=
  if isFrozen d.frozen key then .error (.namespaceImmutable key)
  else
    (d.fields.change true (Fields.appendTable (key.getLast?.getD "")) key.dropLast).map fun fields =>
      { d with
        fields
        declared := d.declared.filter (fun other => !key.isPrefixOf other) ++ [key]
        frozen := d.frozen.filter (fun other => !key.isPrefixOf other)
        header := key }

/-- The names above the last part of a key, below the header. -/
def innerKeys (header key : Key) : List Key :=
  (List.range (key.length - 1)).map fun n => header ++ key.take (n + 1)

/-- The document with a value set. -/
def setValue (d : Document) (key : Key) (value : Value) : Except Cause Document :=
  let inner := innerKeys d.header key
  let parent := d.header ++ key.dropLast
  match inner.find? d.declared.contains with
  | some other => .error (.namespaceRedefined other)
  | none =>
    if isFrozen d.frozen parent then .error (.namespaceImmutable parent)
    else
      (d.fields.change true (Fields.insertNew (key.getLast?.getD "") value) parent).map fun fields =>
        { d with
          fields
          pending := d.pending ++ inner
          frozen := if value.isComposite then d.frozen ++ [d.header ++ key] else d.frozen }

end Document

end ImageImports.Toml
