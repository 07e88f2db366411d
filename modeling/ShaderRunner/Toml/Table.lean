import ShaderRunner.Toml.Value

/-!
Tables of a document while it is read. Headers and dotted keys create tables along their way, and each
table remembers how it came about, because that decides what may still be added to it.
-/

namespace ShaderRunner.Toml

/-- A table is `implicit` as long as only longer keys have named it, and `dotted` if a dotted key
created it. `tables` are the tables of an array, in order. -/
inductive Item
  | value (v : Value)
  | table (implicit dotted : Bool) (entries : List (String × Item))
  | tables (elements : List (List (String × Item)))

abbrev Entries := List (String × Item)

namespace Entries

def replace (es : Entries) (k : String) (i : Item) : Entries :=
  es.map fun e => if e.1 = k then (k, i) else e

/-- Changes the table that the keys lead to. Tables on the way are created, the last table of an array
stands for the array, and a dotted key does not enter a table that has a header. `f` is told whether
the table it changes was created by a dotted key. -/
def change (dotted : Bool) (f : Bool → Entries → Option Entries) : List String → Bool → Entries → Option Entries
  | [], own, es => f own es
  | k :: ks, _, es =>
    match es.lookup k with
    | none => (change dotted f ks dotted []).map fun sub => es ++ [(k, .table true dotted sub)]
    | some (.value _) => none
    | some (.tables ts) =>
      match ts.getLast? with
      | none => none
      | some t => (change dotted f ks false t).map fun t => es.replace k (.tables (ts.dropLast ++ [t]))
    | some (.table implicit own sub) =>
      if dotted && !implicit then none
      else (change dotted f ks own sub).map fun sub => es.replace k (.table implicit own sub)

def insert (es : Entries) (path : List String) (key : String) (v : Value) : Option Entries :=
  es.change true (fun own es =>
    if own == path.isEmpty || (es.lookup key).isSome then none else some (es ++ [(key, .value v)])) path false

def openTable (es : Entries) (path : List String) (key : String) : Option Entries :=
  es.change false (fun _ es =>
    match es.lookup key with
    | none => some (es ++ [(key, .table false false [])])
    | some (.table true false sub) => some (es.replace key (.table false false sub))
    | some _ => none) path false

def openElement (es : Entries) (path : List String) (key : String) : Option Entries :=
  es.change false (fun _ es =>
    match es.lookup key with
    | none => some (es ++ [(key, .tables [[]])])
    | some (.tables ts) => some (es.replace key (.tables (ts ++ [[]])))
    | some _ => none) path false

end Entries

mutual
def Item.toValue : Item → Value
  | .value v => v
  | .table _ _ es => .table (entryValues es)
  | .tables ts => .array (tableValues ts)

def entryValues : List (String × Item) → List (String × Value)
  | [] => []
  | e :: es => entryValue e :: entryValues es

def entryValue : String × Item → String × Value
  | (k, i) => (k, i.toValue)

def tableValues : List (List (String × Item)) → List Value
  | [] => []
  | t :: ts => .table (entryValues t) :: tableValues ts
end

end ShaderRunner.Toml
