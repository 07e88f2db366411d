import ShaderRunner.Toml.Number
import ShaderRunner.Toml.Table

namespace ShaderRunner.Toml

open Reader

def nesting : Nat := 79

def isBareKeyChar (c : Char) : Bool := c.isAlphanum || c == '-' || c == '_'

def bareKey : Reader String := do
  let s ← span isBareKeyChar
  if s.isEmpty then failure else return String.ofList s

def keyPart : Reader String := do
  blanks
  let k ← keyString <|> bareKey
  blanks
  return k

def key : Reader (List String × String) := do
  let first ← keyPart
  let others ← repeated do
    if ← sees ['.'] then maybe (do exactly ['.']; keyPart) else return none
  let parts := first :: others
  if parts.length > nesting then failure
  return (parts.dropLast, parts.getLast?.getD first)

def separated {α : Type} (item : Reader α) : Reader (List α) := do
  match ← maybe item with
  | none => return []
  | some a => do
    let as ← repeated (maybe (do exactly [',']; item))
    return a :: as

def array (item : Reader Value) : Reader Value := do
  exactly ['[']
  let xs ← separated (do gap; let v ← item; gap; return v)
  if !xs.isEmpty then let _ ← maybe (exactly [','])
  gap
  exactly [']']
  return .array xs

def keyValue (item : Reader Value) : Reader (List String × String × Value) := do
  let (path, k) ← key
  exactly ['=']
  blanks
  let v ← item
  return (path, k, v)

def inlineTable (item : Reader Value) : Reader Value := do
  exactly ['\x7b']
  let kvs ← separated (do let kv ← keyValue item; blanks; return kv)
  blanks
  exactly ['\x7d']
  match kvs.foldlM (fun (es : Entries) (path, k, v) => es.insert path k v) [] with
  | some es => return (Item.table false false es).toValue
  | none => failure

def value : Nat → Reader Value
  | 0 => flat
  | depth + 1 => do
    match ← next? with
    | some '[' => array (value depth)
    | some '\x7b' => inlineTable (value depth)
    | _ => flat
where
  flat : Reader Value := do
    match ← next? with
    | some '"' | some '\'' => return .string (← string)
    | some 't' => do exactly "true".toList; return .boolean true
    | some 'f' => do exactly "false".toList; return .boolean false
    | some 'i' | some 'n' => special false
    | some c => if c.isDigit || c == '+' || c == '-' then number else failure
    | none => failure

structure Progress where
  root : Entries := []
  header : List String := []

def Progress.add (p : Progress) (path : List String) (k : String) (v : Value) : Option Progress :=
  (p.root.change false (fun _ es => es.insert path k v) p.header false).map ({ p with root := · })

def lift {α : Type} (o : Option α) : Reader α := fun s => o.map (·, s)

def headerLine (p : Progress) : Reader Progress := do
  if ← sees ['[', '['] then
    exactly ['[', '[']
    let (path, k) ← key
    exactly [']', ']']
    lineRest
    return ⟨← lift (p.root.openElement path k), path ++ [k]⟩
  else
    exactly ['[']
    let (path, k) ← key
    exactly [']']
    lineRest
    return ⟨← lift (p.root.openTable path k), path ++ [k]⟩

def keyValueLine (p : Progress) : Reader Progress := do
  let (path, k, v) ← keyValue (value nesting)
  lineRest
  lift (p.add path k v)

def expression (p : Progress) : Reader Progress := do
  match ← next? with
  | some '#' => do comment; lineEnd; return p
  | some '[' => headerLine p
  | some '\n' | some '\r' => do newline; return p
  | _ => keyValueLine p

def expressions (p : Progress) : Nat → Reader Progress
  | 0 => failure
  | fuel + 1 => do
    blanks
    if (← get).isEmpty then return p
    else expressions (← expression p) fuel

def document? (text : String) : Option (List (String × Value)) :=
  let s := match text.toList with
    | '\ufeff' :: s => s
    | s => s
  ((expressions {} (s.length + 1)).run s).map fun x => entryValues x.1.root

end ShaderRunner.Toml
