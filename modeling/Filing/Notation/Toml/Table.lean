import Filing.Settings.Value

/-!
Tables of TOML under construction. Nothing may be said twice: no key has two values, no header comes
twice, and what one notation of a table began the other may not go on with.
-/
namespace Filing.Notation.Toml

inductive Node where
  | value (value : Value)
  /-- An open table has no header of its own so far; a dotted one was begun by a dotted key. -/
  | table (isOpen dotted : Bool) (entries : List (String × Node))
  /-- A list of tables, of which only the last one still grows. -/
  | tables (earlier : List Value) (last : List (String × Node))

abbrev Entries := List (String × Node)

def Entries.get? (entries : Entries) (key : String) : Option Node :=
  (entries.find? (·.1 = key)).map (·.2)

def Entries.set (key : String) (node : Node) : Entries → Entries
  | [] => [(key, node)]
  | entry :: later =>
    if entry.1 = key then (key, node) :: later else entry :: Entries.set key node later

mutual

def Node.toValue : Node → Value
  | .value value => value
  | .table _ _ entries => .table (fieldsOf entries)
  | .tables earlier last => .list (earlier ++ [.table (fieldsOf last)])

def fieldsOf : List (String × Node) → List (String × Value)
  | [] => []
  | (key, node) :: later => (key, node.toValue) :: fieldsOf later

end

/-- What a header at the end of its path makes of the node that is there already. -/
def Node.open? (isElement : Bool) : Option Node → Option Node
  | none => some (if isElement then .tables [] [] else .table false false [])
  -- Headers below it have named the table already.
  | some (.table true false inner) => if isElement then none else some (.table false false inner)
  | some (.tables earlier last) =>
    if isElement then some (.tables (earlier ++ [.table (fieldsOf last)]) []) else none
  | some _ => none

/-- Begins the table of a header, or with `isElement` another table of a list. -/
def openTable (isElement : Bool) : (path : List String) → Entries → Option Entries
  | [], _ => none
  | [key], entries => do return entries.set key (← Node.open? isElement (entries.get? key))
  | key :: path, entries =>
    match entries.get? key with
    | none => do
      let inner ← openTable isElement path []
      return entries.set key (.table true false inner)
    | some (.table isOpen dotted inner) => do
      let inner ← openTable isElement path inner
      return entries.set key (.table isOpen dotted inner)
    | some (.tables earlier last) => do
      let last ← openTable isElement path last
      return entries.set key (.tables earlier last)
    | some (.value _) => none

/-- Gives a dotted key its value. The table the value ends up in has to be a dotted one. -/
def assignDotted (value : Value) : (path : List String) → Entries → Option Entries
  | [], _ => none
  | [key], entries =>
    match entries.get? key with
    | none => some (entries.set key (.value value))
    | some _ => none
  | key :: path, entries =>
    let isLast := path.length = 1
    match entries.get? key with
    | none => do
      let inner ← assignDotted value path []
      return entries.set key (.table true true inner)
    | some (.table isOpen dotted inner) =>
      -- A table that headers began takes no fields from dotted keys above it.
      if !isOpen || isLast && !dotted then none
      else do
        let inner ← assignDotted value path inner
        return entries.set key (.table isOpen dotted inner)
    | some (.tables earlier last) =>
      if isLast then none
      else do
        let last ← assignDotted value path last
        return entries.set key (.tables earlier last)
    | some (.value _) => none

/-- Changes the entries of the table at a path of headers. -/
def inside (change : Entries → Option Entries) : (path : List String) → Entries → Option Entries
  | [], entries => change entries
  | key :: path, entries =>
    match entries.get? key with
    | some (.table isOpen dotted inner) => do
      let inner ← inside change path inner
      return entries.set key (.table isOpen dotted inner)
    | some (.tables earlier last) => do
      let last ← inside change path last
      return entries.set key (.tables earlier last)
    | _ => none

end Filing.Notation.Toml
