import RequestQuery.Document.Basic

/-!
# TOML tables under construction

* `Toml.Item` — what a key of a table holds: a value, a table that may still grow, or a list of tables.
* `Toml.putKey` — one more key, given by its path from a table.
* `Toml.descend` — changing the table that a header's path leads to.
* `Toml.Builder` — the tables above the current one, and the current one.

A table is defined once. Tables that only appear in the path of a key or a header come into being on the
way; a header may define such a table later, unless a key has made it.
-/

namespace RequestQuery.Toml

/-- What a key of a table holds. -/
inductive Item where
  /-- A value that is complete. -/
  | value (d : Document)
  /-- A table: whether no header has defined it, whether a key with points has made it, and what it
  holds. -/
  | table (isImplicit isDotted : Bool) (members : List (String × Item))
  /-- The tables under one repeated header. -/
  | tables (items : List (List (String × Item)))
deriving Inhabited

/-- The keys of a table and what they hold, in order of appearance. -/
abbrev Members := List (String × Item)

mutual

/-- What a key holds, as a document. -/
def Item.document : Item → Document
  | .value d => d
  | .table _ _ members => .table (memberDocuments members)
  | .tables items => .list (tableDocuments items)

/-- The members of a table as documents. -/
def memberDocuments : List (String × Item) → List (String × Document)
  | [] => []
  | (key, item) :: ms => (key, item.document) :: memberDocuments ms

/-- Several tables as documents. -/
def tableDocuments : List (List (String × Item)) → List Document
  | [] => []
  | members :: ts => .table (memberDocuments members) :: tableDocuments ts

end

/-- What a key holds. -/
def find? (key : String) (ms : Members) : Option Item :=
  (ms.find? fun m => m.1 == key).map Prod.snd

/-- Hold something else under a key, at the key's place or behind the other keys. -/
def put (key : String) (item : Item) (ms : Members) : Members :=
  if ms.any fun m => m.1 == key then
    ms.map fun m => if m.1 == key then (key, item) else m
  else
    ms ++ [(key, item)]

/-- The keys but one. -/
def remove (key : String) (ms : Members) : Members :=
  ms.filter fun m => m.1 != key

/-- Change the last of several tables. -/
def updateLast (change : Members → Option Members) : List Members → Option (List Members)
  | [] => none
  | [ms] => (change ms).map ([·])
  | ms :: t :: ts => (updateLast change (t :: ts)).map (ms :: ·)

/-! ### Keys -/

/-- Hold a value under a key that must be new in its table. The path from the table leads through tables
that no header has defined; the last one must have been made by a key, `isDotted` telling whether the
table at hand has. -/
def putKey (key : String) (d : Document) (atRoot isDotted : Bool) : List String → Members → Option Members
  | [], ms =>
    if (isDotted || atRoot) && (find? key ms).isNone then some (ms ++ [(key, .value d)]) else none
  | name :: path, ms =>
    match find? name ms with
    | none => (putKey key d false true path []).map fun inner => ms ++ [(name, .table true true inner)]
    | some (.table true dotted inner) =>
      (putKey key d false dotted path inner).map fun inner => put name (.table true dotted inner) ms
    | some (.table false _ _) => none
    | some (.tables ts) =>
      (updateLast (putKey key d false false path) ts).map fun ts => put name (.tables ts) ms
    | some (.value _) => none

/-- The table of keys given by their paths, as written between braces. -/
def inlineTable (entries : List (List String × Document)) : Option Document := do
  let ms ← entries.foldlM (fun ms e => do
    putKey (← e.1.getLast?) e.2 true false e.1.dropLast ms) ([] : Members)
  some (.table (memberDocuments ms))

/-! ### Headers -/

/-- Change the table to which a path leads; tables on the way come into being. -/
def descend (change : Members → Option Members) : List String → Members → Option Members
  | [], ms => change ms
  | name :: path, ms =>
    match find? name ms with
    | none => (descend change path []).map fun inner => ms ++ [(name, .table true false inner)]
    | some (.table isImplicit isDotted inner) =>
      (descend change path inner).map fun inner => put name (.table isImplicit isDotted inner) ms
    | some (.tables ts) =>
      (updateLast (descend change path) ts).map fun ts => put name (.tables ts) ms
    | some (.value _) => none

/-- The table to which a path leads, as far as it exists. -/
def lookup : List String → Members → Members
  | [], ms => ms
  | name :: path, ms =>
    match find? name ms with
    | some (.table _ _ inner) => lookup path inner
    | some (.tables ts) => lookup path (ts.getLast?.getD [])
    | _ => []

/-- A text part way through: the tables that are complete, and the one that keys go into. -/
structure Builder where
  /-- The root table, once another table is current. -/
  root : Members
  /-- The header of the current table; none for the root table. -/
  path : List String
  /-- Whether the current table is one of several under a repeated header. -/
  isRepeated : Bool
  current : Members

namespace Builder

/-- Nothing has been read. -/
def start : Builder :=
  ⟨[], [], false, []⟩

/-- Hold a value under a key of the current table. -/
def putKey (b : Builder) (path : List String) (d : Document) : Option Builder := do
  let ms ← Toml.putKey (← path.getLast?) d true false path.dropLast b.current
  some { b with current := ms }

/-- The root table with the current table in its place. -/
def finish (b : Builder) : Option Members :=
  match b.path.getLast? with
  | none => some b.current
  | some key =>
    descend (fun ms =>
      if b.isRepeated then
        match find? key ms with
        | none => some (ms ++ [(key, .tables [b.current])])
        | some (.tables ts) => some (put key (.tables (ts ++ [b.current])) ms)
        | some _ => none
      else
        some (put key (.table false false b.current) ms)) b.path.dropLast b.root

/-- Go on with the table of a header, which no header and no key may have defined before. -/
def openTable (b : Builder) (path : List String) : Option Builder := do
  let root ← b.finish
  let key ← path.getLast?
  let parent := path.dropLast
  let root ← descend some parent root
  match find? key (lookup parent root) with
  | none => some ⟨root, path, false, []⟩
  | some (.table true false ms) => do
    let root ← descend (fun ms => some (remove key ms)) parent root
    some ⟨root, path, false, ms⟩
  | some _ => none

/-- Go on with one more table of a repeated header. -/
def openRepeated (b : Builder) (path : List String) : Option Builder := do
  let root ← b.finish
  let key ← path.getLast?
  let root ← descend (fun ms =>
    match find? key ms with
    | none => some (ms ++ [(key, .tables [])])
    | some (.tables _) => some ms
    | some _ => none) path.dropLast root
  some ⟨root, path, true, []⟩

end Builder

end RequestQuery.Toml
