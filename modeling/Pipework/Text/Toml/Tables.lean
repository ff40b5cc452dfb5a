import Pipework.Text.Toml.Syntax

/-! Filing the pairs and headers of a document into its tables. -/

namespace Pipework.Text.Toml

/-- Goes down `path` from a table, making the missing tables implicit (and dotted, when dotted
keys name them), and applies `f` to the table at its end. Arrays of tables are entered at their
last table. Dotted keys may not run into a value, nor into a table a header defined. `done`
holds the names of the path walked so far. -/
def descend {β : Type} (dotted : Bool) (f : Item → Except Clash (Item × β)) :
    List String → List Key → Item → Except Clash (Item × β)
  | _, [], t => f t
  | done, k :: more, t =>
    match t with
    | .table entries implicit isDotted place =>
      let existing := findEntry entries k.name
      let child := existing.getD (Item.implicitTable dotted)
      let entries := if existing.isSome then entries else entries ++ [(k, child)]
      let rebuild (child : Item) := Item.table (replaceEntry entries k.name child) implicit isDotted place
      match child with
      | .value v _ => .error (.extendsValue (done ++ [k.name]) v.typeName)
      | .tables elements =>
        match elements.getLast? with
        | some last => do
          let (last, b) ← descend dotted f (done ++ [k.name]) more last
          pure (rebuild (.tables (elements.dropLast ++ [last])), b)
        | none => .error (.duplicate k.name none)
      | .table _ childImplicit _ _ =>
        if dotted && !childImplicit then .error (.duplicate k.name none)
        else do
          let (child, b) ← descend dotted f (done ++ [k.name]) more child
          pure (rebuild child, b)
    | _ => .error (.duplicate k.name none)

def Item.entries : Item → List (Key × Item)
  | .table entries .. => entries
  | _ => []

/-- What is known while a document's tables are filed: the document's own entries, the table
that pairs go into now (its entries, whether it is implicit or dotted, and its place), the
path it will be filed under, and whether it is the next table of an array of tables. -/
structure Builder where
  root : List (Key × Item) := []
  entries : List (Key × Item) := []
  implicit : Bool := false
  dotted : Bool := false
  place : Option Extent := none
  path : List Key := []
  inArray : Bool := false
  deriving Inhabited

def Builder.rootTable (b : Builder) : Item :=
  .table b.root false false none

def Builder.current (b : Builder) : Item :=
  .table b.entries b.implicit b.dotted b.place

def Builder.onKeyval (b : Builder) (path : List Key) (key : Key) (v : Value) (valueAt : Extent) :
    Except Clash Builder := do
  let b := { b with place := b.place.map fun (p : Extent) => ⟨p.start, valueAt.stop⟩ }
  let (current, ()) ← descend true (fun t =>
      match t with
      | .table entries implicit isDotted place =>
        if isDotted == path.isEmpty then .error (.duplicate key.name none)
        else if (findEntry entries key.name).isSome then
          .error (.duplicate key.name (some (b.path.map Key.name)))
        else .ok (.table (entries ++ [(key, .value v valueAt)]) implicit isDotted place, ())
      | _ => .error (.duplicate key.name none)) [] path b.current
  return { b with entries := current.entries }

/-- Files the table that pairs go into now under its path: as the document's own table when
the path is empty, as the next table of an array of tables, or as a table defined for the
first time (or defining an implicit one). -/
def Builder.finalize (b : Builder) : Except Clash Builder := do
  let table := b.current
  let fresh : Builder := {}
  match b.path.getLast? with
  | none => pure { fresh with root := b.entries }
  | some k =>
    let within := b.path.dropLast
    let clash : Clash := .duplicate k.raw (some (within.map Key.name))
    let (root, ()) ← descend false (fun parent =>
        match parent with
        | .table entries implicit isDotted place =>
          let put (item : Item) : Except Clash (Item × Unit) :=
            .ok (.table (replaceEntry entries k.name item) implicit isDotted place, ())
          match findEntry entries k.name, b.inArray with
          | none, true => .ok (.table (entries ++ [(k, .tables [table])]) implicit isDotted place, ())
          | none, false => .ok (.table (entries ++ [(k, table)]) implicit isDotted place, ())
          | some (.tables elements), true => put (.tables (elements ++ [table]))
          | some (.table _ true _ _), false => put table
          | some _, _ => .error clash
        | _ => .error clash) [] within b.rootTable
    pure { fresh with root := root.entries }

/-- Starts the table a `[path]` header at `span` defines, after filing the one before. An
implicit table not made by dotted keys is taken over, entries and all, and filed anew when
done; anything else already under the path clashes. -/
def Builder.startTable (b : Builder) (path : List Key) (span : Extent) : Except Clash Builder := do
  let b ← b.finalize
  match path.getLast? with
  | none => pure b
  | some k =>
    let within := path.dropLast
    let clash : Clash := .duplicate k.raw (some (within.map Key.name))
    let (root, kept) ← descend false (fun parent =>
        match parent with
        | .table entries implicit isDotted place =>
          match findEntry entries k.name with
          | none => .ok (parent, [])
          | some (.table kept true false _) =>
            .ok (.table (removeEntry entries k.name) implicit isDotted place, kept)
          | some _ => .error clash
        | _ => .error clash) [] within b.rootTable
    pure { root := root.entries, entries := kept, place := some span, path }

def Builder.startArrayTable (b : Builder) (path : List Key) (span : Extent) :
    Except Clash Builder := do
  let b ← b.finalize
  match path.getLast? with
  | none => pure b
  | some k =>
    let within := path.dropLast
    let clash : Clash := .duplicate k.raw (some (within.map Key.name))
    let (root, ()) ← descend false (fun parent =>
        match parent with
        | .table entries implicit isDotted place =>
          match findEntry entries k.name with
          | none => .ok (.table (entries ++ [(k, .tables [])]) implicit isDotted place, ())
          | some (.tables _) => .ok (parent, ())
          | some _ => .error clash
        | _ => .error clash) [] within b.rootTable
    pure { root := root.entries, place := some span, path, inArray := true }

end Pipework.Text.Toml
