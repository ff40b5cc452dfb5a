import Pipework.Binary.Shortest

/-! What a TOML document is made of once read: keys with their places, values, and the tables they
are filed in. -/

namespace Pipework.Text.Toml

open Pipework.Binary

/-- Where a part of a document stands: the byte offsets of its first byte and of the byte
after it. -/
structure Extent where
  start : Nat
  stop : Nat
  deriving Repr, DecidableEq, Inhabited

/-- One part of a key as a document writes it: its name, its text in the document (quotes
included), and its place. -/
structure Key where
  name : String
  raw : String
  place : Extent
  deriving Repr, Inhabited

/-- A value of a document. An inline table keeps its pairs, and whether it was made by
dotted keys inside another one. -/
inductive Value where
  | bool (b : Bool)
  | str (s : String)
  | int (n : Int)
  | float (x : Double)
  | datetime
  | array (items : List (Value × Extent))
  | inline (entries : List (Key × Value)) (implicit dotted : Bool)
  deriving Inhabited

def Value.typeName : Value → String
  | .bool _ => "boolean"
  | .str _ => "string"
  | .int _ => "integer"
  | .float _ => "float"
  | .datetime => "datetime"
  | .array _ => "array"
  | .inline .. => "inline table"

/-- What a table holds under a key: a value with its place, a table with its entries in
order, or an array of tables. -/
inductive Item where
  | value (v : Value) (place : Extent)
  | table (entries : List (Key × Item)) (implicit dotted : Bool) (place : Option Extent)
  | tables (elements : List Item)
  deriving Inhabited

def Item.implicitTable (dotted : Bool) : Item :=
  .table [] true dotted none

def Item.place? : Item → Option Extent
  | .value _ place => some place
  | .table _ _ _ place => place
  | .tables elements =>
    match elements.head?, elements.getLast? with
    | some (.table _ _ _ (some first)), some (.table _ _ _ (some last)) => some ⟨first.start, last.stop⟩
    | _, _ => none

def findEntry {α : Type} (entries : List (Key × α)) (name : String) : Option α :=
  (entries.find? (·.1.name == name)).map (·.2)

def replaceEntry {α : Type} (entries : List (Key × α)) (name : String) (item : α) : List (Key × α) :=
  entries.map fun (k, v) => if k.name == name then (k, item) else (k, v)

def removeEntry {α : Type} (entries : List (Key × α)) (name : String) : List (Key × α) :=
  entries.filter (·.1.name != name)

/-- Why a document's definitions clash: a key defined twice (named as written, with the path
of the table it was defined in when that is known), or a dotted key that runs into a value. -/
inductive Clash where
  | duplicate (key : String) (table : Option (List String))
  | extendsValue (path : List String) (kind : String)
  deriving Repr, Inhabited

def Clash.message : Clash → String
  | .duplicate key none => "duplicate key `" ++ key ++ "`"
  | .duplicate key (some []) => "duplicate key `" ++ key ++ "` in document root"
  | .duplicate key (some path) => "duplicate key `" ++ key ++ "` in table `" ++ ".".intercalate path ++ "`"
  | .extendsValue path kind =>
    "dotted key `" ++ ".".intercalate path ++ "` attempted to extend non-table type (" ++ kind ++ ")"

end Pipework.Text.Toml
