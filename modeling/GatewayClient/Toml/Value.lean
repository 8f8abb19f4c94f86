import GatewayClient.Binary64.Basic
/-!
# TOML values

A document is a table. How a table came about decides whether later lines may add to it:
a table in braces is complete, one with a header may get sub-tables, and one that only a
longer header or a dotted key has implied may still get its own.
-/

namespace GatewayClient.Toml

abbrev Key : Type := List Char

inductive Origin where
  /-- Written in braces. -/
  | inline
  | header
  /-- Named on the way to a table with a header. -/
  | implied
  /-- Named on the way to a dotted key. -/
  | dotted
  deriving DecidableEq, Repr

inductive Value where
  | string (text : List Char)
  | integer (i : Int)
  | float (x : Binary64)
  | boolean (b : Bool)
  /-- A valid date, time, or both. -/
  | datetime (text : List Char)
  | array (items : List Value)
  | table (origin : Origin) (entries : List (Key × Value))
  /-- Tables that share a header. -/
  | tables (elements : List (List (Key × Value)))

/-- The entries of a table, in order. No key occurs twice. -/
abbrev Entries : Type := List (Key × Value)

namespace Entries

/-- Replaces the value of a key. -/
def set (entries : Entries) (key : Key) (value : Value) : Entries :=
  entries.map fun entry => if entry.1 = key then (key, value) else entry

/-- Adds a key that is not there yet. -/
def insertNew? (entries : Entries) (key : Key) (value : Value) : Option Entries :=
  if (entries.lookup key).isSome then none else some (entries ++ [(key, value)])

/-- Adds a value under a dotted key. The tables on the way must have been made by dotted
keys too, or be implied and not the last on the way. -/
def insert? (entries : Entries) : (path : List Key) → Value → Option Entries
  | [], _ => none
  | [key], value => insertNew? entries key value
  | key :: next :: path, value =>
    match entries.lookup key with
    | none => do
      some (entries ++ [(key, .table .dotted (← insert? [] (next :: path) value))])
    | some (.table .dotted inner) => do
      some (set entries key (.table .dotted (← insert? inner (next :: path) value)))
    | some (.table .implied inner) =>
      if path = [] then none
      else do some (set entries key (.table .implied (← insert? inner (next :: path) value)))
    | some (.tables elements) =>
      if path = [] then none
      else do
        let last ← insert? (← elements.getLast?) (next :: path) value
        some (set entries key (.tables (elements.dropLast ++ [last])))
    | some _ => none

/-- Adds values under dotted keys. -/
def fill? (entries : Entries) (pairs : List (List Key × Value)) : Option Entries :=
  pairs.foldlM (fun entries (path, value) => insert? entries path value) entries

/-- Changes the table at a path, implying the tables on the way. -/
def modifyAt? (change : Entries → Option Entries) : (path : List Key) → Entries → Option Entries
  | [], entries => change entries
  | key :: path, entries =>
    match entries.lookup key with
    | none => do some (entries ++ [(key, .table .implied (← modifyAt? change path []))])
    | some (.table .inline _) => none
    | some (.table origin inner) => do
      some (set entries key (.table origin (← modifyAt? change path inner)))
    | some (.tables elements) => do
      let last ← modifyAt? change path (← elements.getLast?)
      some (set entries key (.tables (elements.dropLast ++ [last])))
    | some _ => none

/-- Defines the table of a header. It may have been implied, but not defined. -/
def define? (key : Key) (pairs : List (List Key × Value)) (entries : Entries) : Option Entries :=
  match entries.lookup key with
  | none => do some (entries ++ [(key, .table .header (← fill? [] pairs))])
  | some (.table .implied inner) => do
    some (set entries key (.table .header (← fill? inner pairs)))
  | some _ => none

/-- Appends a table to those that share a header. -/
def append? (key : Key) (pairs : List (List Key × Value)) (entries : Entries) : Option Entries :=
  match entries.lookup key with
  | none => do some (entries ++ [(key, .tables [← fill? [] pairs])])
  | some (.tables elements) => do
    some (set entries key (.tables (elements ++ [← fill? [] pairs])))
  | some _ => none

end Entries

end GatewayClient.Toml
