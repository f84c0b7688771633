/-!
Maps from text, held as lists in increasing order of their keys with each key once. Two maps with
the same entries are equal, and every traversal meets the keys in order. `insert` keeps that order.
-/

namespace RuleCompiler

abbrev KeyedList (α : Type) := List (String × α)

namespace KeyedList

variable {α : Type}

def get? (entries : KeyedList α) (key : String) : Option α :=
  match entries with
  | [] => none
  | (name, value) :: rest => if name = key then some value else get? rest key

def contains (entries : KeyedList α) (key : String) : Bool :=
  (get? entries key).isSome

/-- Set the value under `key`, at the key's place in the order. -/
def insert (entries : KeyedList α) (key : String) (value : α) : KeyedList α :=
  match entries with
  | [] => [(key, value)]
  | (name, old) :: rest =>
      if key = name then (key, value) :: rest
      else if key < name then (key, value) :: (name, old) :: rest
      else (name, old) :: insert rest key value

/-- The entries inserted one after the other: of equal keys the last counts. -/
def ofList (entries : List (String × α)) : KeyedList α :=
  entries.foldl (fun map (key, value) => insert map key value) []

def erase (entries : KeyedList α) (key : String) : KeyedList α :=
  entries.filter fun (name, _) => name ≠ key

def keys (entries : KeyedList α) : List String :=
  entries.map Prod.fst

end KeyedList

end RuleCompiler
