/-!
# TOML values and tables

A TOML document is a table of values. Tables are made in four ways, and the way decides
what may later be added to them:

* `implicit`: a table named on the way to a `[header]` that names one inside it; a
  header may still define it, and dotted keys may add to it;
* `header`: a table a `[header]` defined; no header may define it again, and dotted keys
  from an enclosing table may not reach into it;
* `dotted`: a table a dotted key (`a.b = 1`) made; no header may define it;
* `inline`: an inline table `{ ... }`, complete as written.

An array of tables (`[[header]]`) is its own kind of value; headers and keys that reach
into it go to its last table.
-/

namespace DocBridge.Toml

/-- How a table came to be. -/
inductive TableKind where
  | implicit
  | header
  | dotted
  | inline
  deriving Repr, Inhabited, DecidableEq

/-- A TOML value. -/
inductive Value where
  | string (s : String)
  | integer (n : Int)
  | float (text : String)
  | boolean (b : Bool)
  | datetime (text : String)
  | array (items : List Value)
  | table (kind : TableKind) (entries : List (String × Value))
  | tables (items : List (List (String × Value)))
  deriving Repr, Inhabited

/-- The members of a table. -/
abbrev Entries := List (String × Value)

/-- The value of a key. -/
def lookup (entries : Entries) (key : String) : Option Value :=
  (entries.find? (·.1 == key)).map (·.2)

/-- Sets the value of a key, in place when it is there and at the end otherwise. -/
def setEntry (entries : Entries) (key : String) (v : Value) : Entries :=
  if entries.any (·.1 == key) then entries.map fun (k, w) => if k == key then (k, v) else (k, w)
  else entries ++ [(key, v)]

/-- How a path is followed: to reach the table of a header, the table of the last
header from the root, or the table a dotted key names from the current table. -/
inductive Walk where
  | header
  | current
  | dotted
  deriving Repr, Inhabited, DecidableEq

/-- Whether a walk may pass through a table of a kind. -/
def Walk.enters : Walk → TableKind → Bool
  | .dotted, .implicit | .dotted, .dotted => true
  | .dotted, _ => false
  | _, .inline => false
  | _, _ => true

/-- Follows `path` from a table and changes the table reached with `f`. Tables missing on
the way are made, implicit for a header's walk and dotted for a dotted key's. An array of
tables is entered at its last table, except by a dotted key. -/
def modify (walk : Walk) (f : Entries → Except Unit Entries) : List String → Entries → Except Unit Entries
  | [], entries => f entries
  | k :: ks, entries =>
    match lookup entries k with
    | none => do
      let inner ← modify walk f ks []
      pure (setEntry entries k (.table (if walk == .dotted then .dotted else .implicit) inner))
    | some (.table kind inner) =>
      if walk.enters kind then do
        let inner ← modify walk f ks inner
        pure (setEntry entries k (.table kind inner))
      else .error ()
    | some (.tables items) =>
      match walk, items.getLast? with
      | .dotted, _ => .error ()
      | _, some last => do
        let last ← modify walk f ks last
        pure (setEntry entries k (.tables (items.dropLast ++ [last])))
      | _, none => .error ()
    | some _ => .error ()

/-- Defines the table a `[header]` names. -/
def defineTable (path : List String) (root : Entries) : Except Unit Entries :=
  match path.reverse with
  | [] => .error ()
  | last :: before =>
    modify .header (fun entries =>
      match lookup entries last with
      | none => pure (setEntry entries last (.table .header []))
      | some (.table .implicit inner) => pure (setEntry entries last (.table .header inner))
      | some _ => .error ()) before.reverse root

/-- Adds a table to the array of tables a `[[header]]` names. -/
def appendTable (path : List String) (root : Entries) : Except Unit Entries :=
  match path.reverse with
  | [] => .error ()
  | last :: before =>
    modify .header (fun entries =>
      match lookup entries last with
      | none => pure (setEntry entries last (.tables [[]]))
      | some (.tables items) => pure (setEntry entries last (.tables (items ++ [[]])))
      | some _ => .error ()) before.reverse root

/-- Sets a dotted key in a table; the key must not have a value yet. -/
def setDotted (key : List String) (v : Value) (entries : Entries) : Except Unit Entries :=
  match key.reverse with
  | [] => .error ()
  | last :: before =>
    modify .dotted (fun inner =>
      match lookup inner last with
      | none => pure (setEntry inner last v)
      | some _ => .error ()) before.reverse entries

/-- Sets a dotted key in the table of the last header. -/
def setKey (current : List String) (key : List String) (v : Value) (root : Entries) :
    Except Unit Entries :=
  modify .current (setDotted key v) current root

end DocBridge.Toml
