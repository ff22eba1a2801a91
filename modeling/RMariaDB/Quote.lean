import RMariaDB.Lib.Regex
import RMariaDB.Lib.Substitute
import RMariaDB.RTypes

-- Identifiers: dbQuoteIdentifier() and dbUnquoteIdentifier().

namespace RMariaDB

abbrev Text := List Char

-- The components of an identifier, with their labels. NA has no value.
structure Id where
  name : List (String × Option Text)
deriving DecidableEq, Repr

-- A vector of SQL expressions and its names.
structure SQL where
  x : List Text
  names : Option (List Text) := none
deriving DecidableEq, Repr

structure Ids where
  ids : List Id
  names : Option (List Text) := none
deriving DecidableEq, Repr

namespace Quote

def backtick : Char := Char.ofNat 96

section Quoting

-- gsub("`", "``", x, fixed = TRUE), in backticks
def quote (x : Text) : Text :=
  backtick :: Substitute.replaceAll [backtick] [backtick, backtick] x ++ [backtick]

def dbQuoteIdentifier_character (x : List (Option Text)) : Except Exc (List Text) :=
  match x.mapM id with
  | none => .error (.stop "Cannot pass NA to dbQuoteIdentifier()")
  | some x => .ok (x.map quote)

-- A leading catalog "def" of three components is dropped.
def unquoted_name (x : Id) : Except Exc (List (Option Text)) :=
  let name := x.name.map Prod.snd
  match name with
  | [none, _, _] => .error (.stop "missing value where TRUE/FALSE needed")
  | [some first, second, third] =>
      .ok (if first = "def".toList then [second, third] else name)
  | _ => .ok name

def dbQuoteIdentifier_Id (x : Id) : Except Exc Text := do
  let name ← unquoted_name x
  let quoted ← dbQuoteIdentifier_character name
  pure (['.'].intercalate quoted)

end Quoting

section Unquoting

open Regex

-- [^`]|``
def letter_rx : Regex Char :=
  .alt (.char fun c => c ≠ backtick)
    (.seq (.char fun c => c = backtick) (.char fun c => c = backtick))

-- `((?:[^`]|``)+)`
def quoted_rx (k : Nat) : Regex Char :=
  .seq (.char fun c => c = backtick)
    (.seq (.group k (.plus letter_rx)) (.char fun c => c = backtick))

-- ([^`. ]+)
def plain_rx (k : Nat) : Regex Char :=
  .group k (.plus (.char fun c => c ≠ backtick ∧ c ≠ '.' ∧ c ≠ ' '))

def id_rx (k : Nat) : Regex Char := .alt (quoted_rx k) (plain_rx (k + 1))

-- ^(?:|id[.])(?:|id)$
def rx : Regex Char :=
  .seq (.alt .empty (.seq (id_rx 1) (.char fun c => c = '.'))) (.alt .empty (id_rx 3))

-- gsub(rx, "\\k\\l", x)
def captured (k l : Nat) (x : Text) : Text :=
  match fullMatch rx x with
  | none => x
  | some p => p.group k ++ p.group l

def as_table (schema table : Text) : Id :=
  ⟨[("schema", some schema), ("table", some table)].filter fun arg => arg.2 ≠ some []⟩

def unquote_one (x : Text) : Id :=
  let schema := Substitute.replaceAll [backtick, backtick] [backtick] (captured 1 2 x)
  let table := Substitute.replaceAll [backtick, backtick] [backtick] (captured 3 4 x)
  as_table schema table

def dbUnquoteIdentifier (x : SQL) : Except Exc Ids :=
  match x.x.find? fun x => (fullMatch rx x).isNone with
  | some bad => .error (.stop ("Can't unquote " ++ String.ofList bad))
  | none => .ok ⟨x.x.map unquote_one, x.names⟩

end Unquoting

end Quote

end RMariaDB
