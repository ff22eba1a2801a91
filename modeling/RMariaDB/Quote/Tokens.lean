import RMariaDB.Lib.Quoted
import RMariaDB.Quote.RoundTrip

-- The tokens that the server reads from a quoted identifier.

namespace RMariaDB.Quote

open Substitute

section Tokens

-- A backtick inside is written twice; there is no escape character.
def identifierRules : Quoted.Rules Char := { mark := backtick }

-- Identifiers in backticks with dots between them, and nothing else
def tokens (x : Text) : Option (List Text) := Quoted.list identifierRules '.' x

theorem encodes_backtick (a : Char) :
    Quoted.Encodes identifierRules a (code backtick [backtick, backtick] a) := by
  have hescape (b : Char) : identifierRules.escape ≠ some b := by
    intro h
    cases h
  by_cases ha : a = backtick
  · rw [code, if_pos ha, ha]
    exact .doubled (hescape _)
  · rw [code, if_neg ha]
    exact .plain ha (hescape a)

theorem tokens_ticked {names : List Text} (h : ∀ t ∈ names, t ≠ []) :
    tokens (['.'].intercalate (names.map ticked)) = some names := by
  have hescape : identifierRules.escape ≠ some identifierRules.mark := by
    intro h
    cases h
  have hsep : '.' ≠ identifierRules.mark := by decide
  exact Quoted.list_quoted (doubled backtick) hescape hsep fun t ht =>
    ⟨Quoted.content_flatMap fun a _ => encodes_backtick a, h t ht⟩

end Tokens

section Reading

-- What the server makes of a quoted identifier
def ReadAs (x : Id) (names : List Text) : Prop :=
  ∃ text, dbQuoteIdentifier_Id x = .ok text ∧ tokens text = some names

-- The components behind the catalog
def kept (names : List Text) : List Text :=
  match names with
  | [first, second, third] => if first = "def".toList then [second, third] else names
  | _ => names

variable {x : Id} {names : List Text}

theorem unquoted_name_kept (h : x.name.map Prod.snd = names.map some) :
    unquoted_name x = .ok ((kept names).map some) := by
  rw [unquoted_name, h]
  rcases names with _ | ⟨first, _ | ⟨second, _ | ⟨third, _ | ⟨fourth, more⟩⟩⟩⟩
  case cons.cons.cons.nil =>
    simp only [List.map_cons, List.map_nil, kept]
    split <;> rfl
  all_goals rfl

theorem kept_subset : ∀ t ∈ kept names, t ∈ names := by
  intro t ht
  unfold kept at ht
  split at ht
  · split at ht
    · exact List.mem_cons_of_mem _ ht
    · exact ht
  · exact ht

theorem dbQuoteIdentifier_kept (h : x.name.map Prod.snd = names.map some) :
    dbQuoteIdentifier_Id x = .ok (['.'].intercalate ((kept names).map ticked)) := by
  have hall : ((kept names).map some).mapM id = some (kept names) := by
    rw [List.mapM_map]
    exact List.mapM_pure.trans (congrArg some (List.map_id _))
  have hquoted : (kept names).map quote = (kept names).map ticked :=
    List.map_congr_left fun t _ => quote_eq t
  simp only [dbQuoteIdentifier_Id, unquoted_name_kept h, dbQuoteIdentifier_character, hall, hquoted,
    bind, Except.bind, pure, Except.pure]

theorem read_iff {read : List Text} (h : x.name.map Prod.snd = names.map some)
    (hnames : ∀ t ∈ names, t ≠ []) : ReadAs x read ↔ read = kept names := by
  have htokens := tokens_ticked fun t ht => hnames t (kept_subset t ht)
  constructor
  · rintro ⟨text, htext, hread⟩
    cases (dbQuoteIdentifier_kept h).symm.trans htext
    exact Option.some.inj (hread.symm.trans htokens)
  · rintro rfl
    exact ⟨_, dbQuoteIdentifier_kept h, htokens⟩

theorem kept_ne_iff : kept names ≠ names ↔ ∃ second third, names = ["def".toList, second, third] := by
  constructor
  · intro h
    unfold kept at h
    split at h
    · next first second third =>
        split at h
        · next hfirst => exact ⟨second, third, by rw [hfirst]⟩
        · exact absurd rfl h
    · exact absurd rfl h
  · rintro ⟨second, third, rfl⟩ h
    exact absurd (congrArg List.length h) (by simp [kept])

end Reading

section Components

-- A text that is not empty and has no NUL
abbrev Component := { t : Text // t ≠ [] ∧ Char.ofNat 0 ∉ t }

-- Id() with any of these components, in this order
structure Components where
  schema : Option Component := none
  table : Option Component := none
  column : Option Component := none

namespace Components

variable (n : Components)

def labelled : List (String × Component) :=
  [("schema", n.schema), ("table", n.table), ("column", n.column)].filterMap fun c =>
    c.2.map (Prod.mk c.1)

def id : Id := ⟨n.labelled.map fun c => (c.1, some c.2.1)⟩

def names : List Text := n.labelled.map fun c => c.2.1

-- A schema with the catalog's name, before a table and a column
def Catalogued : Prop :=
  n.schema.map Subtype.val = some "def".toList ∧ n.table.isSome ∧ n.column.isSome

theorem id_components : n.id.name.map Prod.snd = n.names.map some := by
  simp [id, names, Function.comp_def]

theorem names_ne_nil : ∀ t ∈ n.names, t ≠ [] := by
  intro t ht
  obtain ⟨c, -, rfl⟩ := List.mem_map.mp ht
  exact c.2.2.1

theorem catalogued_iff :
    n.Catalogued ↔ ∃ second third, n.names = ["def".toList, second, third] := by
  obtain ⟨schema, table, column⟩ := n
  cases schema <;> cases table <;> cases column <;> simp [Catalogued, names, labelled]

end Components

-- Id() with components that have no labels
def unlabelled (components : List Component) : Id :=
  ⟨components.map fun t => ("", some t.1)⟩

-- The components of an identifier are read back from it unless a schema is taken for the
-- catalog. The catalog itself is left out.
theorem identifier_components (n : Components) (s t : Component) :
    (ReadAs n.id n.names ↔ ¬n.Catalogued) ∧
      ReadAs (unlabelled [⟨"def".toList, by decide⟩, s, t]) [s.1, t.1] := by
  constructor
  · rw [read_iff n.id_components n.names_ne_nil, n.catalogued_iff, ← kept_ne_iff, not_not]
    exact eq_comm
  · have hnames : (unlabelled [⟨"def".toList, by decide⟩, s, t]).name.map Prod.snd =
        ["def".toList, s.1, t.1].map some := rfl
    refine (read_iff hnames ?_).mpr rfl
    intro u hu
    simp only [List.mem_cons, List.not_mem_nil, or_false] at hu
    rcases hu with rfl | rfl | rfl
    · decide
    · exact s.2.1
    · exact t.2.1

-- Id(schema = "def", table = "t", column = "c")
theorem schema_named_def_is_lost :
    let n : Components :=
      { schema := some ⟨"def".toList, by decide⟩, table := some ⟨"t".toList, by decide⟩,
        column := some ⟨"c".toList, by decide⟩ }
    ReadAs n.id ["t".toList, "c".toList] ∧ ¬ReadAs n.id n.names := by
  intro n
  rw [read_iff n.id_components n.names_ne_nil, read_iff n.id_components n.names_ne_nil]
  exact ⟨by decide, by decide⟩

end Components

end RMariaDB.Quote
