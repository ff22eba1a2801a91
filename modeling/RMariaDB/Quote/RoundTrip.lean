import RMariaDB.Quote

-- Quoted identifiers and the expression that takes them apart.

namespace RMariaDB.Quote

open Regex Substitute

variable {s t x y : Text} {k : Nat} {p : Parse Char}

section Shapes

-- A doubled text between backticks.
def ticked (t : Text) : Text := backtick :: (doubled backtick t ++ [backtick])

theorem quote_eq (t : Text) : quote t = ticked t := by
  rw [quote, replaceAll_single]
  rfl

theorem ticked_append_inj (h : ticked s ++ x = ticked t ++ y) (hx : x.head? ≠ some backtick)
    (hy : y.head? ≠ some backtick) : s = t ∧ x = y := by
  simp only [ticked, List.cons_append, List.append_assoc, List.cons.injEq, true_and,
    List.nil_append] at h
  exact doubled_append_inj h hx hy

theorem matches_backtick : Matches (.char fun c => c = backtick) [backtick] ⟨[1], []⟩ :=
  .char (decide_eq_true rfl)

theorem matches_letter (a : Char) : ∃ p, Matches letter_rx (code backtick [backtick, backtick] a) p ∧
    p.groups = [] := by
  by_cases ha : a = backtick
  · rw [code, if_pos ha]
    exact ⟨_, .right (.seq matches_backtick matches_backtick), rfl⟩
  · rw [code, if_neg ha]
    exact ⟨_, .left (.char (decide_eq_true ha)), rfl⟩

theorem letter_of_matches (h : Matches letter_rx s p) :
    ∃ a, s = code backtick [backtick, backtick] a ∧ p.groups = [] := by
  cases h with
  | left h =>
      cases h with
      | @char _ a h => exact ⟨a, by rw [code, if_neg (of_decide_eq_true h)], rfl⟩
  | right h =>
      cases h with
      | seq h h' =>
          cases h with
          | char h =>
              cases h' with
              | char h' =>
                  rw [of_decide_eq_true h, of_decide_eq_true h']
                  exact ⟨backtick, by rw [code, if_pos rfl]; rfl, rfl⟩

theorem matches_doubled (h : t ≠ []) :
    ∃ p, Matches (.plus letter_rx) (doubled backtick t) p ∧ p.groups = [] := by
  induction t with
  | nil => exact absurd rfl h
  | cons a t ih =>
      obtain ⟨p, hp, hgroups⟩ := matches_letter a
      by_cases ht : t = []
      · subst ht
        refine ⟨p, .one ?_, hgroups⟩
        rw [doubled, List.flatMap_cons, List.flatMap_nil, List.append_nil]
        exact hp
      · obtain ⟨q, hq, hrest⟩ := ih ht
        refine ⟨_, .more hp hq ?_ (doubled_ne_nil ht), ?_⟩
        · rw [code]
          split
          · exact List.cons_ne_nil _ _
          · exact List.cons_ne_nil _ _
        · rw [Parse.append, hgroups, hrest]
          rfl

theorem doubled_of_matches (h : Matches (.plus letter_rx) s p) :
    ∃ t, t ≠ [] ∧ s = doubled backtick t ∧ p.groups = [] := by
  refine h.plus_induct (P := fun s g => ∃ t, t ≠ [] ∧ s = doubled backtick t ∧ g = []) ?_ ?_
  · intro s p h
    obtain ⟨a, rfl, hgroups⟩ := letter_of_matches h
    exact ⟨[a], List.cons_ne_nil _ _, by simp [doubled], hgroups⟩
  · rintro s p _ _ h ⟨t, -, rfl, rfl⟩
    obtain ⟨a, rfl, hgroups⟩ := letter_of_matches h
    exact ⟨a :: t, List.cons_ne_nil _ _, by simp [doubled], by rw [hgroups]; rfl⟩

theorem matches_quoted (k : Nat) (h : t ≠ []) :
    ∃ p, Matches (quoted_rx k) (ticked t) p ∧ p.groups = [(k, doubled backtick t)] := by
  obtain ⟨p, hp, hgroups⟩ := matches_doubled h
  refine ⟨_, .seq matches_backtick (.seq (.group hp) matches_backtick), ?_⟩
  simp [Parse.append, hgroups]

theorem ticked_of_matches (h : Matches (quoted_rx k) s p) :
    ∃ t, t ≠ [] ∧ s = ticked t ∧ p.groups = [(k, doubled backtick t)] := by
  cases h with
  | seq hopen h =>
      cases hopen with
      | char hopen =>
          cases h with
          | seq h hclose =>
              cases hclose with
              | char hclose =>
                  cases h with
                  | group h =>
                      obtain ⟨t, ht, rfl, hgroups⟩ := doubled_of_matches h
                      rw [of_decide_eq_true hopen, of_decide_eq_true hclose]
                      exact ⟨t, ht, rfl, by simp [Parse.append, hgroups]⟩

-- The other alternative does not begin with a backtick.
theorem plain_head (h : Matches (plain_rx k) s p) :
    ∃ a x, s = a :: x ∧ a ≠ backtick := by
  cases h with
  | group h =>
      refine h.plus_induct (P := fun s _ => ∃ a x, s = a :: x ∧ a ≠ backtick) ?_ ?_
      · intro s p h
        cases h with
        | @char _ a h => exact ⟨a, [], rfl, (of_decide_eq_true h).1⟩
      · rintro s p s' _ h -
        cases h with
        | @char _ a h => exact ⟨a, s', rfl, (of_decide_eq_true h).1⟩

-- What begins with a backtick is quoted.
theorem ticked_of_id (h : Matches (id_rx k) s p) (hhead : (s ++ x).head? = some backtick) :
    ∃ t, t ≠ [] ∧ s = ticked t ∧ p.groups = [(k, doubled backtick t)] := by
  cases h with
  | left h => exact ticked_of_matches h
  | right h =>
      obtain ⟨a, y, rfl, ha⟩ := plain_head h
      exact absurd (Option.some.inj hhead) ha

end Shapes

section Split

theorem id_matches (k : Nat) (h : t ≠ []) :
    ∃ p, Matches (id_rx k) (ticked t) p ∧ p.groups = [(k, doubled backtick t)] := by
  obtain ⟨p, hp, hgroups⟩ := matches_quoted k h
  exact ⟨p, .left hp, hgroups⟩

-- A table alone.
theorem rx_matches_table (h : t ≠ []) :
    ∃ p, Matches rx (ticked t) p ∧ p.groups = [(3, doubled backtick t)] := by
  obtain ⟨p, hp, hgroups⟩ := id_matches 3 h
  refine ⟨_, .seq (s := []) (.left .empty) (.right hp), ?_⟩
  rw [Parse.append, hgroups]
  rfl

theorem rx_matches_schema (hs : s ≠ []) (ht : t ≠ []) :
    ∃ p, Matches rx (ticked s ++ ['.'] ++ ticked t) p ∧
      p.groups = [(1, doubled backtick s), (3, doubled backtick t)] := by
  obtain ⟨p, hp, hgroups⟩ := id_matches 1 hs
  obtain ⟨q, hq, hgroups'⟩ := id_matches 3 ht
  have hdot : Matches (.char fun c => c = '.') ['.'] ⟨[1], []⟩ := .char (decide_eq_true rfl)
  refine ⟨_, .seq (.right (.seq hp hdot)) (.right hq), ?_⟩
  simp [Parse.append, hgroups, hgroups']

-- A text in backticks, followed by nothing or by a dot and another text, is split there only.
theorem rx_splits (h : Matches rx (ticked s ++ x) p) (hx : x.head? ≠ some backtick) :
    (x = [] ∧ p.groups = [(3, doubled backtick s)]) ∨
      ∃ y q, x = '.' :: y ∧ Matches (.alt .empty (id_rx 3)) y q ∧
        p.groups = (1, doubled backtick s) :: q.groups := by
  generalize hz : ticked s ++ x = z at h
  cases h with
  | @seq _ _ z₁ z₂ _ q hschema htable =>
      have hhead : (z₁ ++ z₂).head? = some backtick := by
        rw [← hz]
        rfl
      cases hschema with
      | left hempty =>
          cases hempty
          cases htable with
          | left hempty =>
              cases hempty
              cases hz
          | right htable =>
              obtain ⟨t, -, rfl, hgroups⟩ := ticked_of_id (x := []) htable (by rw [List.append_nil]; exact hhead)
              obtain ⟨rfl, rfl⟩ := ticked_append_inj (y := []) (by rw [hz, List.append_nil]; rfl) hx (by simp)
              exact .inl ⟨rfl, by rw [Parse.append, hgroups]; rfl⟩
      | right hschema =>
          cases hschema with
          | @seq _ _ z₃ z₄ q₁ _ hid hdot =>
              cases hdot with
              | char hdot =>
                  rw [of_decide_eq_true hdot] at hz hhead
                  rw [List.append_assoc] at hz hhead
                  obtain ⟨t, -, rfl, hgroups⟩ := ticked_of_id hid hhead
                  have hdotted : (['.'] ++ z₂).head? ≠ some backtick := by
                    simp [backtick]
                  obtain ⟨rfl, rfl⟩ := ticked_append_inj hz hx hdotted
                  refine .inr ⟨z₂, q, rfl, htable, ?_⟩
                  simp [Parse.append, hgroups]

-- Whatever way the expression matches, it captures the same.
theorem rx_table_unique (h : Matches rx (ticked t) p) : p.groups = [(3, doubled backtick t)] := by
  rw [← List.append_nil (ticked t)] at h
  rcases rx_splits h (by simp) with ⟨-, hgroups⟩ | ⟨y, q, hy, -⟩
  · exact hgroups
  · cases hy

theorem rx_schema_unique (h : Matches rx (ticked s ++ ['.'] ++ ticked t) p) :
    p.groups = [(1, doubled backtick s), (3, doubled backtick t)] := by
  rw [List.append_assoc] at h
  rcases rx_splits h (by simp [backtick]) with ⟨hx, -⟩ | ⟨y, q, hy, htable, hgroups⟩
  · cases hx
  · cases hy
    cases htable with
    | left hempty => cases hempty
    | right htable =>
        obtain ⟨u, -, hu, hcaptured⟩ := ticked_of_id (x := []) htable rfl
        obtain ⟨rfl, -⟩ := ticked_append_inj (x := []) (y := []) (congrArg (· ++ []) hu) (by simp) (by simp)
        rw [hgroups, hcaptured]

end Split

section Identifiers

-- A table, in a schema or not, with names that are not empty.
structure TableName where
  schema : Option { s : Text // s ≠ [] }
  table : { t : Text // t ≠ [] }

def TableName.id (n : TableName) : Id :=
  match n.schema with
  | none => ⟨[("table", some n.table)]⟩
  | some s => ⟨[("schema", some s), ("table", some n.table)]⟩

def TableName.quoted (n : TableName) : Text :=
  match n.schema with
  | none => ticked n.table
  | some s => ticked s ++ ['.'] ++ ticked n.table

def TableName.groups (n : TableName) : List (Nat × Text) :=
  match n.schema with
  | none => [(3, doubled backtick n.table)]
  | some s => [(1, doubled backtick s), (3, doubled backtick n.table)]

variable (n : TableName)

theorem dbQuoteIdentifier_id : dbQuoteIdentifier_Id n.id = .ok n.quoted := by
  obtain ⟨schema, table⟩ := n
  cases schema <;>
    simp [dbQuoteIdentifier_Id, TableName.id, TableName.quoted, unquoted_name,
      dbQuoteIdentifier_character, quote_eq, List.intercalate]

theorem rx_matches_name : ∃ p, Matches rx n.quoted p ∧ p.groups = n.groups := by
  obtain ⟨schema, table⟩ := n
  cases schema with
  | none => exact rx_matches_table table.2
  | some s => exact rx_matches_schema s.2 table.2

theorem rx_unique {p : Parse Char} (h : Matches rx n.quoted p) : p.groups = n.groups := by
  obtain ⟨schema, table⟩ := n
  cases schema with
  | none => exact rx_table_unique h
  | some s => exact rx_schema_unique h

theorem fullMatch_name : ∃ p, fullMatch rx n.quoted = some p ∧ p.groups = n.groups := by
  obtain ⟨p, hp, hgroups⟩ := rx_matches_name n
  obtain ⟨q, hq, hsame⟩ := fullMatch_of_unique hp fun q hq => (rx_unique n hq).trans hgroups.symm
  exact ⟨q, hq, hsame.trans hgroups⟩

theorem unquote_name : unquote_one n.quoted = n.id := by
  obtain ⟨p, hp, hgroups⟩ := fullMatch_name n
  obtain ⟨schema, table⟩ := n
  cases schema with
  | none =>
      have hnone : replaceAll [backtick, backtick] [backtick] [] = [] := rfl
      simp [unquote_one, captured, hp, Parse.group, hgroups, TableName.groups, TableName.id, as_table,
        replaceAll_doubled, hnone, table.2]
  | some s =>
      simp [unquote_one, captured, hp, Parse.group, hgroups, TableName.groups, TableName.id, as_table,
        replaceAll_doubled, s.2, table.2]

theorem unquote_names (ns : List TableName) (labels : Option (List Text)) :
    dbUnquoteIdentifier ⟨ns.map TableName.quoted, labels⟩ = .ok ⟨ns.map TableName.id, labels⟩ := by
  have hgood : (ns.map TableName.quoted).find? (fun x => (fullMatch rx x).isNone) = none := by
    refine List.find?_eq_none.mpr fun x hx => ?_
    obtain ⟨n, -, rfl⟩ := List.mem_map.mp hx
    obtain ⟨p, hp, -⟩ := fullMatch_name n
    simp [hp]
  have hids : ns.map (unquote_one ∘ TableName.quoted) = ns.map TableName.id :=
    List.map_congr_left fun n _ => unquote_name n
  simp only [dbUnquoteIdentifier, hgood, List.map_map, hids]

-- Unquoting takes quoted identifiers apart into what they were made of, in the only way there
-- is, and quoting gives them back.
theorem identifiers_round_trip (ns : List TableName) (labels : Option (List Text)) :
    ∃ x, (ns.map TableName.id).mapM dbQuoteIdentifier_Id = .ok x ∧
      dbUnquoteIdentifier ⟨x, labels⟩ = .ok ⟨ns.map TableName.id, labels⟩ ∧
      (∀ y ∈ x, ∃ id, dbUnquoteIdentifier ⟨[y], none⟩ = .ok ⟨[id], none⟩ ∧
        dbQuoteIdentifier_Id id = .ok y) ∧
      ∀ y ∈ x, ∃ p, Matches rx y p ∧ ∀ q, Matches rx y q → q.groups = p.groups := by
  refine ⟨ns.map TableName.quoted, ?_, unquote_names ns labels, fun y hy => ?_, fun y hy => ?_⟩
  · induction ns with
    | nil => rfl
    | cons n ns ih => simp [dbQuoteIdentifier_id, ih]
  · obtain ⟨n, -, rfl⟩ := List.mem_map.mp hy
    exact ⟨n.id, unquote_names [n] none, dbQuoteIdentifier_id n⟩
  · obtain ⟨n, -, rfl⟩ := List.mem_map.mp hy
    obtain ⟨p, hp, hgroups⟩ := rx_matches_name n
    exact ⟨p, hp, fun q hq => (rx_unique n hq).trans hgroups.symm⟩

end Identifiers

end RMariaDB.Quote
