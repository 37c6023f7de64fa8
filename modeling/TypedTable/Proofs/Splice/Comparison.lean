import TypedTable.Condition
import TypedTable.Proofs.Coercion
import TypedTable.Proofs.Splice.Role
/-!
# Comparisons with random values

`readComparison` takes a condition apart into what it compares. Comparisons do not associate, so a
condition in which one operand has a comparison of its own cannot be read.

The expression that a random value is drawn from is a single operand unless it draws a truth value,
which is done by a comparison (`isOperand_generator_iff`). So a column is compared with a random
value of its own exactly if it holds no truth values or refers to another column
(`readComparison_of_generator`).
-/

namespace TypedTable

/-- Whether a role is that of a part of an operand. -/
def Role.isPart : Role → Bool
  | .operand _ => true
  | .join _ | .not | .compare _ | .test => false

/-- The comparison that a condition is, with its operands. -/
def readComparison (rs : List Role) : Option (List Role × Comparator × List Role) :=
  match rs.dropWhile Role.isPart with
  | .compare o :: right =>
    let left := rs.takeWhile Role.isPart
    if left ≠ [] ∧ right ≠ [] ∧ ∀ r ∈ right, r.isPart then some (left, o, right) else none
  | _ => none

/-- A match of patterns is a part of an operand. -/
example : ((roles "a LIKE b = (c > d)").bind readComparison).map (·.2.1) = some .eq ∧
    (roles "a = b = c").bind readComparison = none := by
  decide

/-! ### What is one operand -/

/-- Whether a text has these lexemes and all of them are parts of one operand. -/
def IsOperand (s : String) (ls : List Lexeme) : Prop := roles s = some (ls.map .operand) ∧ ls ≠ []

theorem isOperand_of_lexemes {s : String} {ls : List Lexeme} (h : lexemes s = some ls)
    (hrun : Place.start.run ls = some (.start, ls.map .operand)) (hne : ls ≠ []) : IsOperand s ls :=
  ⟨roles_eq_some.2 ⟨ls, .start, h, hrun, rfl⟩, hne⟩

theorem isOperand_column (c : Column) : IsOperand c.sql c.name.lexemes :=
  isOperand_of_lexemes (lexemes_column c.name) rfl (List.cons_ne_nil _ _)

theorem isOperand_placeholder {name : String} (h : IsName name) :
    IsOperand (":" ++ name) [.placeholder name] :=
  isOperand_of_lexemes h.lexemes_eq rfl (List.cons_ne_nil _ _)

/-! ### What random values are drawn from -/

theorem isOperand_integer (span : Nat) (low : Int) (width : IntegerWidth) :
    ∃ ls, IsOperand (Generator.integer span low width).sql ls := by
  refine ⟨_, isOperand_of_lexemes (lexemes_integer span low width) ?_ (List.cons_ne_nil _ _)⟩
  cases width <;> split <;> rfl

theorem isOperand_numeric (bound scale : Nat) :
    ∃ ls, IsOperand (Generator.numeric bound scale).sql ls :=
  ⟨_, isOperand_of_lexemes (lexemes_numeric bound scale) rfl (List.cons_ne_nil _ _)⟩

theorem isOperand_characters (length : Nat) :
    ∃ ls, IsOperand (Generator.characters length).sql ls :=
  ⟨_, isOperand_of_lexemes (lexemes_characters length) rfl (List.cons_ne_nil _ _)⟩

theorem isOperand_existing (column : ColumnName) :
    ∃ ls, IsOperand (Generator.existing column).sql ls := by
  have hfront : LexesWhole "(SELECT " [.mark '(', .word "SELECT"] := by decide
  have hmiddle : LexesWhole " FROM " [.word "FROM"] := by decide
  have hback : LexesWhole " ORDER BY RANDOM() LIMIT 1)" [.word "ORDER", .word "BY",
      .word "RANDOM", .mark '(', .mark ')', .word "LIMIT", .number "1", .mark ')'] := by decide
  have hcolumn := lexesWhole_around hfront (lexemes_column column)
    ⟨' ', "FROM ".toList, rfl, by decide⟩ hmiddle
  have hall := (lexesWhole_around hcolumn (lexemes_table column.table)
    ⟨' ', "ORDER BY RANDOM() LIMIT 1)".toList, rfl, by decide⟩ hback).lexemes_eq
  exact ⟨_, isOperand_of_lexemes hall rfl (List.cons_ne_nil _ _)⟩

/-- What a random value is drawn from is one operand, unless it is a truth value. -/
theorem isOperand_generator {g : Generator} (h : g ≠ .boolean) : ∃ ls, IsOperand g.sql ls := by
  cases g with
  | boolean => exact absurd rfl h
  | integer span low width => exact isOperand_integer span low width
  | numeric bound scale => exact isOperand_numeric bound scale
  | date =>
    have hlexemes : LexesWhole Generator.date.sql [.word "CAST", .mark '(', .word "NOW", .mark '(',
        .mark ')', .operator "-", .word "RANDOM", .mark '(', .mark ')', .operator "*",
        .word "INTERVAL", .literal "20 years", .word "AS", .word "DATE", .mark ')'] := by decide
    exact ⟨_, isOperand_of_lexemes hlexemes.lexemes_eq rfl (List.cons_ne_nil _ _)⟩
  | timestamp =>
    have hlexemes : lexemes Generator.timestamp.sql = some [.word "NOW", .mark '(', .mark ')',
        .operator "-", .word "RANDOM", .mark '(', .mark ')', .operator "*", .word "INTERVAL",
        .literal "20 years"] := by decide
    exact ⟨_, isOperand_of_lexemes hlexemes rfl (List.cons_ne_nil _ _)⟩
  | characters length => exact isOperand_characters length
  | existing column => exact isOperand_existing column

theorem isPart_of_mem_map {ls : List Lexeme} : ∀ r ∈ ls.map Role.operand, r.isPart = true := by
  intro r hr
  obtain ⟨l, -, rfl⟩ := List.mem_map.1 hr
  rfl

/-- A truth value is drawn by a comparison. -/
theorem exists_roles_boolean :
    ∃ rs, roles Generator.boolean.sql = some rs ∧ ¬∀ r ∈ rs, r.isPart = true :=
  ⟨_, rfl, by decide⟩

/-- What a random value is drawn from is one operand exactly if it is no truth value. -/
theorem isOperand_generator_iff {g : Generator} : (∃ ls, IsOperand g.sql ls) ↔ g ≠ .boolean := by
  refine ⟨?_, isOperand_generator⟩
  rintro ⟨ls, hls, -⟩ rfl
  obtain ⟨rs, hrs, hcompare⟩ := exists_roles_boolean
  obtain rfl := Option.some.inj (hrs.symm.trans hls)
  exact hcompare isPart_of_mem_map

/-! ### Comparing -/

/-- What stands in front of the first comparison is its left operand. -/
theorem readComparison_append (ls : List Lexeme) (o : Comparator) (rs : List Role) :
    readComparison (ls.map .operand ++ .compare o :: rs) =
      if ls ≠ [] ∧ rs ≠ [] ∧ ∀ r ∈ rs, r.isPart then some (ls.map .operand, o, rs) else none := by
  have hstop : ¬(Role.compare o).isPart = true := Bool.false_ne_true
  rw [readComparison, List.dropWhile_append_of_pos isPart_of_mem_map,
    List.takeWhile_append_of_pos isPart_of_mem_map, List.dropWhile_cons_of_neg hstop,
    List.takeWhile_cons_of_neg hstop, List.append_nil]
  simp only [ne_eq, List.map_eq_nil_iff]

theorem compare_sql (column : Column) (o : Comparator) (operand : Operand) :
    (Predicate.compare column o operand).sql =
      column.sql ++ (" " ++ o.sql ++ " ") ++ operand.sql column o := by
  simp only [Predicate.sql, String.append_assoc]

/-- The check of a comparison takes a random value as it is. -/
theorem checkComparison_random {r : ColumnRef} {c : Column} (hr : r.resolve = .ok c)
    {o : Comparator} (ho : o ≠ .like) (sql : String) (next : Nat) :
    Condition.checkComparison o r (.value (.random sql)) next =
      (.ok (.compare c o (.random sql)), next) := by
  have hpattern : c.checkPattern o = .ok () := if_neg fun h => ho h.1
  have hvalid : c.validate (.random sql) = .ok (.random sql) := Column.validate_eq_random.2 rfl
  have hoperand : c.operand (.random sql) next = (.ok (.random sql), next) := by
    rw [Column.operand, hvalid]
  simp only [Condition.checkComparison, hr, Comparand.resolve, bind, Except.bind, hpattern,
    pure, Except.pure, hoperand, Except.map]

/-- Integers are no truth values. -/
theorem SqlType.integers_ne_boolean (t : SqlType) (width : IntegerWidth) :
    t.integers width ≠ .boolean :=
  nofun

/-- Only a column of truth values draws them. -/
theorem generator_eq_boolean_iff {c : Column} {g : Generator} (h : c.generator = .ok g) :
    g = .boolean ↔ c.type = .boolean ∧ c.foreignKey = none := by
  unfold Column.generator at h
  cases hkey : c.foreignKey with
  | some target =>
    rw [hkey] at h
    cases h
    simp
  | none =>
    rw [hkey] at h
    cases htype : c.type with
    | text =>
      rw [htype] at h
      exact (nomatch h)
    | _ =>
      rw [htype] at h
      cases h
      simp [SqlType.integers_ne_boolean]

/-- A column is compared with a random value of its own exactly if it holds no truth values or
refers to another column. Otherwise the comparison cannot be read. -/
theorem readComparison_of_generator {c : Column} {g : Generator} (hg : c.generator = .ok g)
    {o : Comparator} (ho : o ≠ .like) :
    ∃ left right, roles c.sql = some left ∧ roles g.sql = some right ∧
      (roles (Predicate.compare c o (.random g.sql)).sql).bind readComparison =
        if c.type = .boolean ∧ c.foreignKey = none then none else some (left, o, right) := by
  have hrole : o.role = .compare o := by cases o <;> first | rfl | exact absurd rfl ho
  obtain ⟨hcolumn, hne⟩ := isOperand_column c
  have hread : ∀ {right}, roles g.sql = some right →
      (roles (Predicate.compare c o (.random g.sql)).sql).bind readComparison =
        if right ≠ [] ∧ ∀ r ∈ right, r.isPart then some (c.name.lexemes.map .operand, o, right)
        else none := by
    intro right hright
    rw [compare_sql, Operand.sql, roles_compare o hcolumn hright, Option.bind_some, hrole,
      readComparison_append]
    simp only [ne_eq, hne, not_false_eq_true, true_and]
  by_cases hboolean : g = .boolean
  · subst hboolean
    obtain ⟨right, hright, hcompare⟩ := exists_roles_boolean
    refine ⟨_, right, hcolumn, hright, ?_⟩
    rw [hread hright, if_neg fun h => hcompare h.2, if_pos ((generator_eq_boolean_iff hg).1 rfl)]
  · obtain ⟨ls, hright, hright_ne⟩ := isOperand_generator hboolean
    refine ⟨_, _, hcolumn, hright, ?_⟩
    rw [hread hright, if_pos ⟨fun h => hright_ne (List.map_eq_nil_iff.1 h), isPart_of_mem_map⟩,
      if_neg fun h => hboolean ((generator_eq_boolean_iff hg).2 h)]

end TypedTable
