import TypedTable.Clauses
import TypedTable.Proofs.Splice.Comparison
import TypedTable.Proofs.Splice.Formula
/-!
# Fragments among other conditions

A fragment of SQL that is a condition by itself (`Predicate.IsComplete`) is put between others as it
is. All predicates but fragments are single operands (`Predicate.IsComplete.reads`), so they stay
together wherever they are put. A fragment need not: what its weakest connective binds is pulled
apart by a stronger one next to it, and by a NOT in front of it.

`spliced_reads` says of every place where text is spliced what the server makes of it. Filters and
the parts of conjunctions and disjunctions are taken together exactly if their formulas fit
(`JoinsAs`), what is negated is negated exactly if it binds as strongly as a negation, and a random
value is compared exactly if it is no truth value. `condition_reads_loose` runs into each of the
exceptions.
-/

namespace TypedTable

open Formula

/-- Whether all text in a predicate that is taken as it is, is a condition or an operand by
itself. -/
inductive Predicate.IsComplete : Predicate → Prop
  | compare (column : Column) (o : Comparator) {operand : Operand}
      (h : ∀ sql, operand = .random sql → ∃ ls, IsOperand sql ls) :
      Predicate.IsComplete (.compare column o operand)
  | isNull (column : Column) : Predicate.IsComplete (.isNull column)
  | isNotNull (column : Column) : Predicate.IsComplete (.isNotNull column)
  | all {parts : List Predicate} (h : ∀ p ∈ parts, Predicate.IsComplete p) :
      Predicate.IsComplete (.all parts)
  | any {parts : List Predicate} (h : ∀ p ∈ parts, Predicate.IsComplete p) :
      Predicate.IsComplete (.any parts)
  | not {part : Predicate} (h : Predicate.IsComplete part) : Predicate.IsComplete (.not part)
  | raw {sql : String} (params : Params) (h : ∃ f, readText sql = some f) :
      Predicate.IsComplete (.raw sql params)

/-- What texts with a connective between any two of them are read as: the text of all is joined from
those that it was put together from exactly if they fit, and comes to all of them taken together if
none binds less strongly than the connective. -/
def JoinsAs (c : Connective) (texts : List String) (text : String) : Prop :=
  ∃ fs f, List.Forall₂ (fun s g => readText s = some g) texts fs ∧ readText text = some f ∧
    (f = joined c fs ↔ Fits c fs) ∧
      ((∀ g ∈ fs, c.strength ≤ g.strength) → ∀ σ, f.truth σ = c.fold (fs.map (truth σ)))

/-! ### Joining and negating texts -/

/-- A text that is read has roles that are. -/
theorem exists_roles {s : String} {f : Formula} (h : readText s = some f) :
    ∃ rs, roles s = some rs ∧ readRoles rs = some f :=
  Option.bind_eq_some_iff.1 h

theorem readText_of_roles {s : String} {rs : List Role} (h : roles s = some rs) :
    readText s = readRoles rs := by
  rw [readText, h, Option.bind_some]

theorem roles_separated (c : Connective) {texts : List String} {rss : List (List Role)}
    (h : List.Forall₂ (fun s rs => roles s = some rs) texts rss) (hne : texts ≠ []) :
    roles (Text.separated (" " ++ c.word ++ " ") texts) = some (Role.joined c rss) := by
  induction h with
  | nil => exact absurd rfl hne
  | @cons s rs texts rss hs hrest ih =>
    cases hrest with
    | nil =>
      rw [Role.joined, List.flatMap_nil, List.append_nil]
      exact hs
    | @cons s' rs' texts rss hs' hrest =>
      rw [Role.joined_cons_cons]
      exact roles_join c hs (ih (List.cons_ne_nil _ _))

/-- Texts that are read have roles that are read as well. -/
theorem exists_forall₂_roles {texts : List String} (h : ∀ s ∈ texts, ∃ f, readText s = some f) :
    ∃ rss fs, List.Forall₂ (fun s rs => roles s = some rs) texts rss ∧
      List.Forall₂ (fun rs f => readRoles rs = some f) rss fs ∧
      List.Forall₂ (fun s f => readText s = some f) texts fs := by
  induction texts with
  | nil => exact ⟨[], [], .nil, .nil, .nil⟩
  | cons s texts ih =>
    obtain ⟨⟨f, hf⟩, hrest⟩ := List.forall_mem_cons.1 h
    obtain ⟨rs, hrs, hread⟩ := exists_roles hf
    obtain ⟨rss, fs, hroles, hreads, htexts⟩ := ih hrest
    exact ⟨rs :: rss, f :: fs, .cons hrs hroles, .cons hread hreads, .cons hf htexts⟩

theorem joinsAs_separated (c : Connective) {texts : List String}
    (h : ∀ s ∈ texts, ∃ f, readText s = some f) (hne : texts ≠ []) :
    JoinsAs c texts (Text.separated (" " ++ c.word ++ " ") texts) := by
  obtain ⟨rss, fs, hroles, hreads, htexts⟩ := exists_forall₂_roles h
  have hrss : rss ≠ [] := by
    rintro rfl
    exact hne (List.forall₂_nil_right_iff.1 hroles)
  obtain ⟨f, hf, hjoined, htruth⟩ := readRoles_joined c hreads hrss
  refine ⟨fs, f, htexts, ?_, hjoined, htruth⟩
  rw [readText_of_roles (roles_separated c hroles hne), hf]

/-- A text behind a NOT is read, and as negated exactly if it binds at least as strongly as a
negation. -/
theorem readText_not {s : String} {f : Formula} (h : readText s = some f) :
    ∃ f', readText ("NOT " ++ s) = some f' ∧ (f' = .not f ↔ negationStrength ≤ f.strength) := by
  obtain ⟨rs, hrs, hread⟩ := exists_roles h
  obtain ⟨f', hf', hnegated⟩ := readRoles_not hread
  refine ⟨f', ?_, hnegated⟩
  rw [readText_of_roles (roles_not hrs), hf']

/-! ### Predicates that are one operand -/

/-- What begins with an operand and has no connectives is one operand. -/
theorem readText_operand {s : String} {ls : List Lexeme} {rs : List Role} (hls : ls ≠ [])
    (h : roles s = some (ls.map .operand ++ rs)) (hnone : ∀ c, .join c ∉ rs) :
    readText s = some (.operand (ls.map .operand ++ rs)) := by
  have hall : ∀ c, .join c ∉ ls.map Role.operand ++ rs := by
    intro c hc
    obtain hc | hc := List.mem_append.1 hc
    · exact absurd (isPart_of_mem_map _ hc) Bool.false_ne_true
    · exact hnone c hc
  rw [readText_of_roles h, readRoles_of_not_mem hall]
  cases ls with
  | nil => exact absurd rfl hls
  | cons l ls => rfl

/-- Whatever is read is one operand in brackets. -/
theorem readText_brackets {s : String} {f : Formula} (h : readText s = some f) :
    ∃ rs, readText ("(" ++ s ++ ")") = some (.operand rs) := by
  obtain ⟨rs, hrs, -⟩ := exists_roles h
  obtain ⟨ls, hls⟩ := roles_brackets hrs
  exact ⟨_, readText_operand (List.cons_ne_nil (.mark '(') []) hls (by simp)⟩

theorem group_sql (c : Connective) {texts : List String} (hne : texts ≠ []) :
    Predicate.group c.word c.unitWord texts =
      "(" ++ Text.separated (" " ++ c.word ++ " ") texts ++ ")" := by
  cases texts with
  | nil => exact absurd rfl hne
  | cons s texts => rfl

theorem readText_group (c : Connective) {texts : List String}
    (h : ∀ s ∈ texts, ∃ f, readText s = some f) :
    ∃ rs, readText (Predicate.group c.word c.unitWord texts) = some (.operand rs) := by
  by_cases hne : texts = []
  · subst hne
    have hunit : ∃ f, readText c.unitWord = some f :=
      Option.isSome_iff_exists.1 (by cases c <;> decide)
    obtain ⟨f, hf⟩ := hunit
    exact readText_brackets hf
  · obtain ⟨fs, f, -, hf, -⟩ := joinsAs_separated c h hne
    rw [group_sql c hne]
    exact readText_brackets hf

namespace Predicate

/-- The predicate that takes parts together. -/
def joining : Connective → List Predicate → Predicate
  | .and => all
  | .or => any

theorem joining_sql (c : Connective) (parts : List Predicate) :
    (joining c parts).sql = group c.word c.unitWord (parts.map sql) := by
  cases c <;> rw [joining, sql, sqlList_eq_map] <;> rfl

theorem readText_joining (c : Connective) {parts : List Predicate}
    (h : ∀ p ∈ parts, ∃ f, readText p.sql = some f) :
    ∃ rs, readText (joining c parts).sql = some (.operand rs) := by
  rw [joining_sql]
  exact readText_group c (List.forall_mem_map.2 h)

theorem readText_compare (column : Column) (o : Comparator) {operand : Operand}
    (h : ∀ sql, operand = .random sql → ∃ ls, IsOperand sql ls) :
    ∃ rs, readText (compare column o operand).sql = some (.operand rs) := by
  obtain ⟨ls, hls, -⟩ : ∃ ls, IsOperand (operand.sql column o) ls := by
    cases operand with
    | bound number v => exact ⟨_, isOperand_placeholder (isName_boundName column o number)⟩
    | column c => exact ⟨_, isOperand_column c⟩
    | random sql => exact h sql rfl
  obtain ⟨hcolumn, hne⟩ := isOperand_column column
  have hroles := roles_compare o hcolumn hls
  rw [← compare_sql] at hroles
  refine ⟨_, readText_operand hne hroles fun c hc => ?_⟩
  obtain hc | hc := List.mem_cons.1 hc
  · cases o <;> exact (nomatch hc)
  · exact absurd (isPart_of_mem_map _ hc) Bool.false_ne_true

theorem readText_test (column : Column) {test : String} {rs : List Role}
    (h : roles test = some rs) (hnone : ∀ c, .join c ∉ rs) :
    ∃ rs, readText (column.sql ++ " IS " ++ test) = some (.operand rs) := by
  obtain ⟨hcolumn, hne⟩ := isOperand_column column
  refine ⟨_, readText_operand hne (roles_is hcolumn h) fun c hc => ?_⟩
  obtain hc | hc := List.mem_cons.1 hc
  · exact (nomatch hc)
  · exact hnone c hc

theorem readText_isNull (column : Column) :
    ∃ rs, readText (isNull column).sql = some (.operand rs) := by
  have hnull : roles "NULL" = some [.operand (.word "NULL")] := by decide
  have htext : (isNull column).sql = column.sql ++ " IS " ++ "NULL" := by
    rw [sql, String.append_assoc]
    rfl
  rw [htext]
  exact readText_test column hnull (by simp)

theorem readText_isNotNull (column : Column) :
    ∃ rs, readText (isNotNull column).sql = some (.operand rs) := by
  have hnull : roles "NOT NULL" = some [.not, .operand (.word "NULL")] := by decide
  have htext : (isNotNull column).sql = column.sql ++ " IS " ++ "NOT NULL" := by
    rw [sql, String.append_assoc]
    rfl
  rw [htext]
  exact readText_test column hnull (by simp)

theorem not_sql (part : Predicate) : (not part).sql = "(" ++ ("NOT " ++ part.sql) ++ ")" := by
  rw [sql, ← String.append_assoc]
  rfl

/-- A complete predicate is read, and is one operand unless it is a fragment. -/
theorem IsComplete.reads {p : Predicate} (h : p.IsComplete) :
    ∃ f, readText p.sql = some f ∧
      ((∀ sql params, p ≠ .raw sql params) → ∃ rs, f = .operand rs) := by
  have hoperand : ∀ {q : Predicate}, (∃ rs, readText q.sql = some (.operand rs)) →
      ∃ f, readText q.sql = some f ∧
        ((∀ sql params, q ≠ .raw sql params) → ∃ rs, f = .operand rs) :=
    fun ⟨rs, hrs⟩ => ⟨_, hrs, fun _ => ⟨rs, rfl⟩⟩
  induction h with
  | compare column o h => exact hoperand (readText_compare column o h)
  | isNull column => exact hoperand (readText_isNull column)
  | isNotNull column => exact hoperand (readText_isNotNull column)
  | all _ ih =>
    exact hoperand (readText_joining .and fun p hp => (ih p hp).imp fun _ hf => hf.1)
  | any _ ih =>
    exact hoperand (readText_joining .or fun p hp => (ih p hp).imp fun _ hf => hf.1)
  | @not part _ ih =>
    obtain ⟨f, hf, -⟩ := ih
    obtain ⟨f', hf', -⟩ := readText_not hf
    refine hoperand ?_
    rw [not_sql]
    exact readText_brackets hf'
  | raw params h =>
    obtain ⟨f, hf⟩ := h
    exact ⟨f, hf, fun hraw => absurd rfl (hraw _ params)⟩

/-- A comparison of a column with a random value of its own is complete unless this is a truth
value. -/
theorem isComplete_random_iff {c : Column} {g : Generator} (hg : c.generator = .ok g)
    (o : Comparator) : (compare c o (.random g.sql)).IsComplete ↔
      ¬(c.type = .boolean ∧ c.foreignKey = none) := by
  rw [← generator_eq_boolean_iff hg, ← ne_eq, ← isOperand_generator_iff]
  constructor
  · intro h
    cases h with
    | compare _ _ h => exact h _ rfl
  · intro h
    refine .compare c o fun sql hsql => ?_
    cases hsql
    exact h

theorem exists_readText {parts : List Predicate} (h : ∀ p ∈ parts, p.IsComplete) :
    ∀ s ∈ parts.map sql, ∃ f, readText s = some f := by
  refine List.forall_mem_map.2 fun p hp => ?_
  obtain ⟨f, hf, -⟩ := (h p hp).reads
  exact ⟨f, hf⟩

end Predicate

/-! ### All places -/

/-- What the server makes of text that is spliced.

* Filters are taken together by AND, and the parts of a group by its connective in brackets. They
  are read as they were put together exactly if their formulas fit, and come to all of them taken
  together if none binds less strongly than the connective.
* A predicate behind a NOT is read as negated exactly if it is no conjunction and no disjunction.
* A comparison of a column with a random value of its own compares the two, and can be put among
  other conditions, exactly if the column draws no truth values. Otherwise it cannot be read. -/
theorem spliced_reads (t : Tail) (c : Connective) (parts : List Predicate) (part : Predicate)
    (r : ColumnRef) (column : Column) (g : Generator) (o : Comparator) (next : Nat) :
    (t.filters ≠ [] → (∀ p ∈ t.filters, p.IsComplete) →
      ∃ text, t.condition = ["WHERE " ++ text] ∧
        JoinsAs .and (t.filters.map Predicate.sql) text) ∧
    (parts ≠ [] → (∀ p ∈ parts, p.IsComplete) →
      ∃ text, (Predicate.joining c parts).sql = "(" ++ text ++ ")" ∧
        JoinsAs c (parts.map Predicate.sql) text) ∧
    (part.IsComplete →
      ∃ text f f', (Predicate.not part).sql = "(" ++ text ++ ")" ∧ readText part.sql = some f ∧
        readText text = some f' ∧ (f' = .not f ↔ negationStrength ≤ f.strength)) ∧
    (r.resolve = .ok column → column.generator = .ok g → o ≠ .like →
      ∃ p left right,
        (Condition.check next (.compare o r (.value (.random g.sql)))).1 = .ok p ∧
          (p.IsComplete ↔ ¬(column.type = .boolean ∧ column.foreignKey = none)) ∧
          roles column.sql = some left ∧ roles g.sql = some right ∧
          (roles p.sql).bind readComparison =
            if column.type = .boolean ∧ column.foreignKey = none then none
            else some (left, o, right)) := by
  refine ⟨fun hne hfilters => ?_, fun hne hparts => ?_, fun hpart => ?_, fun hr hg ho => ?_⟩
  · have hcondition : t.condition =
        ["WHERE " ++ Text.separated " AND " (t.filters.map Predicate.sql)] := by
      unfold Tail.condition
      split
      · next hnil => exact absurd hnil hne
      · rfl
    exact ⟨_, hcondition, joinsAs_separated .and (Predicate.exists_readText hfilters)
      (fun hnil => hne (List.map_eq_nil_iff.1 hnil))⟩
  · have htexts : parts.map Predicate.sql ≠ [] := fun hnil => hne (List.map_eq_nil_iff.1 hnil)
    refine ⟨_, ?_, joinsAs_separated c (Predicate.exists_readText hparts) htexts⟩
    rw [Predicate.joining_sql, group_sql c htexts]
  · obtain ⟨f, hf, -⟩ := hpart.reads
    obtain ⟨f', hf', hnegated⟩ := readText_not hf
    exact ⟨_, f, f', Predicate.not_sql part, hf, hf', hnegated⟩
  · obtain ⟨left, right, hleft, hright, hread⟩ := readComparison_of_generator hg ho
    refine ⟨_, left, right, ?_, Predicate.isComplete_random_iff hg o, hleft, hright, hread⟩
    rw [Condition.check, checkComparison_random hr ho]

/-! ### A disjunction without brackets and a random truth value -/

namespace Loose

/-- A table with a column of truth values. -/
def table : TableName := ⟨⟨"theatre", by decide, by decide⟩, ⟨"places", by decide, by decide⟩⟩

def taken : Column where
  name := ⟨table, ⟨"taken", by decide, by decide⟩⟩
  type := .boolean
  primaryKey := false
  unique := false
  notNull := false
  default := none
  foreignKey := none

def schema : Schema where
  table := table
  columns := [taken]
  table_eq := by decide
  nodup := by decide

/-- A condition of two. -/
def disjunction : Predicate := .raw "1 = 1 OR 1 = 1" .empty

/-- A query with a filter that holds and one that does not. -/
def tail : Tail where
  joins := []
  filters := [disjunction, .raw "1 = 2" .empty]
  order := none
  limit := none
  offset := none

/-- The operand that equates two numbers. -/
def equation (m n : String) : List Role :=
  [.operand (.number m), .compare .eq, .operand (.number n)]

/-- Which of the equations hold. -/
def holds (rs : List Role) : Truth := .ofBool (rs = equation "1" "1")

/-- What the filters are by themselves. -/
def formulas : List Formula :=
  [.join .or (.operand (equation "1" "1")) (.operand (equation "1" "1")),
    .operand (equation "1" "2")]

theorem readText_filters : List.Forall₂ (fun s g => readText s = some g)
    (tail.filters.map Predicate.sql) formulas :=
  .cons (by decide) (.cons (by decide) .nil)

theorem eq_formulas {fs : List Formula}
    (h : List.Forall₂ (fun s g => readText s = some g) (tail.filters.map Predicate.sql) fs) :
    fs = formulas := by
  have hunique : Relator.RightUnique fun s g => readText s = some g := fun _ _ _ hf hg =>
    Option.some.inj (hf.symm.trans hg)
  exact hunique.forall₂ h readText_filters

/-- The second filter is taken to the last equation of the first one. -/
theorem readText_condition : readText "1 = 1 OR 1 = 1 AND 1 = 2" =
    some (.join .or (.operand (equation "1" "1"))
      (.join .and (.operand (equation "1" "1")) (.operand (equation "1" "2")))) := by
  decide

theorem isComplete_of_mem : ∀ p ∈ tail.filters, p.IsComplete := by
  obtain _ | ⟨hfirst, _ | ⟨hsecond, -⟩⟩ := readText_filters
  exact List.forall_mem_cons.2 ⟨.raw .empty ⟨_, hfirst⟩,
    List.forall_mem_cons.2 ⟨.raw .empty ⟨_, hsecond⟩, nofun⟩⟩

/-- One of the filters does not hold and the condition does. As parts of a disjunction they are read
as they are meant, but the first one is not negated as a whole, and a column of truth values cannot
be compared with a random one. -/
theorem condition_reads_loose :
    (∀ p ∈ tail.filters, p.IsComplete) ∧
      (∃ text fs f, tail.condition = ["WHERE " ++ text] ∧
        List.Forall₂ (fun s g => readText s = some g) (tail.filters.map Predicate.sql) fs ∧
        readText text = some f ∧ f ≠ joined .and fs ∧ f.truth holds = .yes ∧
        Truth.all (fs.map (truth holds)) = .no) ∧
      (∃ text fs, (Predicate.any tail.filters).sql = "(" ++ text ++ ")" ∧
        List.Forall₂ (fun s g => readText s = some g) (tail.filters.map Predicate.sql) fs ∧
        readText text = some (joined .or fs)) ∧
      (∃ text f f', (Predicate.not disjunction).sql = "(" ++ text ++ ")" ∧
        readText disjunction.sql = some f ∧ readText text = some f' ∧ f' ≠ .not f) ∧
      ∃ p, (Condition.check 0 (.compare .eq ⟨schema, "taken"⟩
          (.value (.random Generator.boolean.sql)))).1 = .ok p ∧
        ¬p.IsComplete ∧ (roles p.sql).bind readComparison = none := by
  obtain ⟨hfilters, hparts, hnegated, hrandom⟩ := spliced_reads tail .or tail.filters disjunction
    ⟨schema, "taken"⟩ taken .boolean .eq 0
  have hne : tail.filters ≠ [] := List.cons_ne_nil _ _
  refine ⟨isComplete_of_mem, ?_, ?_, ?_, ?_⟩
  · obtain ⟨text, htext, fs, f, hfs, hf, hjoined, -⟩ := hfilters hne isComplete_of_mem
    obtain rfl := eq_formulas hfs
    refine ⟨text, _, f, htext, hfs, hf, hjoined.not.2 fun hfits => ?_, ?_, by decide⟩
    · exact absurd hfits.1 (by decide)
    · have hcondition : tail.condition = ["WHERE " ++ "1 = 1 OR 1 = 1 AND 1 = 2"] := by decide
      rw [hcondition, List.singleton_inj, String.append_right_inj] at htext
      subst htext
      obtain rfl := Option.some.inj (readText_condition.symm.trans hf)
      decide
  · obtain ⟨text, htext, fs, f, hfs, hf, hjoined, -⟩ := hparts hne isComplete_of_mem
    obtain rfl := eq_formulas hfs
    have hfits : Fits .or formulas :=
      ⟨by decide, List.forall_mem_cons.2 ⟨by decide, nofun⟩⟩
    rw [hjoined.2 hfits] at hf
    exact ⟨text, _, htext, hfs, hf⟩
  · obtain ⟨text, f, f', htext, hf, hf', hiff⟩ :=
      hnegated (isComplete_of_mem disjunction List.mem_cons_self)
    obtain _ | ⟨hfirst, -⟩ := readText_filters
    obtain rfl := Option.some.inj (hfirst.symm.trans hf)
    exact ⟨text, _, f', htext, hf, hf', hiff.not.2 (by decide)⟩
  · obtain ⟨p, left, right, hp, hcomplete, -, -, hread⟩ := hrandom rfl rfl (by decide)
    rw [if_pos ⟨rfl, rfl⟩] at hread
    exact ⟨p, hp, hcomplete.not.2 (not_not.2 ⟨rfl, rfl⟩), hread⟩

end Loose

end TypedTable
