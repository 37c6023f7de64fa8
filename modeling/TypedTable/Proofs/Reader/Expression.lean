import TypedTable.Proofs.Rendering.Predicate
/-!
# Expressions and their truth

A condition of a statement is an expression of names, placeholders and constants (`Expr`). Logic in
SQL has three values (`Truth`); what a comparison or a test for null comes to depends on the row,
and connectives are computed from there (`Expr.truth`).

Predicates are meant as such expressions (`Predicate.expr`), in which all parts of a conjunction or
disjunction are joined from left to right. Their truth is that of all parts taken together
(`Predicate.truth_expr`), and their placeholders are the names that the predicates bind
(`Predicate.placeholders_expr`).
-/

namespace TypedTable

/-! ### Three values -/

/-- A truth value. -/
inductive Truth
  | no
  | unknown
  | yes
deriving DecidableEq

namespace Truth

def ofBool : Bool → Truth
  | true => yes
  | false => no

def not : Truth → Truth
  | no => yes
  | unknown => unknown
  | yes => no

/-- One part that does not hold decides a conjunction, whatever the other one is. -/
def and : Truth → Truth → Truth
  | no, _ | _, no => no
  | yes, yes => yes
  | _, _ => unknown

/-- One part that holds decides a disjunction, whatever the other one is. -/
def or : Truth → Truth → Truth
  | yes, _ | _, yes => yes
  | no, no => no
  | _, _ => unknown

/-- The conjunction of all values. -/
def all (ts : List Truth) : Truth := ts.foldr and yes

/-- The disjunction of all values. -/
def any (ts : List Truth) : Truth := ts.foldr or no

end Truth

/-- What joins two expressions, or any number of them. -/
inductive Connective
  | or
  | and
deriving DecidableEq

namespace Connective

/-- The connective in SQL. -/
def word : Connective → String
  | or => "OR"
  | and => "AND"

/-- What the connective makes of nothing. -/
def unit : Connective → Bool
  | or => false
  | and => true

/-- What the connective makes of nothing, in SQL. -/
def unitWord : Connective → String
  | or => "FALSE"
  | and => "TRUE"

/-- What the connective makes of two values. -/
def apply : Connective → Truth → Truth → Truth
  | or => Truth.or
  | and => Truth.and

/-- What the connective makes of any number of values. -/
def fold : Connective → List Truth → Truth
  | or => Truth.any
  | and => Truth.all

@[simp] theorem fold_nil (c : Connective) : c.fold [] = .ofBool c.unit := by
  cases c <;> rfl

@[simp] theorem fold_cons (c : Connective) (t : Truth) (ts : List Truth) :
    c.fold (t :: ts) = c.apply t (c.fold ts) := by
  cases c <;> rfl

@[simp] theorem apply_unit (c : Connective) (t : Truth) : c.apply t (.ofBool c.unit) = t := by
  cases c <;> cases t <;> rfl

theorem apply_assoc (c : Connective) (t u v : Truth) :
    c.apply (c.apply t u) v = c.apply t (c.apply u v) := by
  cases c <;> cases t <;> cases u <;> cases v <;> rfl

end Connective

/-! ### Expressions -/

/-- An expression of SQL, as far as conditions need it. -/
inductive Expr
  /-- A name by its parts. -/
  | column (parts : List String)
  /-- A value that is bound under this name. -/
  | value (name : String)
  | constant (b : Bool)
  | isNull (e : Expr)
  | isNotNull (e : Expr)
  | compare (c : Comparator) (left right : Expr)
  | not (e : Expr)
  | join (c : Connective) (left right : Expr)
  /-- Text that is taken as it is. -/
  | text (sql : String)
deriving DecidableEq

namespace Expr

/-- The truth of an expression. Where it is not made from others by connectives, it is given. -/
def truth (σ : Expr → Truth) : Expr → Truth
  | constant b => .ofBool b
  | not e => (e.truth σ).not
  | join c left right => c.apply (left.truth σ) (right.truth σ)
  | e => σ e

/-- The names of the bound values, from left to right. -/
def placeholders : Expr → List String
  | column _ | constant _ | text _ => []
  | value name => [name]
  | isNull e | isNotNull e | not e => e.placeholders
  | compare _ left right | join _ left right => left.placeholders ++ right.placeholders

/-- Expressions joined from left to right. -/
def joined (c : Connective) : List Expr → Expr
  | [] => constant c.unit
  | e :: es => es.foldl (join c) e

theorem truth_foldl (σ : Expr → Truth) (c : Connective) (e : Expr) (es : List Expr) :
    (es.foldl (join c) e).truth σ = c.apply (e.truth σ) (c.fold (es.map (truth σ))) := by
  induction es generalizing e with
  | nil => simp
  | cons e' es ih =>
    rw [List.foldl_cons, ih, truth, c.apply_assoc, List.map_cons, c.fold_cons]

/-- Joining from left to right makes no difference to what all parts come to. -/
theorem truth_joined (σ : Expr → Truth) (c : Connective) (es : List Expr) :
    (joined c es).truth σ = c.fold (es.map (truth σ)) := by
  cases es with
  | nil => rw [List.map_nil, c.fold_nil, joined, truth]
  | cons e es => rw [joined, truth_foldl, List.map_cons, c.fold_cons]

theorem placeholders_foldl (c : Connective) (e : Expr) (es : List Expr) :
    (es.foldl (join c) e).placeholders = e.placeholders ++ es.flatMap placeholders := by
  induction es generalizing e with
  | nil => simp
  | cons e' es ih => rw [List.foldl_cons, ih, placeholders, List.flatMap_cons, List.append_assoc]

theorem placeholders_joined (c : Connective) (es : List Expr) :
    (joined c es).placeholders = es.flatMap placeholders := by
  cases es with
  | nil => rfl
  | cons e es => rw [joined, placeholders_foldl, List.flatMap_cons]

end Expr

/-! ### What predicates are meant as -/

/-- A column by its full name. -/
def Column.expr (c : Column) : Expr :=
  .column [c.table.schema.text, c.table.table.text, c.ident.text]

/-- An operand as it is meant. -/
def Operand.expr (column : Column) (comparator : Comparator) : Operand → Expr
  | bound number _ => .value (boundName column comparator number)
  | .column c => c.expr
  | random sql => .text sql

namespace Predicate

mutual

/-- A predicate as it is meant. -/
def expr : Predicate → Expr
  | compare column comparator operand =>
    .compare comparator column.expr (operand.expr column comparator)
  | isNull column => .isNull column.expr
  | isNotNull column => .isNotNull column.expr
  | all parts => .joined .and (exprList parts)
  | any parts => .joined .or (exprList parts)
  | not part => .not part.expr
  | raw sql _ => .text sql

/-- Each of the predicates as it is meant. -/
def exprList : List Predicate → List Expr
  | [] => []
  | p :: rest => p.expr :: exprList rest

end

theorem exprList_eq_map (parts : List Predicate) : exprList parts = parts.map expr := by
  induction parts with
  | nil => rfl
  | cons p rest ih => rw [exprList, List.map_cons, ih]

mutual

/-- The truth of a predicate, given that of comparisons and tests for null. A conjunction holds if
all of its parts do, a disjunction if any of them does. -/
def truth (σ : Expr → Truth) : Predicate → Truth
  | compare column comparator operand =>
    σ (.compare comparator column.expr (operand.expr column comparator))
  | isNull column => σ (.isNull column.expr)
  | isNotNull column => σ (.isNotNull column.expr)
  | all parts => .all (truthList σ parts)
  | any parts => .any (truthList σ parts)
  | not part => (part.truth σ).not
  | raw sql _ => σ (.text sql)

/-- The truth of each of the predicates. -/
def truthList (σ : Expr → Truth) : List Predicate → List Truth
  | [] => []
  | p :: rest => p.truth σ :: truthList σ rest

end

mutual

/-- The expression that a predicate is meant as has the predicate's truth. -/
theorem truth_expr (σ : Expr → Truth) : (p : Predicate) → p.expr.truth σ = p.truth σ
  | compare _ _ _ | isNull _ | isNotNull _ | raw _ _ => by simp only [expr, truth, Expr.truth]
  | all parts => by
    rw [expr, truth, Expr.truth_joined, map_truth_exprList]
    rfl
  | any parts => by
    rw [expr, truth, Expr.truth_joined, map_truth_exprList]
    rfl
  | not part => by rw [expr, truth, Expr.truth, truth_expr]

theorem map_truth_exprList (σ : Expr → Truth) :
    (parts : List Predicate) → (exprList parts).map (Expr.truth σ) = truthList σ parts
  | [] => rfl
  | p :: rest => by rw [exprList, truthList, List.map_cons, truth_expr, map_truth_exprList]

end

mutual

/-- The placeholders of a predicate's expression are the names that the predicate binds. -/
theorem placeholders_expr : (p : Predicate) → p.expr.placeholders = p.bindings.map Prod.fst
  | compare column comparator operand => by
    cases operand <;>
      simp [expr, Operand.expr, Column.expr, Expr.placeholders, bindings, template,
        Operand.template]
  | isNull _ | isNotNull _ | raw _ _ => by
    simp [expr, Column.expr, Expr.placeholders, bindings, template]
  | all parts => by
    rw [expr, Expr.placeholders_joined, flatMap_placeholders_exprList, bindings_all]
  | any parts => by
    rw [expr, Expr.placeholders_joined, flatMap_placeholders_exprList, bindings_any]
  | not part => by rw [expr, Expr.placeholders, placeholders_expr, bindings_not]

theorem flatMap_placeholders_exprList : (parts : List Predicate) →
    (exprList parts).flatMap Expr.placeholders = (parts.flatMap bindings).map Prod.fst
  | [] => rfl
  | p :: rest => by
    rw [exprList, List.flatMap_cons, List.flatMap_cons, List.map_append, placeholders_expr,
      flatMap_placeholders_exprList]

end

end Predicate

end TypedTable
