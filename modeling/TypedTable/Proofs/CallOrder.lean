import TypedTable.Proofs.Update
import TypedTable.Query.Delete
import TypedTable.Query.Select
/-!
# The order of calls

A builder is asked for a query by one call after the other. Calls of different kinds do not get in
each other's way: what clauses come down to is all joins and all filters in their order, of an
order, a direction, a limit and an offset the last one, and the first clause that is in error
(`Clauses.collect`). Beside these stand all columns that are asked for, and every column that is set
with its last value (`Draft.callAll_eq`).

So queries whose calls agree kind by kind are built alike, and an error of a clause is reported
before any other (`Draft.build_callAll`).
-/

namespace TypedTable

/-! ### What clauses come down to -/

namespace Clause

/-- The join that a clause adds. -/
@[simp] def join? : Clause → Option Join
  | .join j => some j
  | _ => none

/-- The condition that a clause adds. -/
@[simp] def condition? : Clause → Option Predicate
  | .filter (.ok p) => some p
  | _ => none

/-- The column by which a clause orders. -/
@[simp] def orderBy? : Clause → Option Column
  | .orderBy column => some column
  | _ => none

/-- The direction that a clause asks for. -/
@[simp] def ascending? : Clause → Option Bool
  | .ascending up => some up
  | _ => none

/-- The limit that a clause sets. -/
@[simp] def limit? : Clause → Option Nat
  | .limit n => if n < 0 then none else some n.toNat
  | _ => none

/-- The offset that a clause sets. -/
@[simp] def offset? : Clause → Option Nat
  | .offset n => if n < 0 then none else some n.toNat
  | _ => none

/-- What is wrong with a clause. -/
@[simp] def error? : Clause → Option Error
  | .filter (.error e) => some e
  | .limit n => if n < 0 then some (.negativeLimit n) else none
  | .offset n => if n < 0 then some (.negativeOffset n) else none
  | _ => none

end Clause

namespace Clauses

/-- What clauses come down to, kind by kind. -/
def collect (l : List Clause) : Clauses where
  joins := l.filterMap Clause.join?
  filters := l.filterMap Clause.condition?
  orderBy := (l.filterMap Clause.orderBy?).getLast?
  ascending := (l.filterMap Clause.ascending?).getLast?.getD true
  limit := (l.filterMap Clause.limit?).getLast?
  offset := (l.filterMap Clause.offset?).getLast?
  error := (l.filterMap Clause.error?).head?

/-- One more clause changes what is of its kind. -/
theorem collect_concat (l : List Clause) (c : Clause) : collect (l ++ [c]) = (collect l).add c := by
  unfold collect
  simp only [List.filterMap_append, List.filterMap_cons, List.filterMap_nil, List.getLast?_append,
    List.head?_append]
  cases c with
  | join _ | orderBy _ | ascending _ => simp [add]
  | filter condition => cases condition <;> simp [add, fail]
  | limit n | offset n =>
    by_cases hn : n < 0
    · simp [add, fail, hn]
    · simp [add, hn]

end Clauses

/-! ### Builders -/

/-- The kinds of queries that are narrowed by clauses. -/
inductive QueryKind
  | select
  | update
  | delete

/-- A call of a builder. Only selections ask for columns, and only updates set them. -/
inductive BuilderCall : QueryKind → Type
  | clause {kind : QueryKind} (c : Clause) : BuilderCall kind
  | columns (l : List Column) : BuilderCall .select
  | set (column : String) (v : Value) : BuilderCall .update

namespace BuilderCall

variable {kind : QueryKind}

@[simp] def clause? : BuilderCall kind → Option Clause
  | clause c => some c
  | _ => none

/-- The columns that a call asks for. -/
@[simp] def columnList : BuilderCall kind → List Column
  | columns l => l
  | _ => []

/-- The column that a call sets, with its value. -/
@[simp] def set? : BuilderCall kind → Option (String × Value)
  | set column v => some (column, v)
  | _ => none

/-- The clauses among calls. -/
def clauses (calls : List (BuilderCall kind)) : List Clause := calls.filterMap clause?

/-- The columns that are set by calls, with their values. -/
def sets (calls : List (BuilderCall kind)) : List (String × Value) := calls.filterMap set?

/-- What is wrong with calls, in their order. -/
def errors (calls : List (BuilderCall kind)) : List Error := (clauses calls).filterMap Clause.error?

/-- Whether calls agree kind by kind. -/
structure Agree (calls calls' : List (BuilderCall kind)) : Prop where
  joins : (clauses calls).filterMap Clause.join? = (clauses calls').filterMap Clause.join?
  filters : (clauses calls).filterMap Clause.condition? =
    (clauses calls').filterMap Clause.condition?
  orderBy : ((clauses calls).filterMap Clause.orderBy?).getLast? =
    ((clauses calls').filterMap Clause.orderBy?).getLast?
  ascending : ((clauses calls).filterMap Clause.ascending?).getLast? =
    ((clauses calls').filterMap Clause.ascending?).getLast?
  limit : ((clauses calls).filterMap Clause.limit?).getLast? =
    ((clauses calls').filterMap Clause.limit?).getLast?
  offset : ((clauses calls).filterMap Clause.offset?).getLast? =
    ((clauses calls').filterMap Clause.offset?).getLast?
  /-- The same columns are asked for, in the same order. -/
  columns : calls.flatMap columnList = calls'.flatMap columnList
  /-- The same columns are set, in the order in which they were first set. -/
  names : (entryNames (sets calls)).eraseDups = (entryNames (sets calls')).eraseDups
  /-- They are set to the same values in the end. -/
  values : ∀ name, Params.lookup name (sets calls).reverse = Params.lookup name (sets calls').reverse

end BuilderCall

/-- A request of a kind. -/
abbrev Draft : QueryKind → Type
  | .select => Select
  | .update => Update
  | .delete => Delete

namespace Draft

/-- What is built of a request. -/
abbrev Result : QueryKind → Type
  | .select => SelectQuery
  | .update | .delete => Query

/-- A request that nothing has been asked of yet. -/
def start : (kind : QueryKind) → Schema → Draft kind
  | .select, s => Select.mk s [] {}
  | .update, s => Update.mk s [] {}
  | .delete, s => Delete.mk s {}

/-- The request after a call. -/
def call : {kind : QueryKind} → Draft kind → BuilderCall kind → Draft kind
  | .select, q, .columns l => Select.addColumns q l
  | .select, q, .clause c => Select.addClause q c
  | .update, q, .set column v => Update.set q column v
  | .update, q, .clause c => Update.addClause q c
  | .delete, q, .clause c => Delete.addClause q c

/-- The request after calls, one after the other. -/
def callAll (kind : QueryKind) (s : Schema) (calls : List (BuilderCall kind)) : Draft kind :=
  calls.foldl call (start kind s)

/-- Checks the request and writes the statement. -/
def build : {kind : QueryKind} → Draft kind → Except Error (Result kind)
  | .select, q => Select.build q
  | .update, q => Update.build q
  | .delete, q => Delete.build q

/-- What calls come down to. -/
def collect : (kind : QueryKind) → Schema → List (BuilderCall kind) → Draft kind
  | .select, s, calls =>
    Select.mk s (calls.flatMap BuilderCall.columnList) (.collect (BuilderCall.clauses calls))
  | .update, s, calls =>
    Update.setAll ⟨s, [], .collect (BuilderCall.clauses calls)⟩ (BuilderCall.sets calls)
  | .delete, s, calls => Delete.mk s (.collect (BuilderCall.clauses calls))

end Draft

/-! ### Calls of different kinds -/

/-- A clause may be added before columns are set or afterwards. -/
theorem Update.setAll_addClause (q : Update) (sets : List (String × Value)) (c : Clause) :
    (q.addClause c).setAll sets = (q.setAll sets).addClause c := by
  induction sets using List.reverseRecOn with
  | nil => rfl
  | append_singleton sets set ih =>
    rw [setAll_concat, setAll_concat, ih]
    rfl

/-- Entries with different names are known by the order of the names and the values under them. -/
theorem eq_of_entryNames_eq {l l' : List (String × Value)} (hnodup : (entryNames l).Nodup)
    (hnames : entryNames l = entryNames l')
    (hvalues : ∀ name, Params.lookup name l = Params.lookup name l') : l = l' := by
  have hentries : ∀ {m : List (String × Value)}, (entryNames m).Nodup →
      (entryNames m).map (fun name => (name, Params.lookup name m)) =
        m.map fun e => (e.1, some e.2) := by
    intro m hm
    rw [entryNames, List.map_map]
    refine List.map_congr_left fun e he => ?_
    exact congrArg (e.1, ·)
      (Params.lookup_of_mem he fun w hw => Params.eq_of_mem_of_nodup hm hw he)
  have hmap : l.map (fun e => (e.1, some e.2)) = l'.map fun e => (e.1, some e.2) := by
    rw [← hentries hnodup, ← hentries (hnames ▸ hnodup), ← hnames]
    exact List.map_congr_left fun name _ => congrArg (name, ·) (hvalues name)
  refine List.map_injective_iff.2 (fun e e' h => ?_) hmap
  obtain ⟨hname, hvalue⟩ := Prod.mk.inj h
  exact Prod.ext hname (Option.some.inj hvalue)

namespace Draft

open BuilderCall

variable {kind : QueryKind}

theorem clauses_concat (calls : List (BuilderCall kind)) (c : BuilderCall kind) :
    clauses (calls ++ [c]) = clauses calls ++ c.clause?.toList := by
  unfold clauses
  rw [List.filterMap_append]
  cases c <;> rfl

theorem sets_concat (calls : List (BuilderCall kind)) (c : BuilderCall kind) :
    sets (calls ++ [c]) = sets calls ++ c.set?.toList := by
  unfold sets
  rw [List.filterMap_append]
  cases c <;> rfl

/-- One more call changes what is of its kind. -/
theorem collect_concat (s : Schema) (calls : List (BuilderCall kind)) (c : BuilderCall kind) :
    collect kind s (calls ++ [c]) = (collect kind s calls).call c := by
  cases c with
  | columns l =>
    show Select.mk s ((calls ++ [BuilderCall.columns l]).flatMap columnList)
        (.collect (clauses (calls ++ [BuilderCall.columns l]))) =
      Select.mk s (calls.flatMap columnList ++ l) (.collect (clauses calls))
    rw [clauses_concat, List.flatMap_append]
    simp
  | set column v =>
    show Update.setAll ⟨s, [], .collect (clauses (calls ++ [BuilderCall.set column v]))⟩
        (sets (calls ++ [BuilderCall.set column v])) =
      (Update.setAll ⟨s, [], .collect (clauses calls)⟩ (sets calls)).set column v
    rw [clauses_concat, sets_concat]
    show Update.setAll ⟨s, [], .collect (clauses calls ++ [])⟩ (sets calls ++ [(column, v)]) = _
    rw [List.append_nil, Update.setAll_concat]
  | clause c =>
    have hclauses : Clauses.collect (clauses (calls ++ [BuilderCall.clause c])) =
        (Clauses.collect (clauses calls)).add c := by
      rw [clauses_concat]
      exact Clauses.collect_concat _ c
    cases kind with
    | select =>
      show Select.mk s ((calls ++ [BuilderCall.clause c]).flatMap columnList)
          (.collect (clauses (calls ++ [BuilderCall.clause c]))) =
        Select.mk s (calls.flatMap columnList) ((Clauses.collect (clauses calls)).add c)
      rw [hclauses, List.flatMap_append]
      simp
    | update =>
      show Update.setAll ⟨s, [], .collect (clauses (calls ++ [BuilderCall.clause c]))⟩
          (sets (calls ++ [BuilderCall.clause c])) =
        (Update.setAll ⟨s, [], .collect (clauses calls)⟩ (sets calls)).addClause c
      rw [hclauses, sets_concat, ← Update.setAll_addClause]
      show Update.setAll _ (sets calls ++ []) = _
      rw [List.append_nil]
      rfl
    | delete =>
      show Delete.mk s (.collect (clauses (calls ++ [BuilderCall.clause c]))) =
        Delete.mk s ((Clauses.collect (clauses calls)).add c)
      rw [hclauses]

/-- A request comes down to what was asked for, kind by kind. -/
theorem callAll_eq (s : Schema) (calls : List (BuilderCall kind)) :
    callAll kind s calls = collect kind s calls := by
  induction calls using List.reverseRecOn with
  | nil => cases kind <;> rfl
  | append_singleton calls c ih =>
    rw [collect_concat, ← ih, callAll, List.foldl_append]
    rfl

/-- A clause that is in error is reported first. -/
theorem build_of_error {s : Schema} {calls : List (BuilderCall kind)} {e : Error}
    (h : (errors calls).head? = some e) : (collect kind s calls).build = .error e := by
  have hcheck : (Clauses.collect (clauses calls)).check = .error e := by
    have herror : (Clauses.collect (clauses calls)).error = some e := h
    unfold Clauses.check
    rw [herror]
  cases kind with
  | select =>
    show (Clauses.collect (clauses calls)).check >>= _ = _
    rw [hcheck]
    rfl
  | update =>
    show (Update.setAll ⟨s, [], .collect (clauses calls)⟩ (sets calls)).build = _
    rw [Update.setAll_eq]
    show (Clauses.collect (clauses calls)).check >>= _ = _
    rw [hcheck]
    rfl
  | delete =>
    show (Clauses.collect (clauses calls)).check >>= _ = _
    rw [hcheck]
    rfl

/-- Calls that agree kind by kind come down to the same, if none of them is in error. -/
theorem collect_congr (s : Schema) {calls calls' : List (BuilderCall kind)}
    (herrors : errors calls = []) (herrors' : errors calls' = []) (h : Agree calls calls') :
    collect kind s calls = collect kind s calls' := by
  have hclauses : Clauses.collect (clauses calls) = Clauses.collect (clauses calls') := by
    unfold Clauses.collect
    unfold errors at herrors herrors'
    rw [h.joins, h.filters, h.orderBy, h.ascending, h.limit, h.offset, herrors, herrors']
  cases kind with
  | select =>
    show Select.mk _ _ _ = Select.mk _ _ _
    rw [hclauses, h.columns]
  | update =>
    show Update.setAll _ _ = Update.setAll _ _
    have hnames (l) := Update.names_setAll
      (q := ⟨s, [], Clauses.collect (clauses calls')⟩) rfl l
    have hvalues (l) := Update.lookup_setAll
      (q := ⟨s, [], Clauses.collect (clauses calls')⟩) rfl l
    rw [hclauses, Update.setAll_eq, Update.setAll_eq _ (sets calls')]
    congr 1
    refine eq_of_entryNames_eq ?_ ?_ fun name => ?_
    · rw [hnames]
      exact nodup_eraseDups _
    · rw [hnames, hnames, h.names]
    · rw [hvalues, hvalues, h.values]
  | delete =>
    show Delete.mk _ _ = Delete.mk _ _
    rw [hclauses]

/-- If a clause is in error, this is what building the request reports, before anything else, and of
several clauses it is the first. If none is, what is built depends on the calls of each kind only:
on the joins, the filters and the columns that are asked for, in their order, on the last order,
direction, limit and offset, and on the last value of every column that is set. -/
theorem build_callAll (s : Schema) (calls : List (BuilderCall kind)) :
    (∀ e, (errors calls).head? = some e → (callAll kind s calls).build = .error e) ∧
    (errors calls = [] → ∀ calls', errors calls' = [] → Agree calls calls' →
      (callAll kind s calls).build = (callAll kind s calls').build) := by
  refine ⟨fun e he => ?_, fun herrors calls' herrors' h => ?_⟩
  · rw [callAll_eq]
    exact build_of_error he
  · rw [callAll_eq, callAll_eq, collect_congr s herrors herrors' h]

end Draft

/-! ### Two orders of one update -/

namespace Interleaved

open BuilderCall

/-- Columns are set between clauses, one of them and the limit twice. -/
def calls : List (BuilderCall .update) :=
  [.set "a" (.text "x"), .clause (.limit 5), .clause (.filter (.ok Clash.filter)),
    .set "a_eq_0" (.text "y"), .clause (.limit 3), .set "a" (.text "z")]

/-- The calls that count, in another order. -/
def reordered : List (BuilderCall .update) :=
  [.clause (.limit 3), .set "a" (.text "z"), .clause (.filter (.ok Clash.filter)),
    .set "a_eq_0" (.text "y")]

/-- A column that is not there is set, between clauses in error. -/
def faulty : List (BuilderCall .update) :=
  .clause (.offset (-1)) :: .set "b" .null :: .clause (.limit (-2)) :: calls

theorem agree_reordered : Agree calls reordered where
  joins := rfl
  filters := rfl
  orderBy := rfl
  ascending := rfl
  limit := rfl
  offset := rfl
  columns := rfl
  names := by decide
  values := by
    intro name
    show Params.lookup name [("a", .text "z"), ("a_eq_0", .text "y"), ("a", .text "x")] =
      Params.lookup name [("a_eq_0", .text "y"), ("a", .text "z")]
    simp only [Params.lookup]
    by_cases ha : "a" = name
    · subst ha
      simp
    · simp only [if_neg ha]

theorem build_reordered :
    (Draft.callAll .update Clash.schema calls).build =
      (Draft.callAll .update Clash.schema reordered).build ∧
    (Draft.callAll .update Clash.schema faulty).build = .error (.negativeOffset (-1)) :=
  ⟨(Draft.build_callAll Clash.schema calls).2 rfl reordered rfl agree_reordered,
    (Draft.build_callAll Clash.schema faulty).1 _ rfl⟩

end Interleaved

end TypedTable
