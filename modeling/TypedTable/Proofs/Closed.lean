import TypedTable.Proofs.Rendering.Insertion
import TypedTable.Proofs.Update
/-!
# Built statements are closed

A statement is closed if its placeholders are its parameters (`Statement.IsClosed`): it can always
be sent, and every parameter is sent once. All statements that are built from declared columns and
composed predicates are closed (`build_closed`). Those that select or remove rows bind comparisons
only, and a server reads every comparison with the value that it was made with.

SQL text gets into these statements only where a value is one that the server evaluates. What a
column draws random values from can stand there (`isInert_random`).
-/

namespace TypedTable

/-- Whether the placeholders of a statement are its parameters, so that it can be sent with one
value for each parameter. -/
def Statement.IsClosed (s : Statement) : Prop :=
  (∀ name, name ∈ placeholders (pieces s.sql) ↔ name ∈ s.params.names) ∧
    ∃ p, s.positional = .ok p ∧ p.values.Perm (s.params.entries.map (·.2))

theorem Statement.Writes.isClosed {s : Statement} {t : Template} (h : s.Writes t) :
    s.IsClosed := by
  obtain ⟨p, hp, hvalues, -⟩ := h.exists_positional
  exact ⟨h.mem_placeholders_iff, p, hp, hvalues⟩

/-- What a column draws random values from stands for itself. -/
theorem isInert_random (g : Generator) : (Value.random g.sql).IsInert := by
  intro sql hsql
  cases hsql
  exact inert_generator g

/-- A request of any kind. -/
inductive Builder
  | select (q : Select)
  | insert (q : Insert)
  | update (q : Update)
  | delete (q : Delete)

namespace Builder

/-- The statement of a request. -/
def build : Builder → Except Error Statement
  | select q => q.build.map (·.statement)
  | insert q => q.build.map (·.statement)
  | update q => q.build.map (·.statement)
  | delete q => q.build.map (·.statement)

/-- Whether a request is made of predicates of a pool, and of values whose SQL text stands for
itself. -/
def IsPlain (pool : List Predicate) : Builder → Prop
  | select q => ∀ p ∈ q.clauses.filters, p ∈ pool
  | insert q => ∀ row ∈ q.batch, row.IsInert q.schema
  | update q => (∀ p ∈ q.clauses.filters, p ∈ pool) ∧ ∀ e ∈ q.sets, e.2.IsInert
  | delete q => ∀ p ∈ q.clauses.filters, p ∈ pool

/-- Whether a server reads a statement that selects or removes rows with every comparison as it was
made. -/
def ReadsComparisons (s : Statement) : Builder → Prop
  | select q => ∃ positions tail p, q.positions = .ok positions ∧
      q.clauses.tail q.schema.table = .ok tail ∧ s.positional = .ok p ∧
      p.read = (Select.template q.schema positions tail).symbols
  | delete q => ∃ tail p, q.clauses.tail q.schema.table = .ok tail ∧ s.positional = .ok p ∧
      p.read = (Delete.template q.schema.table tail).symbols
  | insert _ | update _ => True

end Builder

variable {next : Nat} {pool : List Predicate}

/-- Where only comparisons are bound, the server reads all of them with their own values. -/
theorem exists_read {s : Statement} {t : Template} {tail : Tail} (h : Composed next pool)
    (hfilters : ∀ p ∈ tail.filters, p ∈ pool) (hwrites : s.Writes t)
    (hbindings : t.bindings ⊆ tail.bindings) :
    ∃ p, s.positional = .ok p ∧ p.read = t.symbols := by
  obtain ⟨p, hp, -, hread⟩ := hwrites.exists_positional
  refine ⟨p, hp, hread.trans (hwrites.lookUp_symbols_eq fun name v w hv hw => ?_)⟩
  exact h.eq_of_mem_bindings hfilters (hbindings hv) (hbindings hw)

theorem Select.closed_of_build {q : Select} {b : SelectQuery} (h : Composed next pool)
    (hfilters : ∀ p ∈ q.clauses.filters, p ∈ pool) (hbuild : q.build = .ok b) :
    b.statement.IsClosed ∧ (Builder.select q).ReadsComparisons b.statement := by
  obtain ⟨-, -, hbuild⟩ := bind_eq_ok.1 hbuild
  obtain ⟨positions, hpositions, hbuild⟩ := bind_eq_ok.1 hbuild
  obtain ⟨tail, htail, hbuild⟩ := bind_eq_ok.1 hbuild
  cases hbuild
  rw [← filters_of_tail htail] at hfilters
  have hwrites := Select.writes_statement h hfilters q.schema positions
  obtain ⟨p, hp, hread⟩ := exists_read h hfilters hwrites
    (Select.bindings_template_subset q.schema positions tail)
  exact ⟨hwrites.isClosed, positions, tail, p, hpositions, htail, hp, hread⟩

theorem Delete.closed_of_build {q : Delete} {b : Query} (h : Composed next pool)
    (hfilters : ∀ p ∈ q.clauses.filters, p ∈ pool) (hbuild : q.build = .ok b) :
    b.statement.IsClosed ∧ (Builder.delete q).ReadsComparisons b.statement := by
  obtain ⟨-, -, hbuild⟩ := bind_eq_ok.1 hbuild
  obtain ⟨tail, htail, hbuild⟩ := bind_eq_ok.1 hbuild
  cases hbuild
  rw [← filters_of_tail htail] at hfilters
  have hwrites := Delete.writes_statement h hfilters q.schema.table
  have hbindings : (Delete.template q.schema.table tail).bindings ⊆ tail.bindings := by
    rw [Delete.bindings_template]
    exact fun _ hb => hb
  obtain ⟨p, hp, hread⟩ := exists_read h hfilters hwrites hbindings
  exact ⟨hwrites.isClosed, tail, p, htail, hp, hread⟩

theorem Update.closed_of_build {q : Update} {b : Query} (h : Composed next pool)
    (hfilters : ∀ p ∈ q.clauses.filters, p ∈ pool) (hsets : ∀ e ∈ q.sets, e.2.IsInert)
    (hbuild : q.build = .ok b) : b.statement.IsClosed := by
  obtain ⟨-, -, hbuild⟩ := bind_eq_ok.1 hbuild
  obtain ⟨-, -, hbuild⟩ := bind_eq_ok.1 hbuild
  obtain ⟨assignments, hassignments, hbuild⟩ := bind_eq_ok.1 hbuild
  obtain ⟨tail, htail, hbuild⟩ := bind_eq_ok.1 hbuild
  cases hbuild
  rw [← filters_of_tail htail] at hfilters
  have hinert : ∀ c sql, .random c sql ∈ assignments → Inert sql := fun c sql ha =>
    inert_of_mem_assignments hassignments hsets ha
  exact (Update.writes_statement h hfilters hinert q.schema.table).isClosed

theorem Insert.closed_of_build {q : Insert} {b : InsertQuery}
    (hinert : ∀ row ∈ q.batch, row.IsInert q.schema) (hbuild : q.build = .ok b) :
    b.statement.IsClosed := by
  obtain ⟨-, hrender, -, -, -⟩ := Insert.build_eq_ok hbuild
  rcases Insert.render_eq_ok hrender with ⟨-, hempty⟩ | ⟨cells, hcells, hstatement⟩
  -- Nothing is written: a blank text has no placeholders and no parameters.
  · rw [hempty]
    exact Statement.Writes.isClosed (t := []) ⟨renders_empty, fun _ => rfl⟩
  · rw [hstatement]
    exact (Insert.writes_insertStatement (isPlain_of_mem_cells hcells hinert) q.policy).isClosed

/-- Every statement that is built can be sent with exactly one value for each of its parameters, and
in one that selects or removes rows the server finds every comparison with its own value. -/
theorem build_closed {q : Builder} {s : Statement} (h : Composed next pool)
    (hplain : q.IsPlain pool) (hbuild : q.build = .ok s) :
    s.IsClosed ∧ q.ReadsComparisons s := by
  cases q with
  | select q =>
    obtain ⟨b, hb, rfl⟩ := map_eq_ok.1 hbuild
    exact Select.closed_of_build h hplain hb
  | insert q =>
    obtain ⟨b, hb, rfl⟩ := map_eq_ok.1 hbuild
    exact ⟨Insert.closed_of_build hplain hb, trivial⟩
  | update q =>
    obtain ⟨b, hb, rfl⟩ := map_eq_ok.1 hbuild
    exact ⟨Update.closed_of_build h hplain.1 hplain.2 hb, trivial⟩
  | delete q =>
    obtain ⟨b, hb, rfl⟩ := map_eq_ok.1 hbuild
    exact Delete.closed_of_build h hplain hb

/-- A comparison that stands in a statement twice is read twice, with its value. -/
theorem build_closed_repeated : ∃ p s,
    Composed 1 [p, Clash.filter] ∧
      (Builder.delete { schema := Clash.schema, clauses := { filters := [p] } }).build = .ok s ∧
      s.IsClosed ∧
      (Builder.delete { schema := Clash.schema, clauses := { filters := [p] } }).ReadsComparisons
        s := by
  have hparts : ∀ p ∈ [Clash.filter, Clash.filter], p ∈ [Clash.filter] := by
    intro p hp
    simpa using hp
  -- The comparison is made once and used twice, so it has one name and one value.
  have hcomposed := Composed.all Clash.composed hparts
  obtain ⟨s, hs⟩ : ∃ s, (Builder.delete { schema := Clash.schema, clauses :=
      { filters := [.all [Clash.filter, Clash.filter]] } }).build = .ok s := ⟨_, rfl⟩
  have hplain : (Builder.delete { schema := Clash.schema, clauses :=
      { filters := [.all [Clash.filter, Clash.filter]] } }).IsPlain
        [.all [Clash.filter, Clash.filter], Clash.filter] := by
    intro p hp
    rw [List.mem_singleton.1 hp]
    exact List.mem_cons_self
  obtain ⟨hclosed, hreads⟩ := build_closed hcomposed hplain hs
  exact ⟨_, s, hcomposed, hs, hclosed, hreads⟩

end TypedTable
