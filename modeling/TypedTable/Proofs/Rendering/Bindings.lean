import Mathlib.Data.List.Nodup
import TypedTable.Proofs.Rendering.Template
/-!
# The values of a statement

`Statement.Writes s t` says that a statement is written for a template: its text is read as the
template, and of several values that the template has for a name, the last one is bound.

Such a statement can always be sent, with exactly one value for each of its parameters
(`Statement.Writes.exists_positional`). Every place has the value that its name is bound to. This is
the value that the template has there exactly if each of its values is bound
(`lookUp_symbols_eq_iff`), as it is if no name comes with two of them.
-/

namespace TypedTable

namespace Params

/-! ### Looking up names -/

@[simp] theorem entryNames_cons (name : String) (v : Value) (l : List (String × Value)) :
    entryNames ((name, v) :: l) = name :: entryNames l := rfl

@[simp] theorem entryNames_append (l m : List (String × Value)) :
    entryNames (l ++ m) = entryNames l ++ entryNames m :=
  List.map_append

@[simp] theorem mem_entryNames_reverse {name : String} {l : List (String × Value)} :
    name ∈ entryNames l.reverse ↔ name ∈ entryNames l := by
  rw [entryNames, List.map_reverse, List.mem_reverse]
  rfl

theorem isSome_lookup {name : String} {l : List (String × Value)} :
    (lookup name l).isSome ↔ name ∈ entryNames l := by
  induction l with
  | nil => simp [lookup, entryNames]
  | cons e l ih =>
    obtain ⟨k, v⟩ := e
    show (if k = name then some v else lookup name l).isSome ↔ name ∈ k :: entryNames l
    rw [List.mem_cons]
    split
    · next heq => simp [heq]
    · next hne => simp [ih, Ne.symm hne]

theorem mem_of_lookup {name : String} {v : Value} {l : List (String × Value)}
    (h : lookup name l = some v) : (name, v) ∈ l := by
  induction l with
  | nil => exact (nomatch h)
  | cons e l ih =>
    obtain ⟨k, w⟩ := e
    rw [lookup] at h
    split at h
    · next heq =>
      cases heq
      cases h
      exact List.mem_cons_self
    · exact List.mem_cons_of_mem _ (ih h)

/-- A value is found under its name if the name comes with no other value. -/
theorem lookup_of_mem {name : String} {v : Value} {l : List (String × Value)} (h : (name, v) ∈ l)
    (hother : ∀ w, (name, w) ∈ l → w = v) : lookup name l = some v := by
  have hname : name ∈ entryNames l := List.mem_map.2 ⟨_, h, rfl⟩
  obtain ⟨w, hw⟩ := Option.isSome_iff_exists.1 (isSome_lookup.2 hname)
  rw [hw, hother w (mem_of_lookup hw)]

/-- In a list without repeated names, names come with one value each. -/
theorem eq_of_mem_of_nodup {l : List (String × Value)} (h : (entryNames l).Nodup) {name : String}
    {v w : Value} (hv : (name, v) ∈ l) (hw : (name, w) ∈ l) : v = w := by
  have hpair : (name, v) = (name, w) := List.inj_on_of_nodup_map h hv hw rfl
  exact congrArg Prod.snd hpair

/-- If a name comes with one value only, it does not matter from which end a list is searched. -/
theorem lookup_reverse {name : String} {l : List (String × Value)}
    (h : ∀ v w, (name, v) ∈ l → (name, w) ∈ l → v = w) : lookup name l.reverse = lookup name l := by
  cases hl : lookup name l with
  | none =>
    have hname : name ∉ entryNames l := fun hmem => by simpa [hl] using isSome_lookup.2 hmem
    refine Option.not_isSome_iff_eq_none.1 fun hsome => hname ?_
    exact mem_entryNames_reverse.1 (isSome_lookup.1 hsome)
  | some v =>
    have hmem := mem_of_lookup hl
    exact lookup_of_mem (List.mem_reverse.2 hmem) fun w hw => h w v (List.mem_reverse.1 hw) hmem

theorem mem_names_iff {p : Params} {name : String} : name ∈ p.names ↔ (p.get? name).isSome :=
  isSome_lookup.symm

theorem get?_of_mem {p : Params} {name : String} {v : Value} (h : (name, v) ∈ p.entries) :
    p.get? name = some v :=
  lookup_of_mem h fun _ hw => eq_of_mem_of_nodup p.nodup_names hw h

/-- Of two merged lists the second one wins. -/
theorem get?_merge (p q : Params) (name : String) :
    (p.merge q).get? name = (q.get? name).or (p.get? name) := by
  rw [merge, get?_insertAll, lookup_reverse fun _ _ => eq_of_mem_of_nodup q.nodup_names]
  rfl

/-- The values are found under the names, in order. -/
theorem filterMap_names (p : Params) : p.names.filterMap p.get? = p.entries.map (·.2) := by
  rw [names, entryNames, List.filterMap_map, ← List.filterMap_eq_map]
  exact List.filterMap_congr fun e he => get?_of_mem he

/-- Setting the names of one list after those of another. -/
theorem insertAll_append (p : Params) (l m : List (String × Value)) :
    p.insertAll (l ++ m) = (p.insertAll l).insertAll m :=
  List.foldl_append

/-- Steps that each set a list of names set all these names together. -/
theorem foldl_eq_insertAll {α : Type} {add : Params → α → Params} {f : α → List (String × Value)}
    (h : ∀ p a, add p a = p.insertAll (f a)) (before : Params) (l : List α) :
    l.foldl add before = before.insertAll (l.flatMap f) := by
  induction l generalizing before with
  | nil => rfl
  | cons a l ih => rw [List.foldl_cons, ih, h, List.flatMap_cons, insertAll_append]

end Params

/-! ### Statements for a template -/

/-- A part with the value that its name is bound to. -/
def Part.lookUp (params : Params) : Part → Part
  | text c => text c
  | value name v => value name ((params.get? name).getD v)

/-- The template with the values that its names are bound to. -/
def Template.lookUp (params : Params) (t : Template) : Template := t.map (Part.lookUp params)

open Template

@[simp] theorem lookUp_append (params : Params) (t t' : Template) :
    (t ++ t').lookUp params = t.lookUp params ++ t'.lookUp params :=
  List.map_append

@[simp] theorem lookUp_ofText (params : Params) (s : String) :
    (ofText s).lookUp params = ofText s := by
  rw [Template.lookUp, ofText, List.map_map]
  rfl

theorem lookUp_separated (params : Params) (sep : String) (ts : List Template) :
    (separated sep ts).lookUp params = separated sep (ts.map (Template.lookUp params)) := by
  induction ts with
  | nil => rfl
  | cons t ts ih =>
    cases ts with
    | nil => rfl
    | cons t' ts =>
      show (t ++ ofText sep ++ separated sep (t' :: ts)).lookUp params = _
      rw [lookUp_append, lookUp_append, lookUp_ofText, ih]
      rfl

/-- Values that are bound to their names stay. -/
theorem lookUp_eq_self {params : Params} {t : Template}
    (h : ∀ name v, (name, v) ∈ t.bindings → params.get? name = some v) : t.lookUp params = t := by
  have hpart : ∀ p ∈ t, p.lookUp params = id p := by
    rintro (c | ⟨name, v⟩) hp
    · rfl
    · rw [Part.lookUp, h name v (mem_bindings.2 hp)]
      rfl
  rw [Template.lookUp, List.map_congr_left hpart, List.map_id]

/-- A template keeps its values exactly if each of them is bound to its name. -/
theorem lookUp_symbols_eq_iff {params : Params} {t : Template}
    (hbound : ∀ name ∈ t.names, (params.get? name).isSome) :
    (t.lookUp params).symbols = t.symbols ↔
      ∀ name v, (name, v) ∈ t.bindings → params.get? name = some v := by
  rw [symbols, symbols, Template.lookUp, List.map_map, List.map_inj_left]
  constructor
  · intro h name v hmem
    -- A name without a value would keep its own, so it has to be bound to something.
    obtain ⟨w, hw⟩ := Option.isSome_iff_exists.1 (hbound name (List.mem_map.2 ⟨_, hmem, rfl⟩))
    have hsymbol : Symbol.value (some ((params.get? name).getD v)) = .value (some v) :=
      h _ (mem_bindings.1 hmem)
    rw [hw] at hsymbol ⊢
    exact Symbol.value.inj hsymbol
  · rintro h (c | ⟨name, v⟩) hp
    · rfl
    · have hget := h name v (mem_bindings.2 hp)
      show Symbol.value (some ((params.get? name).getD v)) = .value (some v)
      rw [hget]
      rfl

/-- A statement whose text is read as a template and that binds the last value the template has for
a name. -/
structure Statement.Writes (s : Statement) (t : Template) : Prop where
  renders : Renders s.sql t
  get? : ∀ name, s.params.get? name = Params.lookup name t.bindings.reverse

namespace Statement.Writes

variable {s : Statement} {t : Template}

theorem isSome_get? (h : s.Writes t) {name : String} :
    (s.params.get? name).isSome ↔ name ∈ t.names := by
  rw [h.get?, Params.isSome_lookup, Params.mem_entryNames_reverse]
  rfl

/-- The placeholders of the text are the parameters. -/
theorem mem_placeholders_iff (h : s.Writes t) (name : String) :
    name ∈ placeholders (TypedTable.pieces s.sql) ↔ name ∈ s.params.names := by
  rw [Params.mem_names_iff, h.isSome_get?, h.renders.placeholders_eq]

/-- If no name comes with two values, every place has its own value. -/
theorem lookUp_symbols_eq (h : s.Writes t)
    (hunique : ∀ name v w, (name, v) ∈ t.bindings → (name, w) ∈ t.bindings → v = w) :
    (t.lookUp s.params).symbols = t.symbols := by
  refine (lookUp_symbols_eq_iff fun name => h.isSome_get?.2).2 fun name v hv => ?_
  rw [h.get?]
  refine Params.lookup_of_mem (List.mem_reverse.2 hv) fun w hw => ?_
  exact hunique name w v (List.mem_reverse.1 hw) hv

/-- The statement can be sent, with one value for each parameter, and every place has the value
that its name is bound to. -/
theorem exists_positional (h : s.Writes t) :
    ∃ p, s.positional = .ok p ∧ p.values.Perm (s.params.entries.map (·.2)) ∧
      p.read = (t.lookUp s.params).symbols := by
  have hbound : ∀ name ∈ t.names, (s.params.get? name).isSome := fun name => h.isSome_get?.2
  -- Every placeholder has a value, so the statement can be sent.
  have hfind : (placeholders (TypedTable.pieces s.sql)).find? s.isUnbound = none := by
    rw [h.renders.placeholders_eq, List.find?_eq_none]
    intro name hname
    simpa [isUnbound, Option.isSome_iff_ne_none] using hbound name hname
  have hpositional := s.positional_eq
  rw [hfind] at hpositional
  refine ⟨_, hpositional, ?_, ?_⟩
  -- The names of the text and of the parameters are the same, each listed once.
  · have hnames : s.names.Perm s.params.names :=
      (List.perm_ext_iff_of_nodup (nodup_eraseDups _) s.params.nodup_names).2 fun name =>
        mem_names.trans (h.mem_placeholders_iff name)
    rw [← s.params.filterMap_names]
    exact hnames.filterMap s.params.get?
  · rw [read_of_positional hpositional h.renders.dollar, h.renders.pieces_eq, List.map_map, symbols,
      Template.lookUp, List.map_map]
    refine List.map_congr_left ?_
    rintro (c | ⟨name, v⟩) hp
    · rfl
    · have hname : name ∈ t.names := List.mem_map.2 ⟨_, mem_bindings.2 hp, rfl⟩
      obtain ⟨w, hw⟩ := Option.isSome_iff_exists.1 (hbound name hname)
      show Symbol.value (s.params.get? (String.ofList name.toList)) =
        .value (some ((s.params.get? name).getD v))
      rw [String.ofList_toList, hw]
      rfl

end Statement.Writes

end TypedTable
