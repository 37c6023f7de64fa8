import Mathlib.Data.Set.List
import TypedTable.Proofs.Declaration.Reader
/-!
# What can be declared, and what is declared then

A column is asked for by a name, a type and a row of calls that flag it, give it a default or let it
refer to another column (`ColumnRequest`). No call takes a flag back, so a column that was flagged
as part of the primary key is unique and takes no null, whatever else was called and when.

`Schema.declare_eq_ok_iff` follows the declaration column by column, and `Schema.exists_declare_iff`
reads off which names can be declared. `Schema.declare_represents` says that nothing else can, and
that the table is then what was asked for: `Schema.Represents` covers the columns, the key, and all
ways to look a column up.
-/

namespace TypedTable

/-! ### Legal names -/

/-- Whether a character is a letter, a digit or an underscore. -/
def IsLegalCharacter (c : Char) : Prop :=
  ('A' ≤ c ∧ c ≤ 'Z') ∨ ('a' ≤ c ∧ c ≤ 'z') ∨ ('0' ≤ c ∧ c ≤ '9') ∨ c = '_'

/-- Whether a text is one or more letters, digits and underscores. -/
def IsLegalName (text : String) : Prop := text ≠ "" ∧ ∀ c ∈ text.toList, IsLegalCharacter c

theorem isNameCharacter_iff {c : Char} : isNameCharacter c = true ↔ IsLegalCharacter c := by
  have hupper : c.isUpper = true ↔ 'A' ≤ c ∧ c ≤ 'Z' := decide_eq_true_iff
  have hlower : c.isLower = true ↔ 'a' ≤ c ∧ c ≤ 'z' :=
    Bool.and_eq_true_iff.trans (and_congr decide_eq_true_iff decide_eq_true_iff)
  have hdigit : c.isDigit = true ↔ '0' ≤ c ∧ c ≤ '9' :=
    Bool.and_eq_true_iff.trans (and_congr decide_eq_true_iff decide_eq_true_iff)
  show (c == '_' || ((c.isUpper || c.isLower) || c.isDigit)) = true ↔ IsLegalCharacter c
  rw [Bool.or_eq_true, Bool.or_eq_true, Bool.or_eq_true, beq_iff_eq, hupper, hlower, hdigit,
    IsLegalCharacter, or_comm, or_assoc, or_assoc]

namespace Ident

theorem ofText_eq_ok_iff {text : String} {i : Ident} : ofText text = .ok i ↔ i.text = text := by
  constructor
  · intro h
    unfold ofText at h
    split at h
    · exact (nomatch h)
    · split at h
      · exact (nomatch h)
      · cases h
        rfl
  · rintro rfl
    exact ofText_text i

theorem text_injective : Function.Injective text := fun _ _ => eq_of_text_eq

theorem mem_range_text_iff {s : String} : s ∈ Set.range text ↔ IsLegalName s := by
  constructor
  · rintro ⟨i, rfl⟩
    refine ⟨fun hempty => i.nonempty (by rw [hempty]; rfl), fun c hc => ?_⟩
    exact isNameCharacter_iff.1 (List.all_eq_true.1 i.legal c hc)
  · rintro ⟨hne, hlegal⟩
    refine ⟨⟨s, fun hnil => hne (String.toList_inj.1 hnil), ?_⟩, rfl⟩
    exact List.all_eq_true.2 fun c hc => isNameCharacter_iff.2 (hlegal c hc)

/-- Texts are those of names exactly if all of them are legal. -/
theorem exists_map_text_iff {texts : List String} :
    (∃ names : List Ident, names.map text = texts) ↔ ∀ s ∈ texts, IsLegalName s := by
  have hrange := Set.ext_iff.1 (Set.range_list_map text) texts
  simpa only [Set.mem_range, Set.mem_ofPred_eq, ← mem_range_text_iff] using hrange

end Ident

/-! ### Columns that are asked for -/

/-- What can be said of a column besides its name and its type. -/
inductive ColumnCall
  | flag (f : Flag)
  | withDefault (v : Value)
  | withForeignKey (target : ColumnName)
deriving DecidableEq

/-- A column as it is asked for. -/
structure ColumnRequest where
  name : String
  type : SqlType
  calls : List ColumnCall

namespace ColumnDef

/-- The declaration after one more call. -/
def call (d : ColumnDef) : ColumnCall → ColumnDef
  | .flag f => d.flag f
  | .withDefault v => d.withDefault v
  | .withForeignKey target => d.withForeignKey target

theorem name_call (d : ColumnDef) (c : ColumnCall) : (d.call c).name = d.name := by
  rcases c with (_ | _ | _) | v | target <;> rfl

theorem name_foldl_call (calls : List ColumnCall) (d : ColumnDef) :
    (calls.foldl call d).name = d.name := by
  induction calls generalizing d with
  | nil => rfl
  | cons c calls ih => rw [List.foldl_cons, ih, name_call]

theorem primaryKey_call_iff {d : ColumnDef} {c : ColumnCall} :
    (d.call c).primaryKey = true ↔ d.primaryKey = true ∨ .flag .primaryKey = c := by
  rcases c with (_ | _ | _) | v | target <;> simp [call, flag, withDefault, withForeignKey]

/-- A column is part of the key exactly if it was before or is flagged so by some call. -/
theorem primaryKey_foldl_call_iff {calls : List ColumnCall} {d : ColumnDef} :
    (calls.foldl call d).primaryKey = true ↔
      d.primaryKey = true ∨ .flag .primaryKey ∈ calls := by
  induction calls generalizing d with
  | nil => simp
  | cons c calls ih => rw [List.foldl_cons, ih, primaryKey_call_iff, List.mem_cons, or_assoc]

/-- Whether a column that is part of the key is unique and takes no null. -/
def KeepsKey (d : ColumnDef) : Prop :=
  d.primaryKey = true → d.unique = true ∧ d.notNull = true

/-- No call takes a flag back. -/
theorem KeepsKey.call {d : ColumnDef} (h : d.KeepsKey) (c : ColumnCall) : (d.call c).KeepsKey := by
  rcases c with (_ | _ | _) | v | target
  · exact fun _ => ⟨rfl, rfl⟩
  · exact fun hkey => ⟨rfl, (h hkey).2⟩
  · exact fun hkey => ⟨(h hkey).1, rfl⟩
  · exact h
  · exact h

end ColumnDef

namespace ColumnRequest

/-- The declaration that the calls come to. -/
def definition (r : ColumnRequest) : ColumnDef :=
  r.calls.foldl ColumnDef.call { name := r.name, type := r.type }

@[simp] theorem name_definition (r : ColumnRequest) : r.definition.name = r.name :=
  ColumnDef.name_foldl_call r.calls _

theorem primaryKey_definition_iff {r : ColumnRequest} :
    r.definition.primaryKey = true ↔ .flag .primaryKey ∈ r.calls :=
  ColumnDef.primaryKey_foldl_call_iff.trans (or_iff_right Bool.false_ne_true)

theorem keepsKey_definition (r : ColumnRequest) : r.definition.KeepsKey :=
  List.foldlRecOn (motive := ColumnDef.KeepsKey) r.calls ColumnDef.call
    (fun hkey => (nomatch hkey)) fun _ h c _ => h.call c

end ColumnRequest

namespace Schema

variable {s t : Schema}

/-! ### Adding columns -/

theorem eq_of_columns_eq (htable : s.table = t.table) (hcolumns : s.columns = t.columns) :
    s = t := by
  obtain ⟨table, columns, _, _⟩ := s
  cases htable
  cases hcolumns
  rfl

/-- A column is added exactly if its name is legal and new. -/
theorem add_eq_ok_iff {d : ColumnDef} : s.add d = .ok t ↔
    ∃ name : Ident, name.text = d.name ∧ name ∉ s.columns.map Column.ident ∧
      t.table = s.table ∧ t.columns = s.columns ++ [d.bind s.table name] := by
  constructor
  · intro h
    unfold add at h
    split at h
    · exact (nomatch h)
    · split at h
      · exact (nomatch h)
      · next name hname =>
        split at h
        · exact (nomatch h)
        · next hnew =>
          cases h
          exact ⟨name, Ident.ofText_eq_ok_iff.1 hname, hnew, rfl, rfl⟩
  · rintro ⟨name, hname, hnew, htable, hcolumns⟩
    have hother : ¬s.columns.any (·.ident.text = d.name) = true := by
      simp only [List.any_eq_true, decide_eq_true_eq]
      rintro ⟨c, hc, hsame⟩
      have hident : c.ident = name := Ident.eq_of_text_eq (hsame.trans hname.symm)
      exact hnew (hident ▸ List.mem_map_of_mem hc)
    have happend : t = s.append d name hnew := eq_of_columns_eq htable hcolumns
    simp only [add, if_neg hother, Ident.ofText_eq_ok_iff.2 hname, dif_neg hnew, happend]

/-- The columns of a table under their names. -/
def bindAll (table : TableName) (defs : List ColumnDef) (names : List Ident) : List Column :=
  List.zipWith (fun d name => d.bind table name) defs names

theorem map_ident_bindAll {table : TableName} {defs : List ColumnDef} {names : List Ident}
    (h : names.map Ident.text = defs.map ColumnDef.name) :
    (bindAll table defs names).map Column.ident = names := by
  induction defs generalizing names with
  | nil =>
    obtain rfl := List.map_eq_nil_iff.1 h
    rfl
  | cons d defs ih =>
    obtain ⟨name, names, rfl, -, h⟩ := List.map_eq_cons_iff.1 h
    exact congrArg (name :: ·) (ih h)

/-- Columns are added one after the other exactly if all names are legal and none comes twice. -/
theorem foldlM_add_eq_ok_iff {defs : List ColumnDef} : defs.foldlM add s = .ok t ↔
    ∃ names : List Ident, names.map Ident.text = defs.map ColumnDef.name ∧
      (s.columns.map Column.ident ++ names).Nodup ∧
      t.table = s.table ∧ t.columns = s.columns ++ bindAll s.table defs names := by
  induction defs generalizing s with
  | nil =>
    constructor
    · intro h
      obtain rfl : s = t := Except.ok.inj h
      exact ⟨[], rfl, by simpa using s.nodup, rfl, (List.append_nil _).symm⟩
    · rintro ⟨names, -, -, htable, hcolumns⟩
      have hsame : s = t := eq_of_columns_eq htable.symm (by simp [hcolumns, bindAll])
      exact congrArg Except.ok hsame
  | cons d defs ih =>
    rw [List.foldlM_cons, bind_eq_ok]
    simp only [add_eq_ok_iff, ih]
    constructor
    · rintro ⟨u, ⟨name, hname, -, hutable, hucolumns⟩, names, hnames, hnodup, htable, hcolumns⟩
      refine ⟨name :: names, by simp [hname, hnames], ?_, htable.trans hutable, ?_⟩
      · simpa [hucolumns, ColumnDef.bind, Column.ident] using hnodup
      · rw [hcolumns, hucolumns, hutable, List.append_assoc]
        rfl
    · rintro ⟨names, hnames, hnodup, htable, hcolumns⟩
      obtain ⟨name, names, rfl, hname, hnames⟩ := List.map_eq_cons_iff.1 hnames
      -- The first name is not among those before it, and the others are not among it and those.
      have hnew : name ∉ s.columns.map Column.ident := fun hmem =>
        (List.nodup_append.1 hnodup).2.2 name hmem name List.mem_cons_self rfl
      refine ⟨s.append d name hnew, ⟨name, hname, hnew, rfl, rfl⟩, names, hnames, ?_, htable, ?_⟩
      · simpa [append, ColumnDef.bind, Column.ident] using hnodup
      · rw [hcolumns, append, List.append_assoc]
        rfl

/-- A table is declared with the columns that were asked for, exactly if there are such names. -/
theorem declare_eq_ok_iff {schema table : String} {defs : List ColumnDef} :
    declare schema table defs = .ok s ↔
      s.table.schema.text = schema ∧ s.table.table.text = table ∧
      ∃ names : List Ident, names.map Ident.text = defs.map ColumnDef.name ∧ names.Nodup ∧
        s.columns = bindAll s.table defs names := by
  unfold declare
  simp only [bind_eq_ok, mapError_eq_ok, Ident.ofText_eq_ok_iff, foldlM_add_eq_ok_iff]
  constructor
  · rintro ⟨i, hi, j, hj, names, hnames, hnodup, htable, hcolumns⟩
    refine ⟨by rw [htable]; exact hi, by rw [htable]; exact hj, names, hnames, hnodup, ?_⟩
    rw [hcolumns, htable]
    rfl
  · rintro ⟨hschema, htable, names, hnames, hnodup, hcolumns⟩
    exact ⟨_, hschema, _, htable, names, hnames, hnodup, rfl, hcolumns⟩

/-- Whether a table and its columns can have these names. -/
structure CanDeclare (schema table : String) (columns : List String) : Prop where
  schema : IsLegalName schema
  table : IsLegalName table
  legal : ∀ name ∈ columns, IsLegalName name
  distinct : columns.Pairwise (· ≠ ·)

/-- A table is declared exactly if all names are legal and no two columns have the same one. -/
theorem exists_declare_iff {schema table : String} {defs : List ColumnDef} :
    (∃ s, declare schema table defs = .ok s) ↔
      CanDeclare schema table (defs.map ColumnDef.name) := by
  constructor
  · rintro ⟨s, h⟩
    obtain ⟨rfl, rfl, names, hnames, hnodup, -⟩ := declare_eq_ok_iff.1 h
    refine ⟨Ident.mem_range_text_iff.1 ⟨_, rfl⟩, Ident.mem_range_text_iff.1 ⟨_, rfl⟩,
      Ident.exists_map_text_iff.1 ⟨names, hnames⟩, ?_⟩
    rw [← hnames]
    exact hnodup.map Ident.text_injective
  · rintro ⟨hschema, htable, hlegal, hdistinct⟩
    obtain ⟨schema, rfl⟩ := Ident.mem_range_text_iff.2 hschema
    obtain ⟨table, rfl⟩ := Ident.mem_range_text_iff.2 htable
    obtain ⟨names, hnames⟩ := Ident.exists_map_text_iff.2 hlegal
    have hnodup : names.Nodup := List.Nodup.of_map Ident.text (hnames ▸ hdistinct)
    have htables : ∀ c ∈ bindAll ⟨schema, table⟩ defs names, c.table = ⟨schema, table⟩ := by
      intro c hc
      rw [bindAll, ← List.map_uncurry_zip_eq_zipWith] at hc
      obtain ⟨e, -, rfl⟩ := List.mem_map.1 hc
      rfl
    exact ⟨⟨⟨schema, table⟩, bindAll ⟨schema, table⟩ defs names, htables,
        (map_ident_bindAll hnames).symm ▸ hnodup⟩,
      declare_eq_ok_iff.2 ⟨rfl, rfl, names, hnames, hnodup, rfl⟩⟩

/-! ### Looking columns up -/

theorem index_eq_ok_iff {name : String} {k : Fin s.columns.length} :
    s.index name = .ok k ↔ (s.get k).ident.text = name := by
  constructor
  · intro h
    unfold index at h
    split at h
    · next hfind =>
      cases h
      exact of_decide_eq_true (List.findFinIdx?_eq_some_iff.1 hfind).1
    · exact (nomatch h)
  · rintro rfl
    exact s.index_get k

/-- A name that no column has is not found, and the error names it. -/
theorem index_of_forall_ne {name : String} (h : ∀ k, (s.get k).ident.text ≠ name) :
    s.index name = .error (.unknownColumn s.table name) := by
  cases hindex : s.index name with
  | ok k => exact absurd (index_eq_ok_iff.1 hindex) (h k)
  | error e =>
    unfold index at hindex
    split at hindex
    · exact (nomatch hindex)
    · exact hindex.symm

theorem get_eq_getElem (k : Fin s.columns.length) : s.get k = s.columns[(k : Nat)] := rfl

/-- The first column with a name is the one that is found by it. -/
theorem find?_eq_toOption_column (s : Schema) (name : String) :
    s.columns.find? (·.ident.text = name) = (s.column name).toOption := by
  unfold column
  by_cases h : ∃ k, (s.get k).ident.text = name
  · obtain ⟨k, hk⟩ := h
    rw [index_eq_ok_iff.2 hk]
    show _ = some (s.get k)
    refine List.find?_eq_some_iff_getElem.2 ⟨decide_eq_true hk, k, k.isLt, rfl, fun l hl => ?_⟩
    -- A column before it has another name.
    have hne : (s.get ⟨l, Nat.lt_trans hl k.isLt⟩).ident.text ≠ name := by
      intro hl'
      have heq := eq_of_ident_eq (Ident.eq_of_text_eq (hl'.trans hk.symm))
      exact absurd hl (by rw [← heq]; exact Nat.lt_irrefl _)
    simpa [get_eq_getElem] using hne
  · have hne : ∀ k, (s.get k).ident.text ≠ name := fun k hk => h ⟨k, hk⟩
    rw [index_of_forall_ne hne]
    refine List.find?_eq_none.2 fun c hc => ?_
    obtain ⟨k, hk, rfl⟩ := List.getElem_of_mem hc
    simpa [get_eq_getElem] using hne ⟨k, hk⟩

theorem name_get_eq_iff {k : Fin s.columns.length} {c : ColumnName} :
    (s.get k).name = c ↔ c.table = s.table ∧ (s.get k).ident.text = c.column.text := by
  constructor
  · rintro rfl
    exact ⟨s.table_get k, rfl⟩
  · rintro ⟨htable, hname⟩
    have hcolumn : (s.get k).name.column = c.column := Ident.eq_of_text_eq hname
    have htable' : (s.get k).name.table = c.table := (s.table_get k).trans htable.symm
    obtain ⟨table, column⟩ := c
    rw [← show (s.get k).name.table = table from htable',
      ← show (s.get k).name.column = column from hcolumn]

/-- By its full name a column is found exactly if it belongs to the table, and then where its own
name is found. -/
theorem position?_eq_some_iff {c : ColumnName} {k : Fin s.columns.length} :
    s.position? c = some k ↔ c.table = s.table ∧ s.index c.column.text = .ok k := by
  rw [index_eq_ok_iff, ← name_get_eq_iff]
  constructor
  · intro h
    exact of_decide_eq_true (List.findFinIdx?_eq_some_iff.1 h).1
  · rintro rfl
    refine List.findFinIdx?_eq_some_iff.2 ⟨decide_eq_true rfl, fun l hl hname => ?_⟩
    have hsame : (s.get l).name = (s.get k).name := of_decide_eq_true hname
    have heq : l = k := eq_of_ident_eq (congrArg ColumnName.column hsame)
    exact absurd hl (heq ▸ Nat.lt_irrefl _)

/-! ### The table that is declared -/

/-- The places of the key ascend. -/
theorem pairwise_keyPositions (s : Schema) : (s.keyPositions.map Fin.val).Pairwise (· < ·) := by
  rw [List.pairwise_map]
  exact (List.pairwise_lt_finRange _).filter _

theorem primaryKey_eq_map (s : Schema) : s.primaryKey = s.keyPositions.map s.get := by
  have hcolumns : s.columns = (List.finRange s.columns.length).map s.get :=
    (List.map_get_finRange s.columns).symm
  unfold primaryKey keyPositions
  conv_lhs => rw [hcolumns, List.filter_map]
  rfl

/-- Whether a table is what was asked for: its names, its columns in their order, its key, and what
is found under which name. -/
structure Represents (s : Schema) (schema table : String) (requests : List ColumnRequest) :
    Prop where
  schema_text : s.table.schema.text = schema
  table_text : s.table.table.text = table
  columns : List.Forall₂ (fun r c => ∃ name : Ident, name.text = r.name ∧
    c = r.definition.bind s.table name) requests s.columns
  /-- The key is where columns were flagged so, from the first place to the last. -/
  key_ascending : (s.keyPositions.map Fin.val).Pairwise (· < ·)
  mem_key_iff : ∀ k : Nat, k ∈ s.keyPositions.map Fin.val ↔
    ∃ r, requests[k]? = some r ∧ .flag .primaryKey ∈ r.calls
  key_columns : s.primaryKey = s.keyPositions.map s.get
  key_constrained : ∀ c ∈ s.primaryKey, c.unique = true ∧ c.notNull = true
  /-- A name is found at the place where it was asked for, and nowhere else. -/
  index_iff : ∀ (name : String) (k : Fin s.columns.length), s.index name = .ok k ↔
    ∃ r, requests[(k : Nat)]? = some r ∧ r.name = name
  column_iff : ∀ (name : String) (c : Column), s.column name = .ok c ↔
    ∃ k, s.index name = .ok k ∧ s.get k = c
  find_eq : ∀ name : String,
    s.columns.find? (·.ident.text = name) = (s.column name).toOption
  position_iff : ∀ (c : ColumnName) (k : Fin s.columns.length), s.position? c = some k ↔
    c.table = s.table ∧ s.index c.column.text = .ok k
  unknown_iff : ∀ name : String, s.index name = .error (.unknownColumn s.table name) ↔
    ∀ r ∈ requests, r.name ≠ name

/-- The columns that were asked for, one for one. -/
theorem forall₂_bindAll {table : TableName} {requests : List ColumnRequest} {names : List Ident}
    (h : names.map Ident.text = requests.map ColumnRequest.name) :
    List.Forall₂ (fun (r : ColumnRequest) c => ∃ name : Ident, name.text = r.name ∧
      c = r.definition.bind table name) requests
      (bindAll table (requests.map ColumnRequest.definition) names) := by
  induction requests generalizing names with
  | nil =>
    obtain rfl := List.map_eq_nil_iff.1 h
    exact .nil
  | cons r requests ih =>
    obtain ⟨name, names, rfl, hname, h⟩ := List.map_eq_cons_iff.1 h
    exact .cons ⟨name, hname, rfl⟩ (ih h)

section Represents

variable {requests : List ColumnRequest}
  (h : List.Forall₂ (fun (r : ColumnRequest) c => ∃ name : Ident, name.text = r.name ∧
    c = r.definition.bind s.table name) requests s.columns)

include h

/-- The column at a place is the one that was asked for there. -/
theorem exists_request (k : Fin s.columns.length) :
    ∃ r, requests[(k : Nat)]? = some r ∧ ∃ name : Ident, name.text = r.name ∧
      s.get k = r.definition.bind s.table name :=
  getElem?_of_forall₂ h (List.getElem?_eq_getElem k.isLt)

theorem primaryKey_get_iff (k : Fin s.columns.length) : (s.get k).primaryKey = true ↔
    ∃ r, requests[(k : Nat)]? = some r ∧ .flag .primaryKey ∈ r.calls := by
  obtain ⟨r, hr, name, -, hget⟩ := exists_request h k
  rw [hget]
  constructor
  · intro hkey
    exact ⟨r, hr, ColumnRequest.primaryKey_definition_iff.1 hkey⟩
  · rintro ⟨r', hr', hflag⟩
    cases hr.symm.trans hr'
    exact ColumnRequest.primaryKey_definition_iff.2 hflag

theorem ident_get_iff (name : String) (k : Fin s.columns.length) :
    (s.get k).ident.text = name ↔ ∃ r, requests[(k : Nat)]? = some r ∧ r.name = name := by
  obtain ⟨r, hr, i, hi, hget⟩ := exists_request h k
  rw [hget]
  constructor
  · intro hname
    exact ⟨r, hr, hi.symm.trans hname⟩
  · rintro ⟨r', hr', hname⟩
    cases hr.symm.trans hr'
    exact hi.trans hname

/-- Every column that was asked for has its place. -/
theorem exists_place {r : ColumnRequest} (hr : r ∈ requests) :
    ∃ k : Fin s.columns.length, requests[(k : Nat)]? = some r := by
  obtain ⟨k, hk, rfl⟩ := List.getElem_of_mem hr
  exact ⟨⟨k, h.length_eq ▸ hk⟩, List.getElem?_eq_getElem hk⟩

theorem mem_keyPositions_iff (k : Nat) : k ∈ s.keyPositions.map Fin.val ↔
    ∃ r, requests[k]? = some r ∧ .flag .primaryKey ∈ r.calls := by
  simp only [keyPositions, List.mem_map, List.mem_filter, List.mem_finRange, true_and]
  constructor
  · rintro ⟨l, hl, rfl⟩
    exact (primaryKey_get_iff h l).1 hl
  · rintro ⟨r, hr, hflag⟩
    have hk : k < s.columns.length := h.length_eq ▸ (List.getElem?_eq_some_iff.1 hr).1
    exact ⟨⟨k, hk⟩, (primaryKey_get_iff h ⟨k, hk⟩).2 ⟨r, hr, hflag⟩, rfl⟩

theorem index_eq_error_iff (name : String) :
    s.index name = .error (.unknownColumn s.table name) ↔ ∀ r ∈ requests, r.name ≠ name := by
  constructor
  · intro herror r hr hname
    obtain ⟨k, hk⟩ := exists_place h hr
    have hfound := index_eq_ok_iff.2 ((ident_get_iff h name k).2 ⟨r, hk, hname⟩)
    exact (nomatch herror.symm.trans hfound)
  · intro hne
    refine index_of_forall_ne fun k hk => ?_
    obtain ⟨r, hr, hname⟩ := (ident_get_iff h name k).1 hk
    exact hne r (List.mem_of_getElem? hr) hname

end Represents

theorem represents_of_declare {schema table : String} {requests : List ColumnRequest}
    (h : declare schema table (requests.map ColumnRequest.definition) = .ok s) :
    s.Represents schema table requests := by
  obtain ⟨hschema, htable, names, hnames, -, hcolumns⟩ := declare_eq_ok_iff.1 h
  have hnames' : names.map Ident.text = requests.map ColumnRequest.name := by
    rw [hnames, List.map_map]
    exact List.map_congr_left fun r _ => r.name_definition
  have hall : List.Forall₂ (fun (r : ColumnRequest) c => ∃ name : Ident, name.text = r.name ∧
      c = r.definition.bind s.table name) requests s.columns :=
    hcolumns ▸ forall₂_bindAll hnames'
  refine
    { schema_text := hschema
      table_text := htable
      columns := hall
      key_ascending := s.pairwise_keyPositions
      mem_key_iff := mem_keyPositions_iff hall
      key_columns := s.primaryKey_eq_map
      key_constrained := fun c hc => ?_
      index_iff := fun name k => index_eq_ok_iff.trans (ident_get_iff hall name k)
      column_iff := fun name c => map_eq_ok
      find_eq := s.find?_eq_toOption_column
      position_iff := fun c k => position?_eq_some_iff
      unknown_iff := index_eq_error_iff hall }
  obtain ⟨hmem, hkey⟩ := List.mem_filter.1 hc
  obtain ⟨r, -, name, -, rfl⟩ := exists_of_mem_right hall hmem
  exact r.keepsKey_definition hkey

/-- A table is declared exactly if its own names and those of all columns are made of letters,
digits and underscores, and no two columns have the same name; it is then what was asked for. -/
theorem declare_represents (schema table : String) (requests : List ColumnRequest) :
    match declare schema table (requests.map ColumnRequest.definition) with
    | .ok s => CanDeclare schema table (requests.map ColumnRequest.name) ∧
        s.Represents schema table requests
    | .error _ => ¬CanDeclare schema table (requests.map ColumnRequest.name) := by
  have hnames : (requests.map ColumnRequest.definition).map ColumnDef.name =
      requests.map ColumnRequest.name := by
    rw [List.map_map]
    exact List.map_congr_left fun r _ => r.name_definition
  have hexists : (∃ s, declare schema table (requests.map ColumnRequest.definition) = .ok s) ↔
      CanDeclare schema table (requests.map ColumnRequest.name) := by
    rw [← hnames]
    exact exists_declare_iff
  split
  · next s hs => exact ⟨hexists.1 ⟨s, hs⟩, represents_of_declare hs⟩
  · next e he =>
    intro hcan
    obtain ⟨s, hs⟩ := hexists.2 hcan
    exact (nomatch he.symm.trans hs)

end Schema

end TypedTable
