import TypedTable.Proofs.Conversion
import TypedTable.Proofs.Upsert.Stored
import TypedTable.Proofs.Wire.Cell
/-!
# Keys as the server sees them

A batch leaves out rows by the keys that its rows have before anything is sent, and a server
compares the bytes that it gets. `Insert.SendsKeyTwice` is what a server refuses: two rows of one
statement whose keys are known and have the same bytes.

The two notions of a key part where a column `Confuses` two rows: the batch takes them for
different ones and the server does not. That happens where a computed default is written with
another value than the one that was compared, to rows of another declaration of the table, whose
values are only brought to the form of the columns when the statement is written, and to points in
time within one microsecond. `Insert.sendsKeyTwice_iff_of_build` says that an upsert sends a key
twice exactly if a column of the key confuses two rows whose keys coincide.
-/

namespace TypedTable

open Wire BackFill

/-- The bytes of the value that a cell sends as a type, if it sends one. -/
def InsertCell.bytes? (t : WireType) : InsertCell → Option Bytes
  | bound _ v => (v.encode t).toOption.join
  | absent | random _ => none

namespace Insert

variable {s : Schema}

/-- The bytes of the key that a row of cells is sent with, if all of it is known. -/
def keyBytes (s : Schema) (cells : List InsertCell) : Option (List Bytes) :=
  s.keyPositions.mapM fun (k : Fin s.columns.length) =>
    cells[(k : Nat)]?.bind (InsertCell.bytes? (s.get k).type.wireType)

/-- Whether two rows of cells are sent with one key. -/
def SendsKeyTwice (s : Schema) (rows : List (List InsertCell)) : Prop :=
  ∃ (l l' : Nat) (cells cells' : List InsertCell) (key : List Bytes), l < l' ∧
    rows[l]? = some cells ∧ rows[l']? = some cells' ∧
    keyBytes s cells = some key ∧ keyBytes s cells' = some key

/-! ### The keys of two rows -/

/-- Whether the keys that two rows are written with are known and coincide. -/
def KeysCoincide (s : Schema) (row row' : Batch.Entry) : Prop :=
  ∀ k ∈ s.keyPositions, ∃ v w, boundValue (s.get k) row.bound (row.row.slot k) = some v ∧
    boundValue (s.get k) row'.bound (row'.row.slot k) = some w ∧ v.Coincide w

/-- A value that is bound can be sent. -/
theorem exists_encode_of_boundValue {c : Column} {e : Evaluation} {slot : Option Value} {w : Value}
    (h : boundValue c e slot = some w) : ∃ bytes, w.encode c.type.wireType = .ok (some bytes) := by
  obtain ⟨v, -, hvalidate, hnull, hrandom⟩ := boundValue_eq_some h
  have hconvert := Column.convert_convert (Column.convert_of_validate hvalidate hnull)
  exact (SqlType.stores_of_coerce ⟨hnull, hrandom⟩ (SqlType.convert_eq_ok.1 hconvert)).encodes

theorem join_toOption_eq_some_iff {x : Except BindFault (Option Bytes)} {bytes : Bytes} :
    x.toOption.join = some bytes ↔ x = .ok (some bytes) := by
  cases x with
  | error fault => exact ⟨fun h => (nomatch h), fun h => (nomatch h)⟩
  | ok sent => exact ⟨fun h => congrArg Except.ok h, Except.ok.inj⟩

/-- A cell sends the bytes of the value that is bound for it. -/
theorem bytes?_eq_some_iff {n : Nat} {c : Column} {e : Evaluation} {slot : Option Value}
    {cell : InsertCell} {t : WireType} {bytes : Bytes} (h : InsertCell.ofSlot n c e slot = .ok cell) :
    cell.bytes? t = some bytes ↔
      ∃ v, boundValue c e slot = some v ∧ v.encode t = .ok (some bytes) := by
  unfold boundValue
  obtain ⟨hwritten, rfl⟩ | ⟨v, hwritten, ⟨sql, rfl, rfl⟩ | ⟨w, hvalidate, hrandom, rfl⟩⟩ :=
    ofSlot_cases h
  · rw [hwritten]
    exact ⟨fun h => (nomatch h), fun ⟨_, h, _⟩ => (nomatch h)⟩
  · rw [hwritten, Option.bind_some, Column.validate_eq_random.2 rfl]
    exact ⟨fun h => (nomatch h), fun ⟨_, h, _⟩ => (nomatch h)⟩
  · rw [hwritten, Option.bind_some, hvalidate]
    show (w.encode t).toOption.join = some bytes ↔ ∃ v, Batch.known w = some v ∧ _
    by_cases hnull : w = .null
    · subst hnull
      exact ⟨fun h => (nomatch h), fun ⟨_, h, _⟩ => (nomatch h)⟩
    · have hknown : Batch.known w = some w := by
        cases w <;> first | rfl | exact absurd rfl hnull | exact absurd rfl (hrandom _)
      rw [hknown, join_toOption_eq_some_iff]
      simp only [Option.some.injEq, exists_eq_left']

/-- Two rows of cells are sent with one key if their keys coincide. -/
theorem exists_keyBytes_iff {row row' : Batch.Entry} {cells cells' : List InsertCell}
    (hrow : Insert.cells s row = .ok cells) (hrow' : Insert.cells s row' = .ok cells') :
    (∃ key, keyBytes s cells = some key ∧ keyBytes s cells' = some key) ↔
      KeysCoincide s row row' := by
  have hsame : (∃ key, keyBytes s cells = some key ∧ keyBytes s cells' = some key) ↔
      ∃ key key', keyBytes s cells = some key ∧ keyBytes s cells' = some key' ∧
        List.Forall₂ Eq key key' := by
    simp only [List.forall₂_eq_eq_eq]
    refine exists_congr fun key => ⟨fun ⟨h, h'⟩ => ⟨key, h, h', rfl⟩, ?_⟩
    rintro ⟨_, h, h', rfl⟩
    exact ⟨h, h'⟩
  rw [hsame, keyBytes, keyBytes, exists_mapM_forall₂_iff]
  refine forall₂_congr fun k _ => ?_
  obtain ⟨cell, hcell, hofSlot⟩ := getElem?_cells hrow k
  obtain ⟨cell', hcell', hofSlot'⟩ := getElem?_cells hrow' k
  rw [hcell, hcell', Option.bind_some, Option.bind_some]
  simp only [bytes?_eq_some_iff hofSlot, bytes?_eq_some_iff hofSlot']
  constructor
  · rintro ⟨bytes, _, ⟨v, hv, hbytes⟩, ⟨w, hw, hbytes'⟩, rfl⟩
    exact ⟨v, w, hv, hw, (Value.encode_eq_iff hbytes).1 hbytes'⟩
  · rintro ⟨v, w, hv, hw, hcoincide⟩
    obtain ⟨bytes, hbytes⟩ := exists_encode_of_boundValue hv
    exact ⟨bytes, bytes, ⟨v, hv, hbytes⟩, ⟨w, hw, (Value.encode_eq_iff hbytes).2 hcoincide⟩, rfl⟩

end Insert

/-! ### The rows that are sent -/

namespace Batch

variable {s : Schema} {batch : List Entry}

/-- Whether two rows are known to have the same value in a column, where keys are compared. -/
def SharesPart (s : Schema) (k : Fin s.columns.length) (row row' : Entry) : Prop :=
  ∃ v w, (written (s.get k) row.compared (row.row.slot k)).bind known = some v ∧
    (written (s.get k) row'.compared (row'.row.slot k)).bind known = some w ∧ v.same w = true

theorem sharesKey_iff {row row' : Entry} :
    SharesKey s row row' ↔ ∀ k ∈ s.keyPositions, SharesPart s k row row' := by
  unfold SharesKey keyOf SharesPart
  simp only [sameKey_iff, exists_mapM_forall₂_iff]

/-- Rows are sent in the order of the batch. -/
theorem numbered_sent (policy : ConflictPolicy) (h : Numbered batch) :
    Numbered (sent s policy batch) :=
  h.sublist (sent_sublist policy batch)

end Batch

namespace Insert

variable {s : Schema} {batch : List Batch.Entry}

/-- A key is sent twice if two rows that are sent have keys that coincide. -/
theorem sendsKeyTwice_iff {cells : List (List InsertCell)} (hnumbered : Batch.Numbered batch)
    (hcells : (Batch.sent s .upsert batch).mapM (Insert.cells s) = .ok cells) :
    SendsKeyTwice s cells ↔ ∃ row row', row.number < row'.number ∧ Batch.IsLast s batch row ∧
      Batch.IsLast s batch row' ∧ KeysCoincide s row row' := by
  have hrelated := mapM_eq_ok_iff.1 hcells
  have hsends := Batch.sends_sent (s := s) hnumbered
  have horder := List.pairwise_iff_getElem.1 (Batch.numbered_sent (s := s) .upsert hnumbered)
  constructor
  · rintro ⟨l, l', tuple, tuple', key, hl, htuple, htuple', hkey, hkey'⟩
    obtain ⟨row, hrow, hrowCells⟩ := getElem?_of_forall₂ hrelated htuple
    obtain ⟨row', hrow', hrowCells'⟩ := getElem?_of_forall₂ hrelated htuple'
    obtain ⟨hlt, rfl⟩ := List.getElem?_eq_some_iff.1 hrow
    obtain ⟨hlt', rfl⟩ := List.getElem?_eq_some_iff.1 hrow'
    exact ⟨_, _, horder l l' hlt hlt' hl, (hsends.mem_iff _).1 (List.getElem_mem hlt),
      (hsends.mem_iff _).1 (List.getElem_mem hlt'),
      (exists_keyBytes_iff hrowCells hrowCells').1 ⟨key, hkey, hkey'⟩⟩
  · rintro ⟨row, row', hnumber, hrow, hrow', hcoincide⟩
    obtain ⟨l, hl⟩ := List.mem_iff_getElem?.1 ((hsends.mem_iff row).2 hrow)
    obtain ⟨l', hl'⟩ := List.mem_iff_getElem?.1 ((hsends.mem_iff row').2 hrow')
    obtain ⟨tuple, htuple, hrowCells⟩ := getElem?_of_forall₂ hrelated.flip hl
    obtain ⟨tuple', htuple', hrowCells'⟩ := getElem?_of_forall₂ hrelated.flip hl'
    obtain ⟨key, hkey, hkey'⟩ := (exists_keyBytes_iff hrowCells hrowCells').2 hcoincide
    refine ⟨l, l', tuple, tuple', key, ?_, htuple, htuple', hkey, hkey'⟩
    -- The rows stand in the order of their numbers.
    obtain ⟨hlt, rfl⟩ := List.getElem?_eq_some_iff.1 hl
    obtain ⟨hlt', rfl⟩ := List.getElem?_eq_some_iff.1 hl'
    rcases Nat.lt_trichotomy l l' with h | rfl | h
    · exact h
    · exact absurd hnumber (Nat.lt_irrefl _)
    · exact absurd hnumber (Nat.lt_asymm (horder l' l hlt' hlt h))

/-! ### Keys that differ in a batch and coincide for a server -/

/-- Whether a column tells two rows apart where keys are compared, though it may be written with one
value: it is not written with what was compared, or it has to bring a value to its form, or the rows
have points in time within one microsecond. -/
def Confuses (s : Schema) (k : Fin s.columns.length) (row row' : Batch.Entry) : Prop :=
  ¬Batch.SharesPart s k row row' ∧
    (¬row.KeepsPart s k ∨ ¬row'.KeepsPart s k ∨
      ∃ v w, Batch.written (s.get k) row.bound (row.row.slot k) = some v ∧
        Batch.written (s.get k) row'.bound (row'.row.slot k) = some w ∧
        ((s.get k).convert v ≠ .ok v ∨ (s.get k).convert w ≠ .ok w ∨
          ∃ x y, v = .timestamp x ∧ w = .timestamp y ∧ x.micros epoch = y.micros epoch))

theorem known_of_boundValue {c : Column} {e : Evaluation} {slot : Option Value} {w : Value}
    (h : boundValue c e slot = some w) : ∃ v, Batch.written c e slot = some v ∧
      (Batch.written c e slot).bind Batch.known = some v ∧ c.convert v = .ok w := by
  obtain ⟨v, hv, hvalidate, hnull, hrandom⟩ := boundValue_eq_some h
  have hconvert := Column.convert_of_validate hvalidate hnull
  refine ⟨v, hv, ?_, hconvert⟩
  rw [hv, Option.bind_some]
  cases v with
  | null => exact absurd (Except.ok.inj hconvert).symm hnull
  | random sql => exact absurd (Except.ok.inj hconvert).symm (hrandom sql)
  | _ => rfl

/-- Values that are in the form of a column and coincide are the same, but for points in time. -/
theorem same_of_coincide {c : Column} {v w : Value} (hv : c.convert v = .ok v)
    (h : v.Coincide w) : v.same w = true ∨
      ∃ x y, v = .timestamp x ∧ w = .timestamp y ∧ x.micros epoch = y.micros epoch := by
  cases h with
  | refl =>
    refine .inl (Value.same_self ?_)
    rintro x rfl
    exact SqlType.coerce_ne_double (Column.convert_eq_ok.1 hv)
  | @zeros d e hd he =>
    have hsigned (z : Decimal) (hz : z.isZero = true) : z.signed = 0 := by
      rw [Decimal.signed, show z.mantissa = 0 from beq_iff_eq.1 hz]
      split <;> rfl
    refine .inl (Decimal.same_iff.2 ?_)
    rw [hsigned d hd, hsigned e he, Int.zero_mul, Int.zero_mul]
  | instants h => exact .inr ⟨_, _, rfl, rfl, h⟩

/-- If the keys of two rows coincide and the batch does not know that they share a key, then a
column of the key confuses them. -/
theorem exists_confuses {row row' : Batch.Entry} (hcoincide : KeysCoincide s row row')
    (hdistinct : ¬Batch.SharesKey s row row') : ∃ k ∈ s.keyPositions, Confuses s k row row' := by
  rw [Batch.sharesKey_iff] at hdistinct
  push Not at hdistinct
  obtain ⟨k, hk, hpart⟩ := hdistinct
  refine ⟨k, hk, hpart, ?_⟩
  by_cases hkeeps : row.KeepsPart s k
  · by_cases hkeeps' : row'.KeepsPart s k
    · obtain ⟨v', w', hv', hw', hvw⟩ := hcoincide k hk
      obtain ⟨v, hv, hknown, hconvert⟩ := known_of_boundValue hv'
      obtain ⟨w, hw, hknown', hconvert'⟩ := known_of_boundValue hw'
      refine .inr (.inr ⟨v, w, hv, hw, ?_⟩)
      -- Both values were compared as they are written, and found to differ.
      have hsame : ¬v.same w = true := by
        rw [← hkeeps] at hknown
        rw [← hkeeps'] at hknown'
        exact fun hsame => hpart ⟨v, w, hknown, hknown', hsame⟩
      by_cases hform : (s.get k).convert v = .ok v
      · by_cases hform' : (s.get k).convert w = .ok w
        · cases hform.symm.trans hconvert
          cases hform'.symm.trans hconvert'
          exact .inr (.inr ((same_of_coincide hform hvw).resolve_left hsame))
        · exact .inr (.inl hform')
      · exact .inl hform
    · exact .inr (.inl hkeeps')
  · exact .inl hkeeps

/-- Rows of the table itself hold values in the form of its columns, so only points in time are
confused if the rows keep their keys. -/
theorem not_confuses {row row' : Batch.Entry} (hmade : row.row.Made s) (hmade' : row'.row.Made s)
    {k : Fin s.columns.length} (hkeeps : row.KeepsPart s k) (hkeeps' : row'.KeepsPart s k)
    (htype : (s.get k).type ≠ .timestampTz) (hbound : ∃ v w,
      boundValue (s.get k) row.bound (row.row.slot k) = some v ∧
      boundValue (s.get k) row'.bound (row'.row.slot k) = some w) : ¬Confuses s k row row' := by
  have hform {row : Batch.Entry} (hmade : row.row.Made s) {v w : Value}
      (hwritten : Batch.written (s.get k) row.bound (row.row.slot k) = some v)
      (hw : boundValue (s.get k) row.bound (row.row.slot k) = some w) :
      (s.get k).convert v = .ok v := by
    obtain ⟨v', hv', -, hconvert⟩ := known_of_boundValue hw
    cases hwritten.symm.trans hv'
    rcases Option.or_eq_some_iff.1 hwritten with hslot | ⟨-, hdefault⟩
    · exact hmade.convert_slot hslot
    · rw [Column.convert_default? hdefault hconvert] at hconvert
      exact hconvert
  obtain ⟨v', w', hv', hw'⟩ := hbound
  rintro ⟨-, hlost | hlost | ⟨v, w, hv, hw, hne | hne | ⟨x, -, rfl, -⟩⟩⟩
  · exact hlost hkeeps
  · exact hlost hkeeps'
  · exact hne (hform hmade hv hv')
  · exact hne (hform hmade' hw hw')
  · have hstores := SqlType.form_of_coerce ⟨by simp, by simp⟩
      (Column.convert_eq_ok.1 (hform hmade hv hv'))
    generalize (s.get k).type = t at htype hstores
    cases hstores.1
    exact htype rfl

/-! ### Built upserts -/

/-- What the statement of an upsert sends. Every cell has its own value, and one key is sent twice
exactly if two rows are sent whose keys have the same bytes though the batch does not take them for
one key, since a column confuses them. Rows of the table itself that keep their keys are confused by
points in time only. -/
theorem sendsKeyTwice_iff_of_build {q : Insert} {b : InsertQuery} (hpolicy : q.policy = .upsert)
    (hbuild : q.build = .ok b) :
    (q.rows = [] ∧ b.statement = .empty) ∨ ∃ cells : List (List InsertCell),
      b.statement = Insert.statement q.schema .upsert cells ∧
      (∀ row ∈ cells, ∀ name v, .bound name v ∈ row → b.statement.params.get? name = some v) ∧
      (SendsKeyTwice q.schema cells ↔ ∃ row row', row.number < row'.number ∧
        Batch.IsLast q.schema q.batch row ∧ Batch.IsLast q.schema q.batch row' ∧
        KeysCoincide q.schema row row' ∧
        ∃ k ∈ q.schema.keyPositions, Confuses q.schema k row row') ∧
      ((∀ row ∈ q.batch, row.row.Made q.schema ∧ row.KeepsKey q.schema) →
        (∀ k ∈ q.schema.keyPositions, (q.schema.get k).type ≠ .timestampTz) →
        ¬SendsKeyTwice q.schema cells) := by
  obtain ⟨-, hrender, -⟩ := build_eq_ok hbuild
  have hkey := (build_eq_ok_iff.1 hbuild).2.1 hpolicy
  have hnumbered : Batch.Numbered q.batch := Batch.numbered_entries _ _
  obtain ⟨hempty, hstatement⟩ | ⟨cells, hcells, hstatement⟩ := render_eq_ok hrender
  · exact .inl ⟨hempty.resolve_right (Schema.columns_ne_nil hkey), hstatement⟩
  · rw [hpolicy] at hcells hstatement
    have hiff : SendsKeyTwice q.schema cells ↔ ∃ row row', row.number < row'.number ∧
        Batch.IsLast q.schema q.batch row ∧ Batch.IsLast q.schema q.batch row' ∧
        KeysCoincide q.schema row row' ∧
        ∃ k ∈ q.schema.keyPositions, Confuses q.schema k row row' := by
      rw [sendsKeyTwice_iff hnumbered hcells]
      constructor
      · rintro ⟨row, row', hnumber, hrow, hrow', hcoincide⟩
        exact ⟨row, row', hnumber, hrow, hrow', hcoincide,
          exists_confuses hcoincide (hrow.2 row' hrow'.1 hnumber)⟩
      · rintro ⟨row, row', hnumber, hrow, hrow', hcoincide, -⟩
        exact ⟨row, row', hnumber, hrow, hrow', hcoincide⟩
    refine .inr ⟨cells, hstatement, fun row hrow name v hv => ?_, hiff,
      fun hrows htypes htwice => ?_⟩
    · rw [hstatement]
      exact get?_of_mem_cells hcells hnumbered hrow hv
    · obtain ⟨row, row', -, hrow, hrow', hcoincide, k, hk, hconfuses⟩ := hiff.1 htwice
      obtain ⟨v, w, hv, hw, -⟩ := hcoincide k hk
      obtain ⟨hmade, hkeeps⟩ := hrows row hrow.1
      obtain ⟨hmade', hkeeps'⟩ := hrows row' hrow'.1
      exact not_confuses hmade hmade' (hkeeps k hk) (hkeeps' k hk) (htypes k hk) ⟨v, w, hv, hw⟩
        hconfuses

end Insert

/-! ### Two points in time within one microsecond -/

namespace Instants

/-- The table of the columns. -/
def table : TableName := ⟨⟨"museum", by decide, by decide⟩, ⟨"visits", by decide, by decide⟩⟩

def key : Column where
  name := ⟨table, ⟨"at", by decide, by decide⟩⟩
  type := .timestampTz
  primaryKey := true
  unique := true
  notNull := true
  default := none
  foreignKey := none

def schema : Schema where
  table := table
  columns := [key]
  table_eq := by decide
  nodup := by decide

/-- The first day of 2024. -/
def day : Date := ⟨2024, 1, 1, by decide, by decide, by decide⟩

/-- Midnight. -/
def midnight : Timestamp := ⟨day, .midnight, 0, by decide, by decide⟩

/-- A hundred nanoseconds after midnight. -/
def later : Timestamp where
  date := day
  clock := { Clock.midnight with nano := 100, nano_lt := by decide }
  offset := 0
  offset_mem := by decide
  utc_mem := by decide

/-- A row at a point in time. -/
def row (x : Timestamp) : Instance := (Instance.new schema).put 0 (.timestamp x)

/-- Both rows are sent, and a server that counts microseconds gets one key twice. -/
theorem sendsKeyTwice_instants : ∃ b cells,
    Insert.build ⟨schema, [row midnight, row later], .upsert, {}⟩ = .ok b ∧
    b.statement = Insert.statement schema .upsert cells ∧ Insert.SendsKeyTwice schema cells := by
  obtain ⟨b, hbuild⟩ : ∃ b, Insert.build ⟨schema, [row midnight, row later], .upsert, {}⟩ = .ok b :=
    ⟨_, rfl⟩
  obtain ⟨hempty, -⟩ | ⟨cells, hstatement, -, hiff, -⟩ :=
    Insert.sendsKeyTwice_iff_of_build rfl hbuild
  · cases hempty
  refine ⟨b, cells, hbuild, hstatement, hiff.2 ?_⟩
  obtain ⟨first, second, hbatch, hfirst, hsecond⟩ : ∃ first second,
      Insert.batch ⟨schema, [row midnight, row later], .upsert, {}⟩ = [first, second] ∧
      first = ⟨row midnight, 0, fun _ _ => .null, fun _ _ => .null⟩ ∧
      second = ⟨row later, 1, fun _ _ => .null, fun _ _ => .null⟩ := ⟨_, _, rfl, rfl, rfl⟩
  have hmicros : midnight.micros epoch = later.micros epoch := by decide
  have hcoincide : Insert.KeysCoincide schema first second := by
    subst hfirst hsecond
    intro k _
    obtain rfl : k = ⟨0, by decide⟩ := Fin.ext (Nat.lt_one_iff.1 k.isLt)
    exact ⟨.timestamp midnight, .timestamp later, rfl, rfl, .instants hmicros⟩
  have hdistinct : ¬Batch.SharesKey schema first second := by
    subst hfirst hsecond
    rintro ⟨_, _, hkey, hkey', hsame⟩
    cases hkey
    cases hkey'
    exact absurd hsame (by decide)
  have hnumbers : first.number = 0 ∧ second.number = 1 := by
    subst hfirst hsecond
    exact ⟨rfl, rfl⟩
  rw [hbatch]
  refine ⟨first, second, by omega, ⟨by simp, fun other hother hlt => ?_⟩,
    ⟨by simp, fun other hother hlt => ?_⟩, hcoincide, Insert.exists_confuses hcoincide hdistinct⟩
  · rcases List.mem_pair.1 hother with rfl | rfl
    · omega
    · exact hdistinct
  · rcases List.mem_pair.1 hother with rfl | rfl <;> omega

end Instants

end TypedTable
