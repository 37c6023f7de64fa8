import TypedTable.Proofs.Key
import TypedTable.Query.Insert
/-!
# A server that runs insertions

The server keeps the rows of a table (`Content`) and runs an insertion row by row: values that are
sent are stored as they are, and all others are drawn by the server (`storedRow`). A null in a
column that takes none is refused. A row whose key is in the table is skipped, or replaces the row
that is there; a statement that would replace one row twice is refused (`Content.write`).

The rows that are written come back in the order in which they were sent, and no two of them have
the same key (`Content.write_spec`).
-/

namespace TypedTable

/-- The rows of a table. -/
abbrev Content := List Record

/-- The key of a row. -/
def Schema.keyOf (s : Schema) (r : Record) : List Value :=
  s.keyPositions.map fun (k : Fin s.columns.length) => (r[(k : Nat)]?).getD .null

/-- Whether a row has no null in a column that takes none. -/
def Schema.admits (s : Schema) (r : Record) : Bool :=
  (List.finRange s.columns.length).all fun k => !(s.get k).notNull || r[(k : Nat)]? != some .null

/-- What the server stores for a cell: the value that was sent, or one that it draws. -/
def InsertCell.stored (draw : InsertCell → Value) : InsertCell → Value
  | bound _ v => v
  | cell => draw cell

/-- The row that the server stores for a row of cells. -/
def storedRow (draw : Nat → InsertCell → Value) (cells : List InsertCell) : Record :=
  cells.mapIdx fun k cell => cell.stored (draw k)

namespace Content

variable (s : Schema)

/-- Whether a row with a key is there. -/
def hasKey (content : Content) (key : List Value) : Bool :=
  content.any fun r => Batch.sameKey (s.keyOf r) key

/-- Adds rows one after the other and skips those whose key is there. Gives the rows that are
added. -/
def addNew (content : Content) : List Record → List Record × Content
  | [] => ([], content)
  | r :: rest =>
    if content.hasKey s (s.keyOf r) then addNew content rest
    else
      let (written, after) := addNew (content ++ [r]) rest
      (r :: written, after)

/-- Puts a row in the place of the one with its key, or else at the end. -/
def put (content : Content) (r : Record) : Content :=
  if content.hasKey s (s.keyOf r) then
    content.map fun old => if Batch.sameKey (s.keyOf old) (s.keyOf r) then r else old
  else content ++ [r]

/-- Puts rows one after the other, if no key is touched twice. -/
def putAll (content : Content) (touched : List Record) : List Record → Option Content
  | [] => some content
  | r :: rest =>
    if Content.hasKey s touched (s.keyOf r) then none
    else putAll (content.put s r) (r :: touched) rest

/-- What a statement is refused with. -/
def refusal : Error := .connection "refused by the server"

/-- Runs an insertion: the rows that come back, and the table afterwards. -/
def write (policy : ConflictPolicy) (draw : Nat → Nat → InsertCell → Value)
    (rows : List (List InsertCell)) (content : Content) : Except Error (List Record) × Content :=
  let records := rows.mapIdx fun n cells => storedRow (draw n) cells
  if records.all s.admits then
    match policy with
    | .doNothing =>
      let (written, after) := content.addNew s records
      (.ok written, after)
    | .upsert =>
      match content.putAll s [] records with
      | some after => (.ok records, after)
      | none => (.error refusal, content)
  else (.error refusal, content)

variable {s}

theorem hasKey_eq_false {content : Content} {key : List Value} :
    content.hasKey s key = false ↔ ∀ r ∈ content, Batch.sameKey (s.keyOf r) key = false := by
  simp [hasKey]

/-- Rows that are added are some of those that were sent, in their order; none has the key of a row
that was there before, or of another one. -/
theorem addNew_spec (content : Content) (rows : List Record) :
    (content.addNew s rows).1.Sublist rows ∧
      (∀ r ∈ (content.addNew s rows).1, content.hasKey s (s.keyOf r) = false) ∧
      (content.addNew s rows).1.Pairwise fun r r' =>
        Batch.sameKey (s.keyOf r) (s.keyOf r') = false := by
  induction rows generalizing content with
  | nil => exact ⟨List.Sublist.refl _, fun r hr => absurd hr List.not_mem_nil, .nil⟩
  | cons r rest ih =>
    rw [addNew]
    split
    · obtain ⟨hsub, hkeys, hpairwise⟩ := ih content
      exact ⟨hsub.cons r, hkeys, hpairwise⟩
    · next hnew =>
      obtain ⟨hsub, hkeys, hpairwise⟩ := ih (content ++ [r])
      -- The row that is added counts as one that was there for all rows behind it.
      have hparts : ∀ r' ∈ (addNew s (content ++ [r]) rest).1,
          content.hasKey s (s.keyOf r') = false ∧
            Batch.sameKey (s.keyOf r) (s.keyOf r') = false := by
        intro r' hr'
        have hall := hasKey_eq_false.1 (hkeys r' hr')
        refine ⟨hasKey_eq_false.2 fun t ht => hall t (List.mem_append_left _ ht), ?_⟩
        exact hall r (List.mem_append_right _ List.mem_cons_self)
      refine ⟨hsub.cons_cons r, List.forall_mem_cons.2 ⟨by simpa using hnew, ?_⟩, ?_⟩
      · exact fun r' hr' => (hparts r' hr').1
      · exact List.pairwise_cons.2 ⟨fun r' hr' => (hparts r' hr').2, hpairwise⟩

/-- Rows that can be put have keys of their own. -/
theorem pairwise_of_putAll {content after : Content} {touched rows : List Record}
    (h : content.putAll s touched rows = some after) :
    (∀ r ∈ rows, Content.hasKey s touched (s.keyOf r) = false) ∧
      rows.Pairwise fun r r' => Batch.sameKey (s.keyOf r) (s.keyOf r') = false := by
  induction rows generalizing content touched with
  | nil => exact ⟨fun r hr => absurd hr List.not_mem_nil, .nil⟩
  | cons r rest ih =>
    rw [putAll] at h
    split at h
    · exact (nomatch h)
    · next hnew =>
      -- Rows that were touched before are touched for the rest as well.
      obtain ⟨hkeys, hpairwise⟩ := ih h
      have hall := fun r' hr' => hasKey_eq_false.1 (hkeys r' hr')
      refine ⟨List.forall_mem_cons.2 ⟨by simpa using hnew, fun r' hr' => ?_⟩, ?_⟩
      · exact hasKey_eq_false.2 fun t ht => hall r' hr' t (List.mem_cons_of_mem _ ht)
      · exact List.pairwise_cons.2 ⟨fun r' hr' => hall r' hr' r List.mem_cons_self, hpairwise⟩

variable {policy : ConflictPolicy} {draw : Nat → Nat → InsertCell → Value}
  {rows : List (List InsertCell)} {content after : Content} {records : List Record}

/-- The rows that come back are stored for some of the rows that were sent, in their order. No two
of them have the same key. -/
theorem write_spec (h : content.write s policy draw rows = (.ok records, after)) :
    records.Sublist (rows.mapIdx fun n cells => storedRow (draw n) cells) ∧
      records.Pairwise fun r r' => Batch.sameKey (s.keyOf r) (s.keyOf r') = false := by
  unfold write at h
  dsimp only at h
  split at h
  · cases policy with
    | doNothing =>
      obtain ⟨hsub, -, hpairwise⟩ :=
        content.addNew_spec (s := s) (rows.mapIdx fun n cells => storedRow (draw n) cells)
      cases h
      exact ⟨hsub, hpairwise⟩
    | upsert =>
      dsimp only at h
      split at h
      · next hput =>
        cases h
        exact ⟨List.Sublist.refl _, (pairwise_of_putAll hput).2⟩
      · cases h
  · cases h

end Content

/-- A client that sends the text with numbered parameters to a server with a table. -/
def Client.ofServer (answer : Positional → Content → Except Error (List Record) × Content) :
    Client Content where
  query statement content :=
    match statement.positional with
    | .ok p => answer p content
    | .error e => (.error e, content)

end TypedTable
