import TypedTable.Value
/-!
# Named parameters

The values that a statement refers to by name. Names are unique; they are kept and listed in
ascending order of their characters, which is part of the type. Setting a name again replaces its
value, and of two merged lists the second one wins.

`get?_insert` and `get?_insertAll` describe what is set by the values found afterwards,
`mem_names_insert` and `mem_names_insertAll` by the names.
-/

namespace TypedTable

/-- The names of a list of entries, in order. -/
def entryNames (entries : List (String × Value)) : List String := entries.map (·.1)

/-- Values under names, in ascending order of the names. -/
structure Params where
  entries : List (String × Value)
  ascending : (entryNames entries).Pairwise (· < ·)
deriving DecidableEq

namespace Params

/-- No parameters. -/
def empty : Params := ⟨[], List.Pairwise.nil⟩

/-- One parameter. -/
def single (name : String) (v : Value) : Params := ⟨[(name, v)], List.pairwise_singleton ..⟩

/-- The value of the first entry with this name. -/
def lookup (name : String) : List (String × Value) → Option Value
  | [] => none
  | (k, v) :: rest => if k = name then some v else lookup name rest

/-- The value with this name. -/
def get? (p : Params) (name : String) : Option Value := lookup name p.entries

/-- The names, in ascending order. -/
def names (p : Params) : List String := entryNames p.entries

/-- Sets a name in a list of entries that is in order. -/
def insertEntry (name : String) (v : Value) : List (String × Value) → List (String × Value)
  | [] => [(name, v)]
  | (k, w) :: rest =>
    if name = k then (name, v) :: rest
    else if name < k then (name, v) :: (k, w) :: rest
    else (k, w) :: insertEntry name v rest

/-- The names after a name was set are that name and those from before. -/
theorem mem_entryNames_insertEntry {name k : String} {v : Value} {l : List (String × Value)} :
    k ∈ entryNames (insertEntry name v l) ↔ k = name ∨ k ∈ entryNames l := by
  induction l with
  | nil => simp [insertEntry, entryNames]
  | cons e rest ih =>
    obtain ⟨m, w⟩ := e
    simp only [entryNames, List.map_cons, List.mem_cons, insertEntry] at ih ⊢
    split
    · next h => simp [h]
    · split
      · simp
      · simp only [List.map_cons, List.mem_cons, ih]
        constructor <;> rintro (h | h | h) <;> simp [h]

/-- Setting a name keeps the order: a name that is neither smaller than the first one nor equal to it
is greater, and so goes behind it. -/
theorem ascending_insertEntry (name : String) (v : Value) {l : List (String × Value)}
    (h : (entryNames l).Pairwise (· < ·)) :
    (entryNames (insertEntry name v l)).Pairwise (· < ·) := by
  induction l with
  | nil => exact List.pairwise_singleton ..
  | cons e rest ih =>
    obtain ⟨k, w⟩ := e
    have hk : ∀ m ∈ entryNames rest, k < m := fun m hm => List.rel_of_pairwise_cons h hm
    simp only [insertEntry]
    split
    · next heq => exact heq ▸ h
    · next hne =>
      split
      · next hlt =>
        refine List.Pairwise.cons ?_ h
        rintro m (_ | ⟨_, hm⟩)
        · exact hlt
        · exact String.lt_trans hlt (hk m hm)
      · next hnlt =>
        refine List.Pairwise.cons (fun m hm => ?_) (ih h.of_cons)
        rcases mem_entryNames_insertEntry.1 hm with rfl | hm
        · exact Std.lt_of_le_of_ne (String.not_lt.1 hnlt) (Ne.symm hne)
        · exact hk m hm

/-- Sets a name. -/
def insert (p : Params) (name : String) (v : Value) : Params :=
  ⟨insertEntry name v p.entries, ascending_insertEntry name v p.ascending⟩

/-- Sets all names of a list, one after the other. -/
def insertAll (p : Params) (entries : List (String × Value)) : Params :=
  entries.foldl (fun p e => p.insert e.1 e.2) p

/-- All parameters of both; a name in both has the value of the second. -/
def merge (p q : Params) : Params := p.insertAll q.entries

/-- The parameters with these names and values; of a repeated name the last value counts. -/
def ofList (entries : List (String × Value)) : Params := empty.insertAll entries

/-! ### What is found -/

@[simp] theorem get?_empty (name : String) : empty.get? name = none := rfl

theorem lookup_insertEntry (name k : String) (v : Value) (l : List (String × Value)) :
    lookup k (insertEntry name v l) = if name = k then some v else lookup k l := by
  induction l with
  | nil => simp [insertEntry, lookup]
  | cons e rest ih =>
    obtain ⟨m, w⟩ := e
    simp only [insertEntry]
    split
    · next h =>
      subst h
      simp only [lookup]
      split <;> rfl
    · split
      · simp only [lookup]
      · next h _ =>
        simp only [lookup, ih]
        by_cases hm : m = k
        · subst hm
          simp [h]
        · simp [hm]

theorem lookup_append (k : String) (l m : List (String × Value)) :
    lookup k (l ++ m) = (lookup k l).or (lookup k m) := by
  induction l with
  | nil => rfl
  | cons e rest ih =>
    simp only [List.cons_append, lookup, ih]
    split <;> rfl

/-- After setting a name, that name has the value and all others are as before. -/
theorem get?_insert (p : Params) (name k : String) (v : Value) :
    (p.insert name v).get? k = if name = k then some v else p.get? k :=
  lookup_insertEntry name k v p.entries

/-- After setting the names of a list, a name has its last value in the list, or else the value from
before. -/
theorem get?_insertAll (p : Params) (l : List (String × Value)) (k : String) :
    (p.insertAll l).get? k = (lookup k l.reverse).or (p.get? k) := by
  induction l generalizing p with
  | nil => rfl
  | cons e rest ih =>
    show ((p.insert e.1 e.2).insertAll rest).get? k = _
    rw [ih, get?_insert, List.reverse_cons, lookup_append, Option.or_assoc]
    congr 1
    simp only [lookup]
    split <;> rfl

/-! ### The names -/

theorem mem_names_insert {p : Params} {name k : String} {v : Value} :
    k ∈ (p.insert name v).names ↔ k = name ∨ k ∈ p.names :=
  mem_entryNames_insertEntry

theorem mem_names_insertAll {p : Params} {l : List (String × Value)} {k : String} :
    k ∈ (p.insertAll l).names ↔ k ∈ entryNames l ∨ k ∈ p.names := by
  induction l generalizing p with
  | nil => simp [insertAll, entryNames]
  | cons e rest ih =>
    show k ∈ ((p.insert e.1 e.2).insertAll rest).names ↔ _
    rw [ih, mem_names_insert]
    show k ∈ entryNames rest ∨ k = e.1 ∨ k ∈ p.names ↔ k ∈ e.1 :: entryNames rest ∨ k ∈ p.names
    rw [List.mem_cons, or_left_comm, or_assoc]

/-- No name is there twice. -/
theorem nodup_names (p : Params) : p.names.Nodup := by
  refine List.Pairwise.imp ?_ p.ascending
  intro a b hlt heq
  exact String.lt_irrefl b (heq ▸ hlt)

end Params

end TypedTable
