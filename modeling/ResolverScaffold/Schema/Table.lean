import ResolverScaffold.Dict
import ResolverScaffold.Schema.Definition

/-!
# Tables of definitions

Definitions in the order of their first appearance, together with an index that says at
which position a name stands.  Nothing is looked up in the list itself: `get?` reads the
position off the index.

The index is right about every name, and about no other (`Table.indexed`).  A table only
ever grows at its end (`push`) or changes a definition where it stands (`update`), and
each of the two has to show that the index it leaves is right again.
-/

namespace ResolverScaffold.Schema

structure Table where
  definitions : List Definition
  /-- Where a name stands. -/
  index : Dict String Nat
  indexed : ∀ name i, index.get? name = some i ↔ (definitions[i]?).map (·.name) = some name

namespace Table

variable {table : Table} {d : Definition} {name : String}

def get? (table : Table) (name : String) : Option Definition :=
  (table.index.get? name).bind (table.definitions[·]?)

def defines (table : Table) (name : String) : Bool := table.index.contains name

def names (table : Table) : List String := table.definitions.map (·.name)

/-! ### Looking up -/

theorem getElem?_names (table : Table) (i : Nat) :
    table.names[i]? = (table.definitions[i]?).map (·.name) := List.getElem?_map

theorem indexed_iff {i : Nat} : table.index.get? name = some i ↔ table.names[i]? = some name := by
  rw [getElem?_names]
  exact table.indexed name i

theorem get?_eq_some_iff_getElem? :
    table.get? name = some d ↔ d.name = name ∧ ∃ i : Nat, table.definitions[i]? = some d := by
  rw [get?, Option.bind_eq_some_iff]
  constructor
  · rintro ⟨i, hIndex, hAt⟩
    have hName := (table.indexed name i).1 hIndex
    rw [hAt] at hName
    exact ⟨Option.some.inj hName, i, hAt⟩
  · rintro ⟨rfl, i, hAt⟩
    exact ⟨i, (table.indexed d.name i).2 (by rw [hAt]; rfl), hAt⟩

theorem get?_eq_some_iff : table.get? name = some d ↔ d ∈ table.definitions ∧ d.name = name := by
  rw [get?_eq_some_iff_getElem?, List.mem_iff_getElem?, and_comm]

theorem name_of_get? (h : table.get? name = some d) : d.name = name := (get?_eq_some_iff.1 h).2

theorem mem_of_get? (h : table.get? name = some d) : d ∈ table.definitions :=
  (get?_eq_some_iff.1 h).1

theorem mem_names_iff : name ∈ table.names ↔ ∃ d, table.get? name = some d := by
  rw [names, List.mem_map]
  exact exists_congr fun d => get?_eq_some_iff.symm

theorem get?_eq_none_iff : table.get? name = none ↔ name ∉ table.names := by
  rw [mem_names_iff, Option.eq_none_iff_forall_ne_some, not_exists]

theorem index_get?_eq_none_iff : table.index.get? name = none ↔ name ∉ table.names := by
  rw [Option.eq_none_iff_forall_ne_some, List.mem_iff_getElem?, not_exists]
  exact forall_congr' fun i => not_congr indexed_iff

theorem defines_eq_true_iff : table.defines name = true ↔ name ∈ table.names := by
  rw [defines, Dict.contains, Option.isSome_iff_ne_none, ne_eq, index_get?_eq_none_iff,
    Decidable.not_not]

/-- Two positions of one name are the same position. -/
theorem nodup_names (table : Table) : table.names.Nodup := by
  rw [List.Nodup, List.pairwise_iff_getElem]
  intro i j hi hj hLess hSame
  have hFirst := indexed_iff.2 (List.getElem?_eq_getElem hi)
  have hSecond := indexed_iff.2 (List.getElem?_eq_getElem hj)
  rw [hSame, hSecond] at hFirst
  exact Nat.ne_of_gt hLess (Option.some.inj hFirst)

/-- The definitions say what the index is. -/
theorem ext {a b : Table} (h : a.definitions = b.definitions) : a = b := by
  obtain ⟨l, index, hIndex⟩ := a
  obtain ⟨l', index', hIndex'⟩ := b
  obtain rfl : l = l' := h
  obtain rfl : index = index' := by
    refine Dict.ext_get? fun name => Option.ext fun i => ?_
    rw [hIndex, hIndex']
  rfl

/-! ### Building -/

def indexFrom (start : Nat) : List Definition → Dict String Nat
  | [] => ∅
  | d :: rest => (indexFrom (start + 1) rest).insert d.name start

theorem get?_indexFrom {l : List Definition} (h : (l.map (·.name)).Nodup) {start i : Nat} :
    (indexFrom start l).get? name = some i
      ↔ ∃ k, i = start + k ∧ (l[k]?).map (·.name) = some name := by
  induction l generalizing start with
  | nil =>
    rw [indexFrom]
    simp [show (∅ : Dict String Nat).get? name = none from rfl]
  | cons d rest ih =>
    obtain ⟨hNew, hRest⟩ := List.nodup_cons.1 h
    rw [indexFrom, Dict.get?_insert]
    split
    · next hName =>
      subst hName
      constructor
      · rintro ⟨⟩
        exact ⟨0, rfl, rfl⟩
      · rintro ⟨k, rfl, hAt⟩
        cases k with
        | zero => rfl
        | succ k =>
          obtain ⟨other, hOther, hSame⟩ := Option.map_eq_some_iff.1 hAt
          exact (hNew (List.mem_map.2 ⟨other, List.mem_of_getElem? hOther, hSame⟩)).elim
    · next hOther =>
      rw [ih hRest]
      constructor
      · rintro ⟨k, rfl, hAt⟩
        exact ⟨k + 1, by omega, hAt⟩
      · rintro ⟨k, rfl, hAt⟩
        cases k with
        | zero => exact absurd (Option.some.inj hAt).symm hOther
        | succ k => exact ⟨k, by omega, hAt⟩

/-- A table of definitions with different names. -/
def ofList (l : List Definition) (h : (l.map (·.name)).Nodup) : Table where
  definitions := l
  index := indexFrom 0 l
  indexed name i := by
    rw [get?_indexFrom h]
    simp

/-- Add a definition of a new name at the end. -/
def push (table : Table) (d : Definition) (hNew : table.get? d.name = none) : Table where
  definitions := table.definitions ++ [d]
  index := table.index.insert d.name table.definitions.length
  indexed name i := by
    have hFree := index_get?_eq_none_iff.2 (get?_eq_none_iff.1 hNew)
    have hIndexed := table.indexed name i
    rw [Dict.get?_insert]
    rcases Nat.lt_trichotomy i table.definitions.length with hLess | rfl | hMore
    · rw [List.getElem?_append_left hLess, ← hIndexed]
      split
      · next hName =>
        subst hName
        simp [hFree, Nat.ne_of_gt hLess]
      · rfl
    · rw [List.getElem?_concat_length]
      rw [List.getElem?_eq_none (Nat.le_refl _)] at hIndexed
      split
      · next hName => simp [hName]
      · next hOther => simpa [Ne.symm hOther] using hIndexed
    · rw [List.getElem?_eq_none (by rw [List.length_append]; exact hMore)]
      rw [List.getElem?_eq_none (Nat.le_of_lt hMore)] at hIndexed
      split
      · simp [Nat.ne_of_lt hMore]
      · exact hIndexed

/-- Change the definition of a name where it stands. -/
def update (table : Table) (name : String) (f : Definition → Definition)
    (hf : ∀ d, d.name = name → (f d).name = name) : Table where
  definitions := (table.index.get? name).elim table.definitions (table.definitions.modify · f)
  index := table.index
  indexed other i := by
    rw [table.indexed]
    cases hIndex : table.index.get? name with
    | none => rfl
    | some j =>
      rw [Option.elim_some, List.getElem?_modify]
      split
      · next hSame =>
        -- the definition there has the name, and keeps it
        subst hSame
        obtain ⟨d, hAt, hName⟩ := Option.map_eq_some_iff.1 ((table.indexed name j).1 hIndex)
        simp [hAt, hName, hf d hName]
      · simp

end Table

end ResolverScaffold.Schema
