/-!
# Sorted dictionaries

A `Dict κ α` is a list of entries with strictly increasing keys, so a key has
at most one value and two dictionaries with the same look-ups are the same
dictionary (`Dict.ext_get?`).  Reading it in order is reading it by key, which
is the order every generated file shows.

Each operation is described by what it does to `get?`: `get?_insert`,
`get?_erase`, `get?_mapValues`.
-/

namespace ResolverScaffold

/-- Entries in strictly increasing key order. -/
structure Dict (κ : Type) [LT κ] (α : Type) where
  /-- The entries, smallest key first. -/
  entries : List (κ × α)
  /-- Keys strictly increase from left to right. -/
  sorted : entries.Pairwise (fun a b => a.1 < b.1)

namespace Dict

/-! ### Texts as keys -/

instance (priority := high) : Trans (α := String) (· < ·) (· < ·) (· < ·) := ⟨String.lt_trans⟩

instance (priority := high) : Std.Trichotomous (α := String) (· < ·) :=
  ⟨fun _ _ hNot hNot' => String.le_antisymm (String.not_lt.1 hNot') (String.not_lt.1 hNot)⟩

variable {κ α β : Type} [LT κ] [DecidableLT κ] [DecidableEq κ]

/-- Put `value` under `key`, in place of the value that was there. -/
def insertEntry (key : κ) (value : α) : List (κ × α) → List (κ × α)
  | [] => [(key, value)]
  | (k, v) :: rest =>
    if key < k then (key, value) :: (k, v) :: rest
    else if key = k then (key, value) :: rest
    else (k, v) :: insertEntry key value rest

/-- The value under `key` in a list of entries. -/
def lookupEntry (key : κ) : List (κ × α) → Option α
  | [] => none
  | (k, v) :: rest => if key = k then some v else lookupEntry key rest

omit [DecidableLT κ] [DecidableEq κ] in
@[ext] theorem ext {d e : Dict κ α} (h : d.entries = e.entries) : d = e := by
  cases d; cases e; cases h; rfl

instance [DecidableEq α] : DecidableEq (Dict κ α) := fun d e =>
  if h : d.entries = e.entries then isTrue (ext h) else isFalse fun same => h (same ▸ rfl)

instance [Repr κ] [Repr α] : Repr (Dict κ α) := ⟨fun d n => reprPrec d.entries n⟩

def empty : Dict κ α := ⟨[], .nil⟩

instance : EmptyCollection (Dict κ α) := ⟨empty⟩

instance : Inhabited (Dict κ α) := ⟨empty⟩

def get? (d : Dict κ α) (key : κ) : Option α := lookupEntry key d.entries

def contains (d : Dict κ α) (key : κ) : Bool := (d.get? key).isSome

def keys (d : Dict κ α) : List κ := d.entries.map (·.1)

def values (d : Dict κ α) : List α := d.entries.map (·.2)

/-- How many keys there are. -/
def size (d : Dict κ α) : Nat := d.entries.length

def isEmpty (d : Dict κ α) : Bool := d.entries.isEmpty

omit [DecidableEq κ] in
theorem mem_insertEntry [DecidableEq κ] {key : κ} {value : α} {x : κ × α} :
    ∀ {l : List (κ × α)}, x ∈ insertEntry key value l → x = (key, value) ∨ x ∈ l := by
  intro l
  induction l with
  | nil => intro h; simpa [insertEntry] using h
  | cons head rest ih =>
    obtain ⟨k, v⟩ := head
    intro h
    rw [insertEntry] at h
    split at h
    · simpa using h
    · split at h
      · rcases List.mem_cons.1 h with h | h
        · exact .inl h
        · exact .inr (List.mem_cons_of_mem _ h)
      · rcases List.mem_cons.1 h with h | h
        · exact .inr (h ▸ List.mem_cons_self)
        · exact (ih h).imp id (List.mem_cons_of_mem _)

section Order

variable [Trans (α := κ) (· < ·) (· < ·) (· < ·)] [Std.Trichotomous (α := κ) (· < ·)]

theorem sorted_insertEntry (key : κ) (value : α) : ∀ {l : List (κ × α)},
    l.Pairwise (fun a b => a.1 < b.1) →
      (insertEntry key value l).Pairwise (fun a b => a.1 < b.1) := by
  intro l
  induction l with
  | nil => intro _; simp [insertEntry]
  | cons head rest ih =>
    obtain ⟨k, v⟩ := head
    intro h
    have hHead := (List.pairwise_cons.1 h).1
    have hRest := (List.pairwise_cons.1 h).2
    rw [insertEntry]
    split
    · rename_i hlt
      refine List.pairwise_cons.2 ⟨?_, h⟩
      intro x hx
      rcases List.mem_cons.1 hx with rfl | hx
      · exact hlt
      · exact Trans.trans hlt (hHead x hx)
    · rename_i hnlt
      split
      · rename_i heq
        subst heq
        exact List.pairwise_cons.2 ⟨hHead, hRest⟩
      · rename_i hne
        refine List.pairwise_cons.2 ⟨?_, ih hRest⟩
        intro x hx
        rcases mem_insertEntry hx with rfl | hx
        · apply Classical.byContradiction
          intro hge
          exact hne (Std.Trichotomous.trichotomous key k hnlt hge)
        · exact hHead x hx

def insert (d : Dict κ α) (key : κ) (value : α) : Dict κ α :=
  ⟨insertEntry key value d.entries, sorted_insertEntry key value d.sorted⟩

/-- The entries of a list, a later one replacing an earlier one with its key. -/
def ofList (l : List (κ × α)) : Dict κ α := l.foldl (fun d e => d.insert e.1 e.2) empty

end Order

def erase (d : Dict κ α) (key : κ) : Dict κ α :=
  ⟨d.entries.filter (fun e => e.1 ≠ key), d.sorted.sublist List.filter_sublist⟩

/-- Keep the entries that satisfy `p`. -/
def filter (d : Dict κ α) (p : κ → α → Bool) : Dict κ α :=
  ⟨d.entries.filter (fun e => p e.1 e.2), d.sorted.sublist List.filter_sublist⟩

/-- Change every value and keep the keys. -/
def mapValues (f : κ → α → β) (d : Dict κ α) : Dict κ β :=
  ⟨d.entries.map (fun e => (e.1, f e.1 e.2)),
    List.pairwise_map.2 (d.sorted.imp fun h => h)⟩

/-! ### Look-ups after each operation -/

omit [DecidableLT κ] in
@[simp] theorem get?_empty (key : κ) : (empty : Dict κ α).get? key = none := rfl

theorem lookupEntry_insertEntry (key other : κ) (value : α) : ∀ l : List (κ × α),
    lookupEntry other (insertEntry key value l)
      = if other = key then some value else lookupEntry other l := by
  intro l
  induction l with
  | nil => simp [insertEntry, lookupEntry]
  | cons head rest ih =>
    obtain ⟨k, v⟩ := head
    rw [insertEntry]
    split
    · simp [lookupEntry]
    · split
      · rename_i heq
        subst heq
        by_cases h : other = key <;> simp [lookupEntry, h]
      · rename_i hne
        by_cases h : other = k
        · subst h
          simp [lookupEntry, Ne.symm hne]
        · simp [lookupEntry, h, ih]

@[simp] theorem get?_insert [Trans (α := κ) (· < ·) (· < ·) (· < ·)]
    [Std.Trichotomous (α := κ) (· < ·)] (d : Dict κ α) (key other : κ) (value : α) :
    (d.insert key value).get? other = if other = key then some value else d.get? other :=
  lookupEntry_insertEntry key other value d.entries

omit [DecidableLT κ] in
@[simp] theorem get?_erase (d : Dict κ α) (key other : κ) :
    (d.erase key).get? other = if other = key then none else d.get? other := by
  obtain ⟨l, h⟩ := d
  simp only [get?, erase]
  clear h
  induction l with
  | nil => simp [lookupEntry]
  | cons head rest ih =>
    obtain ⟨k, v⟩ := head
    by_cases hk : k = key
    · subst hk
      by_cases ho : other = k <;> simp_all [lookupEntry]
    · by_cases ho : other = k
      · subst ho; simp [lookupEntry, hk]
      · by_cases hok : other = key <;> simp_all [lookupEntry]

omit [DecidableLT κ] in
@[simp] theorem get?_mapValues (d : Dict κ α) (f : κ → α → β) (key : κ) :
    (d.mapValues f).get? key = (d.get? key).map (f key) := by
  obtain ⟨l, h⟩ := d
  simp only [get?, mapValues]
  clear h
  induction l with
  | nil => rfl
  | cons head rest ih =>
    obtain ⟨k, v⟩ := head
    by_cases hk : key = k
    · subst hk; simp [lookupEntry]
    · simp [lookupEntry, hk, ih]

omit [DecidableLT κ] in
theorem get?_filter_of_get?_eq_some [Std.Irrefl (α := κ) (· < ·)] (d : Dict κ α)
    (p : κ → α → Bool) {key : κ} {value : α} (h : d.get? key = some value) :
    (d.filter p).get? key = if p key value then some value else none := by
  obtain ⟨l, hSorted⟩ := d
  simp only [get?, filter] at h ⊢
  induction l with
  | nil => simp [lookupEntry] at h
  | cons head rest ih =>
    obtain ⟨k, v⟩ := head
    have hRest := (List.pairwise_cons.1 hSorted).2
    have hHead := (List.pairwise_cons.1 hSorted).1
    by_cases hk : key = k
    · subst hk
      have hv : v = value := by simpa [lookupEntry] using h
      subst hv
      by_cases hp : p key v = true
      · simp [lookupEntry, hp]
      · have hNone : lookupEntry key (rest.filter fun e => p e.1 e.2) = none := by
          have hAbove : ∀ e ∈ rest, key ≠ e.1 := by
            intro e he same
            have hlt := hHead e he
            rw [← same] at hlt
            exact Std.Irrefl.irrefl key hlt
          clear ih h hHead hRest hSorted
          induction rest with
          | nil => rfl
          | cons e rest ih =>
            have hne := hAbove e List.mem_cons_self
            have hMore := ih fun x hx => hAbove x (List.mem_cons_of_mem _ hx)
            by_cases hpe : p e.1 e.2 = true
            · simpa [List.filter_cons, hpe, lookupEntry, hne] using hMore
            · simpa [List.filter_cons, hpe] using hMore
        simpa [List.filter_cons, hp] using hNone
    · have hTail : lookupEntry key rest = some value := by simpa [lookupEntry, hk] using h
      have hMore := ih hRest hTail
      by_cases hp : p k v = true
      · simpa [List.filter_cons, hp, lookupEntry, hk] using hMore
      · simpa [List.filter_cons, hp] using hMore

omit [DecidableLT κ] in
theorem contains_of_contains_filter (d : Dict κ α) (p : κ → α → Bool) {key : κ}
    (h : (d.filter p).contains key = true) :
    d.contains key = true ∧ ∃ value, p key value = true := by
  obtain ⟨l, hSorted⟩ := d
  simp only [contains, get?, filter] at h ⊢
  clear hSorted
  induction l with
  | nil => simp [lookupEntry] at h
  | cons head rest ih =>
    obtain ⟨k, v⟩ := head
    by_cases hp : p k v = true
    · by_cases hk : key = k
      · subst hk
        exact ⟨by simp [lookupEntry], v, hp⟩
      · have hTail : (lookupEntry key (rest.filter fun e => p e.1 e.2)).isSome = true := by
          simpa [List.filter_cons, hp, lookupEntry, hk] using h
        have hMore := ih hTail
        exact ⟨by simpa [lookupEntry, hk] using hMore.1, hMore.2⟩
    · have hTail : (lookupEntry key (rest.filter fun e => p e.1 e.2)).isSome = true := by
        simpa [List.filter_cons, hp] using h
      have hMore := ih hTail
      by_cases hk : key = k
      · exact ⟨by simp [lookupEntry, hk], hMore.2⟩
      · exact ⟨by simpa [lookupEntry, hk] using hMore.1, hMore.2⟩

omit [DecidableLT κ] in
theorem mem_keys_iff (d : Dict κ α) (key : κ) : key ∈ d.keys ↔ d.contains key = true := by
  obtain ⟨l, h⟩ := d
  simp only [keys, contains, get?]
  clear h
  induction l with
  | nil => simp [lookupEntry]
  | cons head rest ih =>
    obtain ⟨k, v⟩ := head
    by_cases hk : key = k
    · simp [lookupEntry, hk]
    · simp [lookupEntry, hk]
      simpa using ih

/-! ### Equal look-ups, equal dictionaries -/

omit [DecidableLT κ] in
theorem lookupEntry_eq_none_of_lt [Std.Irrefl (α := κ) (· < ·)] {key : κ} : ∀ {l : List (κ × α)},
    (∀ e ∈ l, key < e.1) → lookupEntry key l = none := by
  intro l
  induction l with
  | nil => intro _; rfl
  | cons head rest ih =>
    intro h
    have hne : key ≠ head.1 := by
      intro same
      have hlt := h head List.mem_cons_self
      rw [← same] at hlt
      exact Std.Irrefl.irrefl key hlt
    rw [lookupEntry, if_neg hne]
    exact ih fun e he => h e (List.mem_cons_of_mem _ he)

omit [DecidableLT κ] in
theorem entries_eq_of_lookupEntry_eq [Trans (α := κ) (· < ·) (· < ·) (· < ·)]
    [Std.Trichotomous (α := κ) (· < ·)] [Std.Irrefl (α := κ) (· < ·)] :
    ∀ {l m : List (κ × α)}, l.Pairwise (fun a b => a.1 < b.1) →
      m.Pairwise (fun a b => a.1 < b.1) →
      (∀ key, lookupEntry key l = lookupEntry key m) → l = m := by
  intro l
  induction l with
  | nil =>
    intro m _ _ h
    cases m with
    | nil => rfl
    | cons head rest =>
      have hHead := h head.1
      simp [lookupEntry] at hHead
  | cons head rest ih =>
    intro m hl hm h
    obtain ⟨k, v⟩ := head
    cases m with
    | nil =>
      have hHead := h k
      simp [lookupEntry] at hHead
    | cons head' rest' =>
      obtain ⟨k', v'⟩ := head'
      have hl' := List.pairwise_cons.1 hl
      have hm' := List.pairwise_cons.1 hm
      have hkk : k = k' := by
        apply Std.Trichotomous.trichotomous (r := fun a b : κ => a < b)
        · intro hlt
          have hNone : lookupEntry k ((k', v') :: rest') = none := by
            apply lookupEntry_eq_none_of_lt
            intro e he
            rcases List.mem_cons.1 he with rfl | he
            · exact hlt
            · exact Trans.trans hlt (hm'.1 e he)
          have hSome := h k
          rw [hNone] at hSome
          simp [lookupEntry] at hSome
        · intro hlt
          have hNone : lookupEntry k' ((k, v) :: rest) = none := by
            apply lookupEntry_eq_none_of_lt
            intro e he
            rcases List.mem_cons.1 he with rfl | he
            · exact hlt
            · exact Trans.trans hlt (hl'.1 e he)
          have hSome := h k'
          rw [hNone] at hSome
          simp [lookupEntry] at hSome
      subst hkk
      have hvv : v = v' := by
        have hHead := h k
        simpa [lookupEntry] using hHead
      subst hvv
      have hRest : rest = rest' := by
        apply ih hl'.2 hm'.2
        intro key
        by_cases hk : key = k
        · subst hk
          rw [lookupEntry_eq_none_of_lt hl'.1, lookupEntry_eq_none_of_lt hm'.1]
        · have hKey := h key
          simpa [lookupEntry, hk] using hKey
      rw [hRest]

omit [DecidableLT κ] in
/-- A dictionary is its look-ups. -/
theorem ext_get? [Trans (α := κ) (· < ·) (· < ·) (· < ·)]
    [Std.Trichotomous (α := κ) (· < ·)] [Std.Irrefl (α := κ) (· < ·)] {d e : Dict κ α}
    (h : ∀ key, d.get? key = e.get? key) : d = e :=
  ext (entries_eq_of_lookupEntry_eq d.sorted e.sorted h)

end Dict

/-- A set of names, read in order. -/
abbrev NameSet := Dict String Unit

namespace NameSet

def add (s : NameSet) (name : String) : NameSet := Dict.insert s name ()

def names (s : NameSet) : List String := Dict.keys s

end NameSet

end ResolverScaffold
