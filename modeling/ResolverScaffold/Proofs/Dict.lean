import ResolverScaffold.Dict

/-!
# Dictionaries and their entries

Looking a key up and finding it among the entries is the same, and a dictionary
that entries are put into one after the other holds the last one of each key.
-/

namespace ResolverScaffold.Dict

variable {κ α β : Type} [LT κ] [DecidableLT κ] [DecidableEq κ]

omit [DecidableLT κ] in
/-- **A key has a value if the entry is there.** -/
theorem get?_eq_some_iff_mem [Std.Irrefl (α := κ) (· < ·)] (d : Dict κ α) {key : κ} {value : α} :
    d.get? key = some value ↔ (key, value) ∈ d.entries := by
  obtain ⟨l, hSorted⟩ := d
  simp only [get?]
  induction l with
  | nil => simp [lookupEntry]
  | cons head rest ih =>
    obtain ⟨k, v⟩ := head
    obtain ⟨hHead, hRest⟩ := List.pairwise_cons.1 hSorted
    rw [lookupEntry, List.mem_cons, Prod.mk.injEq]
    by_cases hk : key = k
    · subst hk
      have hNot : (key, value) ∉ rest := fun hm => Std.Irrefl.irrefl key (hHead _ hm)
      simp [hNot, eq_comm]
    · simp [hk, ih hRest]

omit [DecidableLT κ] in
theorem contains_eq_true_iff (d : Dict κ α) {key : κ} :
    d.contains key = true ↔ ∃ value, d.get? key = some value := by
  rw [contains, Option.isSome_iff_exists]

omit [DecidableLT κ] in
theorem contains_eq_false_iff (d : Dict κ α) {key : κ} :
    d.contains key = false ↔ d.get? key = none := by
  rw [contains, Option.isSome_eq_false_iff, Option.isNone_iff_eq_none]

omit [DecidableLT κ] in
theorem get?_eq_none_iff (d : Dict κ α) {key : κ} :
    d.get? key = none ↔ ¬d.contains key = true := by
  rw [Bool.not_eq_true, contains_eq_false_iff]

omit [DecidableLT κ] in
theorem mem_values_iff [Std.Irrefl (α := κ) (· < ·)] (d : Dict κ α) {value : α} :
    value ∈ d.values ↔ ∃ key, d.get? key = some value := by
  simp only [values, List.mem_map, Prod.exists, exists_eq_right, get?_eq_some_iff_mem]

omit [DecidableLT κ] [DecidableEq κ] in
theorem pairwise_keys (d : Dict κ α) : d.keys.Pairwise (· < ·) := List.pairwise_map.2 d.sorted

omit [DecidableLT κ] [DecidableEq κ] in
theorem nodup_keys [Std.Irrefl (α := κ) (· < ·)] (d : Dict κ α) : d.keys.Nodup := by
  refine d.pairwise_keys.imp fun {a b} hLess hSame => ?_
  rw [hSame] at hLess
  exact Std.Irrefl.irrefl b hLess

omit [DecidableLT κ] in
/-- Where a value shows its key, the values in order show the keys. -/
theorem map_values_eq [Std.Irrefl (α := κ) (· < ·)] {γ : Type} (d : Dict κ α) {f : α → γ}
    {g : κ → γ} (h : ∀ key value, d.get? key = some value → f value = g key) :
    d.values.map f = d.keys.map g := by
  rw [values, keys, List.map_map, List.map_map]
  exact List.map_congr_left fun e he => h e.1 e.2 (d.get?_eq_some_iff_mem.2 he)

section Fold

variable [Trans (α := κ) (· < ·) (· < ·) (· < ·)] [Std.Trichotomous (α := κ) (· < ·)]
variable (keyOf : β → κ) (valueOf : β → α)

/-- **The last one put under a key stays**, and a key that nothing is put under keeps its value. -/
theorem get?_foldl_insert (items : List β) (d : Dict κ α) (key : κ) :
    (items.foldl (fun d item => d.insert (keyOf item) (valueOf item)) d).get? key
      = ((items.filter fun item => keyOf item = key).getLast?.map valueOf).or (d.get? key) := by
  induction items generalizing d with
  | nil => rfl
  | cons item items ih =>
    rw [List.foldl_cons, ih, get?_insert]
    by_cases hKey : keyOf item = key
    · rw [List.filter_cons_of_pos (by simpa using hKey), List.getLast?_cons, if_pos hKey.symm]
      cases (items.filter fun item => keyOf item = key).getLast? <;> rfl
    · rw [List.filter_cons_of_neg (by simpa using hKey), if_neg (Ne.symm hKey)]

theorem get?_foldl_insert_of_ne {key : κ} (items : List β) (d : Dict κ α)
    (h : ∀ item ∈ items, keyOf item ≠ key) :
    (items.foldl (fun d item => d.insert (keyOf item) (valueOf item)) d).get? key = d.get? key := by
  have hNone : (items.filter fun item => keyOf item = key) = [] :=
    List.filter_eq_nil_iff.2 fun item hItem => by simpa using h item hItem
  rw [get?_foldl_insert, hNone]
  rfl

theorem get?_foldl_insert_last (before after : List β) (item : β) (d : Dict κ α)
    (h : ∀ later ∈ after, keyOf later ≠ keyOf item) :
    ((before ++ item :: after).foldl (fun d item => d.insert (keyOf item) (valueOf item)) d).get?
      (keyOf item) = some (valueOf item) := by
  rw [List.foldl_append, List.foldl_cons, get?_foldl_insert_of_ne keyOf valueOf after _ h,
    get?_insert, if_pos rfl]

theorem contains_foldl_insert_iff (items : List β) (d : Dict κ α) (key : κ) :
    (items.foldl (fun d item => d.insert (keyOf item) (valueOf item)) d).contains key = true ↔
      d.contains key = true ∨ ∃ item ∈ items, keyOf item = key := by
  rw [contains, get?_foldl_insert, Option.isSome_or, Option.isSome_map, Bool.or_eq_true, or_comm,
    List.getLast?_isSome]
  simp [contains, List.filter_eq_nil_iff]

end Fold

end ResolverScaffold.Dict
