/-!
# Outcomes of steps that may fail

When a chain of steps, each of which may fail, comes to an end.
-/

namespace ResolverScaffold

variable {ε α β : Type}

/-- Two steps end well if the first does and the second does after it. -/
theorem bind_eq_ok_iff {x : Except ε α} {f : α → Except ε β} {b : β} :
    (x >>= f) = .ok b ↔ ∃ a, x = .ok a ∧ f a = .ok b := by
  cases x with
  | error e => simp [bind, Except.bind]
  | ok a => simp [bind, Except.bind]

theorem pure_eq_ok_iff {a b : α} : (pure a : Except ε α) = .ok b ↔ a = b := by
  simp [pure, Except.pure]

theorem bind_ne_error {x : Except ε α} {f : α → Except ε β} {e : ε} (hx : x ≠ .error e)
    (hf : ∀ a, f a ≠ .error e) : x >>= f ≠ .error e := by
  cases x with
  | error e' => exact fun h => hx (congrArg Except.error (Except.error.inj h))
  | ok a => exact hf a

theorem mapError_ne_error {ε' : Type} {x : Except ε α} {f : ε → ε'} {e : ε'}
    (h : ∀ e', f e' ≠ e) : x.mapError f ≠ .error e := by
  cases x with
  | error e' => exact fun hSame => h e' (Except.error.inj hSame)
  | ok a => exact nofun

theorem mapError_eq_ok_iff {ε' : Type} {x : Except ε α} {f : ε → ε'} {a : α} :
    x.mapError f = .ok a ↔ x = .ok a := by
  cases x with
  | error e => exact ⟨nofun, nofun⟩
  | ok b =>
    exact ⟨fun h => congrArg Except.ok (Except.ok.inj h),
      fun h => congrArg Except.ok (Except.ok.inj h)⟩

/-- A loop keeps what each of its rounds keeps. -/
theorem foldlM_invariant {f : β → α → Except ε β} {Inv : β → Prop} : ∀ {l : List α} {b b' : β},
    (∀ b a b', a ∈ l → Inv b → f b a = .ok b' → Inv b') → Inv b → l.foldlM f b = .ok b' →
    Inv b' := by
  intro l
  induction l with
  | nil =>
    intro b b' _ hb h
    rw [List.foldlM_nil, pure_eq_ok_iff] at h
    exact h ▸ hb
  | cons a l ih =>
    intro b b' hStep hb h
    rw [List.foldlM_cons, bind_eq_ok_iff] at h
    obtain ⟨next, hNext, hRest⟩ := h
    exact ih (fun b a b' ha => hStep b a b' (List.mem_cons_of_mem _ ha))
      (hStep b a next List.mem_cons_self hb hNext) hRest

/-- A loop ends well if every round does, wherever it starts. -/
theorem exists_foldlM_eq_ok {f : β → α → Except ε β} : ∀ {l : List α} {b : β},
    (∀ b, ∀ a ∈ l, ∃ b', f b a = .ok b') → ∃ b', l.foldlM f b = .ok b' := by
  intro l
  induction l with
  | nil => intro b _; exact ⟨b, rfl⟩
  | cons a l ih =>
    intro b hStep
    obtain ⟨next, hNext⟩ := hStep b a List.mem_cons_self
    rw [List.foldlM_cons, hNext]
    exact ih fun b a ha => hStep b a (List.mem_cons_of_mem _ ha)

/-- A step for each item ends well if all of them do. -/
theorem exists_mapM_eq_ok {f : α → Except ε β} : ∀ {l : List α}, (∀ a ∈ l, ∃ b, f a = .ok b) →
    ∃ bs, l.mapM f = .ok bs := by
  intro l
  induction l with
  | nil => intro _; exact ⟨[], rfl⟩
  | cons a l ih =>
    intro h
    obtain ⟨b, hb⟩ := h a List.mem_cons_self
    obtain ⟨bs, hbs⟩ := ih fun a' ha => h a' (List.mem_cons_of_mem _ ha)
    refine ⟨b :: bs, ?_⟩
    rw [List.mapM_cons, hb, hbs]
    rfl

/-- If a step for each item ends well, each of them did. -/
theorem exists_of_mapM_eq_ok {f : α → Except ε β} : ∀ {l : List α} {bs : List β},
    l.mapM f = .ok bs → ∀ a ∈ l, ∃ b, f a = .ok b := by
  intro l
  induction l with
  | nil => intro bs _ a ha; simp at ha
  | cons a l ih =>
    intro bs h
    rw [List.mapM_cons, bind_eq_ok_iff] at h
    obtain ⟨first, hFirst, h⟩ := h
    obtain ⟨more, hMore, -⟩ := bind_eq_ok_iff.1 h
    exact List.forall_mem_cons.2 ⟨⟨first, hFirst⟩, ih hMore⟩

/-- What the results show of themselves, the items show. -/
theorem map_eq_of_mapM_eq_ok {γ : Type} {f : α → Except ε β} {g : β → γ} {k : α → γ} :
    ∀ {l : List α} {bs : List β}, l.mapM f = .ok bs →
    (∀ a ∈ l, ∀ b, f a = .ok b → g b = k a) → bs.map g = l.map k := by
  intro l
  induction l with
  | nil =>
    intro bs h _
    rw [List.mapM_nil, pure_eq_ok_iff] at h
    subst h
    rfl
  | cons a l ih =>
    intro bs h hShows
    rw [List.mapM_cons, bind_eq_ok_iff] at h
    obtain ⟨first, hFirst, h⟩ := h
    obtain ⟨more, hMore, h⟩ := bind_eq_ok_iff.1 h
    rw [pure_eq_ok_iff] at h
    subst h
    rw [List.map_cons, List.map_cons, hShows a List.mem_cons_self first hFirst,
      ih hMore fun a' ha => hShows a' (List.mem_cons_of_mem _ ha)]

/-- If a step for each item fails, one of them did. -/
theorem exists_of_mapM_eq_error {f : α → Except ε β} : ∀ {l : List α} {e : ε},
    l.mapM f = .error e → ∃ a ∈ l, f a = .error e := by
  intro l
  induction l with
  | nil => intro e h; cases h
  | cons a l ih =>
    intro e h
    rw [List.mapM_cons] at h
    cases hFirst : f a with
    | error e' =>
      rw [hFirst] at h
      cases h
      exact ⟨a, List.mem_cons_self, hFirst⟩
    | ok b =>
      rw [hFirst] at h
      cases hMore : l.mapM f with
      | error e' =>
        rw [hMore] at h
        cases h
        obtain ⟨a', ha, hFail⟩ := ih hMore
        exact ⟨a', List.mem_cons_of_mem _ ha, hFail⟩
      | ok bs =>
        rw [hMore] at h
        cases h

/-- The results of a step for each item are the results of the items. -/
theorem mem_mapM_iff {f : α → Except ε β} : ∀ {l : List α} {bs : List β}, l.mapM f = .ok bs →
    ∀ b, b ∈ bs ↔ ∃ a ∈ l, f a = .ok b := by
  intro l
  induction l with
  | nil =>
    intro bs h b
    rw [List.mapM_nil, pure_eq_ok_iff] at h
    simp [← h]
  | cons a l ih =>
    intro bs h b
    rw [List.mapM_cons, bind_eq_ok_iff] at h
    obtain ⟨first, hFirst, h⟩ := h
    obtain ⟨more, hMore, h⟩ := bind_eq_ok_iff.1 h
    rw [pure_eq_ok_iff] at h
    subst h
    simp [ih hMore, hFirst, eq_comm]

theorem exists_mem_of_mapM_eq_ok {f : α → Except ε β} {l : List α} {bs : List β}
    (h : l.mapM f = .ok bs) {a : α} (ha : a ∈ l) : ∃ b ∈ bs, f a = .ok b := by
  obtain ⟨b, hb⟩ := exists_of_mapM_eq_ok h a ha
  exact ⟨b, (mem_mapM_iff h b).2 ⟨a, ha, hb⟩, hb⟩

end ResolverScaffold
