import Mathlib.Data.List.Forall2
import Mathlib.Data.List.Nodup
import ResolverScaffold.Proofs.Outcome
import ResolverScaffold.Schema.Document

/-!
# Loading a schema

A statement adds a definition under a new name or changes the definition of its name where
it stands, and nothing else can become of a draft (`Draft.adds_of_add`).  What that does to
look-ups is said once for tables (`Table.get?_push`, `Table.get?_update`).
-/

namespace ResolverScaffold.Schema

namespace Table

variable {table : Table} {d e : Definition} {name target : String} {f : Definition → Definition}

theorem names_push (hNew : table.get? d.name = none) :
    (table.push d hNew).names = table.names ++ [d.name] := by
  simp [names, push]

theorem get?_push (hNew : table.get? d.name = none) :
    (table.push d hNew).get? name
      = (table.get? name).or (if d.name = name then some d else none) := by
  refine Option.ext fun e => ?_
  rw [get?_eq_some_iff]
  show e ∈ table.definitions ++ [d] ∧ e.name = name ↔ _
  split
  · next hName =>
    subst hName
    rw [hNew, Option.none_or, Option.some_inj, List.mem_append, List.mem_singleton]
    constructor
    · rintro ⟨hOld | rfl, hName⟩
      · exact absurd (get?_eq_some_iff.2 ⟨hOld, hName⟩) (by simp [hNew])
      · rfl
    · rintro rfl
      exact ⟨.inr rfl, rfl⟩
  · next hOther =>
    rw [Option.or_none, get?_eq_some_iff, List.mem_append, List.mem_singleton]
    constructor
    · rintro ⟨hOld | rfl, hName⟩
      · exact ⟨hOld, hName⟩
      · exact absurd hName hOther
    · rintro ⟨hOld, hName⟩
      exact ⟨.inl hOld, hName⟩

section Update

variable (hf : ∀ d, d.name = target → (f d).name = target)

theorem definitions_update : (table.update target f hf).definitions
    = (table.index.get? target).elim table.definitions (table.definitions.modify · f) := rfl

theorem index_update : (table.update target f hf).index = table.index := rfl

/-- Only the definition of the name changes: no other name stands at its position. -/
theorem get?_update :
    (table.update target f hf).get? name
      = if name = target then (table.get? name).map f else table.get? name := by
  rw [get?, get?, definitions_update, index_update]
  cases hName : table.index.get? name with
  | none => simp
  | some i =>
    cases hTarget : table.index.get? target with
    | none =>
      have hOther : name ≠ target := by
        rintro rfl
        rw [hName] at hTarget
        cases hTarget
      simp [hOther]
    | some j =>
      have hSame : j = i ↔ name = target := by
        constructor
        · rintro rfl
          exact Option.some.inj ((indexed_iff.1 hName).symm.trans (indexed_iff.1 hTarget))
        · rintro rfl
          exact Option.some.inj (hTarget.symm.trans hName)
      simp only [Option.bind_some, Option.elim_some, List.getElem?_modify, hSame]
      split <;> simp

theorem names_update : (table.update target f hf).names = table.names := by
  refine List.ext_getElem? fun i => Option.ext fun name => ?_
  rw [← indexed_iff, ← indexed_iff, index_update]

/-- What stands in the table after a change stood there before, or was changed. -/
theorem mem_update (h : d ∈ (table.update target f hf).definitions) :
    d ∈ table.definitions ∨ ∃ e ∈ table.definitions, d = f e := by
  have hGet := get?_eq_some_iff.2 ⟨h, rfl⟩
  rw [get?_update] at hGet
  split at hGet
  · obtain ⟨e, hOld, rfl⟩ := Option.map_eq_some_iff.1 hGet
    exact .inr ⟨e, mem_of_get? hOld, rfl⟩
  · exact .inl (mem_of_get? hGet)

end Update

end Table

/-- What a statement says of a type, as a definition or as an extension. -/
def Statement.block? : Statement → Option Definition
  | .define d | .extend d => some d
  | .roots _ | .directive => none

namespace Draft

variable {draft draft' : Draft} {d e : Definition} {s : Statement}

/-- All that a statement can make of a draft. -/
inductive Adds (draft : Draft) : Statement → Draft → Prop
  | roots (r : Roots) : Adds draft (.roots r) (draft.setRoots r)
  | directive : Adds draft .directive draft
  | new {s : Statement} {d : Definition} (hBlock : s.block? = some d)
      (hNew : draft.get? d.name = none) : Adds draft s (draft.append d hNew)
  | replaced {d e : Definition} : draft.get? d.name = some e → e.builtin = true →
      d.builtin = false → Adds draft (.define d) (draft.update d.name (fun _ => d) fun _ _ => rfl)
  | extended {d e : Definition} : draft.get? d.name = some e → Adds draft (.extend d)
      (draft.update d.name (·.extend d) fun e hName => (e.name_extend d).trans hName)

theorem define_of_none (h : draft.get? d.name = none) :
    draft.define d = .ok (draft.append d h) := by
  unfold define
  split
  · rfl
  · next hSome => rw [h] at hSome; cases hSome

theorem define_of_some (h : draft.get? d.name = some e) :
    draft.define d
      = if e.builtin && !d.builtin then .ok (draft.update d.name (fun _ => d) fun _ _ => rfl)
        else .error (.duplicate d.name e.location d.location) := by
  unfold define
  split
  · next hNone => rw [h] at hNone; cases hNone
  · next hSome =>
    rw [h] at hSome
    cases hSome
    rfl

theorem extend_of_none (h : draft.get? d.name = none) : draft.extend d = draft.append d h := by
  unfold extend
  split
  · rfl
  · next hSome => rw [h] at hSome; cases hSome

theorem extend_of_some (h : draft.get? d.name = some e) :
    draft.extend d
      = draft.update d.name (·.extend d) fun e hName => (e.name_extend d).trans hName := by
  unfold extend
  split
  · next hNone => rw [h] at hNone; cases hNone
  · rfl

theorem adds_of_add (h : draft.add s = .ok draft') : draft.Adds s draft' := by
  cases s with
  | roots r => cases h; exact .roots r
  | directive => cases h; exact .directive
  | extend d =>
    cases h
    cases hGet : draft.get? d.name with
    | none => rw [extend_of_none hGet]; exact .new rfl hGet
    | some e => rw [extend_of_some hGet]; exact .extended hGet
  | define d =>
    rw [add] at h
    cases hGet : draft.get? d.name with
    | none =>
      rw [define_of_none hGet] at h
      cases h
      exact .new rfl hGet
    | some e =>
      rw [define_of_some hGet] at h
      split at h
      · next hBuiltin =>
        cases h
        rw [Bool.and_eq_true, Bool.not_eq_true'] at hBuiltin
        exact .replaced hGet hBuiltin.1 hBuiltin.2
      · cases h

end Draft

namespace Document

variable {doc : Document}

/-- A document but for its index, which the definitions determine. -/
def contents (doc : Document) : List Definition × String × Option String × Option String :=
  (doc.definitions, doc.query, doc.mutation, doc.subscription)

theorem contents_injective : Function.Injective contents := by
  rintro ⟨table, query, mutation, subscription⟩ ⟨table', query', mutation', subscription'⟩ h
  simp only [contents, Prod.mk.injEq] at h
  obtain ⟨hDefinitions, rfl, rfl, rfl⟩ := h
  rw [Table.ext hDefinitions]

/-- Each source is read as its part. -/
def ReadAs (sources : List Source) (parts : List (List Statement)) : Prop :=
  List.Forall₂ (fun source part => Statement.readAll? source.name false source.text = some part)
    sources parts

theorem ReadAs.foldlM_addSource {sources : List Source} {parts : List (List Statement)}
    (h : ReadAs sources parts) (draft : Draft) :
    sources.foldlM Draft.addSource draft = parts.flatten.foldlM Draft.add draft := by
  induction h generalizing draft with
  | nil => rfl
  | @cons source part sources parts hRead _ ih =>
    have hAdd : draft.addSource source = part.foldlM Draft.add draft := by
      unfold Draft.addSource
      rw [hRead]
    rw [List.foldlM_cons, hAdd, List.flatten_cons, List.foldlM_append]
    exact congrArg (part.foldlM Draft.add draft >>= ·) (funext ih)

/-- Sources with one statement each. -/
theorem readAs_of_readAll? {file : String} {l : List (String × Statement)}
    (h : ∀ e ∈ l, Statement.readAll? file false e.1 = some [e.2]) :
    ReadAs (l.map fun e => ⟨file, e.1⟩) (l.map fun e => [e.2]) := by
  rw [ReadAs, List.forall₂_map_left_iff, List.forall₂_map_right_iff, List.forall₂_same]
  exact h

theorem load_of_readAll? {file : String} {l : List (String × Statement)} {sources : List Source}
    (hRead : ∀ e ∈ l, Statement.readAll? file false e.1 = some [e.2])
    (hSources : sources = l.map fun e => ⟨file, e.1⟩)
    (hDoc : ((l.map (·.2)).foldlM Draft.add Draft.initial >>= Draft.finish).map contents
      = .ok (doc.definitions, doc.query, doc.mutation, doc.subscription)) :
    load sources = .ok doc := by
  have hParts : (l.map fun e => [e.2]).flatten = l.map (·.2) := by
    rw [← List.flatMap_def, List.map_eq_flatMap]
  rw [load, hSources, (readAs_of_readAll? hRead).foldlM_addSource, hParts]
  -- comparing the two indexes entry by entry would take far longer than the definitions
  generalize (l.map (·.2)).foldlM Draft.add Draft.initial >>= Draft.finish = outcome at hDoc
  cases outcome with
  | error e => cases hDoc
  | ok other => rw [contents_injective (Except.ok.inj hDoc)]

theorem eq_of_name_eq {d e : Definition} (hd : d ∈ doc.definitions) (he : e ∈ doc.definitions)
    (hName : d.name = e.name) : d = e :=
  List.inj_on_of_nodup_map doc.nodup_names hd he hName

theorem get?_eq_some_iff {name : String} {d : Definition} :
    doc.get? name = some d ↔ d ∈ doc.definitions ∧ d.name = name := Table.get?_eq_some_iff

end Document

end ResolverScaffold.Schema

namespace ResolverScaffold.Sample

def documentOf (definitions : List Schema.Definition) (hNames : (definitions.map (·.name)).Nodup)
    (query : String) : Schema.Document where
  toTable := .ofList definitions hNames
  query := query
  mutation := none
  subscription := none

end ResolverScaffold.Sample
