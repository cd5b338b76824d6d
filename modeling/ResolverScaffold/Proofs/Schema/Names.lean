import ResolverScaffold.Proofs.Schema.Load

/-!
# Names in a schema

Every name that a schema document holds is a name of the schema language: it was
read by `Statement.name`, or it is built in.

* `Yields p P`: whatever a reader takes off a text has the property.  It goes
  through every way to put readers together.
* `of_mem_readAll?`: what holds of every statement that is read.
* `named_of_mem_readAll?`: the names in the statements of a source.
* `named_of_load`: the names in a document.
-/

namespace ResolverScaffold

namespace ListReader

variable {σ α β : Type}

/-- Whatever `p` reads has the property. -/
def Yields (p : ListReader σ α) (P : α → Prop) : Prop :=
  ∀ items a rest, p items = some (a, rest) → P a

theorem yields_true (p : ListReader σ α) : Yields p fun _ => True := fun _ _ _ _ => trivial

theorem yields_mono {p : ListReader σ α} {P Q : α → Prop} (h : Yields p P) (hPQ : ∀ a, P a → Q a) :
    Yields p Q :=
  fun items a rest hRead => hPQ a (h items a rest hRead)

theorem yields_pure {P : α → Prop} {a : α} (h : P a) :
    Yields (pure a : ListReader σ α) P := by
  intro items b rest hb
  cases hb
  exact h

theorem yields_failure {P : α → Prop} : Yields (failure : ListReader σ α) P := by
  intro items a rest h
  cases h

theorem yields_bind {p : ListReader σ α} {f : α → ListReader σ β} {P : α → Prop} {Q : β → Prop}
    (hp : Yields p P) (hf : ∀ a, P a → Yields (f a) Q) : Yields (p >>= f) Q := by
  intro items b rest h
  obtain ⟨⟨a, middle⟩, ha, hb⟩ := Option.bind_eq_some_iff.1 h
  exact hf a (hp _ _ _ ha) _ _ _ hb

/-- A step whose value does not matter. -/
theorem yields_skip {p : ListReader σ α} {f : α → ListReader σ β} {Q : β → Prop}
    (hf : ∀ a, Yields (f a) Q) : Yields (p >>= f) Q :=
  yields_bind (yields_true p) fun a _ => hf a

theorem yields_orElse {p q : ListReader σ α} {P : α → Prop} (hp : Yields p P) (hq : Yields q P) :
    Yields (p <|> q) P := by
  intro items a rest h
  change (p items <|> q items) = some (a, rest) at h
  cases hFirst : p items with
  | none =>
    rw [hFirst] at h
    exact hq _ _ _ h
  | some r =>
    rw [hFirst] at h
    cases h
    exact hp _ _ _ hFirst

theorem yields_optional? {p : ListReader σ α} {P : α → Prop} (hp : Yields p P) :
    Yields (optional? p) fun o => ∀ a, o = some a → P a := by
  intro items o rest h a ho
  subst ho
  rw [optional?] at h
  split at h
  · rename_i b rest' hb
    cases h
    exact hp _ _ _ hb
  · cases h

theorem forall_repeated {p : ListReader σ α} {P : α → Prop} (hp : Yields p P) (items : List σ) :
    ∀ a ∈ (repeated p items).1, P a := by
  fun_induction repeated p items with
  | case1 items hNone => simp
  | case2 items a rest hSome hLess more last hMore ih =>
    rw [hMore] at ih
    exact List.forall_mem_cons.2 ⟨hp _ _ _ hSome, ih⟩
  | case3 items a rest hSome hNot => simp

theorem yields_many {p : ListReader σ α} {P : α → Prop} (hp : Yields p P) :
    Yields (many p) fun l => ∀ a ∈ l, P a := by
  intro items l rest h
  obtain rfl : (repeated p items).1 = l := congrArg Prod.fst (Option.some.inj h)
  exact forall_repeated hp items

theorem yields_many1 {p : ListReader σ α} {P : α → Prop} (hp : Yields p P) :
    Yields (many1 p) fun l => ∀ a ∈ l, P a :=
  yields_bind hp fun _ hFirst => yields_bind (yields_many hp) fun _ hMore =>
    yields_pure (List.forall_mem_cons.2 ⟨hFirst, hMore⟩)

end ListReader

namespace Schema

open ListReader

/-! ### Names -/

/-- Whether a text is a name of the schema language. -/
def isName (s : String) : Bool :=
  match s.toList with
  | [] => false
  | c :: cs => Statement.isNameStart c && cs.all Statement.isNameRest

theorem ne_empty_of_isName {s : String} (h : isName s = true) : s ≠ "" := by
  rintro rfl
  cases h

/-- A character that no name has. -/
theorem notMem_of_isName {s : String} {c : Char} (h : isName s = true)
    (hStart : Statement.isNameStart c = false) (hRest : Statement.isNameRest c = false) :
    c ∉ s.toList := by
  rw [isName] at h
  split at h
  · cases h
  · rename_i first cs hChars
    rw [Bool.and_eq_true, List.all_eq_true] at h
    rw [hChars, List.mem_cons]
    rintro (rfl | hMem)
    · simp [h.1] at hStart
    · simp [h.2 c hMem] at hRest

theorem dot_notMem_of_isName {s : String} (h : isName s = true) : '.' ∉ s.toList :=
  notMem_of_isName h (by decide) (by decide)

/-- The names of a field. -/
def Field.Named (f : Field) : Prop :=
  isName f.name = true ∧ ∀ a ∈ f.arguments, isName a.name = true

/-- The names of a definition, its fields and its values. -/
structure Definition.Named (d : Definition) : Prop where
  name : isName d.name = true
  fields : ∀ f ∈ d.fields, f.Named
  values : ∀ v ∈ d.values, isName v.name = true

theorem Definition.named_iff {d : Definition} :
    d.Named ↔ isName d.name = true ∧ (∀ f ∈ d.fields, f.Named)
      ∧ ∀ v ∈ d.values, isName v.name = true :=
  ⟨fun h => ⟨h.name, h.fields, h.values⟩, fun h => ⟨h.1, h.2.1, h.2.2⟩⟩

instance (f : Field) : Decidable f.Named := inferInstanceAs (Decidable (_ ∧ _))

instance (d : Definition) : Decidable d.Named := decidable_of_iff' _ Definition.named_iff

namespace Statement

/-- The names of a statement. -/
def Named : Statement → Prop
  | .define d | .extend d => d.Named
  | .roots _ | .directive => True

theorem Named.of_block? {s : Statement} {d : Definition} (h : s.Named) (hBlock : s.block? = some d) :
    d.Named := by
  cases s with
  | define e => cases hBlock; exact h
  | extend e => cases hBlock; exact h
  | roots r => cases hBlock
  | directive => cases hBlock

theorem yields_word {α : Type} {p : Text.Reader α} {P : α → Prop} (hp : Yields p P) :
    Yields (word p) P :=
  yields_bind hp fun _ ha => yields_skip fun _ => yields_pure ha

theorem yields_nameChars : Yields nameChars fun s => isName s = true := by
  refine yields_bind (P := fun c => isNameStart c = true) ?_ fun c hc =>
    yields_bind (P := fun cs => cs.all isNameRest = true) ?_ fun cs hcs => yields_pure ?_
  · intro text c rest h
    cases text with
    | nil => cases h
    | cons d text =>
      rw [Text.Reader.satisfy] at h
      split at h
      · cases h
        assumption
      · cases h
  · intro text cs rest h
    cases h
    exact List.all_takeWhile
  · rw [isName, String.toList_ofList]
    exact Bool.and_eq_true_iff.2 ⟨hc, hcs⟩

theorem yields_name : Yields name fun s => isName s = true := yields_word yields_nameChars

/-! ### Fields -/

theorem yields_inputValue : Yields inputValue fun v => isName v.1.name = true :=
  yields_skip fun _ => yields_bind yields_name fun _ hName => yields_skip fun _ =>
    yields_skip fun _ => yields_skip fun _ => yields_skip fun _ => yields_pure hName

theorem yields_argumentList : Yields argumentList fun l => ∀ a ∈ l, isName a.name = true := by
  refine yields_skip fun _ => yields_bind (yields_many1 yields_inputValue) fun l hl =>
    yields_skip fun _ => yields_pure ?_
  intro a ha
  obtain ⟨v, hv, rfl⟩ := List.mem_map.1 ha
  exact hl v hv

theorem yields_fields : Yields fields fun l => ∀ f ∈ l, f.Named := by
  refine yields_skip fun _ => yields_bind (yields_many1 ?_) fun l hl => yields_skip fun _ =>
    yields_pure hl
  refine yields_skip fun _ => yields_bind yields_name fun _ hName =>
    yields_bind (yields_optional? yields_argumentList) fun o ho => yields_skip fun _ =>
    yields_skip fun _ => yields_skip fun _ => yields_pure ⟨hName, ?_⟩
  cases o with
  | none => simp
  | some l => exact ho l rfl

theorem yields_inputFields : Yields inputFields fun l => ∀ f ∈ l, f.Named := by
  refine yields_skip fun _ => yields_bind (yields_many1 yields_inputValue) fun l hl =>
    yields_skip fun _ => yields_pure ?_
  intro f hf
  obtain ⟨v, hv, rfl⟩ := List.mem_map.1 hf
  exact ⟨hl v hv, by simp⟩

theorem yields_enumValues : Yields enumValues fun l => ∀ v ∈ l, isName v.name = true := by
  refine yields_skip fun _ => yields_bind (yields_many1 ?_) fun l hl => yields_skip fun _ =>
    yields_pure hl
  exact yields_skip fun _ => yields_bind (yields_skip fun _ => yields_name) fun _ hName =>
    yields_skip fun _ => yields_pure hName

/-! ### Definitions -/

section Bodies

variable {α : Type} {part : Text.Reader (List α)} {build : List Directive → List α → Body}
  {P : List α → Prop} {Q : Body → Prop}

theorem yields_plainBody (hPart : Yields part P) (hNil : P [])
    (hBuild : ∀ directives l, P l → Q (build directives l)) : Yields (plainBody part build) Q := by
  refine yields_skip fun directives => yields_bind (yields_optional? hPart) fun o ho =>
    yields_pure (hBuild directives _ ?_)
  cases o with
  | none => exact hNil
  | some l => exact ho l rfl

theorem yields_extendBody (hPart : Yields part P) (hNil : P [])
    (hBuild : ∀ directives l, P l → Q (build directives l)) : Yields (extendBody part build) Q :=
  yields_orElse
    (yields_skip fun directives => yields_bind hPart fun l hl => yields_pure (hBuild directives l hl))
    (yields_skip fun directives => yields_pure (hBuild directives [] hNil))

end Bodies

/-- The names of the fields and values in a body. -/
structure Body.Named (body : Body) : Prop where
  fields : ∀ f ∈ body.fields, f.Named
  values : ∀ v ∈ body.values, isName v.name = true

theorem yields_withInterfaces {body : Text.Reader Body} (h : Yields body Body.Named) :
    Yields (withInterfaces body) Body.Named :=
  yields_skip fun _ => yields_bind h fun _ hBody => yields_pure ⟨hBody.fields, hBody.values⟩

theorem Body.named_of_fields {body : Body} (hFields : ∀ f ∈ body.fields, f.Named)
    (hValues : body.values = []) : body.Named :=
  ⟨hFields, by simp [hValues]⟩

theorem Body.named_of_values {body : Body} (hFields : body.fields = [])
    (hValues : ∀ v ∈ body.values, isName v.name = true) : body.Named :=
  ⟨by simp [hFields], hValues⟩

theorem yields_bodies (kind : Kind) :
    Yields (bodies kind).1 Body.Named ∧ Yields (bodies kind).2 Body.Named := by
  have hNil : ∀ f ∈ ([] : List Field), f.Named := by simp
  have hNoValue : ∀ v ∈ ([] : List EnumValue), isName v.name = true := by simp
  have hNone : ∀ {body : Body}, body.fields = [] → body.values = [] → body.Named :=
    fun hFields hValues => Body.named_of_values hFields (by simp [hValues])
  cases kind with
  | scalar =>
    exact ⟨yields_skip fun _ => yields_pure (hNone rfl rfl),
      yields_skip fun _ => yields_pure (hNone rfl rfl)⟩
  | object =>
    exact ⟨yields_withInterfaces (yields_plainBody yields_fields hNil fun _ _ h =>
        Body.named_of_fields h rfl),
      yields_orElse (yields_withInterfaces (yields_extendBody yields_fields hNil fun _ _ h =>
        Body.named_of_fields h rfl)) (yields_skip fun _ => yields_pure (hNone rfl rfl))⟩
  | interface =>
    exact ⟨yields_withInterfaces (yields_plainBody yields_fields hNil fun _ _ h =>
        Body.named_of_fields h rfl),
      yields_withInterfaces (yields_extendBody yields_fields hNil fun _ _ h =>
        Body.named_of_fields h rfl)⟩
  | union =>
    dsimp only [bodies]
    exact ⟨yields_plainBody (yields_true _) trivial fun _ _ _ => hNone rfl rfl,
      yields_extendBody (yields_true _) trivial fun _ _ _ => hNone rfl rfl⟩
  | enum =>
    dsimp only [bodies]
    exact ⟨yields_plainBody yields_enumValues hNoValue fun _ _ h => Body.named_of_values rfl h,
      yields_extendBody yields_enumValues hNoValue fun _ _ h => Body.named_of_values rfl h⟩
  | input =>
    dsimp only [bodies]
    exact ⟨yields_plainBody yields_inputFields hNil fun _ _ h => Body.named_of_fields h rfl,
      yields_extendBody yields_inputFields hNil fun _ _ h => Body.named_of_fields h rfl⟩

theorem yields_typeStatement (origin : Origin) (kind : Kind) :
    Yields (typeStatement origin kind) Named :=
  yields_orElse
    (yields_skip fun _ => yields_skip fun _ => yields_skip fun _ =>
      yields_bind yields_name fun _ hName => yields_bind (yields_bodies kind).1 fun _ hBody =>
      yields_pure ⟨hName, hBody.fields, hBody.values⟩)
    (yields_skip fun _ => yields_skip fun _ => yields_skip fun _ =>
      yields_bind yields_name fun _ hName => yields_bind (yields_bodies kind).2 fun _ hBody =>
      yields_pure ⟨hName, hBody.fields, hBody.values⟩)

theorem yields_schemaStatement : Yields schemaStatement fun s => s.block? = none := by
  refine yields_orElse ?_ ?_
  · refine yields_skip fun _ => yields_skip fun _ => yields_skip fun named => ?_
    split
    · exact yields_pure rfl
    · exact yields_failure
  · exact yields_skip fun _ => yields_skip fun _ => yields_orElse
      (yields_skip fun _ => yields_skip fun _ => yields_pure rfl)
      (yields_skip fun _ => yields_pure rfl)

theorem yields_directiveStatement : Yields directiveStatement fun s => s.block? = none :=
  yields_skip fun _ => yields_skip fun _ => yields_skip fun _ => yields_skip fun _ =>
    yields_skip fun _ => yields_skip fun _ => yields_skip fun _ => yields_skip fun _ =>
    yields_skip fun _ => yields_skip fun _ => yields_pure rfl

/-- What holds of all blocks of types and of all other statements holds of what is read. -/
theorem of_mem_readAll? {file text : String} {builtin : Bool} {statements : List Statement}
    {P : Statement → Prop} (h : readAll? file builtin text = some statements)
    (hType : ∀ origin kind, origin.builtin = builtin → Yields (typeStatement origin kind) P)
    (hOther : ∀ s, s.block? = none → P s) : ∀ s ∈ statements, P s := by
  obtain ⟨⟨_, rest⟩, hRead, rfl⟩ := Option.map_eq_some_iff.1 h
  have hKind := hType ⟨file, builtin, text.toList.count '\n'⟩
  have hStatement : Yields (statement ⟨file, builtin, text.toList.count '\n'⟩) P :=
    yields_orElse (yields_mono yields_schemaStatement hOther) <|
      yields_orElse (hKind _ rfl) <| yields_orElse (hKind _ rfl) <| yields_orElse (hKind _ rfl) <|
      yields_orElse (hKind _ rfl) <| yields_orElse (hKind _ rfl) <| yields_orElse (hKind _ rfl) <|
      yields_mono yields_directiveStatement hOther
  refine yields_skip (Q := fun l => ∀ s ∈ l, P s) (fun _ => ?_) _ _ _ hRead
  exact yields_bind (yields_many1 hStatement) fun _ hl => yields_skip fun _ => yields_pure hl

/-- The statements of a source hold names only. -/
theorem named_of_mem_readAll? {file text : String} {builtin : Bool} {statements : List Statement}
    (h : readAll? file builtin text = some statements) : ∀ s ∈ statements, s.Named := by
  refine of_mem_readAll? h (fun origin kind _ => yields_typeStatement origin kind) fun s hs => ?_
  cases s with
  | define d => cases hs
  | extend d => cases hs
  | roots roots => trivial
  | directive => trivial

/-- What is read is built in as the source is. -/
theorem builtin_of_mem_readAll? {file text : String} {builtin : Bool} {statements : List Statement}
    (h : readAll? file builtin text = some statements) :
    ∀ s ∈ statements, ∀ d, s.block? = some d → d.builtin = builtin := by
  refine of_mem_readAll? h ?_ (by simp_all)
  rintro origin kind rfl
  have hPure : ∀ {line text name body d},
      some (definition origin line kind text name body) = some d → d.builtin = origin.builtin := by
    rintro line text name body d ⟨⟩
    rfl
  exact yields_orElse
    (yields_skip fun _ => yields_skip fun _ => yields_skip fun _ => yields_skip fun _ =>
      yields_skip fun _ => yields_pure fun _ => hPure)
    (yields_skip fun _ => yields_skip fun _ => yields_skip fun _ => yields_skip fun _ =>
      yields_skip fun _ => yields_pure fun _ => hPure)

end Statement

/-! ### Documents -/

theorem Definition.Named.extend {d extension : Definition} (h : d.Named)
    (hExtension : extension.Named) : (d.extend extension).Named where
  name := h.name
  fields := List.forall_mem_append.2 ⟨h.fields, hExtension.fields⟩
  values := List.forall_mem_append.2 ⟨h.values, hExtension.values⟩

namespace Draft

/-- All definitions of the draft hold names only. -/
def Named (draft : Draft) : Prop := ∀ d ∈ draft.definitions, d.Named

theorem Named.append {draft : Draft} {d : Definition} (h : draft.Named) (hd : d.Named)
    (hNew : draft.get? d.name = none) : (draft.append d hNew).Named := by
  intro d' hd'
  rcases List.mem_append.1 hd' with hd' | hd'
  · exact h d' hd'
  · exact List.mem_singleton.1 hd' ▸ hd

theorem Named.update {draft : Draft} {name : String} {f : Definition → Definition}
    {hName : ∀ d, d.name = name → (f d).name = name} (h : draft.Named)
    (hf : ∀ d, d.Named → (f d).Named) : (draft.update name f hName).Named := by
  intro d' hd'
  rcases Table.mem_update hName hd' with hd | ⟨d, hd, rfl⟩
  · exact h d' hd
  · exact hf d (h d hd)

theorem Named.add {draft draft' : Draft} {s : Statement} (h : draft.Named) (hs : s.Named)
    (hAdd : draft.add s = .ok draft') : draft'.Named := by
  cases adds_of_add hAdd with
  | roots r => exact h
  | directive => exact h
  | new hBlock hNew => exact h.append (hs.of_block? hBlock) hNew
  | replaced _ _ _ => exact h.update fun _ _ => hs
  | extended _ => exact h.update fun d' hd' => hd'.extend hs

theorem Named.addSource {draft draft' : Draft} {source : Source} (h : draft.Named)
    (hAdd : draft.addSource source = .ok draft') : draft'.Named := by
  unfold Draft.addSource at hAdd
  split at hAdd
  · cases hAdd
  · rename_i statements hRead
    have hNamed := Statement.named_of_mem_readAll? hRead
    exact foldlM_invariant (fun _ s _ hs hDraft => hDraft.add (hNamed s hs)) h hAdd

theorem named_initial : initial.Named := by
  show ∀ d ∈ Prelude.definitions, d.Named
  decide

theorem Named.settleQuery {draft draft' : Draft} {query : String} (h : draft.Named)
    (hQuery : draft.settleQuery = .ok (draft', query)) : draft'.Named := by
  rw [Draft.settleQuery] at hQuery
  split at hQuery <;> split at hQuery <;> cases hQuery
  · exact h
  · exact h
  · exact h.append (by decide) _

end Draft

/-- **All names in a document are names of the schema language.** -/
theorem Document.named_of_load {sources : List Source} {doc : Document}
    (h : load sources = .ok doc) : ∀ d ∈ doc.definitions, d.Named := by
  obtain ⟨draft, hDraft, h⟩ := bind_eq_ok_iff.1 h
  obtain ⟨⟨settled, query⟩, hQuery, h⟩ := bind_eq_ok_iff.1 h
  obtain ⟨mutation, -, h⟩ := bind_eq_ok_iff.1 h
  obtain ⟨subscription, -, h⟩ := bind_eq_ok_iff.1 h
  rw [pure_eq_ok_iff] at h
  subst h
  have hNamed : draft.Named :=
    foldlM_invariant (fun _ _ _ _ h => h.addSource) Draft.named_initial hDraft
  exact hNamed.settleQuery hQuery

end Schema

end ResolverScaffold
