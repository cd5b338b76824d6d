import ResolverScaffold.Proofs.Render.Stub
import ResolverScaffold.Proofs.Resolver.RetainedBlock
import ResolverScaffold.Proofs.Text.Parts
import ResolverScaffold.Render.ResolverFile

/-!
# The text of a resolver file

A resolver file is code and then retained blocks, each after an empty line.

* `render_of_mem`: every stub stands in the file of its kind with its body.
* `mem_retained_iff`: the blocks of the file are those of the declarations whose
  names say its kind.
* `scan_render`: the blocks that are found in the file are those of its code and
  then those of each block it lists.
* `scan_render_of_readBack`: whatever the code is, blocks that read back are found
  in the file as they were written; `scan_resynchronises` has this with the law of
  the empty line that it rests on.
* `scan_ofKind_of_unmarked`: if the code does not have the word of the opening mark
  and every block reads back, the file gives back just what it retains.
-/

namespace ResolverScaffold

/-! ### Code without marks -/

/-- A text without the word of the opening mark. -/
def Unmarked (text : String) : Prop := ¬RetainedBlock.beginWord <:+: text.toList

theorem unmarked_of_notMem {text : String} {c : Char} (hc : c ∈ RetainedBlock.beginWord)
    (h : c ∉ text.toList) : Unmarked text :=
  fun hIn => h (hIn.subset hc)

/-- The mark does not reach over a character that its word lacks. -/
theorem unmarked_append_singleton_append {c : Char} (hc : c ∉ RetainedBlock.beginWord) {a b : String}
    (ha : Unmarked a) (hb : Unmarked b) : Unmarked (a ++ String.singleton c ++ b) := by
  intro hIn
  rw [String.toList_append, String.toList_append, String.toList_singleton, List.append_assoc] at hIn
  rcases (Text.infix_append_cons_iff hc _ _).1 hIn with hIn | hIn
  · exact ha hIn
  · exact hb hIn

/-- Nor to a character after it. -/
theorem unmarked_append_singleton {c : Char} (hc : RetainedBlock.beginWord.getLast? ≠ some c)
    {a : String} (ha : Unmarked a) : Unmarked (a ++ String.singleton c) := by
  intro hIn
  rw [String.toList_append, String.toList_singleton] at hIn
  exact ha (Text.infix_of_infix_concat hc hIn)

theorem Unmarked.of_append {a b : String} (h : Unmarked (a ++ b)) : Unmarked a := by
  intro hIn
  refine h (hIn.trans ?_)
  rw [String.toList_append]
  exact (List.prefix_append _ _).isInfix

theorem unmarked_ofLines {lines : List String} (h : ∀ line ∈ lines, Unmarked line) :
    Unmarked (Text.ofLines lines) := by
  intro hIn
  obtain ⟨line, hMem, hIn⟩ := Text.exists_infix_of_infix_ofLines (by decide) (by decide) hIn
  exact h line hMem hIn

theorem Stub.head_eq (key parameters result : String) :
    ∃ front, Stub.head key parameters result = front ++ String.singleton '\x7b' :=
  ⟨"pub fn " ++ key ++ "(" ++ parameters ++ ") -> Result<" ++ result ++ ", LambdaError> ", by
    rw [String.append_assoc]
    rfl⟩

/-- The braces keep the head and the body of a function apart. -/
theorem Stub.unmarked_code {tree : Tree} {stubs : List Stub} (hStubs : Stub.all tree = .ok stubs)
    {s : Stub} (hs : s ∈ stubs) {recovered : Recovered} (hHeader : Unmarked s.header)
    (hBody : Unmarked (s.body recovered)) : Unmarked (s.code recovered) := by
  obtain ⟨parameters, result, hHead⟩ := Stub.header_of_mem_all hStubs hs
  obtain ⟨front, hFront⟩ := Stub.head_eq s.key parameters result
  rw [hHead, hFront] at hHeader
  rw [Stub.code, hHead, hFront, String.append_assoc]
  refine unmarked_append_singleton_append (by decide) hHeader.of_append ?_
  exact unmarked_append_singleton (c := '\x7d') (by decide) hBody

namespace ResolverFile

/-- The line that names the module. -/
def importLine (execModule : String) : String :=
  "use " ++ execModule ++ "::\x7bAuthHeader, Event, LambdaError, MiddlewareData\x7d;"

theorem unmarked_importLine {execModule : String} (h : Unmarked execModule) :
    Unmarked (importLine execModule) := by
  have hColon : ∀ text : String, ':' ∉ text.toList → Unmarked text :=
    fun text => unmarked_of_notMem (c := ':') (by decide)
  have hParts : importLine execModule
      = "use" ++ String.singleton ' ' ++ (execModule ++ String.singleton ':' ++ String.singleton ':'
        ++ String.singleton '\x7b' ++ "AuthHeader, Event, LambdaError, MiddlewareData\x7d;") := by
    apply String.toList_inj.1
    simp [importLine]
  rw [hParts]
  refine unmarked_append_singleton_append (by decide) (hColon _ (by decide)) ?_
  refine unmarked_append_singleton_append (by decide) ?_ (hColon _ (by decide))
  exact unmarked_append_singleton (by decide) (unmarked_append_singleton (by decide) h)

/-- The lines before it are the same in every file. -/
theorem unmarked_of_mem_take_headLines {execModule line : String}
    (h : line ∈ (headLines execModule).take 4) : Unmarked line := by
  have hColon : ∀ line ∈ (headLines execModule).take 4, ':' ∉ line.toList := by
    simp only [headLines, List.take_succ_cons, List.take_zero]
    decide
  exact unmarked_of_notMem (c := ':') (by decide) (hColon line h)

theorem unmarked_headLines {execModule : String} (h : Unmarked execModule) :
    ∀ line ∈ headLines execModule, Unmarked line := by
  have hLines : headLines execModule
      = (headLines execModule).take 4 ++ [importLine execModule] := rfl
  intro line hLine
  rw [hLines] at hLine
  rcases List.mem_append.1 hLine with hLine | hLine
  · exact unmarked_of_mem_take_headLines hLine
  · rw [List.mem_singleton.1 hLine]
    exact unmarked_importLine h

/-! ### What stands in a file -/

section OfKind

variable {settings : Settings} {tree : Tree} {stubs : List Stub} {recovered : Recovered}
  {kind : ResolverKind}

/-- What the file of a kind retains: the declarations whose names say this kind. -/
def retained (tree : Tree) (recovered : Recovered) (kind : ResolverKind) : List (String × String) :=
  recovered.deprecated.entries.filter fun e => (Signature.classify e.1 tree).kind == kind

theorem blocks_ofKind : (ofKind settings tree stubs recovered kind).blocks
    = (retained tree recovered kind).map fun e => RetainedBlock.render e.1 e.2 := rfl

theorem mem_retained_iff {key declaration : String} :
    (key, declaration) ∈ retained tree recovered kind ↔
      recovered.deprecated.get? key = some declaration
      ∧ (Signature.classify key tree).kind = kind := by
  rw [retained, List.mem_filter, Dict.get?_eq_some_iff_mem, beq_iff_eq]

/-- A file shows the bodies of its stubs and the declarations, and nothing else of a recovery. -/
theorem ofKind_congr {again : Recovered} (hBodies : ∀ s ∈ stubs, s.body again = s.body recovered)
    (hDeprecated : again.deprecated = recovered.deprecated) :
    ofKind settings tree stubs again kind = ofKind settings tree stubs recovered kind := by
  have hCode : ∀ s ∈ stubs.filter (·.kind == kind),
      StubText.mk s.docs (s.code again) = ⟨s.docs, s.code recovered⟩ := by
    intro s hs
    rw [Stub.code, Stub.code, hBodies s (List.mem_filter.1 hs).1]
  rw [ofKind, ofKind, List.map_congr_left hCode, hDeprecated]

/-- A line stands in the file. -/
theorem render_of_mem_lines {file : ResolverFile} {line : String} (h : line ∈ file.lines) :
    ∃ before after, file.render = before ++ line ++ after := by
  obtain ⟨before, after, hText⟩ := Text.ofLines_of_mem h
  exact ⟨before, "\n" ++ after, by rw [render, hText, String.append_assoc]⟩

/-- **Every stub stands in the file of its kind**, from its head to its closing brace. -/
theorem render_of_mem (settings : Settings) (tree : Tree) (recovered : Recovered) {s : Stub}
    (hs : s ∈ stubs) :
    ∃ before after, (ofKind settings tree stubs recovered s.kind).render
      = before ++ s.code recovered ++ after := by
  apply render_of_mem_lines
  refine List.mem_append_left _ (List.mem_append_right _ (List.mem_flatMap.2 ?_))
  refine ⟨⟨s.docs, s.code recovered⟩, List.mem_map.2 ⟨s, ?_, rfl⟩, by simp [stubLines]⟩
  exact List.mem_filter.2 ⟨hs, by simp⟩

/-- Every block that the file lists stands in it. -/
theorem render_of_mem_blocks {file : ResolverFile} {block : String} (h : block ∈ file.blocks) :
    ∃ before after, file.render = before ++ block ++ after :=
  render_of_mem_lines (List.mem_append_right _ (List.mem_flatMap.2 ⟨block, h, by simp⟩))

end OfKind

/-! ### Blocks found in a file -/

/-- The part of a file before its blocks. -/
def code (file : ResolverFile) : String :=
  Text.ofLines (headLines file.execModule ++ file.stubs.flatMap stubLines)

theorem render_eq (file : ResolverFile) :
    file.render = file.code ++ Text.ofLines (file.blocks.flatMap fun block => ["", block]) := by
  rw [render, lines, Text.ofLines_append, code]

/-- **Blocks after empty lines are found one by one.** -/
theorem scanChars_append_blocks : ∀ (blocks : List String) (front : List Char),
    RetainedBlock.scanChars
      (front ++ '\n' :: (Text.ofLines (blocks.flatMap fun block => ["", block])).toList)
      = RetainedBlock.scanChars front ++ blocks.flatMap RetainedBlock.scan := by
  intro blocks
  induction blocks with
  | nil =>
    intro front
    simp [RetainedBlock.scanChars_append_feed]
  | cons block blocks ih =>
    intro front
    have hText : (Text.ofLines ((block :: blocks).flatMap fun block => ["", block])).toList
        = '\n' :: (block.toList
          ++ '\n' :: (Text.ofLines (blocks.flatMap fun block => ["", block])).toList) := by
      simp
    rw [hText, RetainedBlock.scanChars_append_emptyLine, ih, List.flatMap_cons,
      RetainedBlock.scan]

/-- The blocks found in a file are those in its code and then those of each block it lists. -/
theorem scan_render (file : ResolverFile) :
    RetainedBlock.scan file.render
      = RetainedBlock.scan file.code ++ file.blocks.flatMap RetainedBlock.scan := by
  have hLines : headLines file.execModule ++ file.stubs.flatMap stubLines ≠ [] := by
    simp [headLines]
  obtain ⟨front, hCode⟩ := Text.exists_toList_ofLines_eq_concat hLines
  have hScan : RetainedBlock.scan file.code = RetainedBlock.scanChars front := by
    rw [RetainedBlock.scan, code, hCode, RetainedBlock.scanChars_append_feed]
  rw [hScan, RetainedBlock.scan, render_eq, String.toList_append, code, hCode, List.append_assoc]
  exact scanChars_append_blocks _ _

/-- The first lines of a file show the blocks of the module that they name, and no others. -/
theorem scan_headLines (execModule : String) :
    RetainedBlock.scan (Text.ofLines (headLines execModule))
      = RetainedBlock.scan (importLine execModule) := by
  have hLines : headLines execModule = (headLines execModule).take 3
      ++ [importLine execModule].flatMap fun line => ["", line] := rfl
  have hFront : RetainedBlock.scan (Text.ofLines ((headLines execModule).take 3)) = [] := by
    apply RetainedBlock.scanChars_eq_nil
    refine unmarked_ofLines fun line hLine => ?_
    exact unmarked_of_mem_take_headLines (List.take_subset_take_left _ (by decide) hLine)
  obtain ⟨front, hText⟩ := Text.exists_toList_ofLines_eq_concat
    (show (headLines execModule).take 3 ≠ [] by simp [headLines])
  rw [RetainedBlock.scan, hText, RetainedBlock.scanChars_append_feed] at hFront
  rw [hLines, Text.ofLines_append, RetainedBlock.scan, String.toList_append, hText, List.append_assoc]
  refine (scanChars_append_blocks _ front).trans ?_
  rw [hFront, List.flatMap_singleton, List.nil_append]

/-- Blocks that read back are found one by one. -/
theorem flatMap_scan_render {entries : List (String × String)}
    (h : ∀ e ∈ entries, RetainedBlock.scan (RetainedBlock.render e.1 e.2) = [⟨e.1, e.2⟩]) :
    (entries.map fun e => RetainedBlock.render e.1 e.2).flatMap RetainedBlock.scan
      = entries.map fun e => ⟨e.1, e.2⟩ := by
  induction entries with
  | nil => rfl
  | cons e entries ih =>
    obtain ⟨hFirst, hMore⟩ := List.forall_mem_cons.1 h
    rw [List.map_cons, List.flatMap_cons, ih hMore, hFirst]
    rfl

/-- The blocks found in a file are those in its code and then those it lists, if these read
back. -/
theorem scan_render_of_readBack {file : ResolverFile} {entries : List (String × String)}
    (hBlocks : file.blocks = entries.map fun e => RetainedBlock.render e.1 e.2)
    (h : ∀ e ∈ entries, RetainedBlock.scan (RetainedBlock.render e.1 e.2) = [⟨e.1, e.2⟩]) :
    RetainedBlock.scan file.render
      = RetainedBlock.scan file.code ++ entries.map fun e => ⟨e.1, e.2⟩ := by
  rw [scan_render, hBlocks, flatMap_scan_render h]

/-- **An empty line makes the scanner start afresh**, whatever stands before it.  So a resolver file
with any code, damaged and unfinished marks included, gives back what its code gives and then each
entry that it lists, as it was and in order, if the entries read back by themselves. -/
theorem scan_resynchronises :
    (∀ a b : String,
      RetainedBlock.scan (a ++ "\n\n" ++ b) = RetainedBlock.scan a ++ RetainedBlock.scan b)
    ∧ ∀ (file : ResolverFile) (entries : List (String × String)),
      file.blocks = entries.map (fun e => RetainedBlock.render e.1 e.2) →
      (∀ e ∈ entries, RetainedBlock.scan (RetainedBlock.render e.1 e.2) = [⟨e.1, e.2⟩]) →
      file.render = file.code ++ Text.ofLines (file.blocks.flatMap fun block => ["", block])
      ∧ RetainedBlock.scan file.render
        = RetainedBlock.scan file.code ++ entries.map fun e => ⟨e.1, e.2⟩ := by
  refine ⟨fun a b => ?_, fun file entries hBlocks hReadBack => ⟨render_eq file, ?_⟩⟩
  · have hText : (a ++ "\n\n" ++ b).toList = a.toList ++ '\n' :: '\n' :: b.toList := by
      rw [String.toList_append, String.toList_append, List.append_assoc]
      rfl
    rw [RetainedBlock.scan, hText, RetainedBlock.scanChars_append_emptyLine, RetainedBlock.scan,
      RetainedBlock.scan]
  · exact scan_render_of_readBack hBlocks hReadBack

/-- A function that ends inside a block nobody closed. -/
def unfinishedCode : String := "fn f() \x7b\x7d\n// lambdagen:deprecated k\n// x"

/-- A file with that function and a block. -/
def unfinished : ResolverFile := ⟨"m", [⟨[], unfinishedCode⟩], [RetainedBlock.render "k" "a\n\nb"]⟩

/-- The unfinished block does not take in the one after it. -/
theorem scan_unfinished : RetainedBlock.scan unfinished.render = [⟨"k", "a\n\nb"⟩] := by
  have hReadBack : ∀ e ∈ [("k", "a\n\nb")],
      RetainedBlock.scan (RetainedBlock.render e.1 e.2) = [⟨e.1, e.2⟩] := by decide
  obtain ⟨-, hScan⟩ := scan_resynchronises.2 unfinished [("k", "a\n\nb")] rfl hReadBack
  -- the function stands after an empty line too, so its text can be read by itself
  have hCode : unfinished.code = render ⟨"m", [], [unfinishedCode]⟩ := rfl
  have hHead : RetainedBlock.scan (code ⟨"m", [], [unfinishedCode]⟩) = [] := by
    apply RetainedBlock.scanChars_eq_nil
    exact unmarked_ofLines (unmarked_headLines (unmarked_of_notMem (c := 'g') (by decide) (by decide)))
  have hFunction : RetainedBlock.scan unfinishedCode = [] := by decide
  rw [hScan, hCode, scan_render, hHead, List.flatMap_singleton, hFunction]
  rfl

/-- **A file gives back what it retains**, if its code is unmarked and its blocks read back. -/
theorem scan_ofKind_of_unmarked {settings : Settings} {tree : Tree} {stubs : List Stub}
    {recovered : Recovered} (hExec : Unmarked settings.execFileModule)
    (hUnmarked : ∀ s ∈ stubs, (∀ doc ∈ s.docs, Unmarked doc) ∧ Unmarked (s.code recovered))
    (hReadBack : ∀ key declaration, recovered.deprecated.get? key = some declaration →
      RetainedBlock.scan (RetainedBlock.render key declaration) = [⟨key, declaration⟩])
    (kind : ResolverKind) :
    RetainedBlock.scan (ofKind settings tree stubs recovered kind).render
      = (retained tree recovered kind).map fun e => ⟨e.1, e.2⟩ := by
  have hCode : RetainedBlock.scan (ofKind settings tree stubs recovered kind).code = [] := by
    apply RetainedBlock.scanChars_eq_nil
    apply unmarked_ofLines
    intro line hLine
    rcases List.mem_append.1 hLine with hLine | hLine
    · exact unmarked_headLines hExec line hLine
    · obtain ⟨text, hText, hLine⟩ := List.mem_flatMap.1 hLine
      obtain ⟨s, hs, rfl⟩ := List.mem_map.1 hText
      obtain ⟨hDocs, hCode⟩ := hUnmarked s (List.mem_filter.1 hs).1
      rcases List.mem_cons.1 hLine with rfl | hLine
      · exact unmarked_of_notMem (c := ':') (by decide) (by decide)
      · rcases List.mem_append.1 hLine with hLine | hLine
        · exact hDocs line hLine
        · rw [List.mem_singleton.1 hLine]
          exact hCode
  have hBlocks : ∀ e ∈ retained tree recovered kind,
      RetainedBlock.scan (RetainedBlock.render e.1 e.2) = [⟨e.1, e.2⟩] := by
    intro e he
    exact hReadBack e.1 e.2 (mem_retained_iff.1 he).1
  rw [scan_render_of_readBack blocks_ofKind hBlocks, hCode, List.nil_append]

/-- The code of a stub is unmarked if its parts are. -/
theorem scan_ofKind {settings : Settings} {tree : Tree} {stubs : List Stub} {recovered : Recovered}
    (hStubs : Stub.all tree = .ok stubs) (hExec : Unmarked settings.execFileModule)
    (hUnmarked : ∀ s ∈ stubs,
      (∀ doc ∈ s.docs, Unmarked doc) ∧ Unmarked s.header ∧ Unmarked (s.body recovered))
    (hReadBack : ∀ key declaration, recovered.deprecated.get? key = some declaration →
      RetainedBlock.scan (RetainedBlock.render key declaration) = [⟨key, declaration⟩])
    (kind : ResolverKind) :
    RetainedBlock.scan (ofKind settings tree stubs recovered kind).render
      = (retained tree recovered kind).map fun e => ⟨e.1, e.2⟩ := by
  refine scan_ofKind_of_unmarked hExec (fun s hs => ?_) hReadBack kind
  obtain ⟨hDocs, hHeader, hBody⟩ := hUnmarked s hs
  exact ⟨hDocs, Stub.unmarked_code hStubs hs hHeader hBody⟩

end ResolverFile

end ResolverScaffold
