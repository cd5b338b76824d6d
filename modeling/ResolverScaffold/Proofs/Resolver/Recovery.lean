import ResolverScaffold.Proofs.Outcome
import ResolverScaffold.Proofs.Resolver.Signature
import ResolverScaffold.Proofs.Resolver.SourceCache
import ResolverScaffold.Resolver.Recovery

/-!
# What is recovered

Recovery reads files one after the other, each with its blocks and its
functions, and then goes through the blocks it has seen.  Here the loops are
taken apart.

* `Accounts`: after some functions, the last one of each name is kept and no
  other name is; `accounts_foldlM` carries this through the loop.
* `Progress.HasRead`: functions and blocks that were read so far are accounted for;
  `Progress.HasRead.foldlM` carries this through the files.
* `exists_load`: files that can be read are recovered.
* `Revives`: the body that a block gives back.
* `keepBlock` touches one key, and only one that no function has
  (`agreeAt_foldl_keepBlock_of_contains`, `settles_foldl_keepBlock`).
* `load_recovers`: all of this about a whole recovery.
-/

namespace ResolverScaffold

namespace Recovery

/-! ### What is read -/

/-- The files that are read: those that are there, in a directory that is there. -/
def filesRead (disk : Disk) (dir : String) (files : List String) : List String :=
  if disk.exists? dir then files.filter disk.exists? else []

/-- The blocks of a file. -/
def blocksIn (disk : Disk) (file : String) : List RetainedBlock :=
  match disk.readText file with
  | .error _ => []
  | .ok text => RetainedBlock.scan text

/-- The functions that are listed of a file. -/
def functionsIn (enumerate : Enumerator) (disk : Disk) (file : String) : List FunctionDecl :=
  match disk.readText file with
  | .error _ => []
  | .ok text =>
    match enumerate file text with
    | .error _ => []
    | .ok decls => decls

/-- The blocks of all files that are read, in order. -/
def blocksRead (disk : Disk) (dir : String) (files : List String) : List RetainedBlock :=
  (filesRead disk dir files).flatMap (blocksIn disk)

/-- The functions of all files that are read, in order. -/
def functionsRead (enumerate : Enumerator) (disk : Disk) (dir : String) (files : List String) :
    List FunctionDecl :=
  (filesRead disk dir files).flatMap (functionsIn enumerate disk)

/-- A file that can be read and whose functions can be listed. -/
def IsReadable (enumerate : Enumerator) (disk : Disk) (file : String) : Prop :=
  ∃ text decls, disk.readText file = .ok text ∧ enumerate file text = .ok decls

/-- Put a block under its key. -/
def retain (blocks : Dict String String) (block : RetainedBlock) : Dict String String :=
  blocks.insert block.key block.declaration

/-- All blocks that are read, by key. -/
def retainedRead (disk : Disk) (dir : String) (files : List String) : Dict String String :=
  (blocksRead disk dir files).foldl retain .empty

/-! ### Functions -/

/-- What is wanted of a function: its body if the tree asks for it, the whole function otherwise. -/
def wanted (tree : Tree) (decl : FunctionDecl) : Span :=
  if (Signature.classify decl.name tree).isLive tree then decl.body else decl.declaration

/-- The text that is wanted of a function is kept: its body if the tree asks for it, the whole
function otherwise. -/
def Keeps (disk : Disk) (tree : Tree) (found : Recovered) (decl : FunctionDecl) : Prop :=
  if (Signature.classify decl.name tree).isLive tree then
    ∃ text, decl.body.Cuts disk text
      ∧ found.bodies.get? decl.name = some text ∧ found.deprecated.get? decl.name = none
  else
    ∃ text, decl.declaration.Cuts disk text
      ∧ found.deprecated.get? decl.name = some text ∧ found.bodies.get? decl.name = none

/-- Two recoveries have the same under a key. -/
def AgreeAt (found found' : Recovered) (key : String) : Prop :=
  found'.bodies.get? key = found.bodies.get? key
    ∧ found'.deprecated.get? key = found.deprecated.get? key

theorem Keeps.congr {disk : Disk} {tree : Tree} {found found' : Recovered} {decl : FunctionDecl}
    (h : Keeps disk tree found decl) (hSame : AgreeAt found found' decl.name) :
    Keeps disk tree found' decl := by
  rw [Keeps, hSame.1, hSame.2]
  exact h

/-- **A round keeps one function and leaves the other names alone.** -/
theorem keepFunction_spec {disk : Disk} {tree : Tree} (hKeyed : tree.FieldsKeyed)
    {progress next : Progress disk} {decl : FunctionDecl}
    (h : keepFunction tree progress decl = .ok next) :
    next.retained = progress.retained ∧ Keeps disk tree next.found decl
      ∧ ∀ key, key ≠ decl.name → AgreeAt progress.found next.found key := by
  rw [keepFunction, Signature.classify_key hKeyed] at h
  dsimp only at h
  split at h
  · rename_i hLive
    obtain ⟨⟨text, sources⟩, hText, hNext⟩ := bind_eq_ok_iff.1 h
    cases hNext
    refine ⟨rfl, ?_, fun key hKey => ?_⟩
    · rw [Keeps, if_pos hLive]
      exact ⟨text, SourceCache.cuts_of_slice hText, by simp [Recovered.keepBody],
        by simp [Recovered.keepBody]⟩
    · simp [AgreeAt, Recovered.keepBody, hKey]
  · rename_i hDead
    obtain ⟨⟨text, sources⟩, hText, hNext⟩ := bind_eq_ok_iff.1 h
    cases hNext
    refine ⟨rfl, ?_, fun key hKey => ?_⟩
    · rw [Keeps, if_neg hDead]
      exact ⟨text, SourceCache.cuts_of_slice hText, by simp [Recovered.keepDeclaration],
        by simp [Recovered.keepDeclaration]⟩
    · simp [AgreeAt, Recovered.keepDeclaration, hKey]

/-- A function is kept if what is wanted of it can be read. -/
theorem exists_keepFunction {disk : Disk} {tree : Tree} (progress : Progress disk)
    {decl : FunctionDecl} {text part : String}
    (hRead : disk.readText (wanted tree decl).start.file = .ok text)
    (hCuts : (wanted tree decl).Cuts disk part) :
    ∃ next, keepFunction tree progress decl = .ok next := by
  obtain ⟨later, hSlice⟩ :=
    progress.sources.exists_slice (Signature.classify decl.name tree).key hRead hCuts
  rw [wanted] at hSlice
  rw [keepFunction]
  dsimp only
  split at hSlice
  · next hLive =>
    rw [if_pos hLive, hSlice]
    exact ⟨_, rfl⟩
  · next hDead =>
    rw [if_neg hDead, hSlice]
    exact ⟨_, rfl⟩

/-- After some functions, the last one of each name is kept and nothing else is. -/
structure Accounts (disk : Disk) (tree : Tree) (decls : List FunctionDecl) (found : Recovered) :
    Prop where
  last : ∀ before decl after, decls = before ++ decl :: after →
    (∀ later ∈ after, later.name ≠ decl.name) → Keeps disk tree found decl
  others : ∀ key, (∀ decl ∈ decls, decl.name ≠ key) →
    found.bodies.get? key = none ∧ found.deprecated.get? key = none

theorem accounts_nil (disk : Disk) (tree : Tree) : Accounts disk tree [] .empty where
  last before decl after h _ := by simp at h
  others key _ := ⟨rfl, rfl⟩

theorem Accounts.concat {disk : Disk} {tree : Tree} {decls : List FunctionDecl}
    {found found' : Recovered} {decl : FunctionDecl} (hAcc : Accounts disk tree decls found)
    (hKept : Keeps disk tree found' decl)
    (hFrame : ∀ key, key ≠ decl.name → AgreeAt found found' key) :
    Accounts disk tree (decls ++ [decl]) found' := by
  refine ⟨fun before other after hSplit hLater => ?_, fun key hNone => ?_⟩
  · rcases List.eq_nil_or_concat after with rfl | ⟨after, last, rfl⟩
    · obtain ⟨-, hSame⟩ := List.append_inj' hSplit rfl
      cases hSame
      exact hKept
    · rw [List.concat_eq_append, ← List.cons_append, ← List.append_assoc] at hSplit
      obtain ⟨hDecls, hSame⟩ := List.append_inj' hSplit rfl
      cases hSame
      have hne : other.name ≠ decl.name := (hLater decl (by simp)).symm
      refine (hAcc.last before other after hDecls fun later hm => ?_).congr (hFrame _ hne)
      exact hLater later (by simp [hm])
  · have hne : key ≠ decl.name := (hNone decl (by simp)).symm
    obtain ⟨hBodies, hDeprecated⟩ := hFrame key hne
    rw [hBodies, hDeprecated]
    exact hAcc.others key fun d hd => hNone d (by simp [hd])

/-- **The loop accounts for all functions**, and leaves the blocks alone. -/
theorem accounts_foldlM {disk : Disk} {tree : Tree} (hKeyed : tree.FieldsKeyed) :
    ∀ {rest decls : List FunctionDecl} {progress next : Progress disk},
      rest.foldlM (keepFunction tree) progress = .ok next →
      Accounts disk tree decls progress.found →
      Accounts disk tree (decls ++ rest) next.found ∧ next.retained = progress.retained := by
  -- the functions that were read grow at their end, so they are kept apart from those to come
  intro rest
  induction rest with
  | nil =>
    intro decls progress next h hAcc
    rw [List.foldlM_nil, pure_eq_ok_iff] at h
    subst h
    rw [List.append_nil]
    exact ⟨hAcc, rfl⟩
  | cons decl rest ih =>
    intro decls progress next h hAcc
    rw [List.foldlM_cons] at h
    obtain ⟨middle, hMiddle, hRest⟩ := bind_eq_ok_iff.1 h
    obtain ⟨hRetained, hKept, hFrame⟩ := keepFunction_spec hKeyed hMiddle
    obtain ⟨hAll, hSame⟩ := ih hRest (hAcc.concat hKept hFrame)
    rw [List.append_assoc] at hAll
    exact ⟨hAll, hSame.trans hRetained⟩

/-! ### Files -/

/-- These functions and these blocks were read so far. -/
structure Progress.HasRead {disk : Disk} (progress : Progress disk) (tree : Tree)
    (decls : List FunctionDecl) (blocks : List RetainedBlock) : Prop where
  accounts : Accounts disk tree decls progress.found
  retained : progress.retained = blocks.foldl retain .empty

section Files

variable {enumerate : Enumerator} {disk : Disk} {tree : Tree} {progress next : Progress disk}
  {file : String} {files : List String} {decls : List FunctionDecl} {blocks : List RetainedBlock}

/-- A file that is there is read as it is, under whatever spelling it was read before. -/
theorem readText_of_get {sources later : SourceCache disk} {text : String}
    (hThere : disk.exists? file = true) (h : sources.get file = .ok (text, later)) :
    disk.readText file = .ok text :=
  (SourceCache.leadsTo_of_get h).readText_eq hThere

theorem readFile_of_missing (hMissing : disk.exists? file = false) :
    readFile enumerate tree progress file = .ok progress := by
  rw [readFile, if_neg (by simp [hMissing])]
  rfl

/-- **A round reads the functions and the blocks of one file.** -/
theorem Progress.HasRead.readFile (hKeyed : tree.FieldsKeyed)
    (hRead : progress.HasRead tree decls blocks) (hThere : disk.exists? file = true)
    (h : readFile enumerate tree progress file = .ok next) :
    IsReadable enumerate disk file
      ∧ next.HasRead tree (decls ++ functionsIn enumerate disk file)
        (blocks ++ blocksIn disk file) := by
  rw [Recovery.readFile, if_pos hThere] at h
  obtain ⟨⟨text, sources⟩, hGet, h⟩ := bind_eq_ok_iff.1 h
  obtain ⟨listed, hListed, h⟩ := bind_eq_ok_iff.1 h
  have hText := readText_of_get hThere hGet
  obtain ⟨hAcc, hRetained⟩ := accounts_foldlM hKeyed h hRead.accounts
  refine ⟨⟨text, listed, hText, hListed⟩, ?_, ?_⟩
  · simp only [functionsIn, hText, hListed]
    exact hAcc
  · rw [hRetained, List.foldl_append, ← hRead.retained, blocksIn, hText]
    rfl

/-- **The loop reads the functions and the blocks of all files that are there.** -/
theorem Progress.HasRead.foldlM (hKeyed : tree.FieldsKeyed)
    (hRead : progress.HasRead tree decls blocks)
    (h : files.foldlM (Recovery.readFile enumerate tree) progress = .ok next) :
    (∀ file ∈ files.filter disk.exists?, IsReadable enumerate disk file)
      ∧ next.HasRead tree
        (decls ++ (files.filter disk.exists?).flatMap (functionsIn enumerate disk))
        (blocks ++ (files.filter disk.exists?).flatMap (blocksIn disk)) := by
  induction files generalizing progress decls blocks with
  | nil =>
    rw [List.foldlM_nil, pure_eq_ok_iff] at h
    subst h
    simpa using hRead
  | cons file files ih =>
    rw [List.foldlM_cons] at h
    obtain ⟨middle, hMiddle, hRest⟩ := bind_eq_ok_iff.1 h
    cases hThere : disk.exists? file with
    | false =>
      rw [readFile_of_missing hThere] at hMiddle
      cases hMiddle
      rw [List.filter_cons, if_neg (by simp [hThere])]
      exact ih hRead hRest
    | true =>
      obtain ⟨hReadable, hNext⟩ := hRead.readFile hKeyed hThere hMiddle
      obtain ⟨hMore, hFinal⟩ := ih hNext hRest
      rw [List.filter_cons, if_pos hThere, List.flatMap_cons, List.flatMap_cons,
        ← List.append_assoc, ← List.append_assoc]
      exact ⟨List.forall_mem_cons.2 ⟨hReadable, hMore⟩, hFinal⟩

/-- A file is read if it can be, and what is wanted of its functions too. -/
theorem exists_readFile (progress : Progress disk)
    (hReadable : disk.exists? file = true → IsReadable enumerate disk file)
    (hWanted : disk.exists? file = true → ∀ decl ∈ functionsIn enumerate disk file, ∃ text part,
      disk.readText (wanted tree decl).start.file = .ok text ∧ (wanted tree decl).Cuts disk part) :
    ∃ next, readFile enumerate tree progress file = .ok next := by
  cases hThere : disk.exists? file with
  | false => exact ⟨progress, readFile_of_missing hThere⟩
  | true =>
    obtain ⟨text, listed, hText, hListed⟩ := hReadable hThere
    obtain ⟨sources, hGet⟩ := progress.sources.exists_get hText
    have hKept : ∀ (progress : Progress disk), ∀ decl ∈ listed,
        ∃ next, keepFunction tree progress decl = .ok next := by
      intro progress decl hDecl
      obtain ⟨text, part, hRead, hCuts⟩ :=
        hWanted hThere decl (by simpa only [functionsIn, hText, hListed] using hDecl)
      exact exists_keepFunction progress hRead hCuts
    obtain ⟨next, hNext⟩ := exists_foldlM_eq_ok hKept
    rw [readFile, if_pos hThere]
    exact ⟨next, bind_eq_ok_iff.2 ⟨_, hGet, bind_eq_ok_iff.2 ⟨_, hListed, hNext⟩⟩⟩

end Files

section Load

variable {enumerate : Enumerator} {disk : Disk} {dir : String} {files : List String} {tree : Tree}
  {recovered : Recovered}

/-- **A recovery accounts for the functions first, and then goes through the blocks.** -/
theorem accounts_of_load (hKeyed : tree.FieldsKeyed)
    (hLoad : load enumerate disk dir files tree = .ok recovered) :
    (∀ file ∈ filesRead disk dir files, IsReadable enumerate disk file)
      ∧ ∃ found, Accounts disk tree (functionsRead enumerate disk dir files) found
        ∧ recovered
          = (retainedRead disk dir files).entries.foldl (keepBlock enumerate dir tree) found := by
  rw [retainedRead, blocksRead, functionsRead, filesRead]
  rw [load] at hLoad
  split at hLoad
  · next hDir =>
    obtain ⟨final, hFinal, hLoad⟩ := bind_eq_ok_iff.1 hLoad
    cases hLoad
    have hNothing : (⟨.empty, .empty, .empty⟩ : Progress disk).HasRead tree [] [] :=
      ⟨accounts_nil disk tree, rfl⟩
    obtain ⟨hReadable, hAcc, hRetained⟩ := hNothing.foldlM hKeyed hFinal
    rw [if_pos hDir]
    refine ⟨hReadable, final.found, hAcc, ?_⟩
    rw [hRetained]
    rfl
  · next hDir =>
    cases hLoad
    rw [if_neg hDir]
    exact ⟨nofun, .empty, accounts_nil disk tree, rfl⟩

/-- **Files that can be read are recovered**, if what is wanted of their functions can be read
too. -/
theorem exists_load
    (hReadable : ∀ file ∈ filesRead disk dir files, IsReadable enumerate disk file)
    (hWanted : ∀ decl ∈ functionsRead enumerate disk dir files, ∃ text part,
      disk.readText (wanted tree decl).start.file = .ok text ∧ (wanted tree decl).Cuts disk part) :
    ∃ recovered, load enumerate disk dir files tree = .ok recovered := by
  rw [load]
  split
  · next hDir =>
    have hRead : ∀ {file}, file ∈ files → disk.exists? file = true →
        file ∈ filesRead disk dir files := by
      intro file hFile hThere
      rw [filesRead, if_pos hDir]
      exact List.mem_filter.2 ⟨hFile, hThere⟩
    have hRound : ∀ (progress : Progress disk), ∀ file ∈ files,
        ∃ next, readFile enumerate tree progress file = .ok next := by
      refine fun progress file hFile => exists_readFile progress
        (fun hThere => hReadable file (hRead hFile hThere)) fun hThere decl hDecl => ?_
      exact hWanted decl (List.mem_flatMap.2 ⟨file, hRead hFile hThere, hDecl⟩)
    obtain ⟨final, hFinal⟩ := exists_foldlM_eq_ok hRound
    exact ⟨_, bind_eq_ok_iff.2 ⟨final, hFinal, rfl⟩⟩
  · exact ⟨_, rfl⟩

/-- Without functions, the blocks are all there is. -/
theorem load_of_functionsRead_eq_nil (hKeyed : tree.FieldsKeyed)
    (hReadable : ∀ file ∈ filesRead disk dir files, IsReadable enumerate disk file)
    (hNone : functionsRead enumerate disk dir files = []) :
    load enumerate disk dir files tree
      = .ok ((retainedRead disk dir files).entries.foldl (keepBlock enumerate dir tree) .empty) := by
  obtain ⟨recovered, hLoad⟩ : ∃ recovered, load enumerate disk dir files tree = .ok recovered :=
    exists_load hReadable (by simp [hNone])
  obtain ⟨-, found, hAcc, rfl⟩ := accounts_of_load hKeyed hLoad
  rw [hNone] at hAcc
  have hEmpty : found = .empty := by
    cases found
    congr <;> refine Dict.ext_get? fun key => ?_
    · exact (hAcc.others key nofun).1
    · exact (hAcc.others key nofun).2
  rw [hLoad, hEmpty]

end Load

/-! ### Blocks -/

/-- A block gives a body back: the first function of its name that is listed of its text has
this body there. -/
def Revives (enumerate : Enumerator) (dir key declaration body : String) : Prop :=
  ∃ before decl after,
    enumerate (Path.join dir (key ++ ".deprecated")) declaration = .ok (before ++ decl :: after)
      ∧ decl.name = key ∧ (∀ earlier ∈ before, earlier.name ≠ key)
      ∧ Text.sliceOf? declaration decl.body.start.offset decl.body.stop.offset = some body

theorem revive?_eq_some_iff {enumerate : Enumerator} {dir key declaration body : String} :
    revive? enumerate dir key declaration = some body ↔
      Revives enumerate dir key declaration body := by
  rw [revive?, Revives]
  cases hList : enumerate (Path.join dir (key ++ ".deprecated")) declaration with
  | error reason => simp
  | ok decls =>
    simp only [Option.bind_eq_bind, Option.bind_eq_some_iff, List.find?_eq_some_iff_append,
      Except.ok.injEq]
    constructor
    · rintro ⟨decl, ⟨hName, before, after, hSplit, hBefore⟩, hBody⟩
      exact ⟨before, decl, after, hSplit, by simpa using hName, by simpa using hBefore, hBody⟩
    · rintro ⟨before, decl, after, hSplit, hName, hBefore, hBody⟩
      exact ⟨decl, ⟨by simpa using hName, before, after, hSplit, by simpa using hBefore⟩, hBody⟩

/-- What is kept of a block whose function was not found: its body if the tree asks for the
function and the block gives a body back, and its text otherwise. -/
def Settles (enumerate : Enumerator) (dir : String) (tree : Tree) (found : Recovered)
    (key declaration : String) : Prop :=
  ((Signature.classify key tree).isLive tree = true ∧ ∃ body,
      Revives enumerate dir key declaration body
        ∧ found.bodies.get? key = some body ∧ found.deprecated.get? key = none)
    ∨ ¬((Signature.classify key tree).isLive tree = true
        ∧ ∃ body, Revives enumerate dir key declaration body)
      ∧ found.deprecated.get? key = some declaration ∧ found.bodies.get? key = none

theorem contains_eq_false_iff {found : Recovered} {key : String} :
    found.contains key = false ↔
      found.bodies.get? key = none ∧ found.deprecated.get? key = none := by
  rw [Recovered.contains, Bool.or_eq_false_iff, Dict.contains_eq_false_iff,
    Dict.contains_eq_false_iff]

theorem AgreeAt.contains_eq {found found' : Recovered} {key : String}
    (h : AgreeAt found found' key) : found'.contains key = found.contains key := by
  rw [Recovered.contains, Dict.contains, Dict.contains, h.1, h.2]
  rfl

theorem AgreeAt.trans {a b c : Recovered} {key : String} (h : AgreeAt a b key)
    (h' : AgreeAt b c key) : AgreeAt a c key :=
  ⟨h'.1.trans h.1, h'.2.trans h.2⟩

theorem Settles.congr {enumerate : Enumerator} {dir : String} {tree : Tree}
    {found found' : Recovered} {key declaration : String}
    (h : Settles enumerate dir tree found key declaration) (hSame : AgreeAt found found' key) :
    Settles enumerate dir tree found' key declaration := by
  rw [Settles, hSame.1, hSame.2]
  exact h

theorem Settles.contains {enumerate : Enumerator} {dir : String} {tree : Tree} {found : Recovered}
    {key declaration : String} (h : Settles enumerate dir tree found key declaration) :
    found.contains key = true := by
  rcases h with ⟨-, body, -, hBody, -⟩ | ⟨-, hDeclaration, -⟩
  · simp [Recovered.contains, Dict.contains, hBody]
  · simp [Recovered.contains, Dict.contains, hDeclaration]

/-- A block that gives a body back is not retained, if the tree asks for its function. -/
theorem Settles.of_revives {enumerate : Enumerator} {dir : String} {tree : Tree}
    {found : Recovered} {key declaration body : String}
    (h : Settles enumerate dir tree found key declaration)
    (hLive : (Signature.classify key tree).isLive tree = true)
    (hBody : Revives enumerate dir key declaration body) :
    found.bodies.get? key = some body ∧ found.deprecated.get? key = none := by
  rcases h with ⟨-, other, hOther, hKept⟩ | ⟨hNot, -⟩
  · rw [← revive?_eq_some_iff] at hBody hOther
    rw [hBody] at hOther
    cases hOther
    exact hKept
  · exact absurd ⟨hLive, body, hBody⟩ hNot

/-- A block is retained, if the tree does not ask for its function. -/
theorem Settles.of_dead {enumerate : Enumerator} {dir : String} {tree : Tree} {found : Recovered}
    {key declaration : String} (h : Settles enumerate dir tree found key declaration)
    (hDead : ¬(Signature.classify key tree).isLive tree = true) :
    found.deprecated.get? key = some declaration ∧ found.bodies.get? key = none := by
  rcases h with ⟨hLive, -⟩ | ⟨-, hKept⟩
  · exact absurd hLive hDead
  · exact hKept

theorem Keeps.contains {disk : Disk} {tree : Tree} {found : Recovered} {decl : FunctionDecl}
    (h : Keeps disk tree found decl) : found.contains decl.name = true := by
  rw [Keeps] at h
  split at h
  · obtain ⟨text, -, hBody, -⟩ := h
    simp [Recovered.contains, Dict.contains, hBody]
  · obtain ⟨text, -, hDeprecated, -⟩ := h
    simp [Recovered.contains, Dict.contains, hDeprecated]

theorem keepBlock_of_contains {enumerate : Enumerator} {dir : String} {tree : Tree}
    {found : Recovered} {key : String} (h : found.contains key = true) (declaration : String) :
    keepBlock enumerate dir tree found (key, declaration) = found := by
  simp [keepBlock, h]

/-- A round settles a block whose key was not found. -/
theorem settles_keepBlock (enumerate : Enumerator) (dir : String) (tree : Tree) {found : Recovered}
    {key : String} (h : found.contains key = false) (declaration : String) :
    Settles enumerate dir tree (keepBlock enumerate dir tree found (key, declaration)) key
      declaration := by
  obtain ⟨hBodies, hDeprecated⟩ := contains_eq_false_iff.1 h
  rw [keepBlock]
  dsimp only
  rw [if_neg (by simp [h])]
  split
  · next body hRevived =>
    split at hRevived
    · next hLive =>
      exact .inl ⟨hLive, body, revive?_eq_some_iff.1 hRevived, by simp, hDeprecated⟩
    · cases hRevived
  · next hNone =>
    refine .inr ⟨?_, by simp, hBodies⟩
    rintro ⟨hLive, body, hBody⟩
    rw [if_pos hLive, revive?_eq_some_iff.2 hBody] at hNone
    cases hNone

/-- A round leaves the other keys alone. -/
theorem agreeAt_keepBlock (enumerate : Enumerator) (dir : String) (tree : Tree) (found : Recovered)
    {block : String × String} {key : String} (h : key ≠ block.1) :
    AgreeAt found (keepBlock enumerate dir tree found block) key := by
  obtain ⟨blockKey, declaration⟩ := block
  rw [keepBlock]
  split
  · exact ⟨rfl, rfl⟩
  · dsimp only
    split <;> simp_all [AgreeAt]

/-- What a function left is not touched by blocks. -/
theorem agreeAt_foldl_keepBlock_of_contains (enumerate : Enumerator) (dir : String) (tree : Tree)
    {key : String} : ∀ (blocks : List (String × String)) {found : Recovered},
    found.contains key = true →
    AgreeAt found (blocks.foldl (keepBlock enumerate dir tree) found) key := by
  intro blocks
  induction blocks with
  | nil => intro found _; exact ⟨rfl, rfl⟩
  | cons block blocks ih =>
    intro found h
    obtain ⟨blockKey, declaration⟩ := block
    rw [List.foldl_cons]
    by_cases hKey : key = blockKey
    · subst hKey
      rw [keepBlock_of_contains h]
      exact ih h
    · have hRound : AgreeAt found (keepBlock enumerate dir tree found (blockKey, declaration)) key :=
        agreeAt_keepBlock enumerate dir tree found hKey
      exact hRound.trans (ih (hRound.contains_eq.trans h))

/-- Without a block of a key nothing changes there. -/
theorem agreeAt_foldl_keepBlock_of_ne (enumerate : Enumerator) (dir : String) (tree : Tree)
    {key : String} : ∀ (blocks : List (String × String)) {found : Recovered},
    (∀ block ∈ blocks, key ≠ block.1) →
    AgreeAt found (blocks.foldl (keepBlock enumerate dir tree) found) key := by
  intro blocks
  induction blocks with
  | nil => intro found _; exact ⟨rfl, rfl⟩
  | cons block blocks ih =>
    intro found h
    have hRound := agreeAt_keepBlock enumerate dir tree found (h block List.mem_cons_self)
    exact hRound.trans (ih fun b hb => h b (List.mem_cons_of_mem _ hb))

/-- **The loop settles every block whose function was not found.** -/
theorem settles_foldl_keepBlock (enumerate : Enumerator) (dir : String) (tree : Tree)
    {blocks : Dict String String} {found : Recovered} {key declaration : String}
    (hBlock : blocks.get? key = some declaration) (hNew : found.contains key = false) :
    Settles enumerate dir tree (blocks.entries.foldl (keepBlock enumerate dir tree) found) key
      declaration := by
  obtain ⟨before, after, hSplit⟩ := List.append_of_mem (blocks.get?_eq_some_iff_mem.1 hBlock)
  -- keys increase, so no block before this one has its key
  have hBefore : ∀ block ∈ before, key ≠ block.1 := by
    intro block hMem hSame
    have hSorted := blocks.sorted
    rw [hSplit] at hSorted
    have hLess := (List.pairwise_append.1 hSorted).2.2 block hMem (key, declaration) (by simp)
    rw [← hSame] at hLess
    exact Std.Irrefl.irrefl key hLess
  have hEarly : AgreeAt found (before.foldl (keepBlock enumerate dir tree) found) key :=
    agreeAt_foldl_keepBlock_of_ne enumerate dir tree before hBefore
  have hSettled := settles_keepBlock enumerate dir tree (hEarly.contains_eq.trans hNew) declaration
  rw [hSplit, List.foldl_append, List.foldl_cons]
  exact hSettled.congr
    (agreeAt_foldl_keepBlock_of_contains enumerate dir tree after hSettled.contains)

/-! ### All that is recovered -/

/-- What has a property somewhere in a list has it at a last place. -/
theorem exists_last {α : Type} {p : α → Prop} : ∀ {l : List α}, (∃ a ∈ l, p a) →
    ∃ before a after, l = before ++ a :: after ∧ p a ∧ ∀ later ∈ after, ¬p later := by
  intro l
  induction l with
  | nil => rintro ⟨a, ha, -⟩; simp at ha
  | cons b l ih =>
    rintro ⟨a, ha, hp⟩
    by_cases hMore : ∃ a ∈ l, p a
    · obtain ⟨before, c, after, rfl, hc, hAfter⟩ := ih hMore
      exact ⟨b :: before, c, after, rfl, hc, hAfter⟩
    · rcases List.mem_cons.1 ha with rfl | ha
      · exact ⟨[], a, l, rfl, hp, fun later hl hpl => hMore ⟨later, hl, hpl⟩⟩
      · exact absurd ⟨a, ha, hp⟩ hMore

section Load

variable {enumerate : Enumerator} {disk : Disk} {dir : String} {files : List String} {tree : Tree}
  {recovered : Recovered}

/-- The last function of a name is kept. -/
theorem keeps_of_load (hKeyed : tree.FieldsKeyed)
    (hLoad : load enumerate disk dir files tree = .ok recovered)
    {before after : List FunctionDecl} {decl : FunctionDecl}
    (hSplit : functionsRead enumerate disk dir files = before ++ decl :: after)
    (hLast : ∀ later ∈ after, later.name ≠ decl.name) : Keeps disk tree recovered decl := by
  obtain ⟨-, found, hAcc, rfl⟩ := accounts_of_load hKeyed hLoad
  have hKept := hAcc.last before decl after hSplit hLast
  exact hKept.congr (agreeAt_foldl_keepBlock_of_contains enumerate dir tree _ hKept.contains)

/-- The last block of a key is the one that is kept of it. -/
theorem get?_retainedRead_last {before after : List RetainedBlock} {block : RetainedBlock}
    (hSplit : blocksRead disk dir files = before ++ block :: after)
    (hLast : ∀ later ∈ after, later.key ≠ block.key) :
    (retainedRead disk dir files).get? block.key = some block.declaration := by
  rw [retainedRead, hSplit]
  exact Dict.get?_foldl_insert_last RetainedBlock.key RetainedBlock.declaration before after block
    .empty hLast

/-- The text of a block is kept, if all blocks of its key have it. -/
theorem get?_retainedRead_of_mem {key declaration : String}
    (hMem : ⟨key, declaration⟩ ∈ blocksRead disk dir files)
    (hOnly : ∀ block ∈ blocksRead disk dir files, block.key = key →
      block.declaration = declaration) :
    (retainedRead disk dir files).get? key = some declaration := by
  obtain ⟨before, block, after, hSplit, rfl, hLast⟩ :=
    exists_last (p := fun block : RetainedBlock => block.key = key) ⟨_, hMem, rfl⟩
  have hIn : block ∈ blocksRead disk dir files := by
    rw [hSplit]
    simp
  rw [get?_retainedRead_last hSplit hLast, hOnly block hIn rfl]

/-- The block that is kept of a key is settled, if no function has the key. -/
theorem settles_of_retainedRead (hKeyed : tree.FieldsKeyed)
    (hLoad : load enumerate disk dir files tree = .ok recovered) {key declaration : String}
    (hBlock : (retainedRead disk dir files).get? key = some declaration)
    (hNone : ∀ decl ∈ functionsRead enumerate disk dir files, decl.name ≠ key) :
    Settles enumerate dir tree recovered key declaration := by
  obtain ⟨-, found, hAcc, rfl⟩ := accounts_of_load hKeyed hLoad
  exact settles_foldl_keepBlock enumerate dir tree hBlock
    (contains_eq_false_iff.2 (hAcc.others key hNone))

/-- The last block of a key that no function has is settled. -/
theorem settles_of_load (hKeyed : tree.FieldsKeyed)
    (hLoad : load enumerate disk dir files tree = .ok recovered)
    {before after : List RetainedBlock} {block : RetainedBlock}
    (hSplit : blocksRead disk dir files = before ++ block :: after)
    (hLast : ∀ later ∈ after, later.key ≠ block.key)
    (hNone : ∀ decl ∈ functionsRead enumerate disk dir files, decl.name ≠ block.key) :
    Settles enumerate dir tree recovered block.key block.declaration :=
  settles_of_retainedRead hKeyed hLoad (get?_retainedRead_last hSplit hLast) hNone

/-- Nothing is recovered under a key that no function and no block has. -/
theorem contains_eq_false_of_load (hKeyed : tree.FieldsKeyed)
    (hLoad : load enumerate disk dir files tree = .ok recovered) {key : String}
    (hNone : ∀ decl ∈ functionsRead enumerate disk dir files, decl.name ≠ key)
    (hNoBlock : ∀ block ∈ blocksRead disk dir files, block.key ≠ key) :
    recovered.contains key = false := by
  obtain ⟨-, found, hAcc, rfl⟩ := accounts_of_load hKeyed hLoad
  have hFoundNot := contains_eq_false_iff.2 (hAcc.others key hNone)
  have hGet : (retainedRead disk dir files).get? key = none :=
    Dict.get?_foldl_insert_of_ne RetainedBlock.key RetainedBlock.declaration _ .empty hNoBlock
  have hEntries : ∀ entry ∈ (retainedRead disk dir files).entries, key ≠ entry.1 := by
    intro entry hMem hSame
    have hSome := (Dict.get?_eq_some_iff_mem _).2 hMem
    rw [← hSame, hGet] at hSome
    cases hSome
  rw [(agreeAt_foldl_keepBlock_of_ne enumerate dir tree _ hEntries).contains_eq, hFoundNot]

/-- **Every key comes from a function or from a block**: from the last function of its name, or
else from the last block. -/
theorem origin_of_contains (hKeyed : tree.FieldsKeyed)
    (hLoad : load enumerate disk dir files tree = .ok recovered) {key : String}
    (h : recovered.contains key = true) :
    (∃ decl ∈ functionsRead enumerate disk dir files, decl.name = key
        ∧ Keeps disk tree recovered decl)
      ∨ ∃ block ∈ blocksRead disk dir files, block.key = key
        ∧ Settles enumerate dir tree recovered key block.declaration := by
  by_cases hDecl : ∃ decl ∈ functionsRead enumerate disk dir files, decl.name = key
  · obtain ⟨before, decl, after, hSplit, rfl, hLast⟩ := exists_last hDecl
    refine .inl ⟨decl, ?_, rfl, keeps_of_load hKeyed hLoad hSplit hLast⟩
    rw [hSplit]
    simp
  · have hNone : ∀ decl ∈ functionsRead enumerate disk dir files, decl.name ≠ key :=
      fun decl hm hName => hDecl ⟨decl, hm, hName⟩
    by_cases hBlock : ∃ block ∈ blocksRead disk dir files, block.key = key
    · obtain ⟨before, block, after, hSplit, rfl, hLast⟩ := exists_last hBlock
      refine .inr ⟨block, ?_, rfl, settles_of_load hKeyed hLoad hSplit hLast hNone⟩
      rw [hSplit]
      simp
    · have hNot := contains_eq_false_of_load hKeyed hLoad hNone
        fun block hm hKey => hBlock ⟨block, hm, hKey⟩
      rw [h] at hNot
      cases hNot

/-- The name of every function and the key of every block is recovered. -/
theorem contains_of_origin (hKeyed : tree.FieldsKeyed)
    (hLoad : load enumerate disk dir files tree = .ok recovered) {key : String}
    (h : (∃ decl ∈ functionsRead enumerate disk dir files, decl.name = key)
      ∨ ∃ block ∈ blocksRead disk dir files, block.key = key) : recovered.contains key = true := by
  by_cases hDecl : ∃ decl ∈ functionsRead enumerate disk dir files, decl.name = key
  · obtain ⟨before, decl, after, hSplit, rfl, hLast⟩ := exists_last hDecl
    exact (keeps_of_load hKeyed hLoad hSplit hLast).contains
  · obtain ⟨before, block, after, hSplit, rfl, hLast⟩ := exists_last (h.resolve_left hDecl)
    refine (settles_of_load hKeyed hLoad hSplit hLast ?_).contains
    exact fun decl hm hName => hDecl ⟨decl, hm, hName⟩

/-- No key has both a body and a declaration. -/
theorem exclusive_of_load (hKeyed : tree.FieldsKeyed)
    (hLoad : load enumerate disk dir files tree = .ok recovered) (key : String) :
    recovered.bodies.get? key = none ∨ recovered.deprecated.get? key = none := by
  cases hContains : recovered.contains key with
  | false => exact .inl (contains_eq_false_iff.1 hContains).1
  | true =>
    rcases origin_of_contains hKeyed hLoad hContains with ⟨decl, -, rfl, h⟩ | ⟨block, -, -, h⟩
    · rw [Keeps] at h
      split at h
      · obtain ⟨text, -, -, hNone⟩ := h
        exact .inr hNone
      · obtain ⟨text, -, -, hNone⟩ := h
        exact .inl hNone
    · rcases h with ⟨-, body, -, -, hNone⟩ | ⟨-, -, hNone⟩
      · exact .inr hNone
      · exact .inl hNone

/-- Only functions that the tree asks for have a body. -/
theorem isLive_of_load (hKeyed : tree.FieldsKeyed)
    (hLoad : load enumerate disk dir files tree = .ok recovered) {key body : String}
    (h : recovered.bodies.get? key = some body) :
    (Signature.classify key tree).isLive tree = true := by
  have hContains : recovered.contains key = true := by
    simp [Recovered.contains, Dict.contains, h]
  rcases origin_of_contains hKeyed hLoad hContains with ⟨decl, -, rfl, hKept⟩ | ⟨block, -, -, hKept⟩
  · rw [Keeps] at hKept
    split at hKept
    · assumption
    · obtain ⟨text, -, -, hNone⟩ := hKept
      rw [h] at hNone
      cases hNone
  · rcases hKept with ⟨hLive, -⟩ | ⟨-, -, hNone⟩
    · exact hLive
    · rw [h] at hNone
      cases hNone

/-- **What recovery gives**, if it gives something: every file could be read; no key has both a
body and a declaration; the keys are the names of the functions and the keys of the blocks; the
last function of each name is kept, and the last block of each key that no function has. -/
theorem load_recovers (hKeyed : tree.FieldsKeyed)
    (hLoad : load enumerate disk dir files tree = .ok recovered) :
    (∀ file ∈ filesRead disk dir files, IsReadable enumerate disk file)
    ∧ (∀ key, ¬(recovered.bodies.contains key = true ∧ recovered.deprecated.contains key = true))
    ∧ (∀ key, recovered.bodies.contains key = true ∨ recovered.deprecated.contains key = true ↔
        (∃ decl ∈ functionsRead enumerate disk dir files, decl.name = key)
        ∨ ∃ block ∈ blocksRead disk dir files, block.key = key)
    ∧ (∀ before decl after, functionsRead enumerate disk dir files = before ++ decl :: after →
        (∀ later ∈ after, later.name ≠ decl.name) →
        Keeps disk tree recovered decl)
    ∧ ∀ before block after, blocksRead disk dir files = before ++ block :: after →
        (∀ later ∈ after, later.key ≠ block.key) →
        (∀ decl ∈ functionsRead enumerate disk dir files, decl.name ≠ block.key) →
        Settles enumerate dir tree recovered block.key block.declaration := by
  refine ⟨(accounts_of_load hKeyed hLoad).1, fun key ⟨hBody, hDeprecated⟩ => ?_,
    fun key => ⟨fun h => ?_, fun h => ?_⟩, ?_, ?_⟩
  · rcases exclusive_of_load hKeyed hLoad key with hNone | hNone
    · rw [Dict.contains, hNone] at hBody
      cases hBody
    · rw [Dict.contains, hNone] at hDeprecated
      cases hDeprecated
  · have hContains : recovered.contains key = true := by
      rw [Recovered.contains, Bool.or_eq_true]
      exact h
    exact (origin_of_contains hKeyed hLoad hContains).imp
      (fun ⟨decl, hMem, hName, _⟩ => ⟨decl, hMem, hName⟩)
      (fun ⟨block, hMem, hKey, _⟩ => ⟨block, hMem, hKey⟩)
  · rw [← Bool.or_eq_true]
    exact contains_of_origin hKeyed hLoad h
  · intro before decl after hSplit hLast
    exact keeps_of_load hKeyed hLoad hSplit hLast
  · intro before block after hSplit hLast hNone
    exact settles_of_load hKeyed hLoad hSplit hLast hNone

end Load

end Recovery

/-! ### A small project -/

namespace Sample

def tree : Tree :=
  { Tree.empty with
    bindings := Dict.empty.insert "Int" ⟨"Int", "i64", .primitive⟩
    queries := Dict.empty.insert "a" ⟨.query, "a", none, [], ⟨"Int", false, false⟩, []⟩ }

/-- A file with the function of the query, another function and a retained block. -/
def text : String :=
  "fn Query_a()\x7b1\x7d\nfn f()\x7b2\x7d\n// lambdagen:deprecated b\n// x\n// lambdagen:end\n"

def dir : Disk := Disk.empty.put [] "r" .directory rfl (.inl rfl)

theorem node?_dir : dir.node? ["r"] = some .directory := rfl

def disk : Disk := dir.put ["r"] "q" (.text text) node?_dir (.inr nofun)

def queryDecl : FunctionDecl := ⟨"Query_a", .within "r/q" 0 15, .within "r/q" 13 14⟩

/-- The function that nothing asks for. -/
def otherDecl : FunctionDecl := ⟨"f", .within "r/q" 16 25, .within "r/q" 23 24⟩

/-- Lists the functions of that file. -/
def enumerate : Enumerator := fun path _ =>
  .ok (if path = "r/q" then [queryDecl, otherDecl] else [])

def recovered : Recovered :=
  ⟨Dict.empty.insert "Query_a" "1",
    (Dict.empty.insert "b" "x").insert "f" "fn f()\x7b2\x7d"⟩

theorem load_eq : Recovery.load enumerate disk "r" ["r/q", "r/m"] tree = .ok recovered := (rfl)

/-- A file with the other function, and the function of the query in a retained block. -/
def blockText : String :=
  "fn f()\x7b2\x7d\n// lambdagen:deprecated Query_a\n// fn Query_a()\x7b1\x7d\n// lambdagen:end\n"

def blockDisk : Disk := dir.put ["r"] "q" (.text blockText) node?_dir (.inr nofun)

/-- The other function, with a path that cannot be read as it is spelled. -/
def slashedDecl : FunctionDecl := ⟨"f", .within "r/q/" 0 9, .within "r/q/" 7 8⟩

/-- Lists the function of that file and the one of the block. -/
def enumerateBlock : Enumerator := fun path _ =>
  .ok (if path = "r/q" then [slashedDecl]
    else if path = "r/Query_a.deprecated" then [⟨"Query_a", .within path 0 15, .within path 13 14⟩]
    else [])

def revived : Recovered :=
  ⟨Dict.empty.insert "Query_a" "1", Dict.empty.insert "f" "fn f()\x7b2\x7d"⟩

theorem load_block : Recovery.load enumerateBlock blockDisk "r" ["r/q"] tree = .ok revived := (rfl)

end Sample

namespace Recovery

/-- The body of the query is recovered, and the other function and the block are retained.  Where
a block has the function of the query, its body is recovered from there, and the other function is
retained also if its span has another spelling of the path. -/
theorem load_recovers_sample :
    Keeps Sample.disk Sample.tree Sample.recovered Sample.queryDecl
      ∧ Keeps Sample.disk Sample.tree Sample.recovered Sample.otherDecl
      ∧ Settles Sample.enumerate "r" Sample.tree Sample.recovered "b" "x"
      ∧ Sample.blockDisk.readText "r/q/" = .error .notADirectory
      ∧ Keeps Sample.blockDisk Sample.tree Sample.revived Sample.slashedDecl
      ∧ Settles Sample.enumerateBlock "r" Sample.tree Sample.revived "Query_a"
        "fn Query_a()\x7b1\x7d"
      ∧ Sample.revived.bodies.get? "Query_a" = some "1" := by
  have hKeyed : Sample.tree.FieldsKeyed := fun key r h => nomatch h
  obtain ⟨-, -, -, hFunction, hBlock⟩ := load_recovers hKeyed Sample.load_eq
  obtain ⟨-, -, -, hSlashed, hRevived⟩ := load_recovers hKeyed Sample.load_block
  exact ⟨hFunction [] _ [Sample.otherDecl] rfl (by decide),
    hFunction [Sample.queryDecl] _ [] rfl (by decide),
    hBlock [] ⟨"b", "x"⟩ [] rfl (by decide) (by decide), rfl,
    hSlashed [] _ [] rfl (by decide),
    hRevived [] ⟨"Query_a", _⟩ [] rfl (by decide) (by decide), rfl⟩

end Recovery

end ResolverScaffold
