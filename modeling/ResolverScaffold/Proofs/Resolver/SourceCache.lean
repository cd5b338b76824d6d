import ResolverScaffold.Proofs.Disk.Downward
import ResolverScaffold.Resolver.SourceCache

/-!
# What a cache serves

An entry of a cache serves every spelling of its path, also one that cannot be read, such
as a file with a slash behind it.  But all spellings lead to one place, so it does not
matter which of them was read first.

* `Disk.LeadsTo`: the text that a path leads to under one of its spellings; there is one
  at most (`LeadsTo.unique`).
* `Span.Cuts`: the part of this text that a span is.
* `cuts_of_slice`: whatever the cache, a slice is that part.
* `exists_slice`: what can be read can be sliced, with every cache.
-/

namespace ResolverScaffold

namespace Disk

variable {disk : Disk} {path text : String}

/-- Some spelling of the path can be read, and this is the text. -/
def LeadsTo (disk : Disk) (path text : String) : Prop :=
  ∃ spelling, Path.same spelling path = true ∧ disk.readText spelling = .ok text

namespace LeadsTo

theorem of_readText (h : disk.readText path = .ok text) : disk.LeadsTo path text :=
  ⟨path, beq_self_eq_true _, h⟩

theorem node?_eq (h : disk.LeadsTo path text) :
    disk.node? (disk.destination path) = some (.text text) := by
  obtain ⟨spelling, hSame, hRead⟩ := h
  rw [← destination_eq_of_same hSame]
  exact (look_eq_ok_iff.1 (readText_eq_ok_iff.1 hRead)).2

/-- **A path leads to one text.** -/
theorem unique {text' : String} (h : disk.LeadsTo path text) (h' : disk.LeadsTo path text') :
    text = text' := by
  have hNode := h.node?_eq
  rw [h'.node?_eq] at hNode
  cases hNode
  rfl

/-- A spelling under which something is there can be read itself. -/
theorem readText_eq (h : disk.LeadsTo path text) (hThere : disk.exists? path = true) :
    disk.readText path = .ok text := by
  obtain ⟨node, hLook⟩ := exists?_eq_true_iff.1 hThere
  have hNode := (look_eq_ok_iff.1 hLook).2
  rw [h.node?_eq] at hNode
  cases hNode
  exact readText_eq_ok_iff.2 hLook

end LeadsTo

end Disk

/-- A span lies in one file and is this part of it. -/
def Span.Cuts (span : Span) (disk : Disk) (part : String) : Prop :=
  Path.same span.start.file span.stop.file = true
    ∧ ∃ text, disk.LeadsTo span.start.file text
      ∧ Text.sliceOf? text span.start.offset span.stop.offset = some part

theorem Span.Cuts.unique {span : Span} {disk : Disk} {part part' : String}
    (h : span.Cuts disk part) (h' : span.Cuts disk part') : part = part' := by
  obtain ⟨-, text, hText, hPart⟩ := h
  obtain ⟨-, text', hText', hPart'⟩ := h'
  rw [hText.unique hText', hPart'] at hPart
  exact (Option.some.inj hPart).symm

theorem Span.cuts_within {disk : Disk} {path text part : String} {start stop : Nat}
    (hRead : disk.readText path = .ok text) (hPart : Text.sliceOf? text start stop = some part) :
    (Span.within path start stop).Cuts disk part :=
  ⟨beq_self_eq_true _, text, .of_readText hRead, hPart⟩

namespace SourceCache

variable {disk : Disk} {cache later : SourceCache disk} {path text part signature : String}
  {span : Span}

theorem leadsTo_of_find? (h : cache.find? path = some text) : disk.LeadsTo path text := by
  obtain ⟨file, hFile, rfl⟩ := Option.map_eq_some_iff.1 h
  have hSame : Path.same file.1 path = true := by simpa using List.find?_some hFile
  exact ⟨file.1, hSame, cache.read file (List.mem_of_find?_eq_some hFile)⟩

theorem leadsTo_of_get (h : cache.get path = .ok (text, later)) : disk.LeadsTo path text := by
  rw [get] at h
  split at h
  · next hFound =>
    cases h
    exact leadsTo_of_find? hFound
  · split at h
    · cases h
    · next hRead =>
      cases h
      exact .of_readText hRead

/-- What can be read is served, with every cache. -/
theorem exists_get (cache : SourceCache disk) (h : disk.readText path = .ok text) :
    ∃ later, cache.get path = .ok (text, later) := by
  rw [get]
  split
  · next hFound =>
    rw [(leadsTo_of_find? hFound).unique (.of_readText h)]
    exact ⟨cache, rfl⟩
  · split
    · next hRead =>
      rw [h] at hRead
      cases hRead
    · next hRead =>
      rw [h] at hRead
      cases hRead
      exact ⟨_, rfl⟩

/-- **A slice is what the span cuts out of the disk**, whatever was read before. -/
theorem cuts_of_slice (h : cache.slice signature span = .ok (part, later)) :
    span.Cuts disk part := by
  rw [slice] at h
  split at h
  · cases h
  · next hSame =>
    obtain ⟨⟨text, sources⟩, hText, h⟩ := bind_eq_ok_iff.1 h
    dsimp only at h
    split at h
    · next hPart =>
      cases h
      exact ⟨by simpa using hSame, text, leadsTo_of_get hText, hPart⟩
    · cases h

/-- **What can be read can be sliced**, whatever was read before. -/
theorem exists_slice (cache : SourceCache disk) (signature : String)
    (hRead : disk.readText span.start.file = .ok text) (h : span.Cuts disk part) :
    ∃ later, cache.slice signature span = .ok (part, later) := by
  obtain ⟨hSame, text', hText, hPart⟩ := h
  obtain rfl := hText.unique (.of_readText hRead)
  obtain ⟨later, hGet⟩ := cache.exists_get hRead
  rw [slice, if_neg (by simp [hSame])]
  exact ⟨later, bind_eq_ok_iff.2 ⟨_, hGet, by simp only [hPart]⟩⟩

end SourceCache

end ResolverScaffold
