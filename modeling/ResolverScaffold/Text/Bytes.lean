/-!
# Positions in bytes

Offsets into a text count the bytes of its characters.  `slice?` cuts the text
between two offsets, if both stand between characters.
-/

namespace ResolverScaffold.Text

/-- How many bytes a text takes. -/
def byteLength : List Char → Nat
  | [] => 0
  | c :: rest => c.utf8Size + byteLength rest

theorem byteLength_append (a b : List Char) : byteLength (a ++ b) = byteLength a + byteLength b := by
  induction a with
  | nil => simp [byteLength]
  | cons c a ih => rw [List.cons_append, byteLength, byteLength, ih, Nat.add_assoc]

def dropBytes? : (offset : Nat) → List Char → Option (List Char)
  | 0, text => some text
  | _ + 1, [] => none
  | offset + 1, c :: rest =>
    if c.utf8Size ≤ offset + 1 then dropBytes? (offset + 1 - c.utf8Size) rest else none

def takeBytes? : (offset : Nat) → List Char → Option (List Char)
  | 0, _ => some []
  | _ + 1, [] => none
  | offset + 1, c :: rest =>
    if c.utf8Size ≤ offset + 1 then (c :: ·) <$> takeBytes? (offset + 1 - c.utf8Size) rest else none

theorem byteLength_of_takeBytes? {offset : Nat} {text before : List Char}
    (h : takeBytes? offset text = some before) : byteLength before = offset := by
  induction text generalizing offset before with
  | nil =>
    cases offset with
    | zero => cases h; rfl
    | succ offset => cases h
  | cons c rest ih =>
    cases offset with
    | zero => cases h; rfl
    | succ offset =>
      rw [takeBytes?] at h
      split at h
      · obtain ⟨inner, hInner, rfl⟩ := Option.map_eq_some_iff.1 h
        rw [byteLength, ih hInner]
        omega
      · cases h

theorem isPrefix_of_takeBytes? {offset : Nat} {text before : List Char}
    (h : takeBytes? offset text = some before) : before <+: text := by
  induction text generalizing offset before with
  | nil =>
    cases offset with
    | zero => cases h; exact List.nil_prefix
    | succ offset => cases h
  | cons c rest ih =>
    cases offset with
    | zero => cases h; exact List.nil_prefix
    | succ offset =>
      rw [takeBytes?] at h
      split at h
      · obtain ⟨inner, hInner, rfl⟩ := Option.map_eq_some_iff.1 h
        exact List.cons_prefix_cons.2 ⟨rfl, ih hInner⟩
      · cases h

/-- The text between two offsets. -/
def slice? (text : List Char) (start stop : Nat) : Option (List Char) := do
  if start ≤ stop then takeBytes? (stop - start) (← dropBytes? start text) else none

/-- The part of a string between two offsets. -/
def sliceOf? (s : String) (start stop : Nat) : Option String :=
  (slice? s.toList start stop).map String.ofList

end ResolverScaffold.Text
