/-!
# Tags of a YAML text

A tag is a row of bytes, since a text may name any byte by its number.  The
bytes need not be a text, and a zero byte ends the tag.
-/

namespace ResolverScaffold.Markup

/-- A tag, by its bytes. -/
structure Tag where
  bytes : List UInt8
  deriving DecidableEq, Repr

namespace Tag

def ofText (text : String) : Tag := ⟨text.toUTF8.toList⟩

/-- The tag of some bytes, which ends at the first zero byte. -/
def ofBytes (bytes : List UInt8) : Tag := ⟨bytes.takeWhile (· ≠ 0)⟩

/-- A tag after the beginning that its handle stands for. -/
def append (beginning ending : Tag) : Tag := ⟨beginning.bytes ++ ending.bytes⟩

instance : Append Tag := ⟨append⟩

def isEmpty (tag : Tag) : Bool := tag.bytes.isEmpty

def isText (bytes : List UInt8) : Bool := (String.fromUTF8? ⟨bytes.toArray⟩).isSome

def isMarked (tag : Tag) : Bool := tag.bytes.head? == some 0x21

/-- Whether a tag is made up for one document: an exclamation mark and then a text. -/
def isLocal (tag : Tag) : Bool := tag.isMarked && isText (tag.bytes.drop 1)

/-- The tag that names a kind of scalar. -/
def core (kind : String) : Tag := ofText ("tag:yaml.org,2002:" ++ kind)

end Tag

end ResolverScaffold.Markup
