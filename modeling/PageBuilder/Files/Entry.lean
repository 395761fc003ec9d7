/-!
What a name in a directory stands for, what a file holds, and why a file operation is refused.
-/

namespace PageBuilder

theorem fromUTF8?_eq_some_iff {bytes : ByteArray} {s : String} :
    String.fromUTF8? bytes = some s ↔ s.toUTF8 = bytes := by
  unfold String.fromUTF8?
  constructor
  · intro h
    split at h
    · obtain rfl := Option.some.inj h
      rfl
    · cases h
  · rintro rfl
    exact dif_pos s.isValidUTF8

/-- The contents of a file or of a stored value. -/
structure Blob where
  bytes : ByteArray

namespace Blob

/-- The contents of a text file. -/
def text (s : String) : Blob := ⟨s.toUTF8⟩

/-- The contents with some bytes. -/
def ofBytes (bytes : List UInt8) : Blob := ⟨⟨bytes.toArray⟩⟩

def toBytes (b : Blob) : List UInt8 := b.bytes.data.toList

def size (b : Blob) : Nat := b.bytes.size

/-- The text of the contents, if they are one. -/
def text? (b : Blob) : Option String := String.fromUTF8? b.bytes

theorem text?_eq_some_iff {b : Blob} {s : String} : b.text? = some s ↔ b = text s := by
  rw [text?, fromUTF8?_eq_some_iff, text, mk.injEq, eq_comm]

@[simp] theorem text?_text (s : String) : (text s).text? = some s := text?_eq_some_iff.2 rfl

theorem text_inj {s t : String} : text s = text t ↔ s = t := by
  rw [← text?_eq_some_iff, text?_text, Option.some.injEq]

@[simp] theorem ofBytes_toBytes (b : Blob) : ofBytes b.toBytes = b := rfl

@[simp] theorem toBytes_ofBytes (bytes : List UInt8) : (ofBytes bytes).toBytes = bytes := rfl

theorem toBytes_inj {a b : Blob} : a.toBytes = b.toBytes ↔ a = b := by
  constructor
  · intro h
    rw [← ofBytes_toBytes a, h, ofBytes_toBytes]
  · exact congrArg toBytes

instance : DecidableEq Blob := fun _ _ => decidable_of_iff _ toBytes_inj

end Blob

/-- Why a file operation is refused. -/
inductive FileError where
  | notFound
  | alreadyExists
  | notDirectory
  | isDirectory
  | nameTooLong
  /-- The path has a character that no name can have. -/
  | nulInName
  /-- The contents are not text. -/
  | notText
deriving DecidableEq, Repr

/-- The wording of a refusal, with the system's number for it if the system refuses. -/
def FileError.message : FileError → String
  | .notFound => "No such file or directory (os error 2)"
  | .alreadyExists => "File exists (os error 17)"
  | .notDirectory => "Not a directory (os error 20)"
  | .isDirectory => "Is a directory (os error 21)"
  | .nameTooLong => "File name too long (os error 36)"
  | .nulInName => "file name contained an unexpected NUL byte"
  | .notText => "stream did not contain valid UTF-8"

/-- What a name in a directory stands for. -/
inductive FileEntry where
  | file (contents : Blob)
  | directory
deriving DecidableEq

namespace FileEntry

def contents : FileEntry → Except FileError Blob
  | .file contents => .ok contents
  | .directory => .error .isDirectory

/-- The number of bytes that an entry counts for. -/
def size : FileEntry → Nat
  | .file contents => contents.size
  | .directory => 0

end FileEntry

end PageBuilder
