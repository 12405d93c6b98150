/-!
# Text as bytes

Payloads and files are byte lists. `encode` writes characters as UTF-8, `decode?` reads them back
and refuses bytes that are not UTF-8.

## Main statements

* `decode?_encode` — what was written reads back
-/

namespace PoolFeed.Text

/-- A byte string. -/
abbrev Bytes := List UInt8

/-- The UTF-8 bytes of some characters. -/
def encode (cs : List Char) : Bytes := cs.flatMap String.utf8EncodeChar

/-- The UTF-8 bytes of a text. -/
def bytesOf (s : String) : Bytes := encode s.toList

/-- The text that some bytes are the UTF-8 form of. -/
def decode? (bytes : Bytes) : Option String := String.fromUTF8? ⟨bytes.toArray⟩

theorem toByteArray_data (l : List UInt8) : l.toByteArray = ⟨l.toArray⟩ := by
  apply ByteArray.ext
  simp

/-- What was written reads back. -/
theorem decode?_encode (cs : List Char) : decode? (encode cs) = some (String.ofList cs) := by
  have hbytes : (⟨(encode cs).toArray⟩ : ByteArray) = (String.ofList cs).toByteArray := by
    rw [String.toByteArray_ofList, List.utf8Encode, toByteArray_data]
    rfl
  unfold decode? String.fromUTF8?
  rw [hbytes, dif_pos (String.ofList cs).isValidUTF8]
  rfl

theorem encode_append (a b : List Char) : encode (a ++ b) = encode a ++ encode b :=
  List.flatMap_append

/-- An ASCII letter, digit or sign as a byte. -/
def byte (c : Char) : UInt8 := UInt8.ofNat c.toNat

end PoolFeed.Text
