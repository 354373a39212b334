import StreamRelay.Address.Numeral
import StreamRelay.Bytes

/-!
# Percent encoding

Characters that a part of a URL must not hold are written as the bytes of their UTF-8 form, each as
`%` and two hexadecimal digits. Which characters these are depends on the part.

Main statement: nothing that had to be encoded is left (`isPlain_of_mem_encode`).
-/

namespace StreamRelay.Percent

/-- The characters that no part of a URL holds as they are: controls and all characters outside
ASCII. -/
def isControl (c : Char) : Bool := c.toNat < 0x20 || 0x7E < c.toNat

/-- The characters to be encoded in a fragment. -/
def inFragment (c : Char) : Bool := isControl c || " \"<>`".toList.contains c

/-- The characters to be encoded in a path. -/
def inPath (c : Char) : Bool := inFragment c || "#?\x7b\x7d".toList.contains c

/-- The characters to be encoded in a user name or a password. -/
def inUserInfo (c : Char) : Bool := inPath c || "/:;=@[\\]^|".toList.contains c

/-- The characters to be encoded in a query. -/
def inQuery (c : Char) : Bool := isControl c || " \"#<>".toList.contains c

/-- The characters to be encoded in the query of a special URL. -/
def inSpecialQuery (c : Char) : Bool := inQuery c || c == '\''

/-- A hexadecimal digit in upper case. -/
def upperDigit (n : Nat) : Char := "0123456789ABCDEF".toList.getD n '0'

/-- The encoded form of one byte. -/
def ofByte (b : UInt8) : List Char := ['%', upperDigit (b.toNat / 16), upperDigit (b.toNat % 16)]

/-- The encoded form of one character. -/
def ofChar (c : Char) : List Char := (Bytes.ofText (String.singleton c)).flatMap ofByte

/-- A text in which the characters of a set are encoded. -/
def encode (set : Char → Bool) (cs : List Char) : List Char :=
  cs.flatMap (fun c => if set c then ofChar c else [c])

/-- The bytes of a text in which encoded bytes are put back. A `%` without two digits behind it
stands for itself. -/
def decode : List Char → Bytes
  | [] => []
  | '%' :: high :: low :: rest =>
    match Numeral.digit? high, Numeral.digit? low with
    | some h, some l => (16 * h + l).toUInt8 :: decode rest
    | _, _ => Bytes.ofText "%" ++ decode (high :: low :: rest)
  | c :: rest => Bytes.ofText (String.singleton c) ++ decode rest

/-- The text of a text in which encoded bytes are put back, if they make up one. -/
def decodeText? (cs : List Char) : Option (List Char) :=
  (Bytes.text? (decode cs)).map String.toList

/-- The digits and signs that encoding writes are the percent sign and upper-case hexadecimal
digits. -/
theorem mem_ofByte {b : UInt8} {x : Char} (mem : x ∈ ofByte b) :
    x ∈ "%0123456789ABCDEF".toList := by
  have digit : ∀ n, n < 16 → upperDigit n ∈ "%0123456789ABCDEF".toList := by decide
  have small : b.toNat < 256 := b.toNat_lt
  simp only [ofByte, List.mem_cons, List.not_mem_nil, or_false] at mem
  rcases mem with rfl | rfl | rfl
  · decide
  · exact digit _ (by omega)
  · exact digit _ (by omega)

/-- What encoding leaves is no character of the set, or one of those that encoding writes. -/
theorem isPlain_of_mem_encode {set : Char → Bool} {cs : List Char} {x : Char}
    (mem : x ∈ encode set cs) : set x = false ∨ x ∈ "%0123456789ABCDEF".toList := by
  obtain ⟨c, -, hx⟩ := List.mem_flatMap.1 mem
  split at hx
  · obtain ⟨b, -, hb⟩ := List.mem_flatMap.1 hx
    exact .inr (mem_ofByte hb)
  · next h =>
    simp only [List.mem_cons, List.not_mem_nil, or_false] at hx
    exact .inl (by simpa [hx] using h)

end StreamRelay.Percent
