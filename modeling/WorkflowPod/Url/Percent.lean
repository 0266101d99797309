import WorkflowPod.Text.Digits

/-! Percent encoding: bytes as a percent sign and two hexadecimal digits. -/
namespace WorkflowPod.Url

open Text

/-- The bytes of a character, each in percent encoding. -/
def percentTriplets (c : Char) : List Char :=
  (String.utf8EncodeChar c).flatMap fun byte => '%' :: hexDigits 2 byte.toNat

/-- Whether a character is a control character or not in ASCII; these are always encoded. -/
def isControlOrWide (c : Char) : Bool := c.toNat < 0x20 || 0x7F ≤ c.toNat

/-- The text with control characters, characters outside ASCII and those of `also` encoded. -/
def percentEncode (also : List Char) (s : List Char) : List Char :=
  s.flatMap fun c => if isControlOrWide c || also.contains c then percentTriplets c else [c]

/-- The bytes of a text, with every complete triplet decoded. -/
def percentDecode : List Char → List UInt8
  | '%' :: a :: b :: rest =>
    match readDigits? 16 [a, b] with
    | some n => n.toUInt8 :: percentDecode rest
    | none => '%'.toNat.toUInt8 :: percentDecode (a :: b :: rest)
  | c :: rest => String.utf8EncodeChar c ++ percentDecode rest
  | [] => []

def textOfBytes? (bytes : List UInt8) : Option (List Char) :=
  (String.fromUTF8? bytes.toByteArray).map String.toList

end WorkflowPod.Url
