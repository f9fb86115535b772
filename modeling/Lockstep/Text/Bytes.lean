/-!
# Text as bytes

What travels is bytes; what is compared, printed and used as a key is text.
A text is written in UTF-8, and only valid UTF-8 is read as text.
-/
namespace Lockstep

abbrev Bytes := List UInt8

namespace Text

def bytes (s : String) : Bytes :=
  s.toUTF8.data.toList

/-- The text that the bytes are the UTF-8 form of. -/
def ofBytes? (b : Bytes) : Option String :=
  String.fromUTF8? ⟨b.toArray⟩

theorem ofBytes?_bytes (s : String) : ofBytes? (bytes s) = some s := by
  simp [ofBytes?, bytes, String.fromUTF8?, String.fromUTF8, s.isValidUTF8]

end Text
end Lockstep
