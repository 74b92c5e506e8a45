set_option autoImplicit false

/-! Texts as bytes in UTF-8. -/
namespace ArithLex.Text

/-- The text that the bytes encode, if they encode one. -/
def decode? (bytes : List UInt8) : Option String :=
  String.fromUTF8? ⟨bytes.toArray⟩

def encode (text : String) : List UInt8 :=
  text.toUTF8.toList

end ArithLex.Text
