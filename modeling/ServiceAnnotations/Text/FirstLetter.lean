import ServiceAnnotations.Text.Case
import ServiceAnnotations.Text.Utf8

/-! # The case of first letters -/
namespace ServiceAnnotations.Text

/-- Applies a map to the first character. An empty text, or one that starts with a stray byte, starts
with the replacement character. -/
def mapFirst (f : Char → Char) (b : Bytes) : Bytes :=
  match b with
  | [] => String.utf8EncodeChar (f '\ufffd')
  | a :: rest =>
    let (g, more) := Utf8.first a rest
    String.utf8EncodeChar (f g.shown) ++ rest.drop more

def lowerFirst (b : Bytes) : Bytes := mapFirst toLower b

def upperFirst (b : Bytes) : Bytes := mapFirst toUpper b

end ServiceAnnotations.Text
