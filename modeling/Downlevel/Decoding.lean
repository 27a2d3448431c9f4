import Downlevel.Fault
import Downlevel.Text.Blank
import Downlevel.Text.Utf8
/-!
# Texts of bytes

Bytes are read as UTF-8, and the ends of lines become line feeds. Bytes that are no UTF-8 are a fault
that names them.
-/
namespace Downlevel.Decoding

/-- What is said of bytes that are no UTF-8. -/
def fault (f : Text.Utf8Fault) : Fault :=
  .foreign "UnicodeDecodeError" ("'utf-8' codec can't decode byte" ++
    (if f.length = 1 then " 0x" ++ String.ofList (Text.hexDigits 2 f.byte.toNat) ++ " in position "
        ++ toString f.start
      else "s in position " ++ toString f.start ++ "-" ++ toString (f.start + f.length - 1))
    ++ ": " ++ f.kind.message)

/-- A text that was decoded, with line feeds at the ends of its lines. -/
def asText (r : Except Text.Utf8Fault (List Char)) : Except Failure (List Char) :=
  match r with
  | .ok cs => .ok (Text.unifyNewlines cs)
  | .error f => .error ⟨fault f, []⟩

/-- The text of bytes that are read at once. -/
def ofBytes (bytes : List UInt8) : Except Failure (List Char) :=
  asText (Text.decodeUtf8 bytes)

/-- The text of bytes that are read in blocks. -/
def ofBlocks (bytes : List UInt8) : Except Failure (List Char) :=
  asText (Text.decodeBlocks [] bytes)

end Downlevel.Decoding
