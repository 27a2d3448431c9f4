/-!
# UTF-8

A character is one lead byte and the continuation bytes that the lead byte asks for, each within a
range that the lead byte fixes. A fault covers the lead byte and the continuation bytes that fit.
Reading either stops at the first fault or puts the replacement character in its place. Writing
fails at a surrogate, which has no UTF-8 form.
-/
namespace Downlevel.Text

/-- Why bytes are no UTF-8. -/
inductive Utf8FaultKind where
  | startByte
  | continuationByte
  | endOfData
  deriving DecidableEq, Repr

/-- What is said about a fault of that kind. -/
def Utf8FaultKind.message : Utf8FaultKind → String
  | .startByte => "invalid start byte"
  | .continuationByte => "invalid continuation byte"
  | .endOfData => "unexpected end of data"

/-- The ranges of the continuation bytes after a lead byte. -/
def continuationRanges? (b : UInt8) : Option (List (Nat × Nat)) :=
  let n := b.toNat
  if n < 0x80 then some []
  else if n < 0xc2 then none
  else if n < 0xe0 then some [(0x80, 0xbf)]
  else if n = 0xe0 then some [(0xa0, 0xbf), (0x80, 0xbf)]
  else if n = 0xed then some [(0x80, 0x9f), (0x80, 0xbf)]
  else if n < 0xf0 then some [(0x80, 0xbf), (0x80, 0xbf)]
  else if n = 0xf0 then some [(0x90, 0xbf), (0x80, 0xbf), (0x80, 0xbf)]
  else if n < 0xf4 then some [(0x80, 0xbf), (0x80, 0xbf), (0x80, 0xbf)]
  else if n = 0xf4 then some [(0x80, 0x8f), (0x80, 0xbf), (0x80, 0xbf)]
  else none

/-- The value bits of a lead byte with the given number of continuation bytes. -/
def leadBits (n tails : Nat) : Nat :=
  match tails with
  | 0 => n
  | 1 => n % 0x20
  | 2 => n % 0x10
  | _ => n % 0x08

/-- Reads continuation bytes: the code point, or the fault with the number of bytes that fit. -/
def readTails (acc : Nat) : List (Nat × Nat) → List UInt8 → Except (Utf8FaultKind × Nat) Nat
  | [], _ => .ok acc
  | _ :: _, [] => .error (.endOfData, 0)
  | (lo, hi) :: ranges, b :: rest =>
    if lo ≤ b.toNat && b.toNat ≤ hi then
      match readTails (acc * 0x40 + b.toNat % 0x40) ranges rest with
      | .error (kind, taken) => .error (kind, taken + 1)
      | .ok n => .ok n
    else .error (.continuationByte, 0)

/-- One character at the head of nonempty bytes and its length, or the fault and its length. -/
def readChar (b : UInt8) (rest : List UInt8) : Except (Utf8FaultKind × Nat) (Char × Nat) :=
  match continuationRanges? b with
  | none => .error (.startByte, 1)
  | some ranges =>
    match readTails (leadBits b.toNat ranges.length) ranges rest with
    | .error (kind, taken) => .error (kind, taken + 1)
    | .ok n => .ok (Char.ofNat n, ranges.length + 1)

/-- The first fault of a byte text: its kind, place, length and first byte. -/
structure Utf8Fault where
  kind : Utf8FaultKind
  start : Nat
  length : Nat
  byte : UInt8
  deriving DecidableEq, Repr

/-- Reads bytes from a position on, stopping at the first fault. -/
def decodeFrom (position : Nat) : List UInt8 → Except Utf8Fault (List Char)
  | [] => .ok []
  | b :: rest =>
    match readChar b rest with
    | .error (kind, n) => .error ⟨kind, position, n, b⟩
    | .ok (c, n) =>
      match decodeFrom (position + n) (rest.drop (n - 1)) with
      | .ok cs => .ok (c :: cs)
      | .error f => .error f
  termination_by bs => bs.length
  decreasing_by
    simp only [List.length_drop, List.length_cons]
    omega

/-- The text of UTF-8 bytes, or their first fault. -/
def decodeUtf8 (bytes : List UInt8) : Except Utf8Fault (List Char) :=
  decodeFrom 0 bytes

/-- The text of bytes with the replacement character for every fault. -/
def decodeLossy : List UInt8 → List Char
  | [] => []
  | b :: rest =>
    match readChar b rest with
    | .error (_, n) => Char.ofNat 0xfffd :: decodeLossy (rest.drop (n - 1))
    | .ok (c, n) => c :: decodeLossy (rest.drop (n - 1))
  termination_by bs => bs.length
  decreasing_by
    all_goals simp only [List.length_drop, List.length_cons]
    all_goals omega

/-- The number of bytes that are read from a file at a time. -/
def blockSize : Nat := 8192

/-- The text of bytes that arrive in blocks, after a beginning of a character from the block before.
Places of faults count from that beginning. -/
def decodeBlocks (start : List UInt8) (bytes : List UInt8) : Except Utf8Fault (List Char) :=
  match bytes with
  | [] => match start with
    | [] => .ok []
    | b :: _ => .error ⟨.endOfData, 0, start.length, b⟩
  | b :: rest =>
    let block := start ++ b :: rest.take (blockSize - 1)
    match decodeUtf8 block with
    | .error f =>
      if f.kind = .endOfData then
        match decodeUtf8 (block.take f.start), decodeBlocks (block.drop f.start)
            (rest.drop (blockSize - 1)) with
        | .ok cs, .ok more => .ok (cs ++ more)
        | .error f, _ => .error f
        | _, .error f => .error f
      else .error f
    | .ok cs => (decodeBlocks [] (rest.drop (blockSize - 1))).map (cs ++ ·)
  termination_by bytes.length
  decreasing_by
    all_goals simp only [List.length_drop, List.length_cons]
    all_goals omega

/-- A text of a program whose code points may be surrogates, as file names from other systems
are. -/
abbrev CodePoints := List Nat

/-- Whether a code point is a surrogate. -/
def isSurrogate (n : Nat) : Bool :=
  0xd800 ≤ n && n ≤ 0xdfff

/-- The UTF-8 bytes of a code point that is no surrogate. -/
def encodePoint (n : Nat) : List UInt8 :=
  if n < 0x80 then [n.toUInt8]
  else if n < 0x800 then [(0xc0 + n / 0x40).toUInt8, (0x80 + n % 0x40).toUInt8]
  else if n < 0x10000 then
    [(0xe0 + n / 0x1000).toUInt8, (0x80 + n / 0x40 % 0x40).toUInt8, (0x80 + n % 0x40).toUInt8]
  else
    [(0xf0 + n / 0x40000).toUInt8, (0x80 + n / 0x1000 % 0x40).toUInt8,
      (0x80 + n / 0x40 % 0x40).toUInt8, (0x80 + n % 0x40).toUInt8]

/-- The first run of surrogates in a text: its place and its members. -/
structure SurrogateRun where
  start : Nat
  points : List Nat
  deriving DecidableEq, Repr

/-- The first run of surrogates from a position on. -/
def surrogateRun? (position : Nat) : CodePoints → Option SurrogateRun
  | [] => none
  | n :: rest =>
    if isSurrogate n then some ⟨position, n :: rest.takeWhile isSurrogate⟩
    else surrogateRun? (position + 1) rest

/-- The UTF-8 bytes of a text, or its first run of surrogates. -/
def encodeUtf8 (points : CodePoints) : Except SurrogateRun (List UInt8) :=
  match surrogateRun? 0 points with
  | some run => .error run
  | none => .ok (points.flatMap encodePoint)

/-- The code points of a string. -/
def codePoints (s : String) : CodePoints :=
  s.toList.map Char.toNat

/-- The UTF-8 bytes of a string. -/
def utf8 (s : String) : List UInt8 :=
  s.toList.flatMap fun c => encodePoint c.toNat

end Downlevel.Text
