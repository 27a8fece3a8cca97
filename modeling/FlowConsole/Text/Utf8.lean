/-!
# UTF-8

Bytes read as UTF-8, piece by piece: a piece is a character, or the longest run of bytes that
starts like a character and is none. Strict decoding refuses the first broken piece and says where
it lies; tolerant decoding writes the replacement character for it.
-/

namespace FlowConsole.Utf8

/-- A sequence of bytes. -/
abbrev Bytes := List UInt8

/-- The UTF-8 form of a string. -/
def encode (s : String) : Bytes := s.toList.flatMap String.utf8EncodeChar

/-- A decoded character, or a broken run of `size` bytes. The run is `open` when the text ends
before the character that it starts is complete. -/
inductive Piece
  | char (c : Char)
  | broken (size : Nat) (isOpen : Bool)
  deriving DecidableEq, Repr

/-- The number of bytes of a piece. -/
def Piece.size : Piece → Nat
  | .char c => c.utf8Size
  | .broken size _ => size

/-- A byte that continues a character. -/
def isContinuation (b : UInt8) : Bool := 0x80 ≤ b && b ≤ 0xBF

/-- The second byte admitted after the first byte of a three byte character. -/
def isSecondOfThree (first second : UInt8) : Bool :=
  if first = 0xE0 then 0xA0 ≤ second && second ≤ 0xBF
  else if first = 0xED then 0x80 ≤ second && second ≤ 0x9F
  else isContinuation second

/-- The second byte admitted after the first byte of a four byte character. -/
def isSecondOfFour (first second : UInt8) : Bool :=
  if first = 0xF0 then 0x90 ≤ second && second ≤ 0xBF
  else if first = 0xF4 then 0x80 ≤ second && second ≤ 0x8F
  else isContinuation second

/-- The six payload bits of a continuation byte. -/
def payload (b : UInt8) : Nat := b.toNat % 64

/-- The pieces of a byte sequence. -/
def pieces : Bytes → List Piece
  | [] => []
  | b0 :: r0 =>
    if b0 < 0x80 then .char (Char.ofNat b0.toNat) :: pieces r0
    else if 0xC2 ≤ b0 && b0 ≤ 0xDF then
      match r0 with
      | [] => [.broken 1 true]
      | b1 :: r1 =>
        if isContinuation b1 then
          .char (Char.ofNat (b0.toNat % 32 * 64 + payload b1)) :: pieces r1
        else .broken 1 false :: pieces (b1 :: r1)
    else if 0xE0 ≤ b0 && b0 ≤ 0xEF then
      match r0 with
      | [] => [.broken 1 true]
      | b1 :: r1 =>
        if isSecondOfThree b0 b1 then
          match r1 with
          | [] => [.broken 2 true]
          | b2 :: r2 =>
            if isContinuation b2 then
              .char (Char.ofNat ((b0.toNat % 16 * 64 + payload b1) * 64 + payload b2)) ::
                pieces r2
            else .broken 2 false :: pieces (b2 :: r2)
        else .broken 1 false :: pieces (b1 :: r1)
    else if 0xF0 ≤ b0 && b0 ≤ 0xF4 then
      match r0 with
      | [] => [.broken 1 true]
      | b1 :: r1 =>
        if isSecondOfFour b0 b1 then
          match r1 with
          | [] => [.broken 2 true]
          | b2 :: r2 =>
            if isContinuation b2 then
              match r2 with
              | [] => [.broken 3 true]
              | b3 :: r3 =>
                if isContinuation b3 then
                  .char (Char.ofNat
                    (((b0.toNat % 8 * 64 + payload b1) * 64 + payload b2) * 64 + payload b3)) ::
                    pieces r3
                else .broken 3 false :: pieces (b3 :: r3)
            else .broken 2 false :: pieces (b2 :: r2)
        else .broken 1 false :: pieces (b1 :: r1)
    else .broken 1 false :: pieces r0

/-- The first broken piece, with the index of its first byte. -/
structure Error where
  index : Nat
  size : Nat
  isOpen : Bool
  deriving DecidableEq, Repr

/-- The wording of an error. -/
def Error.message (e : Error) : String :=
  if e.isOpen then "incomplete utf-8 byte sequence from index " ++ toString e.index
  else "invalid utf-8 sequence of " ++ toString e.size ++ " bytes from index " ++ toString e.index

/-- The characters of the pieces, the first of which starts at `index`. -/
def strict (index : Nat) : List Piece → Except Error (List Char)
  | [] => .ok []
  | .char c :: rest => (strict (index + c.utf8Size) rest).map (c :: ·)
  | .broken size isOpen :: _ => .error ⟨index, size, isOpen⟩

/-- The text that the bytes encode; the first broken piece is refused. -/
def decode (bs : Bytes) : Except Error String := (strict 0 (pieces bs)).map String.ofList

/-- The character of a piece; a broken one stands as U+FFFD. -/
def Piece.tolerant : Piece → Char
  | .char c => c
  | .broken _ _ => Char.ofNat 0xFFFD

/-- The text that the bytes encode, with U+FFFD for each broken piece. -/
def decodeTolerant (bs : Bytes) : String := String.ofList ((pieces bs).map Piece.tolerant)

end FlowConsole.Utf8
