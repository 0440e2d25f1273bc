/-!
# UTF-8

Octets are split into pieces: the encodings of characters, and between them the sequences that
encode nothing. A sequence that encodes nothing is as long as it could still have begun the
encoding of a character. A reader either refuses such a sequence, and says where it stands, or puts
the replacement character in its place.
-/

namespace StubResolver.Utf8

/-! ### Writing -/

/-- The encoding of a character. -/
def encodeChar (c : Char) : List UInt8 :=
  let n := c.toNat
  if n < 0x80 then [.ofNat n]
  else if n < 0x800 then [.ofNat (0xC0 + n / 64), .ofNat (0x80 + n % 64)]
  else if n < 0x10000 then
    [.ofNat (0xE0 + n / 4096), .ofNat (0x80 + n / 64 % 64), .ofNat (0x80 + n % 64)]
  else
    [.ofNat (0xF0 + n / 262144), .ofNat (0x80 + n / 4096 % 64), .ofNat (0x80 + n / 64 % 64),
      .ofNat (0x80 + n % 64)]

/-- The encoding of a text. -/
def encode (cs : List Char) : List UInt8 := cs.flatMap encodeChar

/-! ### Pieces -/

/-- A piece of a sequence of octets. -/
inductive Piece where
  /-- The encoding of a character. -/
  | char (c : Char)
  /-- So many octets that the next octet keeps from encoding a character. -/
  | invalid (width : Nat)
  /-- So many octets that begin an encoding, at the end of the sequence. -/
  | incomplete (width : Nat)
  deriving DecidableEq, Repr

/-- The beginning of an encoding. -/
structure Beginning where
  /-- The octets that are missing. -/
  missing : Nat
  /-- The least value of the next octet. -/
  low : Nat
  /-- The greatest value of the next octet. -/
  high : Nat
  /-- The code point, as far as it is read. -/
  code : Nat
  /-- The octets that are read. -/
  width : Nat
  deriving DecidableEq, Repr

/-- What a leading octet beyond ASCII begins. The range of the second octet rules out encodings
that are longer than needed, surrogates, and what lies above the last code point. -/
def beginning? (n : Nat) : Option Beginning :=
  if 0xC2 ≤ n ∧ n ≤ 0xDF then some ⟨1, 0x80, 0xBF, n - 0xC0, 1⟩
  else if n = 0xE0 then some ⟨2, 0xA0, 0xBF, n - 0xE0, 1⟩
  else if n = 0xED then some ⟨2, 0x80, 0x9F, n - 0xE0, 1⟩
  else if 0xE1 ≤ n ∧ n ≤ 0xEF then some ⟨2, 0x80, 0xBF, n - 0xE0, 1⟩
  else if n = 0xF0 then some ⟨3, 0x90, 0xBF, n - 0xF0, 1⟩
  else if 0xF1 ≤ n ∧ n ≤ 0xF3 then some ⟨3, 0x80, 0xBF, n - 0xF0, 1⟩
  else if n = 0xF4 then some ⟨3, 0x80, 0x8F, n - 0xF0, 1⟩
  else none

/-- The state of a reader of octets. -/
structure Reader where
  /-- The pieces read so far, reversed. -/
  pieces : List Piece
  /-- The encoding that has begun. -/
  begun : Option Beginning

namespace Reader

/-- Reads an octet that continues nothing. -/
def start (pieces : List Piece) (b : UInt8) : Reader :=
  if b < 0x80 then ⟨.char (Char.ofNat b.toNat) :: pieces, none⟩
  else match beginning? b.toNat with
    | some s => ⟨pieces, some s⟩
    | none => ⟨.invalid 1 :: pieces, none⟩

/-- Reads one octet. -/
def step (r : Reader) (b : UInt8) : Reader :=
  match r.begun with
  | none => start r.pieces b
  | some s =>
    if s.low ≤ b.toNat ∧ b.toNat ≤ s.high then
      let code := 64 * s.code + (b.toNat - 0x80)
      if s.missing = 1 then ⟨.char (Char.ofNat code) :: r.pieces, none⟩
      else ⟨r.pieces, some ⟨s.missing - 1, 0x80, 0xBF, code, s.width + 1⟩⟩
    else start (.invalid s.width :: r.pieces) b

/-- The pieces at the end of the octets. -/
def finish (r : Reader) : List Piece :=
  match r.begun with
  | none => r.pieces.reverse
  | some s => (.incomplete s.width :: r.pieces).reverse

end Reader

/-- The pieces of a sequence of octets. -/
def pieces (octets : List UInt8) : List Piece := (octets.foldl Reader.step ⟨[], none⟩).finish

/-! ### Reading -/

/-- The character that stands for octets which encode nothing. -/
def replacement : Char := '\uFFFD'

/-- Reads octets as text, with a replacement character for each piece that encodes nothing. -/
def decodeLossy (octets : List UInt8) : List Char :=
  (pieces octets).map fun
    | .char c => c
    | _ => replacement

/-- Why octets are not text. -/
inductive Fault where
  /-- So many octets at an offset encode nothing. -/
  | invalid (width offset : Nat)
  /-- The octets from an offset on only begin an encoding. -/
  | incomplete (offset : Nat)
  deriving DecidableEq, Repr

/-- What a reader is told about a fault. -/
def Fault.message : Fault → String
  | .invalid width offset =>
    "invalid utf-8 sequence of " ++ toString width ++ " bytes from index " ++ toString offset
  | .incomplete offset => "incomplete utf-8 byte sequence from index " ++ toString offset

/-- Reads octets as text. The first piece that encodes nothing is reported. -/
def decode? (octets : List UInt8) : Except Fault (List Char) :=
  collect 0 [] (pieces octets)
where
  /-- The characters of pieces from an offset on, behind those that were read, reversed. -/
  collect (offset : Nat) (done : List Char) : List Piece → Except Fault (List Char)
    | [] => .ok done.reverse
    | .char c :: rest => collect (offset + (encodeChar c).length) (c :: done) rest
    | .invalid width :: _ => .error (.invalid width offset)
    | .incomplete _ :: _ => .error (.incomplete offset)

end StubResolver.Utf8
