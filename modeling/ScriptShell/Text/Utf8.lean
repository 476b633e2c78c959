/-!
UTF-8. A sequence of bytes is read as characters and ill-formed stretches, each stretch as long as
it could still have become a character. Strict reading stops at the first stretch, lenient reading
puts a replacement character in its place.
-/

namespace ScriptShell.Text.Utf8

def encodeChar (c : Char) : List UInt8 :=
  let n := c.toNat
  let tail (unit : Nat) : UInt8 := (0x80 + n / unit % 0x40).toUInt8
  if n < 0x80 then [n.toUInt8]
  else if n < 0x800 then [(0xC0 + n / 0x40).toUInt8, tail 1]
  else if n < 0x10000 then [(0xE0 + n / 0x1000).toUInt8, tail 0x40, tail 1]
  else [(0xF0 + n / 0x40000).toUInt8, tail 0x1000, tail 0x40, tail 1]

def encode (s : String) : List UInt8 := s.toList.flatMap encodeChar

inductive Flaw where
  | start
  | continuation
  | truncated
  deriving DecidableEq, Repr

inductive Piece where
  | char (c : Char)
  | flawed (bytes : List UInt8) (flaw : Flaw)
  deriving DecidableEq, Repr

/-- A character that has begun: its bytes so far, the number they make, how many bytes are still to
come, and the range of the next one. -/
structure Pending where
  bytes : List UInt8
  value : Nat
  missing : Nat
  least : UInt8
  most : UInt8
  deriving DecidableEq, Repr

def begin (b : UInt8) : Piece ⊕ Pending :=
  if b < 0x80 then .inl (.char (Char.ofNat b.toNat))
  else if b < 0xC2 then .inl (.flawed [b] .start)
  else if b < 0xE0 then .inr ⟨[b], b.toNat - 0xC0, 1, 0x80, 0xBF⟩
  else if b < 0xF0 then
    .inr ⟨[b], b.toNat - 0xE0, 2, if b = 0xE0 then 0xA0 else 0x80, if b = 0xED then 0x9F else 0xBF⟩
  else if b < 0xF5 then
    .inr ⟨[b], b.toNat - 0xF0, 3, if b = 0xF0 then 0x90 else 0x80, if b = 0xF4 then 0x8F else 0xBF⟩
  else .inl (.flawed [b] .start)

def piecesFrom : Option Pending → List UInt8 → List Piece
  | none, [] => []
  | some p, [] => [.flawed p.bytes .truncated]
  | none, b :: bs =>
    match begin b with
    | .inl piece => piece :: piecesFrom none bs
    | .inr p => piecesFrom (some p) bs
  | some p, b :: bs =>
    if p.least ≤ b ∧ b ≤ p.most then
      let value := p.value * 0x40 + (b.toNat - 0x80)
      if p.missing ≤ 1 then .char (Char.ofNat value) :: piecesFrom none bs
      else piecesFrom (some ⟨p.bytes ++ [b], value, p.missing - 1, 0x80, 0xBF⟩) bs
    else
      .flawed p.bytes .continuation ::
        match begin b with
        | .inl piece => piece :: piecesFrom none bs
        | .inr q => piecesFrom (some q) bs

def pieces (bytes : List UInt8) : List Piece := piecesFrom none bytes

structure Failure where
  position : Nat
  bytes : List UInt8
  flaw : Flaw
  deriving DecidableEq, Repr

def decodeFrom (position : Nat) : List Piece → Except Failure (List Char)
  | [] => .ok []
  | .char c :: rest =>
    match decodeFrom (position + (encodeChar c).length) rest with
    | .ok cs => .ok (c :: cs)
    | .error failure => .error failure
  | .flawed bytes flaw :: _ => .error ⟨position, bytes, flaw⟩

def decode (bytes : List UInt8) : Except Failure String :=
  match decodeFrom 0 (pieces bytes) with
  | .ok cs => .ok (String.ofList cs)
  | .error failure => .error failure

def decodeLossy (bytes : List UInt8) : String :=
  String.ofList <| (pieces bytes).map fun
    | .char c => c
    | .flawed _ _ => Char.ofNat 0xFFFD

end ScriptShell.Text.Utf8
