import SqlAudit.Text.Quoted

/-
  Text from bytes.

  The first byte of a character says how many bytes follow,
  and bounds the second byte, so that each character has one
  form and surrogates have none.

  Key definitions include:
    * `SqlAudit.Utf8.Error`
    * `SqlAudit.Utf8.decode`
-/

------------------------------------------------------------
-- Errors
------------------------------------------------------------

namespace SqlAudit.Utf8

/- Why bytes are no text. -/
inductive Cause where
| badStart
| badContinuation
| cutShort
  deriving Repr, DecidableEq

/-
  The bytes that are no text: where they are, how many they
  are, the first of them, and what is wrong with them.
-/
structure Error where
  start : Nat
  count : Nat
  first : UInt8
  cause : Cause
  deriving Repr, DecidableEq

/- The cause in words. -/
def Cause.text : Cause → String
| .badStart => "invalid start byte"
| .badContinuation => "invalid continuation byte"
| .cutShort => "unexpected end of data"

/- The error as it is reported. -/
def Error.message (e : Error) : List Char :=
  let place := (toString e.start).toList
  let bytes :=
    if e.count == 1 then
      "byte 0x".toList ++ Text.hexDigits 2 e.first.toNat ++
        " in position ".toList ++ place
    else
      "bytes in position ".toList ++ place ++ '-' ::
        (toString (e.start + e.count - 1)).toList
  "'utf-8' codec can't decode ".toList ++ bytes ++
    ": ".toList ++ e.cause.text.toList

end SqlAudit.Utf8

------------------------------------------------------------
-- Decoding
------------------------------------------------------------

namespace SqlAudit.Utf8

/-
  A character of which `count` bytes have been read and
  `more` are to come. The next one lies between `least` and
  `greatest`; `value` is the code point so far.
-/
structure Pending where
  first : UInt8
  count : Nat
  more : Nat
  least : Nat
  greatest : Nat
  value : Nat
  deriving Repr, DecidableEq

/- The character that a first byte begins. -/
def begin? (b : UInt8) : Option Pending :=
  let n := b.toNat
  if n < 0x80 then some ⟨b, 1, 0, 0, 0, n⟩
  else if n < 0xc2 then none
  else if n < 0xe0 then some ⟨b, 1, 1, 0x80, 0xbf, n - 0xc0⟩
  else if n == 0xe0 then some ⟨b, 1, 2, 0xa0, 0xbf, 0⟩
  else if n == 0xed then some ⟨b, 1, 2, 0x80, 0x9f, 13⟩
  else if n < 0xf0 then some ⟨b, 1, 2, 0x80, 0xbf, n - 0xe0⟩
  else if n == 0xf0 then some ⟨b, 1, 3, 0x90, 0xbf, 0⟩
  else if n < 0xf4 then some ⟨b, 1, 3, 0x80, 0xbf, n - 0xf0⟩
  else if n == 0xf4 then some ⟨b, 1, 3, 0x80, 0x8f, 4⟩
  else none

/- The character with one more byte. -/
def Pending.next?
    (p : Pending)
    (b : UInt8) : Option Pending :=
  let n := b.toNat
  if p.least ≤ n && n ≤ p.greatest then
    some ⟨p.first, p.count + 1, p.more - 1, 0x80, 0xbf,
      p.value * 64 + (n - 0x80)⟩
  else
    none

/-
  Decode the bytes from a position on, in the middle of a
  character if one is pending. The text so far is latest
  first.
-/
def decodeFrom :
    (position : Nat) → Option Pending → (text : List Char) →
      List UInt8 → Except Error (List Char)
| position, some p, _, [] =>
    .error ⟨position - p.count, p.count, p.first, .cutShort⟩
| _, none, text, [] => .ok text.reverse
| position, some p, text, b :: rest =>
    match p.next? b with
    | none =>
        .error ⟨position - p.count, p.count, p.first,
          .badContinuation⟩
    | some q =>
        if q.more == 0 then
          decodeFrom (position + 1) none
            (Char.ofNat q.value :: text) rest
        else
          decodeFrom (position + 1) (some q) text rest
| position, none, text, b :: rest =>
    match begin? b with
    | none => .error ⟨position, 1, b, .badStart⟩
    | some q =>
        if q.more == 0 then
          decodeFrom (position + 1) none
            (Char.ofNat q.value :: text) rest
        else
          decodeFrom (position + 1) (some q) text rest

/- The text that bytes stand for. -/
def decode (bytes : List UInt8) : Except Error (List Char) :=
  decodeFrom 0 none [] bytes

end SqlAudit.Utf8
