/-!
Contract: text as bytes.

Owns: the UTF-8 form of text, the reading of bytes as text, and where and why
bytes are not text. A fault names the index of the first byte that is not part
of a character and how many bytes were seen to be wrong there; it has no such
count when the bytes end inside a character.

Does not own: what is done with bytes that are not text.
-/

set_option autoImplicit false

namespace TraefikUpgrade.Text

structure Utf8Fault where
  /-- The length of the longest valid part at the start. -/
  validLength : Nat
  /-- The length of the sequence that no continuation can mend. -/
  invalidLength : Option Nat
deriving DecidableEq, Repr

def Utf8Fault.message (fault : Utf8Fault) : String :=
  match fault.invalidLength with
  | some length =>
      s!"invalid utf-8 sequence of {length} bytes from index {fault.validLength}"
  | none => s!"incomplete utf-8 byte sequence from index {fault.validLength}"

def toUtf8 (text : String) : List UInt8 :=
  text.toUTF8.toList

/-- What the first bytes of a sequence are. -/
inductive Utf8Step where
  /-- A character of `length` bytes. -/
  | character (value : Char) (length : Nat)
  | fault (invalidLength : Option Nat)

/-- Whether a byte can stand after the first one of a character. -/
def isTail (byte : UInt8) : Bool :=
  0x80 ≤ byte && byte ≤ 0xBF

/-- The least and greatest byte allowed after the first byte of a longer character. -/
def secondByteRange (first : UInt8) : UInt8 × UInt8 :=
  if first = 0xE0 then (0xA0, 0xBF)
  else if first = 0xED then (0x80, 0x9F)
  else if first = 0xF0 then (0x90, 0xBF)
  else if first = 0xF4 then (0x80, 0x8F)
  else (0x80, 0xBF)

/-- What a byte after the first one of a character gives to it. -/
def tailBits (byte : UInt8) : Nat :=
  byte.toNat % 0x40

/-- Reads one character off the start of the bytes after `first`. -/
def utf8Step (first : UInt8) (rest : List UInt8) : Utf8Step :=
  if first < 0x80 then .character (Char.ofNat first.toNat) 1
  else if first < 0xC2 || 0xF4 < first then .fault (some 1)
  else
    let (low, high) := secondByteRange first
    match rest with
    | [] => .fault none
    | second :: rest =>
        if second < low || high < second then .fault (some 1)
        else if first < 0xE0 then
          .character (Char.ofNat (first.toNat % 0x20 * 0x40 + tailBits second)) 2
        else
          match rest with
          | [] => .fault none
          | third :: rest =>
              if !isTail third then .fault (some 2)
              else if first < 0xF0 then
                .character
                  (Char.ofNat ((first.toNat % 0x10 * 0x40 + tailBits second) * 0x40 +
                    tailBits third)) 3
              else
                match rest with
                | [] => .fault none
                | fourth :: _ =>
                    if !isTail fourth then .fault (some 3)
                    else
                      .character
                        (Char.ofNat (((first.toNat % 0x08 * 0x40 + tailBits second) * 0x40 +
                          tailBits third) * 0x40 + tailBits fourth)) 4

/-- Reads characters until the bytes or `steps` run out; `index` bytes stand before them. -/
def utf8Characters :
    (steps : Nat) → (index : Nat) → List UInt8 → Except Utf8Fault (List Char)
  | 0, _, _ => .ok []
  | _ + 1, _, [] => .ok []
  | steps + 1, index, first :: rest =>
      match utf8Step first rest with
      | .fault invalidLength => .error ⟨index, invalidLength⟩
      | .character value length => do
          let following ← utf8Characters steps (index + length) (rest.drop (length - 1))
          return value :: following

/-- The text that the bytes are the UTF-8 form of. -/
def ofUtf8 (bytes : List UInt8) : Except Utf8Fault String :=
  (utf8Characters bytes.length 0 bytes).map String.ofList

end TraefikUpgrade.Text
