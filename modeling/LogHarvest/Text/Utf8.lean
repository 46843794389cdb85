import LogHarvest.Text.Quoted

/-!
# UTF-8

Encoding fails on surrogates. Decoding takes one code at a time off the front of the bytes;
what is no encoded code is a fault of one to three bytes, and the readers differ in what they
do about it: the strict one stops, the lenient one drops the bytes, the loose one keeps each
of them as a stray code. Overlong forms, surrogates and numbers above U+10FFFF are faults.
-/

namespace LogHarvest.Text.Utf8

abbrev Bytes := List UInt8

/-- The longest run of surrogates that stopped an encoder, by the place and length of the run. -/
structure EncodeError where
  first : Nat
  count : Nat
  code : Code
deriving DecidableEq

/-- What the bytes at a fault lack. -/
inductive Reason where
  | invalidStart
  | invalidContinuation
  | unexpectedEnd
deriving DecidableEq

/-- The place, length and first byte of what could not be decoded. -/
structure DecodeError where
  start : Nat
  length : Nat
  byte : UInt8
  reason : Reason
deriving DecidableEq

/-- Places from `start` on, as a message names them. -/
def placeText (what : String) (start count : Nat) (single : Text) : Text :=
  if count = 1 then ofString what ++ ofString " " ++ single ++ ofString " in position " ++ ofNat start
  else ofString what ++ ofString "s in position " ++ ofNat start ++ ofString "-" ++
    ofNat (start + count - 1)

def EncodeError.message (e : EncodeError) : Text :=
  ofString "'utf-8' codec can't encode " ++
  placeText "character" e.first e.count (Quoted.encode [e.code]) ++
  ofString ": surrogates not allowed"

def Reason.text : Reason → Text
  | .invalidStart => "invalid start byte"
  | .invalidContinuation => "invalid continuation byte"
  | .unexpectedEnd => "unexpected end of data"

def DecodeError.message (e : DecodeError) : Text :=
  ofString "'utf-8' codec can't decode " ++
  placeText "byte" e.start e.length (ofString "0x" ++ Quoted.hex 2 e.byte.toNat) ++
  ofString ": " ++ e.reason.text

/-- The bytes of one code; a surrogate has none. -/
def encodeCode (c : Code) : Bytes :=
  let n := c.val
  if n < 0x80 then [n.toUInt8]
  else if n < 0x800 then [(0xC0 + n / 64).toUInt8, (0x80 + n % 64).toUInt8]
  else if n < 0x10000 then
    [(0xE0 + n / 4096).toUInt8, (0x80 + n / 64 % 64).toUInt8, (0x80 + n % 64).toUInt8]
  else
    [(0xF0 + n / 262144).toUInt8, (0x80 + n / 4096 % 64).toUInt8, (0x80 + n / 64 % 64).toUInt8,
      (0x80 + n % 64).toUInt8]

/-- The bytes of a text that starts at the given place of a larger one. -/
def encodeFrom (place : Nat) : Text → Except EncodeError Bytes
  | [] => .ok []
  | c :: rest =>
    if c.isSurrogate then
      .error ⟨place, 1 + (rest.takeWhile Code.isSurrogate).length, c⟩
    else (encodeFrom (place + 1) rest).map (encodeCode c ++ ·)

/-- The bytes of a text, or the first run of surrogates in it. -/
def encode (t : Text) : Except EncodeError Bytes := encodeFrom 0 t

/-- What stands at the front of some bytes. -/
inductive Front where
  | done
  | code (c : Code) (length : Nat)
  | fault (length : Nat) (reason : Reason)

/-- A byte that continues an encoded code. -/
def isContinuation (b : UInt8) : Bool := 0x80 ≤ b && b < 0xC0

/-- The six bits that a continuation byte carries. -/
def payload (b : UInt8) : Nat := b.toNat - 0x80

/-- The bounds of the second byte after a lead byte of a three- or four-byte form. They shut
out overlong forms, surrogates and numbers above U+10FFFF. -/
def secondBounds (lead : UInt8) : UInt8 × UInt8 :=
  if lead = 0xE0 then (0xA0, 0xBF)
  else if lead = 0xED then (0x80, 0x9F)
  else if lead = 0xF0 then (0x90, 0xBF)
  else if lead = 0xF4 then (0x80, 0x8F)
  else (0x80, 0xBF)

/-- Reads one code or one fault. -/
def front : Bytes → Front
  | [] => .done
  | b :: rest =>
    if b < 0x80 then .code ⟨b.toNat⟩ 1
    else if b < 0xC2 || b > 0xF4 then .fault 1 .invalidStart
    else if b < 0xE0 then
      match rest with
      | [] => .fault 1 .unexpectedEnd
      | b1 :: _ =>
        if isContinuation b1 then .code ⟨(b.toNat - 0xC0) * 64 + payload b1⟩ 2
        else .fault 1 .invalidContinuation
    else
      match rest with
      | [] => .fault 1 .unexpectedEnd
      | b1 :: rest =>
        if b1 < (secondBounds b).1 || b1 > (secondBounds b).2 then .fault 1 .invalidContinuation
        else
          match rest with
          | [] => .fault 2 .unexpectedEnd
          | b2 :: rest =>
            if !isContinuation b2 then .fault 2 .invalidContinuation
            else if b < 0xF0 then
              .code ⟨(b.toNat - 0xE0) * 4096 + payload b1 * 64 + payload b2⟩ 3
            else
              match rest with
              | [] => .fault 3 .unexpectedEnd
              | b3 :: _ =>
                if isContinuation b3 then
                  .code ⟨(b.toNat - 0xF0) * 262144 + payload b1 * 4096 + payload b2 * 64 +
                    payload b3⟩ 4
                else .fault 3 .invalidContinuation

/-- The codes of some bytes up to the first fault, with the fault and the bytes from there on.
The fuel is the number of bytes. -/
def scan : (fuel : Nat) → (place : Nat) → Bytes → Text × Option DecodeError × Bytes
  | 0, _, bytes => ([], none, bytes)
  | fuel + 1, place, bytes =>
    match front bytes with
    | .done => ([], none, [])
    | .code c length =>
      let (rest, stop) := scan fuel (place + length) (bytes.drop length)
      (c :: rest, stop)
    | .fault length reason => ([], some ⟨place, length, bytes.headD 0, reason⟩, bytes)

/-- The text of some bytes, or the first fault in them. -/
def decode (bytes : Bytes) : Except DecodeError Text :=
  match scan bytes.length 0 bytes with
  | (text, none, _) => .ok text
  | (_, some e, _) => .error e

/-- Every code in order, with `keep` saying what becomes of the bytes of a fault. -/
def decodeWith (keep : Bytes → Text) : (fuel : Nat) → Bytes → Text
  | 0, _ => []
  | fuel + 1, bytes =>
    match front bytes with
    | .done => []
    | .code c length => c :: decodeWith keep fuel (bytes.drop length)
    | .fault length _ => keep (bytes.take length) ++ decodeWith keep fuel (bytes.drop length)

/-- The text of some bytes without those of any fault. -/
def decodeDropping (bytes : Bytes) : Text := decodeWith (fun _ => []) bytes.length bytes

/-- The text of some bytes, with the bytes of each fault as stray codes. -/
def decodeLoosely (bytes : Bytes) : Text :=
  decodeWith (·.map fun b => Code.stray b.toNat) bytes.length bytes

/-- The number of bytes a reader takes at a time. -/
def blockSize : Nat := 8192

/-- The text of the blocks before the first fault, and that fault. A code cut off by the end
of a block waits for the next one, so places count from the bytes that were held back. -/
def decodeBlocks : (fuel : Nat) → (held : Bytes) → Bytes → Text × Option DecodeError
  | 0, _, _ => ([], none)
  | fuel + 1, held, bytes =>
    let last := bytes.isEmpty
    let block := held ++ bytes.take blockSize
    match scan block.length 0 block with
    | (text, none, _) =>
      if last then (text, none)
      else
        let (rest, stop) := decodeBlocks fuel [] (bytes.drop blockSize)
        (text ++ rest, stop)
    | (text, some e, tail) =>
      if e.reason = .unexpectedEnd ∧ !last then
        let (rest, stop) := decodeBlocks fuel tail (bytes.drop blockSize)
        (text ++ rest, stop)
      else ([], some e)

/-- Reads a file block by block. -/
def decodeFile (bytes : Bytes) : Text × Option DecodeError :=
  decodeBlocks (bytes.length / blockSize + 2) [] bytes

end LogHarvest.Text.Utf8
