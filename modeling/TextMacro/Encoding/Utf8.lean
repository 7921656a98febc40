import TextMacro.Text.Basic

/-!
# UTF-8

The first byte of a sequence fixes how many bytes follow it and within which bounds each of them
lies. Decoding reads one sequence after another; it stops at the first byte that fits no sequence
and reports where the sequence starts, how many bytes of it were in order, and what went wrong.
Encoding writes every character as the one sequence that stands for it.
-/

namespace TextMacro.Utf8

/-- Why a sequence of bytes stands for no character. -/
inductive Fault where
  | startByte
  | continuationByte
  | endOfData
deriving DecidableEq, Repr

/-- The bounds of a continuation byte. -/
def tail : Nat × Nat := (0x80, 0xBF)

/-- The bounds of the bytes that follow a first byte, or `none` if no sequence starts with it. -/
def followers (lead : UInt8) : Option (List (Nat × Nat)) :=
  let n := lead.toNat
  if n < 0x80 then some []
  else if n < 0xC2 then none
  else if n < 0xE0 then some [tail]
  else if n = 0xE0 then some [(0xA0, 0xBF), tail]
  else if n = 0xED then some [(0x80, 0x9F), tail]
  else if n < 0xF0 then some [tail, tail]
  else if n = 0xF0 then some [(0x90, 0xBF), tail, tail]
  else if n < 0xF4 then some [tail, tail, tail]
  else if n = 0xF4 then some [(0x80, 0x8F), tail, tail]
  else none

/-- What a first byte contributes to the code point. -/
def leadBits (lead : UInt8) : Nat :=
  let n := lead.toNat
  if n < 0x80 then n
  else if n < 0xE0 then n - 0xC0
  else if n < 0xF0 then n - 0xE0
  else n - 0xF0

/-- Read following bytes within their bounds: the code point and the bytes after it, or how many
bytes were in order and what is wrong with the next. -/
def readFollowers (code : Nat) : List (Nat × Nat) → List UInt8 →
    Except (Nat × Fault) (Nat × List UInt8)
  | [], bytes => .ok (code, bytes)
  | _ :: _, [] => .error (0, .endOfData)
  | (least, greatest) :: bounds, byte :: bytes =>
    if least ≤ byte.toNat ∧ byte.toNat ≤ greatest then
      match readFollowers (code * 64 + (byte.toNat - 0x80)) bounds bytes with
      | .ok result => .ok result
      | .error (count, fault) => .error (count + 1, fault)
    else .error (0, .continuationByte)

/-- Reading following bytes leaves no more bytes than there were. -/
theorem length_readFollowers_le {code : Nat} {bounds : List (Nat × Nat)} {bytes rest : List UInt8}
    {value : Nat} (h : readFollowers code bounds bytes = .ok (value, rest)) :
    rest.length ≤ bytes.length := by
  induction bounds generalizing code bytes with
  | nil =>
    simp only [readFollowers, Except.ok.injEq, Prod.mk.injEq] at h
    simp [h.2]
  | cons bound bounds ih =>
    cases bytes with
    | nil => simp [readFollowers] at h
    | cons byte bytes =>
      simp only [readFollowers] at h
      split at h
      · split at h
        · next result hresult =>
          simp only [Except.ok.injEq] at h
          subst h
          have := ih hresult
          simp only [List.length_cons]
          omega
        · simp at h
      · simp at h

/-- A sequence that was read: its character, the number of its bytes, and the bytes after it. -/
structure Sequence where
  char : Char
  width : Nat
  rest : List UInt8

/-- Read the sequence at the front of the bytes. -/
def readFirst (lead : UInt8) (bytes : List UInt8) : Except (Nat × Fault) Sequence :=
  match followers lead with
  | none => .error (1, .startByte)
  | some bounds =>
    match readFollowers (leadBits lead) bounds bytes with
    | .ok (code, rest) => .ok ⟨Char.ofNat code, bounds.length + 1, rest⟩
    | .error (count, fault) => .error (count + 1, fault)

/-- Reading a sequence leaves no more bytes than followed its first byte. -/
theorem length_readFirst_le {lead : UInt8} {bytes : List UInt8} {sequence : Sequence}
    (h : readFirst lead bytes = .ok sequence) : sequence.rest.length ≤ bytes.length := by
  simp only [readFirst] at h
  split at h
  · simp at h
  · split at h
    · next hread =>
      simp only [Except.ok.injEq] at h
      subst h
      exact length_readFollowers_le hread
    · simp at h

/-- A sequence that stands for no character: its first byte, its offset, the number of its bytes
that were in order, and the fault. -/
structure DecodeFault where
  lead : UInt8
  start : Nat
  count : Nat
  fault : Fault
deriving DecidableEq, Repr

/-- Decode bytes, the first of which stands at offset `start`, after the characters `seen`, the last
of which comes first. -/
def decodeOnto (start : Nat) (seen : Text) (bytes : List UInt8) : Except DecodeFault Text :=
  match bytes with
  | [] => .ok seen.reverse
  | lead :: bytes =>
    match h : readFirst lead bytes with
    | .error (count, fault) => .error ⟨lead, start, count, fault⟩
    | .ok sequence =>
      have := length_readFirst_le h
      decodeOnto (start + sequence.width) (sequence.char :: seen) sequence.rest
termination_by bytes.length
decreasing_by simp only [List.length_cons]; omega

/-- Decode bytes, the first of which stands at offset `start`. -/
def decodeFrom (start : Nat) (bytes : List UInt8) : Except DecodeFault Text :=
  decodeOnto start [] bytes

/-- Decode bytes. -/
def decode (bytes : List UInt8) : Except DecodeFault Text :=
  decodeFrom 0 bytes

/-- Characters seen earlier only come in front of the decoded text. -/
theorem decodeOnto_append (start : Nat) (seen older : Text) (bytes : List UInt8) :
    decodeOnto start (seen ++ older) bytes =
      (decodeOnto start seen bytes).map (older.reverse ++ ·) := by
  induction start, seen, bytes using decodeOnto.induct with
  | case1 start seen => simp [decodeOnto, Except.map]
  | case2 start seen lead bytes count fault h =>
    rw [decodeOnto, decodeOnto]
    split <;> simp_all [Except.map]
  | case3 start seen lead bytes sequence h _ ih =>
    rw [decodeOnto, decodeOnto]
    split
    · simp_all
    · next found hfound =>
      obtain rfl : sequence = found := by simp_all
      simpa using ih

/-- No bytes are the empty text. -/
@[simp]
theorem decodeFrom_nil (start : Nat) : decodeFrom start [] = .ok [] := by
  simp [decodeFrom, decodeOnto]

/-- Bytes are decoded one sequence at a time. -/
theorem decodeFrom_cons (start : Nat) (lead : UInt8) (bytes : List UInt8) :
    decodeFrom start (lead :: bytes) =
      match readFirst lead bytes with
      | .error (count, fault) => .error ⟨lead, start, count, fault⟩
      | .ok sequence =>
        (decodeFrom (start + sequence.width) sequence.rest).map (sequence.char :: ·) := by
  rw [decodeFrom, decodeOnto]
  split
  · simp_all
  · next sequence h =>
    simpa [h, decodeFrom] using
      decodeOnto_append (start + sequence.width) [] [sequence.char] sequence.rest

/-- A continuation byte with six bits of a code point. -/
def continuation (bits : Nat) : UInt8 :=
  UInt8.ofNat (0x80 + bits % 64)

/-- The sequence that stands for a character. -/
def encodeChar (c : Char) : List UInt8 :=
  let n := c.toNat
  if n < 0x80 then [UInt8.ofNat n]
  else if n < 0x800 then [UInt8.ofNat (0xC0 + n / 64), continuation n]
  else if n < 0x10000 then
    [UInt8.ofNat (0xE0 + n / 4096), continuation (n / 64), continuation n]
  else
    [UInt8.ofNat (0xF0 + n / 262144), continuation (n / 4096), continuation (n / 64),
      continuation n]

/-- Encode a text. -/
def encode (text : Text) : List UInt8 :=
  text.flatMap encodeChar

/-- The number of bytes of a text. -/
def size (text : Text) : Nat :=
  (encode text).length

/-- The beginning of a text that fits into a number of bytes. A character that is cut in two leaves
the replacement character. -/
def clip : Nat → Text → Text
  | _, [] => []
  | 0, _ :: _ => []
  | limit + 1, c :: cs =>
    let width := (encodeChar c).length
    if width ≤ limit + 1 then c :: clip (limit + 1 - width) cs else ['\uFFFD']

/-- The bytes of U+FEFF, which may stand before a text as its signature. -/
def signature : List UInt8 := [0xEF, 0xBB, 0xBF]

end TextMacro.Utf8
