import TextMacro.Proofs.Encodable

/-!
# Decoding undoes encoding

A code point has one sequence of bytes: the shortest one that has room for it. The table of the
bytes that may follow a first byte lets through exactly these sequences, so that reading UTF-8
accepts what writing it produces and nothing else. The same holds of the encodings with one byte for
each character. Only the encoding with a signature reads more than it writes: a signature may be
missing, and a file that ends within it is empty.
-/

namespace TextMacro

/-- A changed result is there when the result is. -/
theorem map_eq_ok_iff {ε α β : Type} {change : α → β} {result : Except ε α} {b : β} :
    result.map change = .ok b ↔ ∃ a, result = .ok a ∧ change a = b := by
  cases result <;> simp [Except.map]

/-- A change of errors adds and takes away no result. -/
theorem mapError_eq_ok_iff {ε ε' α : Type} {change : ε → ε'} {result : Except ε α} {a : α} :
    result.mapError change = .ok a ↔ result = .ok a := by
  cases result <;> simp [Except.mapError]

namespace Utf8

variable {code value : Nat} {bounds : List (Nat × Nat)} {lead : UInt8}
  {bytes more rest : List UInt8} {c : Char} {text : Text}

/-- The byte is a continuation byte. -/
abbrev IsTail (byte : UInt8) : Prop :=
  0x80 ≤ byte.toNat ∧ byte.toNat ≤ 0xBF

/-- The bytes are the shortest sequence that stands for a code point. The first one tells how many
follow, and each of these has six bits. -/
def IsSequence (code : Nat) : List UInt8 → Prop
  | [lead] => code = lead.toNat ∧ code < 0x80
  | [lead, a] =>
    (0xC0 ≤ lead.toNat ∧ lead.toNat < 0xE0) ∧ IsTail a ∧
      code = (lead.toNat - 0xC0) * 64 + (a.toNat - 0x80) ∧ 0x80 ≤ code
  | [lead, a, b] =>
    (0xE0 ≤ lead.toNat ∧ lead.toNat < 0xF0) ∧ IsTail a ∧ IsTail b ∧
      code = ((lead.toNat - 0xE0) * 64 + (a.toNat - 0x80)) * 64 + (b.toNat - 0x80) ∧
      0x800 ≤ code ∧ code.isValidChar
  | [lead, a, b, d] =>
    0xF0 ≤ lead.toNat ∧ IsTail a ∧ IsTail b ∧ IsTail d ∧
      code = (((lead.toNat - 0xF0) * 64 + (a.toNat - 0x80)) * 64 + (b.toNat - 0x80)) * 64 +
        (d.toNat - 0x80) ∧
      0x10000 ≤ code ∧ code.isValidChar
  | _ => False

/-- The byte of a number that fits into one has that number. -/
theorem toNat_ofNat_of_lt {number : Nat} (h : number < 256) :
    (UInt8.ofNat number).toNat = number := by
  simp only [UInt8.toNat_ofNat', Nat.reducePow]
  omega

/-- A continuation byte has the last six bits. -/
theorem toNat_continuation (bits : Nat) : (continuation bits).toNat = 0x80 + bits % 64 :=
  toNat_ofNat_of_lt (by omega)

/-- A byte is that of its number. -/
theorem ofNat_eq_of_toNat {number : Nat} {byte : UInt8} (h : number = byte.toNat) :
    UInt8.ofNat number = byte := by
  rw [h, UInt8.ofNat_toNat]

/-- A continuation byte is that of its bits. -/
theorem continuation_eq_of_isTail {bits : Nat} {byte : UInt8} (h : IsTail byte)
    (hbits : bits % 64 = byte.toNat - 0x80) : continuation bits = byte :=
  ofNat_eq_of_toNat (by omega)

/-- A character is encoded as a sequence of its code point. -/
theorem isSequence_encodeChar (c : Char) : IsSequence c.toNat (encodeChar c) := by
  have hvalid : c.toNat.isValidChar := c.valid
  unfold encodeChar
  dsimp only
  split
  · next hone =>
    exact ⟨(toNat_ofNat_of_lt (by omega)).symm, hone⟩
  · split
    · have hlead : (UInt8.ofNat (0xC0 + c.toNat / 64)).toNat = 0xC0 + c.toNat / 64 :=
        toNat_ofNat_of_lt (by omega)
      simp only [IsSequence, IsTail, toNat_continuation, hlead]
      omega
    · split
      · have hlead : (UInt8.ofNat (0xE0 + c.toNat / 4096)).toNat = 0xE0 + c.toNat / 4096 :=
          toNat_ofNat_of_lt (by omega)
        simp only [IsSequence, IsTail, toNat_continuation, hlead, hvalid, and_true]
        omega
      · have hlead : (UInt8.ofNat (0xF0 + c.toNat / 262144)).toNat = 0xF0 + c.toNat / 262144 :=
          toNat_ofNat_of_lt (by omega)
        simp only [IsSequence, IsTail, toNat_continuation, hlead, hvalid, and_true]
        omega

/-- A character takes at least one byte. -/
theorem encodeChar_ne_nil (c : Char) : encodeChar c ≠ [] := by
  intro hnil
  have hsequence := isSequence_encodeChar c
  rw [hnil] at hsequence
  exact hsequence.elim

/-- A character has no other sequence than the one that it is encoded as. -/
theorem IsSequence.encodeChar_eq (h : IsSequence c.toNat bytes) : encodeChar c = bytes := by
  unfold encodeChar
  dsimp only
  generalize c.toNat = code at h ⊢
  unfold IsSequence at h
  split at h
  · obtain ⟨hcode, hone⟩ := h
    rw [if_pos hone, ofNat_eq_of_toNat hcode]
  · next lead a =>
    obtain ⟨hlead, ha, hcode, hshort⟩ := h
    have hbits : 0xC0 + code / 64 = lead.toNat := by omega
    rw [if_neg (by omega), if_pos (by omega), ofNat_eq_of_toNat hbits,
      continuation_eq_of_isTail ha (by omega)]
  · next lead a b =>
    obtain ⟨hlead, ha, hb, hcode, hshort, -⟩ := h
    have hbits : 0xE0 + code / 4096 = lead.toNat := by omega
    rw [if_neg (by omega), if_neg (by omega), if_pos (by omega), ofNat_eq_of_toNat hbits,
      continuation_eq_of_isTail ha (by omega), continuation_eq_of_isTail hb (by omega)]
  · next lead a b d =>
    obtain ⟨hlead, ha, hb, hd, hcode, hshort, -⟩ := h
    have hbits : 0xF0 + code / 262144 = lead.toNat := by omega
    rw [if_neg (by omega), if_neg (by omega), if_neg (by omega), ofNat_eq_of_toNat hbits,
      continuation_eq_of_isTail ha (by omega), continuation_eq_of_isTail hb (by omega),
      continuation_eq_of_isTail hd (by omega)]
  · exact h.elim

/-- Where nothing has to follow, nothing is read. -/
theorem readFollowers_nil_eq_ok_iff :
    readFollowers code [] bytes = .ok (value, rest) ↔ value = code ∧ bytes = rest := by
  simp [readFollowers, eq_comm]

/-- A byte that has to follow is there and lies within its bounds. -/
theorem readFollowers_cons_eq_ok_iff {least greatest : Nat} :
    readFollowers code ((least, greatest) :: bounds) bytes = .ok (value, rest) ↔
      ∃ byte more, bytes = byte :: more ∧ (least ≤ byte.toNat ∧ byte.toNat ≤ greatest) ∧
        readFollowers (code * 64 + (byte.toNat - 0x80)) bounds more = .ok (value, rest) := by
  cases bytes with
  | nil => simp [readFollowers]
  | cons byte bytes =>
    rw [readFollowers]
    split
    · next hbyte =>
      cases hread : readFollowers (code * 64 + (byte.toNat - 0x80)) bounds bytes <;>
        simp [hbyte, hread]
    · next hbyte =>
      simp only [reduceCtorEq, List.cons.injEq, false_iff, not_exists, not_and]
      rintro _ _ ⟨rfl, rfl⟩ hbounds
      exact absurd hbounds hbyte

/-- No byte follows a first byte that is a code point. -/
theorem followers_one (h : lead.toNat < 0x80) :
    followers lead = some [] ∧ leadBits lead = lead.toNat := by
  simp [followers, leadBits, h]

/-- One byte follows a first byte with five bits. -/
theorem followers_two (hlow : 0xC2 ≤ lead.toNat) (hhigh : lead.toNat < 0xE0) :
    followers lead = some [tail] ∧ leadBits lead = lead.toNat - 0xC0 := by
  have hone : ¬ lead.toNat < 0x80 := by omega
  simp [followers, leadBits, hone, Nat.not_lt.mpr hlow, hhigh]

/-- Two bytes follow a first byte with four bits. The first of them keeps the code point from being
too small and from being a surrogate. -/
theorem followers_three (hlow : 0xE0 ≤ lead.toNat) (hhigh : lead.toNat < 0xF0) :
    (∃ least greatest, followers lead = some [(least, greatest), tail] ∧
      ∀ a, least ≤ a ∧ a ≤ greatest ↔ (0x80 ≤ a ∧ a ≤ 0xBF) ∧
        (lead.toNat = 0xE0 → 0xA0 ≤ a) ∧ (lead.toNat = 0xED → a < 0xA0)) ∧
    leadBits lead = lead.toNat - 0xE0 := by
  have hone : ¬ lead.toNat < 0x80 := by omega
  have hstart : ¬ lead.toNat < 0xC2 := by omega
  have htwo : ¬ lead.toNat < 0xE0 := by omega
  refine ⟨?_, by simp [leadBits, hone, htwo, hhigh]⟩
  rw [followers]
  by_cases hleast : lead.toNat = 0xE0
  · exact ⟨0xA0, 0xBF, by simp [hleast], fun a => by omega⟩
  · by_cases hgreatest : lead.toNat = 0xED
    · exact ⟨0x80, 0x9F, by simp [hgreatest], fun a => by omega⟩
    · exact ⟨0x80, 0xBF, by simp [hone, hstart, htwo, hleast, hgreatest, hhigh, tail],
        fun a => by omega⟩

/-- Three bytes follow a first byte with three bits. The first of them keeps the code point from
being too small and from being too great. -/
theorem followers_four (hlow : 0xF0 ≤ lead.toNat) (hhigh : lead.toNat ≤ 0xF4) :
    (∃ least greatest, followers lead = some [(least, greatest), tail, tail] ∧
      ∀ a, least ≤ a ∧ a ≤ greatest ↔ (0x80 ≤ a ∧ a ≤ 0xBF) ∧
        (lead.toNat = 0xF0 → 0x90 ≤ a) ∧ (lead.toNat = 0xF4 → a < 0x90)) ∧
    leadBits lead = lead.toNat - 0xF0 := by
  have hone : ¬ lead.toNat < 0x80 := by omega
  have hstart : ¬ lead.toNat < 0xC2 := by omega
  have htwo : ¬ lead.toNat < 0xE0 := by omega
  have hthree : ¬ lead.toNat < 0xF0 := by omega
  refine ⟨?_, by simp [leadBits, hone, htwo, hthree]⟩
  rw [followers]
  by_cases hleast : lead.toNat = 0xF0
  · exact ⟨0x90, 0xBF, by simp [hleast], fun a => by omega⟩
  · by_cases hgreatest : lead.toNat = 0xF4
    · exact ⟨0x80, 0x8F, by simp [hgreatest], fun a => by omega⟩
    · have hbelow : lead.toNat < 0xF4 := by omega
      have hE0 : ¬ lead.toNat = 0xE0 := by omega
      have hED : ¬ lead.toNat = 0xED := by omega
      exact ⟨0x80, 0xBF, by simp [hone, hstart, htwo, hthree, hE0, hED, hleast, hbelow, tail],
        fun a => by omega⟩

/-- All other bytes are no first bytes. -/
theorem followers_eq_none (hone : 0x80 ≤ lead.toNat)
    (h : lead.toNat < 0xC2 ∨ 0xF4 < lead.toNat) : followers lead = none := by
  have hone' : ¬ lead.toNat < 0x80 := by omega
  rcases h with hlow | hhigh
  · simp [followers, hone', hlow]
  · rw [followers]
    repeat rw [if_neg (by omega)]

/-- What is read is the sequence of a code point. -/
theorem isSequence_of_readFollowers (hfollowers : followers lead = some bounds)
    (hread : readFollowers (leadBits lead) bounds bytes = .ok (code, rest)) :
    code.isValidChar ∧ ∃ more, bytes = more ++ rest ∧ IsSequence code (lead :: more) := by
  rw [Nat.isValidChar]
  by_cases hone : lead.toNat < 0x80
  · obtain ⟨hnone, hbits⟩ := followers_one hone
    obtain rfl := Option.some.inj (hnone.symm.trans hfollowers)
    obtain ⟨hcode, rfl⟩ := readFollowers_nil_eq_ok_iff.mp hread
    rw [hbits] at hcode
    exact ⟨by omega, [], rfl, hcode, by omega⟩
  by_cases hstart : lead.toNat < 0xC2 ∨ 0xF4 < lead.toNat
  · rw [followers_eq_none (by omega) hstart] at hfollowers
    nomatch hfollowers
  by_cases htwo : lead.toNat < 0xE0
  · obtain ⟨hsome, hbits⟩ := followers_two (by omega) htwo
    obtain rfl := Option.some.inj (hsome.symm.trans hfollowers)
    obtain ⟨a, _, rfl, ha, hread⟩ := readFollowers_cons_eq_ok_iff.mp hread
    obtain ⟨hcode, rfl⟩ := readFollowers_nil_eq_ok_iff.mp hread
    rw [hbits] at hcode
    exact ⟨by omega, [a], rfl, by omega, ha, hcode, by omega⟩
  by_cases hthree : lead.toNat < 0xF0
  · obtain ⟨⟨least, greatest, hsome, hbounds⟩, hbits⟩ := followers_three (by omega) hthree
    obtain rfl := Option.some.inj (hsome.symm.trans hfollowers)
    obtain ⟨a, _, rfl, ha, hread⟩ := readFollowers_cons_eq_ok_iff.mp hread
    obtain ⟨b, _, rfl, hb, hread⟩ := readFollowers_cons_eq_ok_iff.mp hread
    obtain ⟨hcode, rfl⟩ := readFollowers_nil_eq_ok_iff.mp hread
    rw [hbits] at hcode
    obtain ⟨ha, hleast, hgreatest⟩ := (hbounds a.toNat).mp ha
    have hvalid : code < 0xD800 ∨ 0xDFFF < code ∧ code < 0x110000 := by omega
    exact ⟨hvalid, [a, b], rfl, by omega, ha, hb, hcode, by omega, hvalid⟩
  · obtain ⟨⟨least, greatest, hsome, hbounds⟩, hbits⟩ :=
      followers_four (Nat.not_lt.mp hthree) (by omega)
    obtain rfl := Option.some.inj (hsome.symm.trans hfollowers)
    obtain ⟨a, _, rfl, ha, hread⟩ := readFollowers_cons_eq_ok_iff.mp hread
    obtain ⟨b, _, rfl, hb, hread⟩ := readFollowers_cons_eq_ok_iff.mp hread
    obtain ⟨d, _, rfl, hd, hread⟩ := readFollowers_cons_eq_ok_iff.mp hread
    obtain ⟨hcode, rfl⟩ := readFollowers_nil_eq_ok_iff.mp hread
    rw [hbits] at hcode
    obtain ⟨ha, hleast, hgreatest⟩ := (hbounds a.toNat).mp ha
    have hvalid : code < 0xD800 ∨ 0xDFFF < code ∧ code < 0x110000 := by omega
    exact ⟨hvalid, [a, b, d], rfl, by omega, ha, hb, hd, hcode, by omega, hvalid⟩

/-- The sequence of a code point is read as that code point, whatever comes after it. -/
theorem readFollowers_of_isSequence (h : IsSequence code (lead :: more)) (rest : List UInt8) :
    ∃ bounds, followers lead = some bounds ∧
      readFollowers (leadBits lead) bounds (more ++ rest) = .ok (code, rest) := by
  match more, h with
  | [], h =>
    obtain ⟨hcode, hone⟩ := h
    obtain ⟨hnone, hbits⟩ := followers_one (hcode ▸ hone)
    refine ⟨[], hnone, readFollowers_nil_eq_ok_iff.mpr ⟨?_, rfl⟩⟩
    rw [hbits, hcode]
  | [a], h =>
    obtain ⟨hlead, ha, hcode, hshort⟩ := h
    have hlow : 0xC2 ≤ lead.toNat := by omega
    obtain ⟨hsome, hbits⟩ := followers_two hlow hlead.2
    refine ⟨[tail], hsome, readFollowers_cons_eq_ok_iff.mpr ⟨a, rest, rfl, ha, ?_⟩⟩
    refine readFollowers_nil_eq_ok_iff.mpr ⟨?_, rfl⟩
    rw [hbits, hcode]
  | [a, b], h =>
    obtain ⟨hlead, ha, hb, hcode, hshort, hvalid⟩ := h
    obtain ⟨⟨least, greatest, hsome, hbounds⟩, hbits⟩ := followers_three hlead.1 hlead.2
    rw [Nat.isValidChar] at hvalid
    have hfirst := (hbounds a.toNat).mpr ⟨ha, by omega, by omega⟩
    refine ⟨_, hsome, readFollowers_cons_eq_ok_iff.mpr ⟨a, b :: rest, rfl, hfirst, ?_⟩⟩
    refine readFollowers_cons_eq_ok_iff.mpr ⟨b, rest, rfl, hb, ?_⟩
    refine readFollowers_nil_eq_ok_iff.mpr ⟨?_, rfl⟩
    rw [hbits, hcode]
  | [a, b, d], h =>
    obtain ⟨hlead, ha, hb, hd, hcode, hshort, hvalid⟩ := h
    rw [Nat.isValidChar] at hvalid
    obtain ⟨⟨least, greatest, hsome, hbounds⟩, hbits⟩ := followers_four hlead (by omega)
    have hfirst := (hbounds a.toNat).mpr ⟨ha, by omega, by omega⟩
    refine ⟨_, hsome, readFollowers_cons_eq_ok_iff.mpr ⟨a, b :: d :: rest, rfl, hfirst, ?_⟩⟩
    refine readFollowers_cons_eq_ok_iff.mpr ⟨b, d :: rest, rfl, hb, ?_⟩
    refine readFollowers_cons_eq_ok_iff.mpr ⟨d, rest, rfl, hd, ?_⟩
    refine readFollowers_nil_eq_ok_iff.mpr ⟨?_, rfl⟩
    rw [hbits, hcode]
  | _ :: _ :: _ :: _ :: _, h => exact h.elim

/-- The character of a code point has its number. -/
theorem toNat_ofNat_of_isValidChar (h : code.isValidChar) : (Char.ofNat code).toNat = code := by
  rw [Char.ofNat, dif_pos h]
  rfl

/-- A character is read from the front of the bytes exactly when they begin with the sequence that
it is encoded as. -/
theorem readFirst_eq_ok_iff :
    (∃ width, readFirst lead bytes = .ok ⟨c, width, rest⟩) ↔
      lead :: bytes = encodeChar c ++ rest := by
  unfold readFirst
  constructor
  · rintro ⟨width, hread⟩
    split at hread
    · nomatch hread
    · next bounds hfollowers =>
      split at hread
      · next code after hafter =>
        obtain ⟨rfl, -, rfl⟩ := Sequence.mk.inj (Except.ok.inj hread)
        obtain ⟨hvalid, more, rfl, hsequence⟩ := isSequence_of_readFollowers hfollowers hafter
        rw [← toNat_ofNat_of_isValidChar hvalid] at hsequence
        rw [hsequence.encodeChar_eq, List.cons_append]
      · nomatch hread
  · intro hbytes
    have hsequence := isSequence_encodeChar c
    cases hencode : encodeChar c with
    | nil => exact absurd hencode (encodeChar_ne_nil c)
    | cons first more =>
      rw [hencode] at hsequence
      rw [hencode, List.cons_append] at hbytes
      obtain ⟨rfl, rfl⟩ := List.cons.inj hbytes
      obtain ⟨bounds, hfollowers, hread⟩ := readFollowers_of_isSequence hsequence rest
      refine ⟨bounds.length + 1, ?_⟩
      simp only [hfollowers, hread, Char.ofNat_toNat]

/-- Bytes are decoded to a text exactly when they are the ones that the text is encoded as. -/
theorem decodeFrom_eq_ok_iff (start : Nat) :
    decodeFrom start bytes = .ok text ↔ bytes = encode text := by
  induction text generalizing start bytes with
  | nil =>
    cases bytes with
    | nil => simp [encode]
    | cons lead bytes =>
      rw [decodeFrom_cons]
      cases readFirst lead bytes <;> simp [map_eq_ok_iff, encode]
  | cons c text ih =>
    rw [encode, List.flatMap_cons, ← encode]
    cases bytes with
    | nil => simp [encodeChar_ne_nil]
    | cons lead bytes =>
      rw [decodeFrom_cons, ← readFirst_eq_ok_iff]
      constructor
      · intro hdecode
        cases hfirst : readFirst lead bytes with
        | error error => simp [hfirst] at hdecode
        | ok sequence =>
          rw [hfirst] at hdecode
          obtain ⟨others, hrest, htext⟩ := map_eq_ok_iff.mp hdecode
          obtain ⟨rfl, rfl⟩ := List.cons.inj htext
          rw [← (ih _).mp hrest]
          exact ⟨sequence.width, rfl⟩
      · rintro ⟨width, hfirst⟩
        rw [hfirst]
        exact map_eq_ok_iff.mpr ⟨text, (ih _).mpr rfl, rfl⟩

/-- Decoding accepts exactly what encoding produces. -/
theorem decode_eq_ok_iff : decode bytes = .ok text ↔ bytes = encode text :=
  decodeFrom_eq_ok_iff 0

/-- The bytes without the signature in front of them, if there is one. -/
def unsigned (bytes : List UInt8) : List UInt8 :=
  if signature.isPrefixOf bytes then bytes.drop signature.length else bytes

/-- The bytes end within a signature, of which they have at least the first byte. -/
def CutShort (bytes : List UInt8) : Prop :=
  bytes = signature.take 1 ∨ bytes = signature.take 2

instance (bytes : List UInt8) : Decidable (CutShort bytes) :=
  inferInstanceAs (Decidable (_ ∨ _))

/-- A beginning of the signature ends within it, or else nothing comes after the signature. -/
theorem cutShort_or_unsigned_eq_nil (h : bytes.isPrefixOf signature) :
    CutShort bytes ∨ unsigned bytes = [] := by
  have hmem : bytes ∈ [[], signature.take 1, signature.take 2, signature] :=
    (List.mem_inits bytes signature).mpr (List.isPrefixOf_iff_prefix.mp h)
  simp only [List.mem_cons, List.not_mem_nil, or_false] at hmem
  rcases hmem with rfl | rfl | rfl | rfl
  · exact .inr rfl
  · exact .inl (.inl rfl)
  · exact .inl (.inr rfl)
  · exact .inr rfl

/-- What ends within a signature is a beginning of it. -/
theorem CutShort.isPrefixOf (h : CutShort bytes) : bytes.isPrefixOf signature := by
  rcases h with rfl | rfl <;> rfl

/-- A signature in front is left out. -/
theorem unsigned_signature_append (bytes : List UInt8) : unsigned (signature ++ bytes) = bytes := by
  simp [unsigned, signature]

/-- Only the empty text has no bytes. -/
theorem encode_eq_nil_iff : encode text = [] ↔ text = [] := by
  cases text with
  | nil => simp [encode]
  | cons c text => simp [encode, encodeChar_ne_nil]

end Utf8

namespace Encoding

variable {encoding : Encoding} {bytes : List UInt8} {text : Text}

/-- The character of a byte. -/
def charOf (byte : UInt8) : Char := Char.ofNat byte.toNat

/-- No encoding has a limit beyond what a byte can tell apart. -/
theorem limit_le (encoding : Encoding) : encoding.limit ≤ 256 := by
  cases encoding <;> decide

/-- Bytes stand for the characters that are encoded as them. -/
theorem encodeBytes_eq_ok_iff (start : Nat) :
    encodeBytes encoding start text = .ok bytes ↔
      (∀ byte ∈ bytes, byte.toNat < encoding.limit) ∧ bytes.map charOf = text := by
  induction text generalizing start bytes with
  | nil =>
    simp only [encodeBytes, Except.ok.injEq, List.map_eq_nil_iff]
    constructor
    · rintro rfl
      simp
    · exact fun h => h.2.symm
  | cons c text ih =>
    have hlimit := encoding.limit_le
    rw [encodeBytes]
    constructor
    · intro hencode
      split at hencode
      · next hc =>
        obtain ⟨others, hothers, rfl⟩ := map_eq_ok_iff.mp hencode
        obtain ⟨hbelow, rfl⟩ := (ih _).mp hothers
        have hbyte : (UInt8.ofNat c.toNat).toNat = c.toNat := Utf8.toNat_ofNat_of_lt (by omega)
        rw [List.forall_mem_cons, List.map_cons, charOf, hbyte, Char.ofNat_toNat]
        exact ⟨⟨hc, hbelow⟩, rfl⟩
      · cases hencode
    · rintro ⟨hbelow, hchars⟩
      obtain ⟨byte, others, rfl, rfl, rfl⟩ := List.map_eq_cons_iff.mp hchars
      rw [List.forall_mem_cons] at hbelow
      rw [charOf, toNat_ofNat_byte, if_pos hbelow.1, (ih _).mpr ⟨hbelow.2, rfl⟩,
        UInt8.ofNat_toNat]
      rfl

/-- Bytes below the limit of ASCII are decoded to the characters that they stand for. -/
theorem decodeAscii_eq_ok_iff (position : Nat) :
    decodeAscii position bytes = .ok text ↔
      (∀ byte ∈ bytes, byte.toNat < ascii.limit) ∧ bytes.map charOf = text := by
  induction bytes generalizing position text with
  | nil => simp [decodeAscii]
  | cons byte bytes ih =>
    rw [decodeAscii, List.forall_mem_cons, List.map_cons]
    by_cases hbyte : byte.toNat < 128
    · rw [if_pos hbyte, map_eq_ok_iff]
      constructor
      · rintro ⟨others, hothers, rfl⟩
        obtain ⟨hbelow, rfl⟩ := (ih _).mp hothers
        exact ⟨⟨hbyte, hbelow⟩, rfl⟩
      · rintro ⟨⟨-, hbelow⟩, rfl⟩
        exact ⟨_, (ih _).mpr ⟨hbelow, rfl⟩, rfl⟩
    · simp [hbyte, limit]

/-- Without a signature, decoding accepts exactly what encoding produces. -/
theorem decode_eq_ok_iff_encode (h : encoding ≠ utf8Signed) :
    encoding.decode bytes = .ok text ↔ encoding.encode text = .ok bytes := by
  cases encoding with
  | utf8 =>
    rw [decode, encode, mapError_eq_ok_iff, Utf8.decode_eq_ok_iff, Except.ok.injEq, eq_comm]
  | utf8Signed => exact absurd rfl h
  | latin1 =>
    have hbelow : ∀ byte ∈ bytes, byte.toNat < latin1.limit := fun byte _ => byte.toNat_lt
    rw [encode, encodeBytes_eq_ok_iff, and_iff_right hbelow, decode, Except.ok.injEq]
    rfl
  | ascii => rw [decode, encode, decodeAscii_eq_ok_iff, encodeBytes_eq_ok_iff]

/-- With a signature, bytes are decoded without the one in front of them; those that begin a
signature and end with it or before are decoded to nothing. -/
theorem decode_signed_eq_ok_iff :
    utf8Signed.decode bytes = .ok text ↔
      if bytes.isPrefixOf Utf8.signature then text = []
      else Utf8.unsigned bytes = Utf8.encode text := by
  rw [decode]
  split
  · simp [eq_comm]
  · rw [Utf8.unsigned, ← Utf8.decode_eq_ok_iff]
    split <;> rw [mapError_eq_ok_iff]

/-- What a file of some bytes comes to hold when it is read and written again. Under the encoding
with a signature it has one in front then, also if it had none before, and nothing else if it ended
within the signature. -/
def copied (encoding : Encoding) (bytes : List UInt8) : List UInt8 :=
  match encoding with
  | utf8Signed =>
    Utf8.signature ++ if Utf8.CutShort bytes then [] else Utf8.unsigned bytes
  | utf8 | latin1 | ascii => bytes

/-- What was read is written as the copy of its bytes. -/
theorem encode_of_decode (h : encoding.decode bytes = .ok text) :
    encoding.encode text = .ok (encoding.copied bytes) := by
  by_cases hsigned : encoding = utf8Signed
  · subst hsigned
    rw [decode_signed_eq_ok_iff] at h
    rw [encode, copied]
    split at h
    · next hbegins =>
      subst h
      rcases Utf8.cutShort_or_unsigned_eq_nil hbegins with hcut | hnil
      · rw [if_pos hcut]
        rfl
      · rw [hnil, ite_self]
        rfl
    · next hbegins => rw [if_neg fun hcut => hbegins hcut.isPrefixOf, h]
  · rw [(decode_eq_ok_iff_encode hsigned).mp h]
    cases encoding <;> first | rfl | exact absurd rfl hsigned

/-- What was written is read as it was. -/
theorem decode_of_encode (h : encoding.encode text = .ok bytes) :
    encoding.decode bytes = .ok text := by
  by_cases hsigned : encoding = utf8Signed
  · subst hsigned
    obtain rfl := Except.ok.inj h
    rw [decode_signed_eq_ok_iff, Utf8.unsigned_signature_append]
    split
    · next hbegins =>
      have hlength := (List.isPrefixOf_iff_prefix.mp hbegins).length_le
      rw [List.length_append] at hlength
      exact Utf8.encode_eq_nil_iff.mp (List.length_eq_zero_iff.mp (by omega))
    · rfl
  · exact (decode_eq_ok_iff_encode hsigned).mpr h

end Encoding

end TextMacro
