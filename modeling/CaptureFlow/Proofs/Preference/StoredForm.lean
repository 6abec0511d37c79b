import CaptureFlow.Proofs.Preference.Grammar
/-! # Values and their stored forms

A stored form is a header of five bytes and the written form of a value, in at most 65536 bytes.
Every value has one, unless it is a text that is too long; it is the shortest one, and it is read
back as the value whatever follows it (`stored_and_read_back`).

Bytes that are read as a value may be longer than its stored form, since numbers in them may be
written with more bytes than they need, and other bytes may follow.  `read_exactly` says which bytes
are read, and why others are refused: `Misheaded` lists, in their order, the faults that come before
all faults of the payload.

A reader that ignores what follows cannot refuse a part of a stored form for its end alone.  But a
value that is read from some bytes needs no more than these for its stored form; so a strict part of
a stored form is not read at all (`cut_short_refused`). -/

namespace CaptureFlow

/-! ### Headers -/

namespace Header

theorem ofBytes_of_take {bytes : Bytes} {h : Header} (front : bytes.take 5 = h.toBytes)
    (four : h.magic.length = 4) : ofBytes bytes = .ok h := by
  obtain ⟨magic, version⟩ := h
  rw [← List.take_append_drop 5 bytes, front]
  match magic, four with
  | [a, b, c, d], _ => rfl

end Header

namespace Preference

variable {bytes : Bytes} {v : Preference}

/-! ### Encoding -/

theorem encode_ok_iff :
    v.encode = .ok bytes ↔ bytes = [0x53, 0x47, 0x50, 0x56, 1] ++ v.payload ∧
      bytes.length ≤ 65536 := by
  have header : Header.current.toBytes = [0x53, 0x47, 0x50, 0x56, 1] := rfl
  simp only [encode, maxStoredSize, header]
  split
  next large =>
    refine iff_of_false (by simp) ?_
    rintro ⟨rfl, fits⟩
    omega
  next fits =>
    rw [Except.ok.injEq, eq_comm]
    exact (and_iff_left_of_imp fun eq => eq ▸ Nat.le_of_not_lt fits).symm

theorem exists_encode_iff : (∃ bytes, v.encode = .ok bytes) ↔ v.payload.length ≤ 65531 := by
  simp only [encode_ok_iff, exists_eq_left, List.length_append, List.length_cons, List.length_nil]
  omega

/-- Only texts can be too long, and it is the bytes of the text that count. -/
theorem length_payload_le_iff :
    v.payload.length ≤ 65531 ↔ ∀ s, v = .text s → (textBytes s).length ≤ 65527 := by
  cases v with
  | flag b => simp [payload, Varint.write_small]
  | number n =>
      refine iff_of_true ?_ (by simp)
      have fits := (Varint.folds_fold n.toInt).bounds.mpr ⟨n.le_toInt, n.toInt_lt⟩
      have short := (Varint.spells_write_word64 fits).short
      rw [payload, Varint.write_small (by decide)]
      exact Nat.le_trans (Nat.succ_le_succ short) (by decide)
  | text s =>
      have three := Varint.length_write_le_iff (n := (textBytes s).length) 2
      have two := Varint.length_write_le_iff (n := (textBytes s).length) 1
      simp only [payload, Varint.write_small (show 2 < 128 by decide), List.length_append,
        List.length_singleton, text.injEq, forall_eq']
      omega

/-! ### Decoding -/

/-- The bytes have the size of a stored form and begin with the header of the current version. -/
structure Headed (bytes : Bytes) : Prop where
  least : 5 ≤ bytes.length
  most : bytes.length ≤ 65536
  header : bytes.take 5 = [0x53, 0x47, 0x50, 0x56, 1]

/-- What is wrong with the size or the header: the sizes come first, then the magic bytes, then the
version. -/
inductive Misheaded (bytes : Bytes) : EncodingFault → Prop
  | short (few : bytes.length < 5) : Misheaded bytes .dataTooShort
  | long (many : 65536 < bytes.length) : Misheaded bytes (.dataTooLarge bytes.length)
  | magic (least : 5 ≤ bytes.length) (most : bytes.length ≤ 65536)
      (wrong : bytes.take 4 ≠ [0x53, 0x47, 0x50, 0x56]) : Misheaded bytes .badMagic
  | version (most : bytes.length ≤ 65536) (right : bytes.take 4 = [0x53, 0x47, 0x50, 0x56])
      {version : UInt8} (found : bytes[4]? = some version) (wrong : version ≠ 1) :
      Misheaded bytes (.badVersion version)

theorem take_five {version : UInt8} (found : bytes[4]? = some version) :
    bytes.take 5 = bytes.take 4 ++ [version] := by
  rw [List.take_add_one, found]
  rfl

theorem headed_or_misheaded (bytes : Bytes) : Headed bytes ∨ ∃ fault, Misheaded bytes fault := by
  rcases Nat.lt_or_ge bytes.length 5 with few | least
  · exact .inr ⟨_, .short few⟩
  rcases Nat.lt_or_ge 65536 bytes.length with many | most
  · exact .inr ⟨_, .long many⟩
  by_cases right : bytes.take 4 = [0x53, 0x47, 0x50, 0x56]
  · have found : bytes[4]? = some bytes[4] := List.getElem?_eq_getElem least
    by_cases current : bytes[4] = 1
    · exact .inl ⟨least, most, by rw [take_five found, right, current]; rfl⟩
    · exact .inr ⟨_, .version most right found current⟩
  · exact .inr ⟨_, .magic least most right⟩

theorem Misheaded.not_headed {fault : EncodingFault} (h : Misheaded bytes fault) :
    ¬Headed bytes := by
  rintro ⟨least, most, header⟩
  have front : bytes.take 4 = [0x53, 0x47, 0x50, 0x56] := by
    rw [show bytes.take 4 = (bytes.take 5).take 4 by simp [List.take_take], header]
    rfl
  cases h with
  | short few => omega
  | long many => omega
  | magic _ _ wrong => exact wrong front
  | version _ _ found wrong =>
      rw [take_five found, front] at header
      exact wrong (by simpa using header)

/-- What becomes of bytes of the right size is decided by their header first. -/
theorem decode_of_header {h : Header} (least : 5 ≤ bytes.length) (most : bytes.length ≤ 65536)
    (front : bytes.take 5 = h.toBytes) (four : h.magic.length = 4) :
    decode bytes =
      match h.validate with
      | .error e => .error e
      | .ok () =>
        match readPayload (bytes.drop 5) with
        | .ok p => .ok p
        | .error e => .error (.encoding (.badPayload e)) := by
  unfold decode
  rw [if_neg (Nat.not_lt.mpr (show headerLength ≤ bytes.length from least)),
    if_neg (Nat.not_lt.mpr (show bytes.length ≤ maxStoredSize from most)),
    Header.ofBytes_of_take front four]
  rfl

theorem decode_of_headed (h : Headed bytes) :
    decode bytes =
      match readPayload (bytes.drop 5) with
      | .ok p => .ok p
      | .error e => .error (.encoding (.badPayload e)) :=
  decode_of_header (h := Header.current) h.least h.most h.header rfl

theorem decode_of_misheaded {fault : EncodingFault} (h : Misheaded bytes fault) :
    decode bytes = .error (.encoding fault) := by
  cases h with
  | short few =>
      unfold decode
      rw [if_pos (show bytes.length < headerLength from few)]
  | long many =>
      unfold decode
      rw [if_neg (show ¬bytes.length < headerLength by unfold headerLength; omega),
        if_pos (show maxStoredSize < bytes.length from many)]
  | magic least most wrong =>
      have front := take_five (List.getElem?_eq_getElem least)
      have four : (bytes.take 4).length = 4 := by simp; omega
      rw [decode_of_header (h := ⟨bytes.take 4, bytes[4]⟩) least most front four]
      simp only [Header.validate, Header.magicBytes, wrong, ne_eq, not_false_eq_true, if_true]
  | @version most right version found wrong =>
      obtain ⟨least, -⟩ := List.getElem?_eq_some_iff.mp found
      have front := take_five found
      rw [right] at front
      rw [decode_of_header (h := ⟨Header.magicBytes, version⟩) least most front rfl]
      simp only [Header.validate, formatVersion, wrong, ne_eq, not_true_eq_false, if_false,
        not_false_eq_true, if_true]

/-- Bytes are read as a value if and only if a written form of it follows the header. -/
theorem decode_ok_iff :
    decode bytes = .ok v ↔
      Headed bytes ∧ ∃ payload rest, bytes.drop 5 = payload ++ rest ∧ Spells payload v := by
  rw [← readPayload_iff]
  rcases headed_or_misheaded bytes with headed | ⟨fault, misheaded⟩
  · rw [decode_of_headed headed]
    split
    next p found => rw [found]; simp [headed]
    next e found => rw [found]; simp
  · rw [decode_of_misheaded misheaded]
    exact iff_of_false (by simp) fun h => misheaded.not_headed h.1

theorem decode_error {cause : Failure} (refused : decode bytes = .error cause) :
    ∃ fault, cause = .encoding fault ∧
      (Misheaded bytes fault ∨ Headed bytes ∧ ∃ e, fault = .badPayload e) := by
  rcases headed_or_misheaded bytes with headed | ⟨fault, misheaded⟩
  · rw [decode_of_headed headed] at refused
    split at refused
    next => cases refused
    next e found => exact ⟨_, (Except.error.inj refused).symm, .inr ⟨headed, e, rfl⟩⟩
  · rw [decode_of_misheaded misheaded] at refused
    exact ⟨fault, (Except.error.inj refused).symm, .inl misheaded⟩

theorem decode_append (read : decode bytes = .ok v) {rest : Bytes}
    (fits : bytes.length + rest.length ≤ 65536) : decode (bytes ++ rest) = .ok v := by
  obtain ⟨⟨least, -, header⟩, payload, after, split, spelled⟩ := decode_ok_iff.mp read
  refine decode_ok_iff.mpr ⟨⟨?_, ?_, ?_⟩, payload, after ++ rest, ?_, spelled⟩
  · rw [List.length_append]; omega
  · rwa [List.length_append]
  · rwa [List.take_append_of_le_length least]
  · rw [List.drop_append_of_le_length least, split, List.append_assoc]

/-! ### Both together -/

/-- The payload of a stored form is a written form of its value. -/
theorem spells_of_encode (encoded : v.encode = .ok bytes) : Spells v.payload v := by
  have bound := exists_encode_iff.mp ⟨bytes, encoded⟩
  exact spells_payload (by omega)

theorem decode_encode (encoded : v.encode = .ok bytes) : decode bytes = .ok v := by
  have spelled := spells_of_encode encoded
  obtain ⟨rfl, most⟩ := encode_ok_iff.mp encoded
  exact decode_ok_iff.mpr
    ⟨⟨by simp, most, rfl⟩, v.payload, [], (List.append_nil _).symm, spelled⟩

/-- What has been read can be stored again, in no more bytes. -/
theorem encode_of_decode (read : decode bytes = .ok v) :
    ∃ stored, v.encode = .ok stored ∧ stored.length ≤ bytes.length := by
  obtain ⟨⟨least, most, header⟩, payload, rest, split, spelled⟩ := decode_ok_iff.mp read
  have total : 5 + (payload.length + rest.length) = bytes.length := by
    rw [← List.length_append, ← split, List.length_drop]
    omega
  have shortest : v.payload.length ≤ payload.length := by
    rcases spelled.shortest with rfl | longer
    · exact Nat.le_refl _
    · exact Nat.le_of_lt longer
  have stored : ([0x53, 0x47, 0x50, 0x56, 1] ++ v.payload).length ≤ bytes.length := by
    simp only [List.length_append, List.length_cons, List.length_nil]
    omega
  exact ⟨_, encode_ok_iff.mpr ⟨rfl, Nat.le_trans stored most⟩, stored⟩

/-! ### What is stored can be read back -/

/-- The bytes are the one shortest written form of the value. -/
structure Shortest (bytes : Bytes) (v : Preference) : Prop where
  spells : Spells bytes v
  least : ∀ other, Spells other v → other = bytes ∨ bytes.length < other.length

/-- Every value has a stored form but texts of more than 65527 bytes.  It has at most 65536 bytes: a
header and the shortest written form of the value.  It is read as the value, alone and with other
bytes behind it. -/
theorem stored_and_read_back (v : Preference) :
    ((∃ bytes, v.encode = .ok bytes) ↔ ¬∃ s, v = .text s ∧ 65527 < (textBytes s).length) ∧
    ∀ bytes, v.encode = .ok bytes →
      bytes.length ≤ 65536 ∧
      (∃ payload, bytes = [0x53, 0x47, 0x50, 0x56, 1] ++ payload ∧ Shortest payload v) ∧
      ∀ rest : Bytes, bytes.length + rest.length ≤ 65536 → decode (bytes ++ rest) = .ok v := by
  constructor
  · rw [exists_encode_iff, length_payload_le_iff]
    simp only [not_exists, not_and, Nat.not_lt]
  · intro bytes encoded
    obtain ⟨whole, most⟩ := encode_ok_iff.mp encoded
    refine ⟨most, ⟨v.payload, whole, spells_of_encode encoded, fun _ h => h.shortest⟩, ?_⟩
    exact fun rest fits => decode_append (decode_encode encoded) fits

/-- A text of two bytes has a stored form.  The smallest number takes all ten bytes that a number
may take, and is read back although two more bytes follow. -/
theorem stored_and_read_back_smallest :
    (∃ bytes, (Preference.text "é").encode = .ok bytes) ∧
    ∃ bytes, (Preference.number Int64.minValue).encode = .ok bytes ∧ bytes.length = 16 ∧
      decode (bytes ++ [0xff, 0]) = .ok (.number Int64.minValue) := by
  constructor
  · refine (stored_and_read_back (.text "é")).1.mpr ?_
    rintro ⟨s, same, long⟩
    obtain rfl := Preference.text.inj same
    exact absurd long (by decide +kernel)
  · have encoded : (Preference.number Int64.minValue).encode = .ok [0x53, 0x47, 0x50, 0x56, 1, 1,
        0xff, 0xff, 0xff, 0xff, 0xff, 0xff, 0xff, 0xff, 0xff, 1] := by decide +kernel
    obtain ⟨-, -, read⟩ := (stored_and_read_back _).2 _ encoded
    exact ⟨_, encoded, rfl, read [0xff, 0] (by decide)⟩

/-! ### What is read -/

/-- Bytes are read as a value if and only if they have the size of a stored form, begin with its
header, and go on with a written form of the value.  All others are refused with a failure of one
class.  What is wrong with their size or else with their header is told before the payload is looked
at.  A value that has been read has a stored form, which is no longer than what it was read from. -/
theorem read_exactly (bytes : Bytes) :
    (∀ v, decode bytes = .ok v ↔
      Headed bytes ∧ ∃ payload rest, bytes.drop 5 = payload ++ rest ∧ Spells payload v) ∧
    (∀ cause, decode bytes = .error cause → cause.kind = .serialization ∧
      ∃ fault, cause = .encoding fault ∧
        (Misheaded bytes fault ∨ Headed bytes ∧ ∃ e, fault = .badPayload e)) ∧
    (∀ fault, Misheaded bytes fault → decode bytes = .error (.encoding fault)) ∧
    ∀ v, decode bytes = .ok v →
      ∃ stored, v.encode = .ok stored ∧ stored.length ≤ bytes.length ∧ decode stored = .ok v := by
  refine ⟨fun v => decode_ok_iff, ?_, fun fault => decode_of_misheaded, ?_⟩
  · intro cause refused
    obtain ⟨fault, rfl, why⟩ := decode_error refused
    refine ⟨?_, fault, rfl, why⟩
    rcases why with misheaded | ⟨-, e, rfl⟩
    · cases misheaded <;> rfl
    · rfl
  · intro v read
    obtain ⟨stored, encoded, shorter⟩ := encode_of_decode read
    exact ⟨stored, encoded, shorter, decode_encode encoded⟩

/-- The index in three bytes, a number in two and another byte behind it; the number has a stored
form of seven bytes.  Another version is told whatever follows it. -/
theorem read_exactly_overlong :
    (∃ stored, decode [0x53, 0x47, 0x50, 0x56, 1, 0x81, 0x80, 0, 0x82, 0, 0xff] = .ok (.number 1) ∧
      (Preference.number 1).encode = .ok stored ∧ stored.length ≤ 11) ∧
    decode [0x53, 0x47, 0x50, 0x56, 2, 0, 1] = .error (.encoding (.badVersion 2)) := by
  constructor
  · have read : decode [0x53, 0x47, 0x50, 0x56, 1, 0x81, 0x80, 0, 0x82, 0, 0xff] =
        .ok (.number 1) := by decide +kernel
    obtain ⟨stored, encoded, shorter, -⟩ := (read_exactly _).2.2.2 _ read
    exact ⟨stored, read, encoded, shorter⟩
  · exact (read_exactly _).2.2.1 _ (.version (by decide) rfl rfl (by decide))

/-! ### What is cut short -/

/-- A stored form that has been cut short is not read as any value.  So no stored form begins with
that of another value. -/
theorem cut_short_refused (encoded : v.encode = .ok bytes) :
    (∀ front, front <+: bytes → front ≠ bytes → ∃ cause, decode front = .error cause) ∧
    ∀ w stored, w.encode = .ok stored → bytes <+: stored → v = w := by
  have most := (encode_ok_iff.mp encoded).2
  constructor
  · rintro front ⟨rest, rfl⟩ strict
    rw [List.length_append] at most
    cases read : decode front with
    | error cause => exact ⟨cause, rfl⟩
    | ok u =>
        -- The whole is then read as the same value, whose stored form is no longer than `front`.
        have same : v = u :=
          Except.ok.inj ((decode_encode encoded).symm.trans (decode_append read most))
        subst same
        obtain ⟨stored, again, shorter⟩ := encode_of_decode read
        obtain rfl := Except.ok.inj (again.symm.trans encoded)
        have none : rest = [] := by
          rw [List.length_append] at shorter
          exact List.length_eq_zero_iff.mp (by omega)
        exact absurd (by rw [none, List.append_nil]) strict
  · rintro w stored encoded' ⟨rest, rfl⟩
    have most' := (encode_ok_iff.mp encoded').2
    rw [List.length_append] at most'
    exact Except.ok.inj
      ((decode_append (decode_encode encoded) most').symm.trans (decode_encode encoded'))

/-- A text of two bytes, cut between them. -/
theorem cut_short_refused_within :
    (Preference.text "é").encode = .ok [0x53, 0x47, 0x50, 0x56, 1, 2, 2, 0xc3, 0xa9] ∧
    ∃ cause, decode [0x53, 0x47, 0x50, 0x56, 1, 2, 2, 0xc3] = .error cause := by
  have encoded : (Preference.text "é").encode =
      .ok [0x53, 0x47, 0x50, 0x56, 1, 2, 2, 0xc3, 0xa9] := by decide +kernel
  exact ⟨encoded, (cut_short_refused encoded).1 _ ⟨[0xa9], rfl⟩ (by decide)⟩

end Preference

end CaptureFlow
