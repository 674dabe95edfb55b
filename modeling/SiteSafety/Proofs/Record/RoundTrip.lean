import SiteSafety.Proofs.Record.WordCodec

namespace SiteSafety.Record

open Binary64 (length_toBytes)

theorem byteAt_append (written rest : List UInt8) (offset : Nat) :
    byteAt (written ++ rest) (written.length + offset) = byteAt rest offset := by
  simp only [byteAt, List.getD_eq_getElem?_getD,
    List.getElem?_append_right (Nat.le_add_right written.length offset), Nat.add_sub_cancel_left]

theorem wordAt_append (written rest : List UInt8) (offset : Nat) :
    wordAt (written ++ rest) (written.length + offset) = wordAt rest offset := by
  simp only [wordAt, Nat.add_assoc, byteAt_append]

theorem wordAt_toBytes (w : Binary64) (rest : List UInt8) : wordAt (w.toBytes ++ rest) 0 = w :=
  Binary64.ofBytes_toBytes w

theorem wordAt_flatMap (words : List Binary64) (rest : List UInt8) (i : Nat) (hi : i < words.length) :
    wordAt (words.flatMap Binary64.toBytes ++ rest) (8 * i) = words[i] := by
  induction words generalizing i with
  | nil => exact absurd hi (Nat.not_lt_zero i)
  | cons w words ih =>
      rw [List.flatMap_cons, List.append_assoc]
      cases i with
      | zero => exact wordAt_toBytes w _
      | succ i =>
          have hlt : i < words.length := Nat.lt_of_succ_lt_succ hi
          have ho : 8 * (i + 1) = w.toBytes.length + 8 * i := by rw [length_toBytes]; omega
          rw [ho, wordAt_append, ih i hlt, List.getElem_cons_succ]

def header (r : Record) : List UInt8 :=
  [r.context.tag, flagByte r.conservationOk] ++ r.reservedFlags.toList

theorem length_header (r : Record) : r.header.length = Layout.headerLength := by
  simp [header, Layout.headerLength]

theorem length_words (r : Record) : r.words.length = Layout.wordCount := rfl

theorem encode_eq (r : Record) :
    r.encode = r.header ++ (r.words.flatMap Binary64.toBytes ++ r.reserved.toList) := by
  rw [encode, header, List.append_assoc _ _ r.reserved.toList]

theorem length_encode (r : Record) : r.encode.length = Layout.recordLength := by
  rw [encode_eq, List.length_append, List.length_append, length_header,
    Binary64.length_flatMap_toBytes, length_words, Vector.length_toList]
  rfl

theorem wordAt_encode (r : Record) (rest : List UInt8) (i : Nat) (hi : i < Layout.wordCount) :
    wordAt (r.encode ++ rest) (Layout.wordOffset i) = r.words.get ⟨i, hi⟩ := by
  have ho : Layout.wordOffset i = r.header.length + 8 * i := by
    rw [length_header, Layout.wordOffset, Nat.mul_comm]
  rw [encode_eq, List.append_assoc, List.append_assoc, ho, wordAt_append,
    wordAt_flatMap r.words _ i hi]
  rfl

theorem byteAt_reserved (r : Record) (rest : List UInt8) (i : Nat) (hi : i < 16) :
    byteAt (r.encode ++ rest) (Layout.paddingOffset + i) = r.reserved[i] := by
  have ho : Layout.paddingOffset + i =
      (r.header ++ r.words.flatMap Binary64.toBytes).length + i := by
    rw [List.length_append, length_header, Binary64.length_flatMap_toBytes, length_words]
    rfl
  rw [encode_eq, ← List.append_assoc, List.append_assoc, ho, byteAt_append]
  simp [byteAt, hi, List.getElem?_append_left]

theorem byteAt_reservedFlags (r : Record) (rest : List UInt8) (i : Nat) (hi : i < 2) :
    byteAt (r.encode ++ rest) (2 + i) = r.reservedFlags[i] := by
  have ho : 2 + i = [r.context.tag, flagByte r.conservationOk].length + i := rfl
  rw [encode_eq, header, List.append_assoc, List.append_assoc, ho, byteAt_append]
  simp [byteAt, hi, List.getElem?_append_left]

theorem eq_of_words {a b : Record} (hcontext : a.context = b.context)
    (hok : a.conservationOk = b.conservationOk) (hflags : a.reservedFlags = b.reservedFlags)
    (hwords : a.words = b.words) (hreserved : a.reserved = b.reserved) : a = b := by
  rcases a with ⟨_, _, _, ⟨_, _, _, _⟩, ⟨_, _, _, _⟩, ⟨_, _, _⟩, ⟨_, _, _⟩, ⟨_, _⟩, _⟩
  rcases b with ⟨_, _, _, ⟨_, _, _, _⟩, ⟨_, _, _, _⟩, ⟨_, _, _⟩, ⟨_, _, _⟩, ⟨_, _⟩, _⟩
  simp only [words, Panel.toList, List.cons_append, List.nil_append, List.cons.injEq] at hwords
  grind

theorem words_ofBytes (context : Context) (ok : Bool) (bytes : List UInt8) :
    (ofBytes context ok bytes).words =
      (List.range Layout.wordCount).map fun i => wordAt bytes (Layout.wordOffset i) := rfl

theorem ofBytes_encode (r : Record) (rest : List UInt8) :
    ofBytes r.context r.conservationOk (r.encode ++ rest) = r := by
  apply eq_of_words
  · rfl
  · rfl
  · ext i hi
    rw [ofBytes, Vector.getElem_ofFn, byteAt_reservedFlags r rest i hi]
  · rw [words_ofBytes]
    apply List.ext_getElem
    · simp [length_words]
    · intro i hi _
      rw [List.length_map, List.length_range] at hi
      rw [List.getElem_map, List.getElem_range]
      exact wordAt_encode r rest i hi
  · ext i hi
    rw [ofBytes, Vector.getElem_ofFn, byteAt_reserved r rest i hi]

theorem ofTag?_tag (c : Context) : Context.ofTag? c.tag = some c := by
  cases c <;> rfl

theorem flagOf?_flagByte (b : Bool) : flagOf? (flagByte b) = some b := by
  cases b <;> rfl

theorem decode_encode (r : Record) (rest : List UInt8) : decode (r.encode ++ rest) = .ok r := by
  have hlen : ¬ (r.encode ++ rest).length < Layout.recordLength := by
    rw [List.length_append, length_encode]
    omega
  have htag : byteAt (r.encode ++ rest) 0 = r.context.tag := rfl
  have hflag : byteAt (r.encode ++ rest) Layout.conservationOffset = flagByte r.conservationOk := rfl
  simp only [decode, if_neg hlen, htag, hflag, ofTag?_tag, flagOf?_flagByte, ofBytes_encode]

theorem encodeOnto_eq (written : List UInt8) (records : List Record) :
    encodeOnto written records = written ++ records.flatMap encode := by
  induction records generalizing written with
  | nil => simp [encodeOnto]
  | cons r records ih =>
      rw [List.flatMap_cons, ← List.append_assoc]
      exact ih (written ++ r.encode)

theorem length_flatMap_encode (records : List Record) :
    (records.flatMap encode).length = Layout.recordLength * records.length := by
  induction records with
  | nil => rfl
  | cons r records ih => rw [List.flatMap_cons, List.length_append, length_encode, ih,
      List.length_cons, Nat.mul_add, Nat.mul_one, Nat.add_comm]

theorem drop_flatMap_encode (records : List Record) (k : Nat) :
    (records.flatMap encode).drop (Layout.recordLength * k) = (records.drop k).flatMap encode := by
  induction records generalizing k with
  | nil => simp
  | cons r records ih =>
      cases k with
      | zero => rfl
      | succ k =>
          have ho : Layout.recordLength * (k + 1) = r.encode.length + Layout.recordLength * k := by
            rw [length_encode, Nat.mul_add, Nat.mul_one, Nat.add_comm]
          rw [List.flatMap_cons, ho, List.drop_length_add_append, ih k, List.drop_succ_cons]

theorem sameBits_self (r : Record) : sameBits r r = true := by
  have hz (ws : List Binary64) : ((ws.zip ws).all fun p => p.1.bits == p.2.bits) = true := by
    induction ws with
    | nil => rfl
    | cons w ws ih => simpa using ih
  simp [sameBits, sameMarks, hz r.words]

/-- Records written one after the other are read back one by one, bit for bit, each from its own
offset and whatever follows it. -/
theorem decode_encodeOnto (written trailing : List UInt8) (records : List Record) :
    (encodeOnto written records).length = written.length + 148 * records.length ∧
    (encodeOnto written records).take written.length = written ∧
    ∀ k : Fin records.length, ∃ r,
      decode ((encodeOnto written records ++ trailing).drop (written.length + 148 * k)) = .ok r ∧
      sameBits r records[k] = true ∧ r = records[k] := by
  refine ⟨?_, ?_, ?_⟩
  · rw [encodeOnto_eq, List.length_append, length_flatMap_encode]
    rfl
  · rw [encodeOnto_eq, List.take_left]
  · intro k
    refine ⟨records[k], ?_, sameBits_self _, rfl⟩
    have hk : records.drop k = records[k] :: records.drop (k + 1) := List.drop_eq_getElem_cons k.isLt
    have hdrop := drop_flatMap_encode records k
    rw [hk, List.flatMap_cons] at hdrop
    have hle : 148 * k.val ≤ (records.flatMap encode).length := by
      rw [length_flatMap_encode, Layout.recordLength, Layout.paddingOffset, Layout.headerLength,
        Layout.wordCount, Layout.paddingLength]
      omega
    rw [encodeOnto_eq, List.append_assoc, List.drop_length_add_append,
      List.drop_append_of_le_length hle]
    change decode ((records.flatMap encode).drop (Layout.recordLength * k.val) ++ trailing) = _
    rw [hdrop, List.append_assoc, decode_encode]

end SiteSafety.Record
