import SiteSafety.Proofs.Record.RoundTrip

namespace SiteSafety.Record

theorem ofFn_byteAt (bytes : List UInt8) (offset n : Nat) (h : offset + n ≤ bytes.length) :
    (List.ofFn fun i : Fin n => byteAt bytes (offset + i)) = (bytes.drop offset).take n := by
  apply List.ext_getElem
  · rw [List.length_ofFn, List.length_take, List.length_drop]
    omega
  · intro i hi _
    rw [List.length_ofFn] at hi
    have hlt : offset + i < bytes.length := by omega
    simp [byteAt, hlt]

theorem toBytes_wordAt (bytes : List UInt8) (offset : Nat) (h : offset + 8 ≤ bytes.length) :
    (wordAt bytes offset).toBytes = (bytes.drop offset).take 8 := by
  rw [← ofFn_byteAt bytes offset 8 h, wordAt, Binary64.toBytes_ofBytes]
  rfl

theorem flatMap_wordAt (bytes : List UInt8) (n : Nat)
    (h : Layout.headerLength + 8 * n ≤ bytes.length) :
    ((List.range n).map fun i => wordAt bytes (Layout.wordOffset i)).flatMap Binary64.toBytes =
      (bytes.drop Layout.headerLength).take (8 * n) := by
  induction n with
  | zero => simp
  | succ n ih =>
      have ho : Layout.headerLength + 8 * n = Layout.wordOffset n := by
        rw [Layout.wordOffset, Nat.mul_comm]
      rw [List.range_succ, List.map_append, List.flatMap_append, ih (by omega), Nat.mul_add,
        List.take_add, List.drop_drop, ho]
      simp only [List.map_cons, List.map_nil, List.flatMap_cons, List.flatMap_nil, List.append_nil,
        Nat.mul_one]
      rw [toBytes_wordAt bytes (Layout.wordOffset n) (by omega)]

theorem encode_ofBytes (context : Context) (ok : Bool) (bytes : List UInt8)
    (h : Layout.recordLength ≤ bytes.length) :
    (ofBytes context ok bytes).encode =
      [context.tag, flagByte ok] ++ (bytes.drop 2).take (Layout.recordLength - 2) := by
  simp only [Layout.recordLength, Layout.paddingOffset, Layout.headerLength, Layout.wordCount,
    Layout.paddingLength] at h
  have hsplit : (bytes.drop 2).take (Layout.recordLength - 2) =
      (bytes.drop 2).take 2 ++ ((bytes.drop Layout.headerLength).take (8 * Layout.wordCount) ++
        (bytes.drop Layout.paddingOffset).take 16) := by
    change (bytes.drop 2).take (2 + (128 + 16)) = _
    rw [List.take_add, List.take_add, List.drop_drop, List.drop_drop]
    rfl
  have hflags : (ofBytes context ok bytes).reservedFlags.toList = (bytes.drop 2).take 2 := by
    rw [ofBytes, Vector.toList_ofFn, ofFn_byteAt bytes 2 2 (by omega)]
  have hreserved : (ofBytes context ok bytes).reserved.toList =
      (bytes.drop Layout.paddingOffset).take 16 := by
    have hle : Layout.paddingOffset + 16 ≤ bytes.length := by
      rw [Layout.paddingOffset, Layout.headerLength, Layout.wordCount]
      omega
    rw [ofBytes, Vector.toList_ofFn, ofFn_byteAt bytes _ 16 hle]
  have hwords := flatMap_wordAt bytes Layout.wordCount (by
    rw [Layout.headerLength, Layout.wordCount]
    omega)
  rw [encode_eq, header, hflags, words_ofBytes, hwords, hreserved, hsplit, List.append_assoc]
  rfl

theorem ofTag?_eq_some {tag : UInt8} {c : Context} : Context.ofTag? tag = some c ↔ tag = c.tag := by
  unfold Context.ofTag?
  cases c <;> split <;> simp_all [Context.tag]

theorem flagOf?_eq_some {value : UInt8} {b : Bool} : flagOf? value = some b ↔ value = flagByte b := by
  unfold flagOf?
  cases b <;> split <;> simp_all [flagByte]

theorem decode_short {bytes : List UInt8} (h : bytes.length < Layout.recordLength) :
    decode bytes = .error (.shortBuffer Layout.recordLength bytes.length) := by
  rw [decode, if_pos h]

theorem exists_marks {bytes : List UInt8} (h : Layout.recordLength ≤ bytes.length) :
    ∃ tag flag rest, bytes = tag :: flag :: rest := by
  match bytes, h with
  | tag :: flag :: rest, _ => exact ⟨tag, flag, rest, rfl⟩

theorem decode_long {tag flag : UInt8} {rest : List UInt8}
    (h : Layout.recordLength ≤ (tag :: flag :: rest).length) :
    decode (tag :: flag :: rest) =
      match Context.ofTag? tag, flagOf? flag with
      | none, _ => .error (.unknownContext tag)
      | some _, none => .error (.invalidFlag 1 flag)
      | some context, some ok => .ok (ofBytes context ok (tag :: flag :: rest)) := by
  have htag : byteAt (tag :: flag :: rest) 0 = tag := rfl
  have hflag : byteAt (tag :: flag :: rest) Layout.conservationOffset = flag := rfl
  simp only [decode, if_neg (Nat.not_lt.mpr h), htag, hflag]
  cases Context.ofTag? tag with
  | none => rfl
  | some context => cases flagOf? flag <;> rfl

theorem encode_decode {bytes : List UInt8} {r : Record} (h : decode bytes = .ok r) :
    r.encode = bytes.take Layout.recordLength := by
  by_cases hshort : bytes.length < Layout.recordLength
  · rw [decode_short hshort] at h
    cases h
  · have hlen := Nat.le_of_not_lt hshort
    obtain ⟨tag, flag, rest, rfl⟩ := exists_marks hlen
    rw [decode_long hlen] at h
    cases hc : Context.ofTag? tag with
    | none => simp [hc] at h
    | some context =>
        cases ho : flagOf? flag with
        | none => simp [hc, ho] at h
        | some ok =>
            simp only [hc, ho, Except.ok.injEq] at h
            rw [← h, encode_ofBytes context ok _ hlen, ← ofTag?_eq_some.mp hc,
              ← flagOf?_eq_some.mp ho]
            rfl

theorem zero_or_one (b : UInt8) : b = 0 ∨ b = 1 ↔ ¬ 1 < b := by
  rw [← UInt8.toNat_inj, ← UInt8.toNat_inj, UInt8.lt_iff_toNat_lt]
  change b.toNat = 0 ∨ b.toNat = 1 ↔ ¬ 1 < b.toNat
  omega

theorem ofTag?_eq_none (tag : UInt8) : Context.ofTag? tag = none ↔ 1 < tag := by
  have h := zero_or_one tag
  unfold Context.ofTag?
  grind

theorem flagOf?_eq_none (value : UInt8) : flagOf? value = none ↔ 1 < value := by
  have h := zero_or_one value
  unfold flagOf?
  grind

/-- Reading accepts exactly the bytes of a record, of which it forgets none; a refusal names the
first fault. -/
theorem decode_canonical (bytes : List UInt8) :
    ((∃ r, decode bytes = .ok r) ↔
      148 ≤ bytes.length ∧ (bytes[0]? = some 0 ∨ bytes[0]? = some 1) ∧
        (bytes[1]? = some 0 ∨ bytes[1]? = some 1)) ∧
    (∀ r, decode bytes = .ok r → r.encode = bytes.take 148) ∧
    (bytes.length < 148 → decode bytes = .error (.shortBuffer 148 bytes.length)) ∧
    (148 ≤ bytes.length → ∀ tag, bytes[0]? = some tag → 1 < tag →
      decode bytes = .error (.unknownContext tag)) ∧
    (148 ≤ bytes.length → (bytes[0]? = some 0 ∨ bytes[0]? = some 1) →
      ∀ flag, bytes[1]? = some flag → 1 < flag → decode bytes = .error (.invalidFlag 1 flag)) := by
  by_cases hshort : bytes.length < Layout.recordLength
  · have hdecode := decode_short hshort
    change bytes.length < 148 at hshort
    refine ⟨⟨fun ⟨r, hr⟩ => ?_, fun h => by omega⟩, fun r => encode_decode, fun _ => hdecode,
      fun h => by omega, fun h => by omega⟩
    rw [hdecode] at hr
    cases hr
  · have hlen : 148 ≤ bytes.length := Nat.le_of_not_lt hshort
    obtain ⟨tag, flag, rest, rfl⟩ := exists_marks hlen
    have hdecode := decode_long hlen
    simp only [List.getElem?_cons_zero, List.getElem?_cons_succ, Option.some.injEq]
    refine ⟨?_, fun r => encode_decode, fun h => absurd h hshort, ?_, ?_⟩
    · simp only [hlen, true_and, zero_or_one, ← ofTag?_eq_none tag,
        ← flagOf?_eq_none flag, hdecode]
      cases Context.ofTag? tag with
      | none => simp
      | some context => cases flagOf? flag <;> simp
    · rintro - t rfl ht
      rw [hdecode, (ofTag?_eq_none tag).mpr ht]
    · rintro - htag f rfl hf
      have hc : Context.ofTag? tag ≠ none := by
        rw [ne_eq, ofTag?_eq_none, ← zero_or_one]
        exact htag
      obtain ⟨context, hcontext⟩ := Option.ne_none_iff_exists'.mp hc
      rw [hdecode, hcontext, (flagOf?_eq_none flag).mpr hf]

end SiteSafety.Record
