import SiteSafety.Text.Encoding

namespace SiteSafety.Text

open String (utf8EncodeChar)

theorem toList_loop_eq (bytes : ByteArray) (i : Nat) (read : List UInt8) :
    ByteArray.toList.loop bytes i read = read.reverse ++ bytes.data.toList.drop i := by
  induction i, read using ByteArray.toList.loop.induct bytes with
  | case1 i read hlt ih =>
      have hi : i < bytes.data.toList.length := hlt
      have hget : bytes.get! i = bytes.data.toList[i] := getElem!_pos bytes.data i hlt
      rw [ByteArray.toList.loop, if_pos hlt, ih, List.drop_eq_getElem_cons hi, hget,
        List.reverse_cons, List.append_assoc, List.singleton_append]
  | case2 i read hge =>
      have hi : bytes.data.toList.length ≤ i := Nat.le_of_not_lt hge
      rw [ByteArray.toList.loop, if_neg hge, List.drop_eq_nil_of_le hi, List.append_nil]

theorem encode_eq (s : String) : encode s = s.toList.flatMap utf8EncodeChar := by
  rw [encode, ByteArray.toList, toList_loop_eq, ← String.utf8Encode_toList, List.utf8Encode,
    List.toList_data_toByteArray]
  rfl

theorem encode_ofList (cs : List Char) : encode (String.ofList cs) = cs.flatMap utf8EncodeChar := by
  rw [encode_eq, String.toList_ofList]

theorem firstChar?_append (c : Char) (rest : List UInt8) :
    firstChar? (utf8EncodeChar c ++ rest) = some c := by
  have hlength : (utf8EncodeChar c).length ≤ 4 := by
    rw [String.length_utf8EncodeChar]
    exact c.utf8Size_le_four
  rw [firstChar?, List.take_append, List.take_of_length_le hlength, List.toByteArray_append]
  exact ByteArray.utf8DecodeChar?_utf8EncodeChar_append

theorem charsFrom_append (start : Nat) (c : Char) (rest : List UInt8) :
    charsFrom start (utf8EncodeChar c ++ rest) =
      (charsFrom (start + c.utf8Size) rest).map (c :: ·) := by
  have hfirst := firstChar?_append c rest
  have hdrop : (utf8EncodeChar c ++ rest).drop c.utf8Size = rest :=
    List.drop_left' (String.length_utf8EncodeChar c)
  have hne : utf8EncodeChar c ++ rest ≠ [] :=
    fun h => String.utf8EncodeChar_ne_nil (List.append_eq_nil_iff.mp h).1
  generalize utf8EncodeChar c ++ rest = bytes at hfirst hdrop hne
  cases bytes with
  | nil => exact absurd rfl hne
  | cons b bytes =>
      rw [charsFrom]
      simp only [hfirst, hdrop]

theorem charsFrom_flatMap (start : Nat) (cs : List Char) :
    charsFrom start (cs.flatMap utf8EncodeChar) = .ok cs := by
  induction cs generalizing start with
  | nil => rw [List.flatMap_nil, charsFrom]
  | cons c cs ih =>
      rw [List.flatMap_cons, charsFrom_append, ih]
      rfl

theorem decode_encode (s : String) : decode (encode s) = .ok s := by
  rw [decode, encode_eq, charsFrom_flatMap]
  exact congrArg Except.ok String.ofList_toList

theorem utf8EncodeChar_of_ascii {c : Char} (h : c.toNat < 128) :
    utf8EncodeChar c = [UInt8.ofNat c.toNat] :=
  if_pos (Nat.le_of_lt_succ h)

theorem le_of_mem_utf8EncodeChar {c : Char} (h : 128 ≤ c.toNat) {b : UInt8}
    (hb : b ∈ utf8EncodeChar c) : 128 ≤ b.toNat := by
  have hv : ¬ c.val.toNat ≤ 127 := Nat.not_le_of_lt h
  simp only [utf8EncodeChar, if_neg hv] at hb
  split at hb
  · simp only [List.mem_cons, List.not_mem_nil, or_false] at hb
    rcases hb with rfl | rfl <;> simp only [UInt8.toNat_ofNat'] <;> omega
  · split at hb
    · simp only [List.mem_cons, List.not_mem_nil, or_false] at hb
      rcases hb with rfl | rfl | rfl <;> simp only [UInt8.toNat_ofNat'] <;> omega
    · simp only [List.mem_cons, List.not_mem_nil, or_false] at hb
      rcases hb with rfl | rfl | rfl | rfl <;> simp only [UInt8.toNat_ofNat'] <;> omega

theorem utf8EncodeChar_lt {c d : Char} (h : c < d) (x y : List UInt8) :
    utf8EncodeChar c ++ x < utf8EncodeChar d ++ y := by
  have hlt : c.val.toNat < d.val.toNat := h
  have hd : d.val.toNat < 0x110000 := by
    have := d.valid
    simp only [UInt32.isValidChar, Nat.isValidChar] at this
    omega
  simp only [utf8EncodeChar]
  -- a longer form starts with a greater byte, and forms of one length differ first where the digits
  -- to base 64 do
  repeat' split
  all_goals
    simp (disch := omega) only [List.cons_append, List.nil_append, List.cons_lt_cons_iff,
      UInt8.lt_iff_toNat_lt, ← UInt8.toNat_inj, UInt8.toNat_ofNat', Nat.mod_eq_of_lt]
    omega

theorem flatMap_lt {cs ds : List Char} (h : cs < ds) :
    cs.flatMap utf8EncodeChar < ds.flatMap utf8EncodeChar := by
  induction h with
  | @nil d ds =>
      rw [List.flatMap_nil, List.flatMap_cons]
      cases hd : utf8EncodeChar d with
      | nil => exact absurd hd String.utf8EncodeChar_ne_nil
      | cons b bytes => exact List.nil_lt_cons b _
  | rel h =>
      rw [List.flatMap_cons, List.flatMap_cons]
      exact utf8EncodeChar_lt h _ _
  | cons h ih =>
      rw [List.flatMap_cons, List.flatMap_cons]
      exact List.append_left_lt ih

theorem encode_lt_encode {s t : String} : encode s < encode t ↔ s < t := by
  have hmono {s t : String} (h : s < t) : encode s < encode t := by
    rw [encode_eq, encode_eq]
    exact flatMap_lt (String.lt_iff.mp h)
  refine ⟨fun h => Decidable.byContradiction fun hlt => ?_, hmono⟩
  by_cases heq : t = s
  · exact List.lt_irrefl _ (heq ▸ h)
  · exact List.lt_asymm h (hmono (Std.lt_of_le_of_ne (String.not_lt.mp hlt) heq))

end SiteSafety.Text

namespace SiteSafety.Hex

theorem value?_digit (n : Nat) : value? (digit n) = some (n % 16) := by
  have h : ∀ d < 16, value? (Nat.digitChar d) = some d := by decide
  exact h (n % 16) (Nat.mod_lt n (by decide))

theorem nat?_byteChars (b : UInt8) : nat? [digit (b.toNat / 16), digit b.toNat] = some b.toNat := by
  have hb : b.toNat < 256 := b.toNat_lt
  have hsplit : 16 * (b.toNat / 16 % 16) + b.toNat % 16 = b.toNat := by omega
  simp [nat?, value?_digit, hsplit]

theorem bytes?_flatMap (bytes : List UInt8) : bytes? (bytes.flatMap byteChars) = some bytes := by
  induction bytes with
  | nil => rfl
  | cons b bytes ih =>
      rw [List.flatMap_cons, byteChars, List.cons_append, List.cons_append, List.nil_append, bytes?,
        nat?_byteChars, ih]
      simp

theorem decode?_encode (bytes : List UInt8) : decode? (encode bytes) = some bytes := by
  rw [decode?, encode, String.toList_ofList, bytes?_flatMap]

end SiteSafety.Hex
