import CargoTracking.Identifier

/-!
# The order of bytes

Texts are compared character by character.  Their bytes in UTF-8 are in the same order: a character
with more bytes begins with a greater one, and of two characters with as many bytes the greater one
has the first greater byte.
-/

namespace CargoTracking.Text

/-- The bytes of a text in UTF-8. -/
def bytes (text : String) : List UInt8 := text.toUTF8.data.toList

theorem bytes_eq_flatMap (text : String) :
    bytes text = text.toList.flatMap String.utf8EncodeChar := by
  have h : text.toUTF8 = (text.toList.flatMap String.utf8EncodeChar).toByteArray :=
    String.utf8Encode_toList.symm
  rw [bytes, h, List.toList_data_toByteArray]

/-- The bytes come before the others, whatever follows either of them. -/
def Below (bs bs' : List UInt8) : Prop := ∀ rest rest', bs ++ rest < bs' ++ rest'

theorem below_of_lt {m n : Nat} (bs bs' : List UInt8) (h : m < n) (hn : n < 256) :
    Below (UInt8.ofNat m :: bs) (UInt8.ofNat n :: bs') := by
  intro rest rest'
  have hlt : UInt8.ofNat m < UInt8.ofNat n := by
    rw [UInt8.lt_iff_toNat_lt, UInt8.toNat_ofNat_of_lt' (Nat.lt_trans h hn),
      UInt8.toNat_ofNat_of_lt' hn]
    exact h
  exact List.cons_lt_cons_iff.mpr (.inl hlt)

theorem below_of_le {m n : Nat} {bs bs' : List UInt8} (h : m ≤ n) (hn : n < 256)
    (hrest : m = n → Below bs bs') : Below (UInt8.ofNat m :: bs) (UInt8.ofNat n :: bs') := by
  rcases Nat.lt_or_eq_of_le h with hlt | heq
  · exact below_of_lt bs bs' hlt hn
  · intro rest rest'
    exact List.cons_lt_cons_iff.mpr (.inr ⟨congrArg UInt8.ofNat heq, hrest heq rest rest'⟩)

/-! ## Characters -/

section Characters

variable {c d : Char}

theorem encode_one (h : c.val.toNat ≤ 127) :
    String.utf8EncodeChar c = [UInt8.ofNat c.val.toNat] := if_pos h

theorem encode_two (h : 127 < c.val.toNat) (h' : c.val.toNat ≤ 2047) :
    String.utf8EncodeChar c =
      [UInt8.ofNat (c.val.toNat / 64 % 32 + 192), UInt8.ofNat (c.val.toNat % 64 + 128)] := by
  unfold String.utf8EncodeChar
  rw [if_neg (by omega), if_pos h']

theorem encode_three (h : 2047 < c.val.toNat) (h' : c.val.toNat ≤ 65535) :
    String.utf8EncodeChar c =
      [UInt8.ofNat (c.val.toNat / 4096 % 16 + 224), UInt8.ofNat (c.val.toNat / 64 % 64 + 128),
        UInt8.ofNat (c.val.toNat % 64 + 128)] := by
  unfold String.utf8EncodeChar
  rw [if_neg (by omega), if_neg (by omega), if_pos h']

theorem encode_four (h : 65535 < c.val.toNat) :
    String.utf8EncodeChar c =
      [UInt8.ofNat (c.val.toNat / 262144 % 8 + 240), UInt8.ofNat (c.val.toNat / 4096 % 64 + 128),
        UInt8.ofNat (c.val.toNat / 64 % 64 + 128), UInt8.ofNat (c.val.toNat % 64 + 128)] := by
  unfold String.utf8EncodeChar
  rw [if_neg (by omega), if_neg (by omega), if_neg (by omega)]

theorem toNat_val_lt (c : Char) : c.val.toNat < 1114112 :=
  c.valid.elim (fun h => Nat.lt_trans h (by decide)) And.right

/-- The lead byte decides between characters of different lengths; of one length the digits in base
64 are compared from the first to the last. -/
theorem below_encode (h : c < d) : Below (String.utf8EncodeChar c) (String.utf8EncodeChar d) := by
  have hlt : c.val.toNat < d.val.toNat := h
  have hlast := toNat_val_lt d
  by_cases hone : c.val.toNat ≤ 127
  · rw [encode_one hone]
    by_cases hone' : d.val.toNat ≤ 127
    · rw [encode_one hone']
      exact below_of_lt _ _ hlt (by omega)
    by_cases htwo' : d.val.toNat ≤ 2047
    · rw [encode_two (by omega) htwo']
      exact below_of_lt _ _ (by omega) (by omega)
    by_cases hthree' : d.val.toNat ≤ 65535
    · rw [encode_three (by omega) hthree']
      exact below_of_lt _ _ (by omega) (by omega)
    · rw [encode_four (by omega)]
      exact below_of_lt _ _ (by omega) (by omega)
  by_cases htwo : c.val.toNat ≤ 2047
  · rw [encode_two (by omega) htwo]
    by_cases htwo' : d.val.toNat ≤ 2047
    · rw [encode_two (by omega) htwo']
      exact below_of_le (by omega) (by omega) fun _ => below_of_lt _ _ (by omega) (by omega)
    by_cases hthree' : d.val.toNat ≤ 65535
    · rw [encode_three (by omega) hthree']
      exact below_of_lt _ _ (by omega) (by omega)
    · rw [encode_four (by omega)]
      exact below_of_lt _ _ (by omega) (by omega)
  by_cases hthree : c.val.toNat ≤ 65535
  · rw [encode_three (by omega) hthree]
    by_cases hthree' : d.val.toNat ≤ 65535
    · rw [encode_three (by omega) hthree']
      exact below_of_le (by omega) (by omega) fun _ =>
        below_of_le (by omega) (by omega) fun _ => below_of_lt _ _ (by omega) (by omega)
    · rw [encode_four (by omega)]
      exact below_of_lt _ _ (by omega) (by omega)
  · rw [encode_four (by omega), encode_four (by omega)]
    exact below_of_le (by omega) (by omega) fun _ =>
      below_of_le (by omega) (by omega) fun _ =>
        below_of_le (by omega) (by omega) fun _ => below_of_lt _ _ (by omega) (by omega)

end Characters

/-! ## Texts -/

theorem flatMap_encode_lt {cs ds : List Char} (h : cs < ds) :
    cs.flatMap String.utf8EncodeChar < ds.flatMap String.utf8EncodeChar := by
  induction h with
  | @nil d ds =>
    rw [List.flatMap_cons]
    obtain ⟨b, bs, hbytes⟩ := List.exists_cons_of_ne_nil (String.utf8EncodeChar_ne_nil (c := d))
    rw [hbytes]
    exact List.nil_lt_cons b _
  | cons h ih => exact List.append_left_lt ih
  | rel h => exact below_encode h _ _

/-- A text that comes before another one does so byte by byte. -/
theorem bytes_lt_of_compare {s t : String} (h : compare s t = .lt) : bytes s < bytes t := by
  rw [bytes_eq_flatMap, bytes_eq_flatMap]
  have hlt : s < t := compareOfLessAndEq_eq_lt.mp h
  exact flatMap_encode_lt hlt

end CargoTracking.Text
