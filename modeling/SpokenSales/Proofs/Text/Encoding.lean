import SpokenSales.Text.Lines

/-!
# Texts as bytes

Encoding goes character by character.  Bytes below 128 stand for characters of their own and for
nothing else, so that line ends can be looked for among the bytes.
-/

namespace SpokenSales
namespace Text

def encode (text : List Char) : List UInt8 :=
  (String.ofList text).toByteArray.data.toList

theorem decode?_encode (text : List Char) : decode? (encode text) = some (String.ofList text) := by
  have hbytes : ByteArray.mk (encode text).toArray = (String.ofList text).toByteArray := by
    unfold encode
    rw [Array.toArray_toList]
  unfold decode?
  rw [hbytes]
  exact dif_pos (String.ofList text).isValidUTF8

theorem decode?_eq_some_iff {bytes : List UInt8} {text : String} :
    decode? bytes = some text ↔ encode text.toList = bytes := by
  constructor
  · intro h
    unfold decode? String.fromUTF8? at h
    split at h
    · cases h
      unfold encode
      rw [String.ofList_toList]
      rfl
    · cases h
  · rintro rfl
    rw [decode?_encode, String.ofList_toList]

theorem decode?_eq_none_iff {bytes : List UInt8} :
    decode? bytes = none ↔ ∀ text : String, encode text.toList ≠ bytes := by
  rw [Option.eq_none_iff_forall_ne_some]
  exact forall_congr' fun text => not_congr decode?_eq_some_iff

/-!
## Characters among the bytes
-/

theorem encode_eq_flatMap (text : List Char) :
    encode text = text.flatMap String.utf8EncodeChar := by
  unfold encode
  rw [String.toByteArray_ofList]
  unfold List.utf8Encode
  rw [List.data_toByteArray, List.toList_toArray]

theorem encode_append (text more : List Char) :
    encode (text ++ more) = encode text ++ encode more := by
  rw [encode_eq_flatMap, encode_eq_flatMap, encode_eq_flatMap, List.flatMap_append]

theorem encode_eq_nil_iff {text : List Char} : encode text = [] ↔ text = [] := by
  rw [encode_eq_flatMap, List.flatMap_eq_nil_iff]
  constructor
  · intro h
    exact List.eq_nil_iff_forall_not_mem.mpr fun c hc => String.utf8EncodeChar_ne_nil (h c hc)
  · rintro rfl c hc
    cases hc

theorem toNat_eq_of_mem_utf8EncodeChar {c : Char} {byte : UInt8}
    (h : byte ∈ String.utf8EncodeChar c) (hbyte : byte.toNat < 128) : c.toNat = byte.toNat := by
  have hone (n : Nat) : (UInt8.ofNat n).toNat = n % 256 := UInt8.toNat_ofNat'
  have hvalue : c.val.toNat = c.toNat := rfl
  unfold String.utf8EncodeChar at h
  simp only [hvalue] at h
  split at h
  · rw [List.mem_singleton.mp h, hone]
    omega
  · -- All bytes of a longer writing have their highest bit set.
    have hlarge : ∀ n m, 128 ≤ m → n + m < 256 → byte ≠ UInt8.ofNat (n + m) := by
      rintro n m hm hn rfl
      rw [hone] at hbyte
      omega
    exfalso
    split at h
    · simp only [List.mem_cons, List.not_mem_nil, or_false] at h
      rcases h with h | h <;> exact hlarge _ _ (by omega) (by omega) h
    · split at h
      · simp only [List.mem_cons, List.not_mem_nil, or_false] at h
        rcases h with h | h | h <;> exact hlarge _ _ (by omega) (by omega) h
      · simp only [List.mem_cons, List.not_mem_nil, or_false] at h
        rcases h with h | h | h | h <;> exact hlarge _ _ (by omega) (by omega) h

theorem mem_of_mem_encode {text : List Char} {c : Char} (hc : c.toNat < 128)
    (h : UInt8.ofNat c.toNat ∈ encode text) : c ∈ text := by
  have hbyte : (UInt8.ofNat c.toNat).toNat = c.toNat := by
    rw [UInt8.toNat_ofNat']
    omega
  rw [encode_eq_flatMap] at h
  rcases List.mem_flatMap.mp h with ⟨d, hd, hwritten⟩
  have hcode := toNat_eq_of_mem_utf8EncodeChar hwritten (by omega)
  rw [hbyte] at hcode
  rwa [← Char.toNat_inj.mp hcode]

theorem mem_encode_feed {text : List Char} (h : '\n' ∈ text) : 10 ∈ encode text := by
  have hencoded : encode ['\n'] = [10] := by decide +kernel
  rcases List.append_of_mem h with ⟨front, back, rfl⟩
  rw [List.append_cons, encode_append, encode_append, hencoded]
  exact List.mem_append_left _ (List.mem_append_right _ List.mem_cons_self)

theorem exists_concat_of_getLast?_encode {text : List Char} {c : Char} (hc : c.toNat < 128)
    (h : (encode text).getLast? = some (UInt8.ofNat c.toNat)) : ∃ front, text = front ++ [c] := by
  rcases List.eq_nil_or_concat text with rfl | ⟨front, last, rfl⟩
  · cases h
  · have hne : (encode [last]).getLast? ≠ none := by
      rw [encode_eq_flatMap, List.flatMap_singleton, ne_eq, List.getLast?_eq_none_iff]
      exact String.utf8EncodeChar_ne_nil
    have hlast : (encode [last]).getLast? = some (UInt8.ofNat c.toNat) := by
      rw [List.concat_eq_append, encode_append, List.getLast?_append] at h
      rcases Option.ne_none_iff_exists'.mp hne with ⟨byte, hbyte⟩
      rw [hbyte, Option.some_or] at h
      rw [hbyte, h]
    exists front
    rw [List.concat_eq_append,
      List.mem_singleton.mp (mem_of_mem_encode hc (List.mem_of_getLast? hlast))]

/-!
## Bytes that are a text
-/

/-- Whether some bytes are a text in UTF-8. -/
def IsUtf8 (bytes : List UInt8) : Prop :=
  ∃ text : String, encode text.toList = bytes

theorem isUtf8_encode (text : List Char) : IsUtf8 (encode text) := by
  exists String.ofList text
  rw [String.toList_ofList]

theorem isUtf8_nil : IsUtf8 [] :=
  isUtf8_encode []

theorem IsUtf8.append {front back : List UInt8} (hfront : IsUtf8 front) (hback : IsUtf8 back) :
    IsUtf8 (front ++ back) := by
  rcases hfront with ⟨text, rfl⟩
  rcases hback with ⟨more, rfl⟩
  rw [← encode_append]
  exact isUtf8_encode _

theorem isUtf8_encode_append_iff {text : List Char} {back : List UInt8} :
    IsUtf8 (encode text ++ back) ↔ IsUtf8 back := by
  constructor
  · rintro ⟨whole, hwhole⟩
    have hbytes : text.utf8Encode ++ back.toByteArray = whole.toList.utf8Encode := by
      unfold List.utf8Encode
      rw [← List.toByteArray_append, ← encode_eq_flatMap, ← encode_eq_flatMap, hwhole]
    rcases List.isPrefix_of_utf8Encode_append_eq_utf8Encode _ hbytes with ⟨more, hmore⟩
    rw [← hmore, encode_append, List.append_cancel_left_eq] at hwhole
    rw [← hwhole]
    exact isUtf8_encode more
  · exact (isUtf8_encode text).append

theorem utf8EncodeChar_of_lt {c : Char} (h : c.toNat < 128) :
    String.utf8EncodeChar c = [UInt8.ofNat c.toNat] := by
  have hvalue : c.val.toNat = c.toNat := rfl
  unfold String.utf8EncodeChar
  simp only [hvalue]
  rw [if_pos (by omega)]

theorem encode_ofUInt8 {byte : UInt8} (hbyte : byte.toNat < 128) :
    encode [Char.ofUInt8 byte] = [byte] := by
  have hcode : (Char.ofUInt8 byte).toNat = byte.toNat := UInt8.toNat_toUInt32 byte
  rw [encode_eq_flatMap, List.flatMap_singleton, utf8EncodeChar_of_lt (by omega), hcode,
    UInt8.ofNat_toNat]

/-- A byte below 128 cuts a text into texts, for no character is written across it. -/
theorem isUtf8_of_encode_eq {text : List Char} {front back : List UInt8} {byte : UInt8}
    (hbyte : byte.toNat < 128) (h : encode text = front ++ byte :: back) :
    IsUtf8 front ∧ IsUtf8 back := by
  induction text generalizing front with
  | nil =>
      exact absurd h.symm (List.append_ne_nil_of_right_ne_nil front (List.cons_ne_nil _ _))
  | cons c text ih =>
      have hcons : encode (c :: text) = encode [c] ++ encode text := encode_append [c] text
      have hchar : encode [c] = String.utf8EncodeChar c := by
        rw [encode_eq_flatMap, List.flatMap_singleton]
      rw [hcons] at h
      rcases List.append_eq_append_iff.mp h with ⟨more, rfl, hmore⟩ | ⟨more, hfront, hmore⟩
      · rcases ih hmore with ⟨htext, hback⟩
        exact ⟨(isUtf8_encode [c]).append htext, hback⟩
      · cases more with
        | nil =>
            rw [List.append_nil] at hfront
            rw [← hfront]
            exact ⟨isUtf8_encode [c], (@ih [] hmore.symm).2⟩
        | cons first more =>
            -- The byte is one of the bytes of the character, and so it is the only one.
            cases hmore
            have hmem : byte ∈ String.utf8EncodeChar c := by
              rw [← hchar, hfront]
              exact List.mem_append_right front List.mem_cons_self
            have hcode : c.toNat = byte.toNat := toNat_eq_of_mem_utf8EncodeChar hmem hbyte
            rw [hchar, utf8EncodeChar_of_lt (by omega), hcode, UInt8.ofNat_toNat] at hfront
            rcases List.append_eq_singleton_iff.mp hfront.symm with ⟨rfl, hlast⟩ | ⟨-, hlast⟩
            · cases hlast
              exact ⟨isUtf8_nil, isUtf8_encode text⟩
            · cases hlast

theorem isUtf8_append_cons_iff {front back : List UInt8} {byte : UInt8} (hbyte : byte.toNat < 128) :
    IsUtf8 (front ++ byte :: back) ↔ IsUtf8 front ∧ IsUtf8 back := by
  constructor
  · rintro ⟨text, htext⟩
    exact isUtf8_of_encode_eq hbyte htext
  · rintro ⟨hfront, hback⟩
    have hlater : IsUtf8 (byte :: back) := by
      rw [← List.singleton_append, ← encode_ofUInt8 hbyte]
      exact (isUtf8_encode _).append hback
    exact hfront.append hlater

end Text
end SpokenSales
