import SpokenSales.Proofs.Text.Hexadecimal
import SpokenSales.Uuid

/-!
# Identifiers read back

Grouping loses no digit, and 32 hexadecimal digits hold an identifier.  What is read as an
identifier is one of the four forms of it, whatever the case of each letter.
-/

namespace SpokenSales
namespace Uuid

open Text

/-!
## Groups of digits
-/

/-- Whether there are enough characters for all groups but the last. -/
def Fills : List Nat → Nat → Prop
  | [], _ => False
  | [_], _ => True
  | size :: sizes, length => size ≤ length ∧ Fills sizes (length - size)

theorem length_hyphenate {sizes : List Nat} {digits : List Char}
    (h : Fills sizes digits.length) :
    (hyphenate sizes digits).length = digits.length + (sizes.length - 1) := by
  induction sizes generalizing digits with
  | nil =>
      cases h
  | cons size sizes ih =>
      cases sizes with
      | nil =>
          rfl
      | cons next sizes =>
          rcases h with ⟨hsize, hrest⟩
          rw [← List.length_drop] at hrest
          have hlength := ih hrest
          rw [List.length_drop] at hlength
          rw [hyphenate, List.length_append, List.length_cons, List.length_take, hlength]
          · simp only [List.length_cons]
            omega
          · intro hnil
            cases hnil

theorem mem_hyphenate {sizes : List Nat} {digits : List Char} {c : Char}
    (h : c ∈ hyphenate sizes digits) : c = '-' ∨ c ∈ digits := by
  induction sizes generalizing digits with
  | nil =>
      exact Or.inr h
  | cons size sizes ih =>
      cases sizes with
      | nil =>
          exact Or.inr h
      | cons next sizes =>
          change c ∈ digits.take size ++ '-' :: hyphenate (next :: sizes) (digits.drop size) at h
          rcases List.mem_append.mp h with htake | hrest
          · exact Or.inr (List.mem_of_mem_take htake)
          · rcases List.mem_cons.mp hrest with hhyphen | hdrop
            · exact Or.inl hhyphen
            · exact (ih hdrop).imp_right List.mem_of_mem_drop

theorem dehyphenate?_hyphenate {sizes : List Nat} {digits : List Char}
    (h : Fills sizes digits.length) : dehyphenate? sizes (hyphenate sizes digits) = some digits := by
  induction sizes generalizing digits with
  | nil =>
      cases h
  | cons size sizes ih =>
      cases sizes with
      | nil =>
          rfl
      | cons next sizes =>
          rcases h with ⟨hsize, hrest⟩
          have htake : (digits.take size).length = size := by
            rw [List.length_take]
            exact Nat.min_eq_left hsize
          have hdrop : (digits.take size ++ '-' :: hyphenate (next :: sizes)
              (digits.drop size)).drop size = '-' :: hyphenate (next :: sizes)
                (digits.drop size) := by
            rw [List.drop_append_of_le_length (Nat.le_of_eq htake.symm), List.drop_of_length_le
              (Nat.le_of_eq htake), List.nil_append]
          rw [← List.length_drop] at hrest
          rw [hyphenate, dehyphenate?, hdrop]
          · simp only [ih hrest, Option.map_some, List.take_append_of_le_length
              (Nat.le_of_eq htake.symm), List.take_of_length_le (Nat.le_of_eq htake),
              List.take_append_drop]
          · intro hnil
            cases hnil
          · intro hnil
            cases hnil

theorem fills_groups : Fills groups 32 :=
  ⟨by decide, by decide, by decide, by decide, trivial⟩

/-!
## Digits of an identifier
-/

theorem toNat_lt (id : Uuid) : id.value.toNat < Nat.pow 16 32 :=
  id.value.isLt

theorem ofDigits?_fixedHex (id : Uuid) : ofDigits? (fixedHex 32 id.value.toNat) = some id := by
  unfold ofDigits?
  rw [if_pos (length_fixedHex 32 _), readHex?_fixedHex, Nat.mod_eq_of_lt id.toNat_lt]
  cases id with
  | mk value =>
      rw [Option.map_some, BitVec.ofNat_toNat, BitVec.setWidth_eq]

theorem fills_fixedHex (id : Uuid) : Fills groups (fixedHex 32 id.value.toNat).length := by
  rw [length_fixedHex]
  exact fills_groups

theorem length_write (id : Uuid) : (write id).length = 36 := by
  unfold write
  rw [length_hyphenate (fills_fixedHex id), length_fixedHex]
  rfl

/-!
## Spellings

The letters of a spelling may be in either case, and nothing else about it is free.
-/

inductive Form
  | bare
  | grouped
  | braced
  | urn
deriving DecidableEq, Repr

def Form.write (id : Uuid) : Form → List Char
  | bare => fixedHex 32 id.value.toNat
  | grouped => id.write
  | braced => '{' :: (id.write ++ ['}'])
  | urn => "urn:uuid:".toList ++ id.write

/-- Whether a text is a form of an identifier in some mix of upper and lower case. -/
def IsSpelled (id : Uuid) (text : List Char) : Prop :=
  ∃ form : Form, text.map Char.toLower = form.write id

theorem eq_of_toLower_eq {c d : Char} (hd : d ∈ ['-', '{', '}']) (h : c.toLower = d) : c = d := by
  have hascii : isAscii c = true := by
    apply isAscii_of_isAscii_toLower
    rw [h]
    simp only [List.mem_cons, List.not_mem_nil, or_false] at hd
    rcases hd with rfl | rfl | rfl <;> rfl
  have hall := forall_ascii (p := fun c => (c.toLower = '-' → c = '-') ∧
    (c.toLower = '{' → c = '{') ∧ (c.toLower = '}' → c = '}')) (by decide +kernel) hascii
  simp only [List.mem_cons, List.not_mem_nil, or_false] at hd
  rcases hd with rfl | rfl | rfl
  · exact hall.1 h
  · exact hall.2.1 h
  · exact hall.2.2 h

theorem map_toLower_hyphenate (sizes : List Nat) (digits : List Char) :
    (hyphenate sizes digits).map Char.toLower = hyphenate sizes (digits.map Char.toLower) := by
  fun_induction hyphenate sizes digits with
  | case1 digits =>
      rfl
  | case2 size digits =>
      rfl
  | case3 size sizes digits hsizes ih =>
      rw [List.map_append, List.map_cons, ih, hyphenate, List.map_take, List.map_drop]
      · rfl
      · exact hsizes

theorem hyphenate_of_dehyphenate? {sizes : List Nat} {text digits : List Char}
    (h : dehyphenate? sizes text = some digits) : hyphenate sizes digits = text := by
  fun_induction dehyphenate? sizes text generalizing digits with
  | case1 text =>
      cases h
  | case2 size text =>
      cases h
      rfl
  | case3 size sizes text hsizes rest hrest ih =>
      rcases Option.map_eq_some_iff.mp h with ⟨inner, hinner, rfl⟩
      have hlength : (text.take size).length = size := by
        have hdrop := congrArg List.length hrest
        rw [List.length_drop, List.length_cons] at hdrop
        rw [List.length_take]
        omega
      rw [hyphenate, List.take_left' hlength, List.drop_left' hlength, ih hinner, ← hrest,
        List.take_append_drop]
      exact hsizes
  | case4 =>
      cases h

theorem dehyphenate?_map_toLower (sizes : List Nat) (text : List Char) :
    dehyphenate? sizes (text.map Char.toLower) =
      (dehyphenate? sizes text).map (List.map Char.toLower) := by
  fun_induction dehyphenate? sizes text with
  | case1 text =>
      rfl
  | case2 size text =>
      rfl
  | case3 size sizes text hsizes rest hrest ih =>
      have hlower : (text.map Char.toLower).drop size = '-' :: rest.map Char.toLower := by
        rw [← List.map_drop, hrest]
        rfl
      rw [dehyphenate?, hlower]
      · simp only [ih, Option.map_map, ← List.map_take]
        congr 1
        funext digits
        exact List.map_append.symm
      · exact hsizes
  | case4 size sizes text hsizes hnone =>
      rw [dehyphenate?]
      · split
        · rename_i rest hlower
          rw [← List.map_drop] at hlower
          rcases List.map_eq_cons_iff.mp hlower with ⟨c, more, hdrop, hc, -⟩
          rw [eq_of_toLower_eq (by decide) hc] at hdrop
          exact absurd hdrop (hnone more)
        · rfl
      · exact hsizes

theorem ofDigits?_eq_some_iff {digits : List Char} {id : Uuid} :
    ofDigits? digits = some id ↔ digits.map Char.toLower = fixedHex 32 id.value.toNat := by
  constructor
  · intro h
    unfold ofDigits? at h
    split at h
    · rename_i hlength
      rcases Option.map_eq_some_iff.mp h with ⟨n, hn, rfl⟩
      rcases readHex?_eq_some hn with ⟨hlt, hdigits⟩
      rw [hlength] at hlt hdigits
      rw [← hdigits, BitVec.toNat_ofNat, Nat.mod_eq_of_lt hlt]
    · cases h
  · intro h
    have hlength : digits.length = 32 := by
      rw [← List.length_map Char.toLower, h, length_fixedHex]
    have hid := ofDigits?_fixedHex id
    unfold ofDigits? at hid ⊢
    rw [if_pos (length_fixedHex 32 _), ← h, readHex?_map_toLower] at hid
    rw [if_pos hlength, hid]

theorem ofGrouped?_eq_some_iff {text : List Char} {id : Uuid} :
    ofGrouped? text = some id ↔ text.map Char.toLower = id.write := by
  constructor
  · intro h
    unfold ofGrouped? at h
    split at h
    · rcases Option.bind_eq_some_iff.mp h with ⟨digits, hdigits, hid⟩
      rw [← hyphenate_of_dehyphenate? hdigits, map_toLower_hyphenate, ofDigits?_eq_some_iff.mp hid]
      rfl
    · cases h
  · intro h
    have hlength : text.length = 36 := by
      rw [← List.length_map Char.toLower, h, length_write]
    have hdigits := dehyphenate?_map_toLower groups text
    rw [h] at hdigits
    unfold write at hdigits
    rw [dehyphenate?_hyphenate (fills_fixedHex id)] at hdigits
    rcases Option.map_eq_some_iff.mp hdigits.symm with ⟨digits, hfound, hlower⟩
    unfold ofGrouped?
    rw [if_pos hlength, hfound]
    exact ofDigits?_eq_some_iff.mpr hlower

theorem map_toLower_write (id : Uuid) : id.write.map Char.toLower = id.write := by
  have hdigits := ofDigits?_eq_some_iff.mp (ofDigits?_fixedHex id)
  unfold write
  rw [map_toLower_hyphenate, hdigits]

theorem exists_braced {text : List Char} (hlength : text.length = 38)
    (h : text.head? = some '{' ∧ text.getLast? = some '}') :
    ∃ inner, text = '{' :: (inner ++ ['}']) := by
  rcases List.getLast?_eq_some_iff.mp h.2 with ⟨front, rfl⟩
  cases front with
  | nil =>
      cases hlength
  | cons c inner =>
      cases h.1
      exact ⟨inner, rfl⟩

theorem isSpelled_of_read? {text : List Char} {id : Uuid} (h : read? text = some id) :
    id.IsSpelled text := by
  unfold read? at h
  split at h
  · exact ⟨.bare, ofDigits?_eq_some_iff.mp h⟩
  · exact ⟨.grouped, ofGrouped?_eq_some_iff.mp h⟩
  · split at h
    · rename_i hlength hbraces
      rcases exists_braced hlength hbraces with ⟨inner, rfl⟩
      rw [List.drop_one, List.tail_cons, List.dropLast_concat] at h
      refine ⟨.braced, ?_⟩
      rw [List.map_cons, List.map_append, ofGrouped?_eq_some_iff.mp h]
      rfl
    · cases h
  · rcases Option.bind_eq_some_iff.mp h with ⟨rest, hrest, hid⟩
    unfold afterUrn? at hrest
    split at hrest
    · rename_i hprefix
      cases hrest
      refine ⟨.urn, ?_⟩
      rw [← List.take_append_drop 9 text, List.map_append, hprefix,
        ofGrouped?_eq_some_iff.mp hid]
      rfl
    · cases hrest
  · cases h

theorem IsSpelled.read?_eq {text : List Char} {id : Uuid} (h : id.IsSpelled text) :
    read? text = some id := by
  rcases h with ⟨form, h⟩
  have hlength := congrArg List.length h
  rw [List.length_map] at hlength
  unfold read?
  cases form with
  | bare =>
      have hlength : text.length = 32 := hlength.trans (length_fixedHex 32 _)
      rw [hlength]
      exact ofDigits?_eq_some_iff.mpr h
  | grouped =>
      have hlength : text.length = 36 := hlength.trans (length_write id)
      rw [hlength]
      exact ofGrouped?_eq_some_iff.mpr h
  | braced =>
      have hlength : text.length = 38 := by
        rw [hlength]
        show ('{' :: (id.write ++ ['}'])).length = 38
        rw [List.length_cons, List.length_append, length_write]
        rfl
      rcases List.map_eq_cons_iff.mp h with ⟨c, rest, rfl, hc, hrest⟩
      rcases List.map_eq_append_iff.mp hrest with ⟨inner, last, rfl, hinner, hlast⟩
      rcases List.map_eq_singleton_iff.mp hlast with ⟨d, rfl, hd⟩
      rw [hlength, eq_of_toLower_eq (by decide) hc, eq_of_toLower_eq (by decide) hd]
      show (if _ ∧ ('{' :: (inner ++ ['}'])).getLast? = some '}' then
        ofGrouped? (inner ++ ['}']).dropLast else none) = some id
      rw [← List.cons_append, List.getLast?_concat, List.dropLast_concat]
      exact ofGrouped?_eq_some_iff.mpr hinner
  | urn =>
      have hlength : text.length = 45 := by
        rw [hlength]
        show ("urn:uuid:".toList ++ id.write).length = 45
        rw [List.length_append, length_write]
        rfl
      rcases List.map_eq_append_iff.mp h with ⟨front, rest, rfl, hfront, hrest⟩
      have hnine : front.length = 9 := by
        rw [← List.length_map Char.toLower, hfront]
        rfl
      have hafter : afterUrn? (front ++ rest) = some rest := by
        unfold afterUrn?
        rw [List.take_left' hnine, List.drop_left' hnine, if_pos hfront]
      rw [hlength]
      show (afterUrn? (front ++ rest)).bind ofGrouped? = some id
      rw [hafter]
      exact ofGrouped?_eq_some_iff.mpr hrest

theorem read?_eq_some_iff {text : List Char} {id : Uuid} :
    read? text = some id ↔ id.IsSpelled text :=
  ⟨isSpelled_of_read?, IsSpelled.read?_eq⟩

theorem read?_write (id : Uuid) : read? (write id) = some id :=
  IsSpelled.read?_eq ⟨.grouped, map_toLower_write id⟩

theorem eq_write_iff {text : List Char} {id : Uuid} :
    text = id.write ↔ id.IsSpelled text ∧ text.length = 36 ∧ text.map Char.toLower = text := by
  constructor
  · intro h
    rw [h]
    exact ⟨⟨.grouped, id.map_toLower_write⟩, id.length_write, id.map_toLower_write⟩
  · rintro ⟨hspelled, hlength, hlower⟩
    have hgrouped := hspelled.read?_eq
    unfold read? at hgrouped
    rw [hlength] at hgrouped
    rw [← hlower]
    exact ofGrouped?_eq_some_iff.mp hgrouped

theorem write_injective : Function.Injective write := by
  intro id other h
  apply Option.some.inj
  rw [← read?_write id, ← read?_write other, h]

end Uuid
end SpokenSales
