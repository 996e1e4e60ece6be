import SpokenSales.Json.Quoted
import SpokenSales.Proofs.Text.Hexadecimal

/-!
# Strings read back

However its characters are spelled, a string is read up to its closing quote, and what was written
is one of its spellings.  Skipping stops where reading does.
-/

namespace SpokenSales
namespace Json
namespace Quoted

open Text

/-!
## How a string may be spelled

A character may stand for itself or be escaped in up to three ways.  What is written is one of the
spellings of a string.
-/

/-- Whether a piece of a string stands for a character: by itself, by a short escape, by the
number of its UTF-16 unit, or by the numbers of its two units. -/
inductive SpellsChar : List Char → Char → Prop
  | plain {c : Char} (hplain : isPlain c = true) (hquote : c ≠ '"') (hslash : c ≠ '\\') :
      SpellsChar [c] c
  | escape {e c : Char} (h : escape? e = some c) : SpellsChar ['\\', e] c
  | unit {digits : List Char} {c : Char} (hlength : digits.length = 4)
      (h : readHex? digits = some c.toNat) : SpellsChar ('\\' :: 'u' :: digits) c
  | pair {first second : List Char} {c : Char} (hfirst : first.length = 4)
      (hsecond : second.length = 4) (hc : 0x10000 ≤ c.toNat)
      (hleading : readHex? first = some (0xD800 + (c.toNat - 0x10000) / 0x400))
      (htrailing : readHex? second = some (0xDC00 + (c.toNat - 0x10000) % 0x400)) :
      SpellsChar ('\\' :: 'u' :: (first ++ '\\' :: 'u' :: second)) c

/-- Whether what stands between two quotes spells a text. -/
inductive Spells : List Char → List Char → Prop
  | nil : Spells [] []
  | cons {piece body text : List Char} {c : Char} (hpiece : SpellsChar piece c)
      (hbody : Spells body text) : Spells (piece ++ body) (c :: text)

theorem toNat_lt (c : Char) : c.toNat < 0xD800 ∨ 0xDFFF < c.toNat ∧ c.toNat < 0x110000 :=
  c.valid

theorem isTrailing_toNat (c : Char) : isTrailing c.toNat = false := by
  have hlt := toNat_lt c
  simp only [isTrailing, Bool.and_eq_false_iff, decide_eq_false_iff_not]
  omega

theorem isLeading_toNat (c : Char) : isLeading c.toNat = false := by
  have hlt := toNat_lt c
  simp only [isLeading, Bool.and_eq_false_iff, decide_eq_false_iff_not]
  omega

theorem eq_four {digits : List Char} (h : digits.length = 4) :
    ∃ a b c d, digits = [a, b, c, d] := by
  match digits, h with
  | [a, b, c, d], _ =>
      exact ⟨a, b, c, d, rfl⟩

theorem read_plain {c : Char} (hquote : c ≠ '"') (hslash : c ≠ '\\') (hc : isPlain c = true)
    (rest : List Char) : read (c :: rest) = prepend c (read rest) := by
  conv =>
    lhs
    unfold read
  split <;> simp_all

theorem read_escape {e c : Char} (h : escape? e = some c) (rest : List Char) :
    read ('\\' :: e :: rest) = prepend c (read rest) := by
  have hunit : e ≠ 'u' := by
    intro he
    rw [he] at h
    cases h
  rw [read, h]
  intro heq
  cases heq
  exact hunit rfl

theorem paired_units {c : Char} (hc : 0x10000 ≤ c.toNat) :
    paired (0xD800 + (c.toNat - 0x10000) / 0x400) (0xDC00 + (c.toNat - 0x10000) % 0x400) = c := by
  unfold paired
  have hsum : 0x10000 + (0xD800 + (c.toNat - 0x10000) / 0x400 - 0xD800) * 0x400 +
      (0xDC00 + (c.toNat - 0x10000) % 0x400 - 0xDC00) = c.toNat := by
    omega
  rw [hsum, Char.ofNat_toNat]

theorem SpellsChar.read_append {piece : List Char} {c : Char} (h : SpellsChar piece c)
    (rest : List Char) : read (piece ++ rest) = prepend c (read rest) := by
  cases h with
  | plain hplain hquote hslash =>
      exact read_plain hquote hslash hplain rest
  | escape h =>
      exact read_escape h rest
  | unit hlength h =>
      rcases eq_four hlength with ⟨a, b, c₁, d, rfl⟩
      simp only [List.cons_append, List.nil_append, read, h, isTrailing_toNat, isLeading_toNat,
        Char.ofNat_toNat]
      rfl
  | pair hfirst hsecond hc hleading htrailing =>
      rcases eq_four hfirst with ⟨a₁, a₂, a₃, a₄, rfl⟩
      rcases eq_four hsecond with ⟨b₁, b₂, b₃, b₄, rfl⟩
      have hlt := toNat_lt c
      have hfirst : isTrailing (0xD800 + (c.toNat - 0x10000) / 0x400) = false ∧
          isLeading (0xD800 + (c.toNat - 0x10000) / 0x400) = true := by
        simp only [isTrailing, isLeading, Bool.and_eq_false_iff, Bool.and_eq_true,
          decide_eq_false_iff_not, decide_eq_true_eq]
        omega
      have hsecond : isTrailing (0xDC00 + (c.toNat - 0x10000) % 0x400) = true := by
        simp only [isTrailing, Bool.and_eq_true, decide_eq_true_eq]
        omega
      simp only [List.cons_append, List.nil_append, read, hleading, htrailing, hfirst, hsecond,
        paired_units hc]
      rfl

theorem Spells.read_append {body text : List Char} (h : Spells body text) (rest : List Char) :
    read (body ++ '"' :: rest) = .ok (text, rest) := by
  induction h with
  | nil =>
      rfl
  | cons hpiece _ ih =>
      rw [List.append_assoc, hpiece.read_append, ih]
      rfl

theorem Spells.unique {body text text' : List Char} (h : Spells body text)
    (h' : Spells body text') : text = text' := by
  have hread := h.read_append []
  rw [h'.read_append] at hread
  cases hread
  rfl

/-!
## Written strings
-/

theorem spellsChar_escaped (c : Char) : SpellsChar (escaped c) c := by
  unfold escaped
  split
  · rename_i h
    rw [h]
    exact .escape rfl
  · rename_i hquote
    split
    · rename_i h
      rw [h]
      exact .escape rfl
    · rename_i hslash
      repeat
        split
        · rename_i h
          rw [h]
          exact .escape rfl
      split
      · rename_i hplain
        exact .plain hplain hquote hslash
      · rename_i hplain
        have hlt : c.toNat < Nat.pow 16 4 := by
          have hsmall : c.toNat < 0x20 := by
            simpa [isPlain] using hplain
          exact Nat.lt_trans hsmall (by decide)
        refine .unit (length_fixedHex 4 c.toNat) ?_
        rw [readHex?_fixedHex, Nat.mod_eq_of_lt hlt]

theorem spells_flatMap_escaped (text : List Char) : Spells (text.flatMap escaped) text := by
  induction text with
  | nil =>
      exact .nil
  | cons c text ih =>
      exact .cons (spellsChar_escaped c) ih

/-!
## Read strings

What is read is what is spelled, so a string stands for one text only.
-/

theorem prepend_eq_ok {c : Char} {result : Except Fault (List Char × List Char)}
    {found rest : List Char} (h : prepend c result = .ok (found, rest)) :
    ∃ more, found = c :: more ∧ result = .ok (more, rest) := by
  cases result with
  | error fault =>
      cases h
  | ok taken =>
      rcases taken with ⟨more, last⟩
      cases h
      exact ⟨more, rfl, rfl⟩

theorem spellsChar_unit {digits : List Char} {unit : Nat} (hlength : digits.length = 4)
    (h : readHex? digits = some unit) (htrailing : ¬isTrailing unit = true)
    (hleading : ¬isLeading unit = true) :
    SpellsChar ('\\' :: 'u' :: digits) (Char.ofNat unit) := by
  have hlt : unit < Nat.pow 16 4 := by
    rw [← hlength]
    exact (readHex?_eq_some h).1
  have hsmall : unit < 0x10000 := hlt
  simp only [isTrailing, isLeading, Bool.and_eq_true, decide_eq_true_eq] at htrailing hleading
  have hvalid : unit.isValidChar := by
    unfold Nat.isValidChar
    omega
  refine .unit hlength ?_
  rw [toNat_ofNat_of_isValidChar hvalid]
  exact h

theorem spellsChar_pair {first second : List Char} {leading trailing : Nat}
    (hfirst : first.length = 4) (hsecond : second.length = 4)
    (hleading : readHex? first = some leading) (htrailing : readHex? second = some trailing)
    (hisLeading : isLeading leading = true) (hisTrailing : isTrailing trailing = true) :
    SpellsChar ('\\' :: 'u' :: (first ++ '\\' :: 'u' :: second)) (paired leading trailing) := by
  simp only [isTrailing, isLeading, Bool.and_eq_true, decide_eq_true_eq] at hisTrailing hisLeading
  have hvalid : (0x10000 + (leading - 0xD800) * 0x400 + (trailing - 0xDC00)).isValidChar := by
    unfold Nat.isValidChar
    omega
  have hvalue : (paired leading trailing).toNat =
      0x10000 + (leading - 0xD800) * 0x400 + (trailing - 0xDC00) :=
    toNat_ofNat_of_isValidChar hvalid
  refine .pair hfirst hsecond ?_ ?_ ?_
  · omega
  · rw [hleading, hvalue, Option.some.injEq]
    omega
  · rw [htrailing, hvalue, Option.some.injEq]
    omega

theorem spells_of_read {text found rest : List Char} (h : read text = .ok (found, rest)) :
    ∃ body, text = body ++ '"' :: rest ∧ Spells body found := by
  -- The named cases are those in which reading goes on or ends well.
  fun_induction read text generalizing found with
  | case2 tail =>
      cases h
      exact ⟨[], rfl, .nil⟩
  | case6 _ _ _ _ _ hfirst _ hleading _ _ _ _ _ _ hsecond htrailing ih =>
      rcases prepend_eq_ok h with ⟨found, rfl, hmore⟩
      rcases ih hmore with ⟨body, rfl, hbody⟩
      have hpiece := spellsChar_pair rfl rfl hfirst hsecond hleading htrailing
      exact ⟨_, rfl, .cons hpiece hbody⟩
  | case9 _ _ _ _ _ _ hunit htrailing hleading ih =>
      rcases prepend_eq_ok h with ⟨found, rfl, hmore⟩
      rcases ih hmore with ⟨body, rfl, hbody⟩
      exact ⟨_, rfl, .cons (spellsChar_unit rfl hunit htrailing hleading) hbody⟩
  | case11 e tail hunit c hescape ih =>
      rcases prepend_eq_ok h with ⟨found, rfl, hmore⟩
      rcases ih hmore with ⟨body, rfl, hbody⟩
      exact ⟨_, rfl, .cons (.escape hescape) hbody⟩
  | case14 c tail hquote hunit hescape hslash hplain ih =>
      rcases prepend_eq_ok h with ⟨found, rfl, hmore⟩
      rcases ih hmore with ⟨body, rfl, hbody⟩
      have hne : c ≠ '\\' := by
        intro hc
        cases hrest : body ++ '"' :: rest with
        | nil =>
            exact hslash hc hrest
        | cons d more =>
            exact hescape d more hc hrest
      exact ⟨_, rfl, .cons (.plain hplain hquote hne) hbody⟩
  | _ =>
      cases h

theorem spells_iff {body text : List Char} :
    Spells body text ↔ read (body ++ ['"']) = .ok (text, []) := by
  constructor
  · intro h
    exact h.read_append []
  · intro h
    rcases spells_of_read h with ⟨other, heq, hother⟩
    rw [List.append_cancel_right heq]
    exact hother

instance (body text : List Char) : Decidable (Spells body text) :=
  decidable_of_iff _ spells_iff.symm

/-!
## Skipped strings

In a string that nobody reads the two units of a pair may also stand alone.
-/

inductive IsPiece : List Char → Prop
  | plain {c : Char} (hplain : isPlain c = true) (hquote : c ≠ '"') (hslash : c ≠ '\\') :
      IsPiece [c]
  | escape {e c : Char} (h : escape? e = some c) : IsPiece ['\\', e]
  | unit {digits : List Char} {n : Nat} (hlength : digits.length = 4)
      (h : readHex? digits = some n) : IsPiece ('\\' :: 'u' :: digits)

/-- Whether a text may stand between two quotes. -/
inductive IsBody : List Char → Prop
  | nil : IsBody []
  | cons {piece body : List Char} (hpiece : IsPiece piece) (hbody : IsBody body) :
      IsBody (piece ++ body)

theorem IsPiece.skip_append {piece : List Char} (h : IsPiece piece) (rest : List Char) :
    skip (piece ++ rest) = skip rest := by
  cases h with
  | plain hplain hquote hslash =>
      conv =>
        lhs
        unfold skip
      split <;> simp_all
  | @escape e c h =>
      have hunit : e ≠ 'u' := by
        intro he
        rw [he] at h
        cases h
      show skip ('\\' :: e :: rest) = _
      rw [skip, h]
      intro heq
      cases heq
      exact hunit rfl
  | unit hlength h =>
      rcases eq_four hlength with ⟨a, b, c, d, rfl⟩
      show skip ('\\' :: 'u' :: a :: b :: c :: d :: rest) = _
      rw [skip, h]

theorem IsBody.skip_append {body : List Char} (h : IsBody body) (rest : List Char) :
    skip (body ++ '"' :: rest) = .ok rest := by
  induction h with
  | nil =>
      rfl
  | cons hpiece _ ih =>
      rw [List.append_assoc, hpiece.skip_append, ih]

theorem SpellsChar.isBody_append {piece body : List Char} {c : Char} (h : SpellsChar piece c)
    (hbody : IsBody body) : IsBody (piece ++ body) := by
  cases h with
  | plain hplain hquote hslash =>
      exact .cons (.plain hplain hquote hslash) hbody
  | escape h =>
      exact .cons (.escape h) hbody
  | unit hlength h =>
      exact .cons (.unit hlength h) hbody
  | @pair first second c hfirst hsecond _ hleading htrailing =>
      have htext : '\\' :: 'u' :: (first ++ '\\' :: 'u' :: second) ++ body =
          ('\\' :: 'u' :: first) ++ (('\\' :: 'u' :: second) ++ body) := by
        simp only [List.cons_append, List.append_assoc]
      rw [htext]
      exact .cons (.unit hfirst hleading) (.cons (.unit hsecond htrailing) hbody)

theorem Spells.isBody {body text : List Char} (h : Spells body text) : IsBody body := by
  induction h with
  | nil =>
      exact .nil
  | cons hpiece _ ih =>
      exact hpiece.isBody_append ih

theorem skip_of_read {text found rest : List Char} (h : read text = .ok (found, rest)) :
    skip text = .ok rest := by
  rcases spells_of_read h with ⟨body, rfl, hbody⟩
  exact hbody.isBody.skip_append rest

theorem IsBody.spells_of_read {body found rest last : List Char} (h : IsBody body)
    (hread : read (body ++ '"' :: rest) = .ok (found, last)) :
    last = rest ∧ Spells body found := by
  have hskip := skip_of_read hread
  rw [h.skip_append] at hskip
  cases hskip
  rcases Quoted.spells_of_read hread with ⟨other, heq, hother⟩
  rw [List.append_cancel_right heq]
  exact ⟨rfl, hother⟩

end Quoted
end Json
end SpokenSales
