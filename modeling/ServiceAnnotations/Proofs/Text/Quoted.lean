import Mathlib.Algebra.Ring.Nat
import ServiceAnnotations.Mark.Literal
import ServiceAnnotations.Source.Token
import ServiceAnnotations.Text.Quoted

/-! # Quoted texts are read back

A text in double quotes is one token of a source file, and denotes the text that was quoted. -/
namespace ServiceAnnotations.Text.Quoted
open Mark.Literal Source

theorem digitValue?_hexDigit {n : Nat} (h : n < 16) : digitValue? (hexDigit n) = some n := by
  have hall : ∀ n : Fin 16, digitValue? (hexDigit n) = some n.val := by decide
  exact hall ⟨n, h⟩

/-- All digits but the last ones of a numeric escape. -/
theorem bytesFrom_hex (width left value n : Nat) (isByte : Bool) (rest : List Char) :
    bytesFrom (.digits 16 (width + (left + 1)) value isByte) (hex width n ++ rest) =
      bytesFrom (.digits 16 (left + 1) (value * 16 ^ width + n % 16 ^ width) isByte) rest := by
  induction width generalizing n left rest with
  | zero => simp [hex, Nat.mod_one]
  | succ width ih =>
    have hdigit : n % 16 < 16 := Nat.mod_lt n (by decide)
    have hvalue : (value * 16 ^ width + n / 16 % 16 ^ width) * 16 + n % 16 =
        value * 16 ^ (width + 1) + n % 16 ^ (width + 1) := by
      rw [Nat.pow_succ', Nat.mod_mul, Nat.add_mul, Nat.mul_assoc, Nat.mul_comm (16 ^ width) 16]
      omega
    rw [hex, List.append_assoc, List.singleton_append, show width + 1 + (left + 1) = width + (left + 1 + 1) by omega,
      ih, bytesFrom, digitValue?_hexDigit hdigit]
    simp only [if_pos hdigit, hvalue]
    rw [if_neg (by omega), Nat.add_sub_cancel]

/-- A numeric escape denotes what its number stands for. -/
theorem bytesFrom_hex_all (width n : Nat) (isByte : Bool) (rest : List Char) (h : n < 16 ^ (width + 1)) :
    bytesFrom (.digits 16 (width + 1) 0 isByte) (hex (width + 1) n ++ rest) =
      (escaped? n isByte).bind fun b => (b ++ ·) <$> bytesFrom .none rest := by
  have hdigit : n % 16 < 16 := Nat.mod_lt n (by decide)
  have hvalue : n / 16 % 16 ^ width * 16 + n % 16 = n := by
    rw [Nat.mod_eq_of_lt (Nat.div_lt_of_lt_mul (by rwa [← Nat.pow_succ']))]
    omega
  rw [hex, List.append_assoc, List.singleton_append, bytesFrom_hex, bytesFrom, digitValue?_hexDigit hdigit]
  simp only [if_pos hdigit, Nat.zero_mul, Nat.zero_add, hvalue, Nat.le_refl, if_true]
  rfl

inductive Stands (c : Char) : List Char → Prop
  | plain (hquote : c ≠ '"') (hslash : c ≠ '\\') : Stands c [c]
  | letter {e : Char} {b : UInt8} (he : letterEscape? e = some b) (hb : String.utf8EncodeChar c = [b]) :
    Stands c ['\\', e]
  | byte (hc : c.toNat < 0x80) : Stands c ('\\' :: 'x' :: hex 2 c.toNat)
  | short (hc : c.toNat < 16 ^ 4) : Stands c ('\\' :: 'u' :: hex 4 c.toNat)
  | long : Stands c ('\\' :: 'U' :: hex 8 c.toNat)

theorem toNat_lt (c : Char) : c.toNat < 0x110000 := by
  have hvalid := c.valid
  simp only [Char.toNat, UInt32.isValidChar, Nat.isValidChar] at *
  omega

theorem stands_numeric (c : Char) : Stands c (numeric c) := by
  unfold numeric
  split
  · exact .byte ‹_›
  · split
    · exact .short ‹_›
    · exact .long

theorem stands_escape (c : Char) : Stands c (escape '"' c) := by
  unfold escape
  split
  · rename_i h
    rcases (by simpa using h : c = '"' ∨ c = '\\') with rfl | rfl
    · exact .letter (b := 0x22) rfl rfl
    · exact .letter (b := 0x5c) rfl rfl
  · rename_i h
    obtain ⟨hquote, hslash⟩ : c ≠ '"' ∧ c ≠ '\\' := by simpa using h
    have hletter : ∀ {e : Char} (d : Char), c.toNat = d.toNat → ∀ b, letterEscape? e = some b →
        String.utf8EncodeChar d = [b] → Stands c ['\\', e] := by
      intro e d hd b he hb
      obtain rfl : c = d := Char.toNat_inj.mp hd
      exact .letter he hb
    split
    · exact .plain hquote hslash
    · split
      · exact hletter '\x07' ‹_› 7 rfl rfl
      · exact hletter '\x08' ‹_› 8 rfl rfl
      · exact hletter '\x0c' ‹_› 12 rfl rfl
      · exact hletter '\n' ‹_› 10 rfl rfl
      · exact hletter '\r' ‹_› 13 rfl rfl
      · exact hletter '\t' ‹_› 9 rfl rfl
      · exact hletter '\x0b' ‹_› 11 rfl rfl
      · exact stands_numeric c

theorem charOf?_toNat (c : Char) : charOf? c.toNat = some c := by
  have hvalid : c.toNat < 0xd800 ∨ 0xdfff < c.toNat ∧ c.toNat < 0x110000 := c.valid
  rw [charOf?, if_pos (by simpa using hvalid), Char.ofNat_toNat]

variable {c : Char} {cs : List Char}

/-- The escape of a character denotes the character. -/
theorem Stands.bytesFrom_append (h : Stands c cs) (rest : List Char) :
    bytesFrom .none (cs ++ rest) = (String.utf8EncodeChar c ++ ·) <$> bytesFrom .none rest := by
  cases h with
  | plain hquote hslash => rw [List.singleton_append, bytesFrom, if_neg hslash]
  | letter he hb =>
    change bytesFrom .opened (_ :: rest) = _
    rw [bytesFrom, he, hb]
    rfl
  | byte hc =>
    have hencode : String.utf8EncodeChar c = [UInt8.ofNat c.toNat] := by
      simp only [String.utf8EncodeChar, if_pos (Nat.le_of_lt_succ hc : c.val.toNat ≤ 0x7f)]
      rfl
    change bytesFrom (.digits 16 2 0 true) (hex 2 c.toNat ++ rest) = _
    rw [bytesFrom_hex_all 1 _ _ _ (by omega), escaped?, if_pos rfl, if_pos (by omega), hencode]
    rfl
  | short hc =>
    change bytesFrom (.digits 16 4 0 false) (hex 4 c.toNat ++ rest) = _
    rw [bytesFrom_hex_all 3 _ _ _ hc, escaped?, if_neg (by decide), charOf?_toNat]
    rfl
  | long =>
    change bytesFrom (.digits 16 8 0 false) (hex 8 c.toNat ++ rest) = _
    rw [bytesFrom_hex_all 7 _ _ _ (Nat.lt_trans (toNat_lt c) (by decide)), escaped?, if_neg (by decide), charOf?_toNat]
    rfl

theorem hex_plain (width n : Nat) : ∀ d ∈ hex width n, d ≠ '"' ∧ d ≠ '\\' := by
  have hdigit : ∀ n : Fin 16, hexDigit n ≠ '"' ∧ hexDigit n ≠ '\\' := by decide
  induction width generalizing n with
  | zero => exact nofun
  | succ width ih =>
    rw [hex]
    exact List.forall_mem_append.mpr
      ⟨ih (n / 16), List.forall_mem_singleton.mpr (hdigit ⟨n % 16, Nat.mod_lt n (by decide)⟩)⟩

theorem quotedLength_plain {ds : List Char} (h : ∀ d ∈ ds, d ≠ '"' ∧ d ≠ '\\') (rest : List Char) :
    quotedLength '"' false (ds ++ rest) = ds.length + quotedLength '"' false rest := by
  induction ds with
  | nil => simp
  | cons d ds ih =>
    obtain ⟨⟨hquote, hslash⟩, hds⟩ := List.forall_mem_cons.mp h
    rw [List.cons_append, quotedLength, if_neg hquote, if_neg hslash, ih hds, List.length_cons]
    omega

/-- No escape ends a quoted text. -/
theorem Stands.quotedLength_append (h : Stands c cs) (rest : List Char) :
    quotedLength '"' false (cs ++ rest) = cs.length + quotedLength '"' false rest := by
  have hnumeric : ∀ (mark : Char) (width : Nat),
      quotedLength '"' false ('\\' :: mark :: hex width c.toNat ++ rest) =
        ('\\' :: mark :: hex width c.toNat).length + quotedLength '"' false rest := by
    intro mark width
    change quotedLength '"' false (hex width c.toNat ++ rest) + 1 + 1 = _
    rw [quotedLength_plain (hex_plain width c.toNat), List.length_cons, List.length_cons]
    omega
  cases h with
  | plain hquote hslash => exact quotedLength_plain (List.forall_mem_singleton.mpr ⟨hquote, hslash⟩) rest
  | letter =>
    change quotedLength '"' false rest + 1 + 1 = 2 + _
    omega
  | byte | short | long => exact hnumeric _ _

theorem bytesFrom_escapes (cs rest : List Char) :
    bytesFrom .none (cs.flatMap (escape '"') ++ rest) = (Bytes.ofChars cs ++ ·) <$> bytesFrom .none rest := by
  induction cs with
  | nil => simp
  | cons c cs ih =>
    rw [List.flatMap_cons, List.append_assoc, (stands_escape c).bytesFrom_append, ih]
    cases bytesFrom .none rest <;> simp

theorem quotedLength_escapes (cs rest : List Char) :
    quotedLength '"' false (cs.flatMap (escape '"') ++ rest) =
      (cs.flatMap (escape '"')).length + quotedLength '"' false rest := by
  induction cs with
  | nil => simp
  | cons c cs ih =>
    rw [List.flatMap_cons, List.append_assoc, (stands_escape c).quotedLength_append, ih, List.length_append]
    omega

/-- A quoted text denotes the text. -/
theorem quoted_string (s : String) : quoted (string s).toList = some (Bytes.ofString s) := by
  have h := bytesFrom_escapes s.toList []
  rw [List.append_nil] at h
  rw [string, String.toList_ofList, quoted, List.cons_append, List.drop_succ_cons, List.drop_zero,
    List.dropLast_concat, h]
  simp [bytesFrom, Bytes.ofString]

/-- A quoted text is one token, whatever comes behind it. -/
theorem tokenAt_string (s : String) (rest : List Char) :
    ∃ cs, (string s).toList = '"' :: cs ∧ tokenAt '"' (cs ++ rest) = (.string, cs.length + 1) := by
  refine ⟨s.toList.flatMap (escape '"') ++ ['"'], by simp [string], ?_⟩
  rw [List.append_assoc]
  change (TokenKind.string, quotedLength '"' false _ + 1) = _
  rw [quotedLength_escapes, List.length_append]
  rfl

end ServiceAnnotations.Text.Quoted
