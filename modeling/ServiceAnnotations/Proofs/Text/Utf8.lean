import ServiceAnnotations.Text.Utf8

/-! # UTF-8 forms and what they spell

The glyphs of a text's UTF-8 form are its characters, and a byte string without stray bytes is the
form of one text only. -/
namespace ServiceAnnotations.Text

@[simp] theorem Glyph.char?_char (c : Char) : (char c).char? = some c := rfl

@[simp] theorem Glyph.char?_stray (b : UInt8) : (stray b).char? = none := rfl

namespace Utf8

inductive Spells : Bytes → Nat → Prop
  | one {a : UInt8} (ha : a.toNat < 0x80) : Spells [a] a.toNat
  | two {a b : UInt8} (ha : 0xc2 ≤ a.toNat ∧ a.toNat ≤ 0xdf) (hb : isTail b) :
      Spells [a, b] (a.toNat % 0x20 * 0x40 + tailBits b)
  | three {a b c : UInt8} (ha : 0xe0 ≤ a.toNat ∧ a.toNat ≤ 0xef) (hb : isTail b) (hc : isTail c)
      (hlow : ¬ a.toNat = 0xe0 ∨ 0xa0 ≤ b.toNat) (hhigh : ¬ a.toNat = 0xed ∨ b.toNat ≤ 0x9f) :
      Spells [a, b, c] ((a.toNat % 0x10 * 0x40 + tailBits b) * 0x40 + tailBits c)
  | four {a b c d : UInt8} (ha : 0xf0 ≤ a.toNat ∧ a.toNat ≤ 0xf4) (hb : isTail b) (hc : isTail c)
      (hd : isTail d) (hlow : ¬ a.toNat = 0xf0 ∨ 0x90 ≤ b.toNat)
      (hhigh : ¬ a.toNat = 0xf4 ∨ b.toNat ≤ 0x8f) :
      Spells [a, b, c, d]
        (((a.toNat % 0x8 * 0x40 + tailBits b) * 0x40 + tailBits c) * 0x40 + tailBits d)

theorem isTail_iff {b : UInt8} : isTail b = true ↔ 0x80 ≤ b.toNat ∧ b.toNat ≤ 0xbf := by
  simp [isTail, UInt8.le_iff_toNat_le]

private theorem not_ascii {a : UInt8} (ha : 0x80 ≤ a.toNat) : ¬ a < 0x80 := by
  simpa [UInt8.lt_iff_toNat_lt] using ha

/-- Reading comes to a sequence as a whole. -/
theorem first_of_spells {a : UInt8} {bs : Bytes} {v : Nat} (h : Spells (a :: bs) v) (rest : Bytes) :
    first a (bs ++ rest) = (.char (Char.ofNat v), bs.length) := by
  cases h with
  | one ha =>
    have ha' : a < 0x80 := UInt8.lt_iff_toNat_lt.mpr ha
    simp [first, ha']
  | two ha hb => simp [first, not_ascii (by omega : 0x80 ≤ a.toNat), UInt8.le_iff_toNat_le, ha, hb]
  | three ha hb hc hlow hhigh =>
    have htwo : ¬ a.toNat ≤ 0xdf := by omega
    simp [first, not_ascii (by omega : 0x80 ≤ a.toNat), UInt8.le_iff_toNat_le, ← UInt8.toNat_inj, ha, hb,
      hc, htwo, hlow, hhigh]
  | four ha hb hc hd hlow hhigh =>
    have htwo : ¬ a.toNat ≤ 0xdf := by omega
    have hthree : ¬ a.toNat ≤ 0xef := by omega
    simp [first, not_ascii (by omega : 0x80 ≤ a.toNat), UInt8.le_iff_toNat_le, ← UInt8.toNat_inj, ha, hb,
      hc, hd, htwo, hthree, hlow, hhigh]

/-- What is not a sequence is read as a stray byte. -/
theorem first_cases (a : UInt8) (rest : Bytes) :
    first a rest = (.stray a, 0) ∨ ∃ bs tail v, rest = bs ++ tail ∧ Spells (a :: bs) v := by
  unfold first
  split
  · rename_i ha
    exact .inr ⟨[], rest, _, rfl, .one (UInt8.lt_iff_toNat_lt.mp ha)⟩
  · split
    · rename_i b rest
      split
      · rename_i hab
        simp only [Bool.and_eq_true, decide_eq_true_eq, UInt8.le_iff_toNat_le] at hab
        exact .inr ⟨[b], rest, _, rfl, .two hab.1 hab.2⟩
      · split
        · rename_i c rest
          split
          · rename_i habc
            simp [UInt8.le_iff_toNat_le, ← UInt8.toNat_inj] at habc
            obtain ⟨⟨⟨⟨ha, hb⟩, hc⟩, hlow⟩, hhigh⟩ := habc
            exact .inr ⟨[b, c], rest, _, rfl, .three ha hb hc hlow hhigh⟩
          · split
            · rename_i d rest
              split
              · rename_i habcd
                simp [UInt8.le_iff_toNat_le, ← UInt8.toNat_inj] at habcd
                obtain ⟨⟨⟨⟨⟨ha, hb⟩, hc⟩, hd⟩, hlow⟩, hhigh⟩ := habcd
                exact .inr ⟨[b, c, d], rest, _, rfl, .four ha hb hc hd hlow hhigh⟩
              · exact .inl rfl
            · exact .inl rfl
        · exact .inl rfl
    · exact .inl rfl

private theorem toNat_byte {n : Nat} (hn : n < 256) : (UInt8.ofNat n).toNat = n :=
  UInt8.toNat_ofNat_of_lt hn

private theorem isTail_byte (n : Nat) : isTail (UInt8.ofNat (n % 0x40 + 0x80)) = true := by
  rw [isTail_iff, toNat_byte (by omega)]
  omega

private theorem tailBits_byte (n : Nat) : tailBits (UInt8.ofNat (n % 0x40 + 0x80)) = n % 0x40 := by
  rw [tailBits, toNat_byte (by omega)]
  omega

/-- The form of a character stands for its code point. -/
theorem spells_encode (c : Char) : Spells (String.utf8EncodeChar c) c.toNat := by
  change Spells (String.utf8EncodeChar c) c.val.toNat
  unfold String.utf8EncodeChar
  generalize hv : c.val.toNat = v
  have hvalid : v < 0xd800 ∨ 0xdfff < v ∧ v < 0x110000 := hv ▸ c.valid
  simp only
  split
  · have ha : (UInt8.ofNat v).toNat = v := toNat_byte (by omega)
    have h : Spells [UInt8.ofNat v] (UInt8.ofNat v).toNat := .one (by omega)
    rwa [ha] at h
  · split
    · have ha : (UInt8.ofNat (v / 64 % 0x20 + 0xc0)).toNat = v / 64 % 0x20 + 0xc0 := toNat_byte (by omega)
      have h := Spells.two (by rw [ha]; omega) (isTail_byte v)
      rw [tailBits_byte, ha] at h
      rwa [show (v / 64 % 0x20 + 0xc0) % 0x20 * 0x40 + v % 0x40 = v by omega] at h
    · split
      · have ha : (UInt8.ofNat (v / 4096 % 0x10 + 0xe0)).toNat = v / 4096 % 0x10 + 0xe0 :=
          toNat_byte (by omega)
        have hb : (UInt8.ofNat (v / 64 % 0x40 + 0x80)).toNat = v / 64 % 0x40 + 0x80 :=
          toNat_byte (by omega)
        have h := Spells.three (by rw [ha]; omega) (isTail_byte (v / 64)) (isTail_byte v)
          (by rw [ha, hb]; omega) (by rw [ha, hb]; omega)
        rw [tailBits_byte, tailBits_byte, ha] at h
        rwa [show ((v / 4096 % 0x10 + 0xe0) % 0x10 * 0x40 + v / 64 % 0x40) * 0x40 + v % 0x40 = v
          by omega] at h
      · have ha : (UInt8.ofNat (v / 262144 % 0x08 + 0xf0)).toNat = v / 262144 % 0x08 + 0xf0 :=
          toNat_byte (by omega)
        have hb : (UInt8.ofNat (v / 4096 % 0x40 + 0x80)).toNat = v / 4096 % 0x40 + 0x80 :=
          toNat_byte (by omega)
        have h := Spells.four (by rw [ha]; omega) (isTail_byte (v / 4096)) (isTail_byte (v / 64))
          (isTail_byte v) (by rw [ha, hb]; omega) (by rw [ha, hb]; omega)
        rw [tailBits_byte, tailBits_byte, tailBits_byte, ha] at h
        rwa [show (((v / 262144 % 0x08 + 0xf0) % 0x8 * 0x40 + v / 4096 % 0x40) * 0x40 +
          v / 64 % 0x40) * 0x40 + v % 0x40 = v by omega] at h

/-- A code point has one form. -/
theorem encode_of_spells {bs : Bytes} {v : Nat} (h : Spells bs v) :
    String.utf8EncodeChar (Char.ofNat v) = bs := by
  have hbyte : ∀ {a : UInt8} {n : Nat}, n = a.toNat → UInt8.ofNat n = a := by
    rintro a n rfl
    exact UInt8.ofNat_toNat
  have hval : v.isValidChar → (Char.ofNat v).val.toNat = v := by
    intro hv
    rw [Char.ofNat, dif_pos hv]
    rfl
  cases h with
  | @one a ha =>
    rw [String.utf8EncodeChar, hval (.inl (by omega))]
    simp only [if_pos (by omega : a.toNat ≤ 0x7f), hbyte rfl]
  | @two a b ha hb =>
    have hb := isTail_iff.mp hb
    simp only [tailBits] at hval ⊢
    rw [String.utf8EncodeChar, hval (.inl (by omega))]
    rw [if_neg (by omega), if_pos (by omega), hbyte (a := a) (by omega), hbyte (a := b) (by omega)]
  | @three a b c ha hb hc hlow hhigh =>
    have hb := isTail_iff.mp hb
    have hc := isTail_iff.mp hc
    simp only [tailBits] at hval ⊢
    rw [String.utf8EncodeChar, hval (by unfold Nat.isValidChar; omega)]
    rw [if_neg (by omega), if_neg (by omega), if_pos (by omega), hbyte (a := a) (by omega),
      hbyte (a := b) (by omega), hbyte (a := c) (by omega)]
  | @four a b c d ha hb hc hd hlow hhigh =>
    have hb := isTail_iff.mp hb
    have hc := isTail_iff.mp hc
    have hd := isTail_iff.mp hd
    simp only [tailBits] at hval ⊢
    rw [String.utf8EncodeChar, hval (by unfold Nat.isValidChar; omega)]
    rw [if_neg (by omega), if_neg (by omega), if_neg (by omega), hbyte (a := a) (by omega),
      hbyte (a := b) (by omega), hbyte (a := c) (by omega), hbyte (a := d) (by omega)]

theorem glyphsFrom_eq_glyphs_drop (n : Nat) (b : Bytes) : glyphsFrom n b = glyphs (b.drop n) := by
  induction b generalizing n with
  | nil => simp [glyphsFrom, glyphs]
  | cons a rest ih =>
    cases n with
    | zero => rfl
    | succ n => simpa [glyphsFrom] using ih n

theorem glyphs_cons (a : UInt8) (rest : Bytes) :
    glyphs (a :: rest) = (first a rest).1 :: glyphs (rest.drop (first a rest).2) := by
  simp only [glyphs, glyphsFrom]
  rw [glyphsFrom_eq_glyphs_drop, glyphs]

theorem glyphs_spells_append {bs : Bytes} {v : Nat} (h : Spells bs v) (rest : Bytes) :
    glyphs (bs ++ rest) = .char (Char.ofNat v) :: glyphs rest := by
  obtain ⟨a, bs, rfl⟩ : ∃ a bs', bs = a :: bs' := by cases h <;> exact ⟨_, _, rfl⟩
  rw [List.cons_append, glyphs_cons, first_of_spells h]
  simp

/-- The glyphs of a text's form are its characters, whatever follows it. -/
theorem glyphs_ofChars_append (cs : List Char) (rest : Bytes) :
    glyphs (Bytes.ofChars cs ++ rest) = cs.map .char ++ glyphs rest := by
  induction cs with
  | nil => simp
  | cons c cs ih =>
    rw [Bytes.ofChars_cons, List.append_assoc, glyphs_spells_append (spells_encode c), ih]
    simp

theorem glyphs_ofChars (cs : List Char) : glyphs (Bytes.ofChars cs) = cs.map .char := by
  simpa [glyphs, glyphsFrom] using glyphs_ofChars_append cs []

/-- Reading loses no byte. -/
theorem flatMap_bytes_glyphs (b : Bytes) : (glyphs b).flatMap Glyph.bytes = b := by
  induction hn : b.length using Nat.strongRecOn generalizing b with
  | _ n ih =>
    subst hn
    cases b with
    | nil => rfl
    | cons a rest =>
      rcases first_cases a rest with hstray | ⟨bs, tail, v, rfl, hspells⟩
      · rw [glyphs_cons, hstray, List.flatMap_cons]
        simpa [Glyph.bytes] using ih rest.length (by simp) rest rfl
      · have hglyphs := glyphs_spells_append hspells tail
        have hlength : tail.length < (a :: (bs ++ tail)).length := by
          rw [List.length_cons, List.length_append]
          omega
        rw [List.cons_append] at hglyphs
        rw [hglyphs, List.flatMap_cons, ih tail.length hlength tail rfl, Glyph.bytes,
          encode_of_spells hspells, List.cons_append]

theorem mapM_char?_eq_some_iff {gs : List Glyph} {cs : List Char} :
    gs.mapM Glyph.char? = some cs ↔ gs = cs.map .char := by
  induction gs generalizing cs with
  | nil => cases cs <;> simp
  | cons g gs ih =>
    cases g with
    | stray b => cases cs <;> simp
    | char c =>
      cases cs with
      | nil => simp [Option.bind_eq_some_iff]
      | cons d ds =>
        simp only [List.mapM_cons, Glyph.char?_char, Option.pure_def, Option.bind_eq_bind, Option.bind_some,
          Option.bind_eq_some_iff, ih, Option.some.injEq, List.cons.injEq, List.map_cons, Glyph.char.injEq]
        constructor
        · rintro ⟨_, rfl, rfl, rfl⟩
          exact ⟨rfl, rfl⟩
        · rintro ⟨rfl, rfl⟩
          exact ⟨ds, rfl, rfl, rfl⟩

/-- A byte string spells a text just when it is the text's form. -/
theorem mapM_char?_glyphs_eq_some_iff {b : Bytes} {cs : List Char} :
    (glyphs b).mapM Glyph.char? = some cs ↔ b = Bytes.ofChars cs := by
  rw [mapM_char?_eq_some_iff]
  constructor
  · intro h
    rw [← flatMap_bytes_glyphs b, h, List.flatMap_map]
    rfl
  · rintro rfl
    exact glyphs_ofChars cs

theorem ofChars_injective {cs ds : List Char} (h : Bytes.ofChars cs = Bytes.ofChars ds) : cs = ds := by
  have hcs := mapM_char?_glyphs_eq_some_iff.mpr h
  rw [mapM_char?_glyphs_eq_some_iff.mpr rfl] at hcs
  exact Option.some.inj hcs

theorem isValid_iff {b : Bytes} : isValid b = true ↔ ∃ cs, b = Bytes.ofChars cs := by
  simp only [← mapM_char?_glyphs_eq_some_iff, isValid]
  generalize glyphs b = gs
  induction gs with
  | nil => simp
  | cons g gs ih =>
    rw [List.all_cons, Bool.and_eq_true, ih]
    cases g with
    | stray b => simp
    | char c => simp only [List.mapM_cons, Glyph.char?_char]; cases gs.mapM Glyph.char? <;> simp

/-- A byte below 0x80 is the form of a character, and part of no other form. -/
theorem mem_encode_iff {c d : Char} (hc : c.toNat < 0x80) :
    UInt8.ofNat c.toNat ∈ String.utf8EncodeChar d ↔ c = d := by
  have hbyte : (UInt8.ofNat c.toNat).toNat = c.toNat := toNat_byte (by omega)
  have hsame : UInt8.ofNat c.toNat ∈ String.utf8EncodeChar d → c.toNat = d.toNat := by
    intro h
    have hspells := spells_encode d
    generalize String.utf8EncodeChar d = bs at h hspells
    generalize d.toNat = v at hspells ⊢
    cases hspells with
    | one ha => simpa [← UInt8.toNat_inj, hbyte] using h
    | two ha hb =>
      have hb := isTail_iff.mp hb
      simp only [List.mem_cons, List.not_mem_nil, or_false, ← UInt8.toNat_inj, hbyte] at h
      omega
    | three ha hb hc' =>
      have hb := isTail_iff.mp hb
      have hc' := isTail_iff.mp hc'
      simp only [List.mem_cons, List.not_mem_nil, or_false, ← UInt8.toNat_inj, hbyte] at h
      omega
    | four ha hb hc' hd =>
      have hb := isTail_iff.mp hb
      have hc' := isTail_iff.mp hc'
      have hd := isTail_iff.mp hd
      simp only [List.mem_cons, List.not_mem_nil, or_false, ← UInt8.toNat_inj, hbyte] at h
      omega
  constructor
  · exact fun h => Char.toNat_inj.mp (hsame h)
  · rintro rfl
    have hle : c.val.toNat ≤ 0x7f := Nat.lt_succ_iff.mp hc
    simp only [String.utf8EncodeChar, if_pos hle, List.mem_singleton]
    rfl

theorem mem_ofChars_iff {cs : List Char} {c : Char} (hc : c.toNat < 0x80) :
    UInt8.ofNat c.toNat ∈ Bytes.ofChars cs ↔ c ∈ cs := by
  simp [Bytes.ofChars, mem_encode_iff hc]

/-- Where the form of a text has the byte of a character below 0x80, the text has the character. -/
theorem exists_of_ofChars_eq_append {cs : List Char} {c : Char} (hc : c.toNat < 0x80) {x y : Bytes}
    (h : Bytes.ofChars cs = x ++ UInt8.ofNat c.toNat :: y) :
    ∃ us vs, cs = us ++ c :: vs ∧ x = Bytes.ofChars us ∧ y = Bytes.ofChars vs := by
  induction cs generalizing x with
  | nil => simp at h
  | cons d cs ih =>
    have hmore : ∀ x', x = String.utf8EncodeChar d ++ x' → Bytes.ofChars cs = x' ++ UInt8.ofNat c.toNat :: y →
        ∃ us vs, d :: cs = us ++ c :: vs ∧ x = Bytes.ofChars us ∧ y = Bytes.ofChars vs := by
      rintro x' rfl h'
      obtain ⟨us, vs, rfl, rfl, rfl⟩ := ih h'
      exact ⟨d :: us, vs, rfl, rfl, rfl⟩
    rw [Bytes.ofChars_cons] at h
    rcases List.append_eq_append_iff.mp h with ⟨x', hx, h'⟩ | ⟨y', hd, h'⟩
    · exact hmore x' hx h'
    · cases y' with
      | nil => exact hmore [] (by simpa using hd.symm) h'.symm
      | cons b y' =>
        obtain ⟨rfl, hy⟩ := List.cons.inj h'
        -- The byte is a character on its own, so there is nothing else in the form of `d`.
        obtain rfl : c = d := (mem_encode_iff hc).mp (by rw [hd]; simp)
        have hone : (String.utf8EncodeChar c).length = 1 := by
          rw [String.length_utf8EncodeChar]
          exact Char.utf8Size_eq_one_iff.mpr (UInt32.le_iff_toNat_le.mpr (Nat.lt_succ_iff.mp hc))
        rw [hd, List.length_append, List.length_cons] at hone
        obtain rfl : x = [] := List.length_eq_zero_iff.mp (by omega)
        obtain rfl : y' = [] := List.length_eq_zero_iff.mp (by omega)
        exact ⟨[], cs, rfl, rfl, hy⟩

/-- Only bytes that are no characters on their own are read as stray ones. -/
theorem stray_not_mem_glyphs {b : UInt8} (hb : b < 0x80) (bs : Bytes) : .stray b ∉ glyphs bs := by
  induction hn : bs.length using Nat.strongRecOn generalizing bs with
  | _ n ih =>
    subst hn
    cases bs with
    | nil => exact List.not_mem_nil
    | cons a rest =>
      rw [glyphs_cons, List.mem_cons, not_or]
      have hrest : (rest.drop (first a rest).2).length < (a :: rest).length := by
        rw [List.length_drop, List.length_cons]
        omega
      refine ⟨fun hfirst => ?_, ih _ hrest _ rfl⟩
      rcases first_cases a rest with hstray | ⟨bs, tail, v, rfl, hspells⟩
      · rw [hstray] at hfirst
        obtain rfl := Glyph.stray.inj hfirst
        simp [first, hb] at hstray
      · rw [first_of_spells hspells] at hfirst
        cases hfirst

theorem head?_glyphs_append {b : Bytes} {c : Char} (h : (glyphs b).head? = some (.char c)) (more : Bytes) :
    (glyphs (b ++ more)).head? = some (.char c) := by
  cases b with
  | nil => cases h
  | cons a rest =>
    rw [glyphs_cons, List.head?_cons, Option.some.injEq] at h
    rcases first_cases a rest with hstray | ⟨bs, tail, v, rfl, hspells⟩
    · rw [hstray] at h
      cases h
    · rw [first_of_spells hspells] at h
      have hglyphs := glyphs_spells_append hspells (tail ++ more)
      rw [List.cons_append, ← List.append_assoc] at hglyphs
      rw [List.cons_append, hglyphs]
      exact congrArg some h

end Utf8

namespace Glyph

theorem length_bytes (g : Glyph) : g.bytes.length = g.width := by
  cases g with
  | char c => exact String.length_utf8EncodeChar c
  | stray b => rfl

theorem bytes_ne_nil (g : Glyph) : g.bytes ≠ [] := by
  rw [← List.length_pos_iff, length_bytes]
  cases g with
  | char c => exact c.utf8Size_pos
  | stray b => exact Nat.one_pos

/-- A line end is the only glyph with its byte. -/
theorem mem_bytes_iff {g : Glyph} (hg : g ≠ .stray 0x0a) : 0x0a ∈ g.bytes ↔ g = .char '\n' := by
  cases g with
  | char c =>
    have hmem := Utf8.mem_encode_iff (c := '\n') (d := c) (by decide)
    rw [Glyph.char.injEq, eq_comm (a := c)]
    exact hmem
  | stray b => simpa [Glyph.bytes, eq_comm] using hg

theorem count_bytes {g : Glyph} (hg : g ≠ .stray 0x0a) :
    g.bytes.count 0x0a = if g = .char '\n' then 1 else 0 := by
  by_cases hend : g = .char '\n'
  · rw [hend]
    decide
  · rw [if_neg hend, List.count_eq_zero, mem_bytes_iff hg]
    exact hend

end Glyph
end ServiceAnnotations.Text
