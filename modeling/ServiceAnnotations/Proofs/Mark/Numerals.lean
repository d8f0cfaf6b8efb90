import ServiceAnnotations.Proofs.Mark.Lookahead

/-! # Whole numbers

A numeral is a token when it is a whole number with well placed digits. Such a numeral is known from its
characters and the glyph behind them. -/
namespace ServiceAnnotations.Mark
open Text

def isNumeralTail (c : Char) : Bool := c.isAlphanum || c == '_'

def opensExponent (c : Char) : Bool := c.toLower == 'e' || c.toLower == 'p'

def opensFraction (c : Char) : Bool := c == '.' || opensExponent c

theorem isAlphanum_iff {c : Char} : c.isAlphanum ↔ ('A' ≤ c ∧ c ≤ 'Z') ∨ ('a' ≤ c ∧ c ≤ 'z') ∨ c.isDigit := by
  have hranges : c.isAlphanum = (decide (c.val ≥ 'A'.val ∧ c.val ≤ 'Z'.val) ||
      (decide (c.val ≥ 'a'.val) && decide (c.val ≤ 'z'.val)) || c.isDigit) := rfl
  simp [hranges, or_assoc, Char.le_def]

theorem isNumeralTail_of_isDigit {c : Char} (h : c.isDigit) : isNumeralTail c := by
  rw [isNumeralTail, Bool.or_eq_true, isAlphanum_iff]
  exact .inl (.inr (.inr h))

theorem isNumeralTail_of_isHexDigit {c : Char} (h : isHexDigit c) : isNumeralTail c := by
  rw [isNumeralTail, Bool.or_eq_true, isAlphanum_iff]
  unfold isHexDigit Literal.digitValue? at h
  simp only [Char.isDigit, Bool.and_eq_true, decide_eq_true_eq, ge_iff_le, UInt32.le_iff_toNat_le, Char.le_def,
    UInt32.reduceToNat, Char.reduceVal] at h ⊢
  split at h
  · omega
  · split at h
    · omega
    · split at h
      · omega
      · cases h

theorem isNumeralTail_of_accepts {radix : Radix} {c : Char} (h : radix.accepts c) : isNumeralTail c := by
  rw [Radix.accepts, Bool.or_eq_true] at h
  rcases h with hsep | hdigit
  · simp [isNumeralTail, show c = '_' by simpa [isSeparator] using hsep]
  · split at hdigit
    · exact isNumeralTail_of_isHexDigit hdigit
    · exact isNumeralTail_of_isDigit hdigit

theorem accepts_eq_false_of_isSpacing (radix : Radix) {c : Char} (h : isSpacing c) : radix.accepts c = false := by
  rcases eq_of_isSpacing h with rfl | rfl | rfl | rfl <;> cases radix <;> decide

theorem opensFraction_eq_false_of_isSpacing {c : Char} (h : isSpacing c) : opensFraction c = false := by
  rcases eq_of_isSpacing h with rfl | rfl | rfl | rfl <;> decide

namespace Numeral

theorem digits_run {n : Numeral} {cs : List Char} {rest : List Glyph}
    (hn : n.scan = ⟨cs.map .char ++ rest, none⟩) (hcs : ∀ c ∈ cs, n.radix.accepts c)
    (hrest : rest.head?.any (Glyph.holds n.radix.accepts) = false) (hlook : look rest none = none) :
    n.digits = { n with
      scan := ⟨rest, none⟩
      hasDigit := n.hasDigit || cs.any (!isSeparator ·)
      hasSeparator := n.hasSeparator || cs.any isSeparator
      tooLarge := n.tooLarge.or
        (cs.find? fun c => (Literal.digitValue? c).any (n.radix.base ≤ ·)) } := by
  rw [digits, hn, Scan.skipWhile_run hcs hrest hlook, Scan.run_append hcs hrest]

/-- A numeral that is the whole number spelled by `cs`. -/
structure IsWhole (n : Numeral) (cs : List Char) : Prop where
  isInteger : n.isInteger = true
  hasDigit : n.hasDigit = true
  tooLarge : n.tooLarge = none
  separated : n.hasSeparator = true → isWellSeparated cs = true

theorem withoutExponent_eq_self {n : Numeral} (h : n.isInteger = true) : n.withoutExponent = n := by
  have hscan : n.scan.failIf (n.radix = .hexadecimal && !n.isInteger) .needsExponent = n.scan := by
    rw [h, Bool.not_true, Bool.and_false]
    rfl
  rw [withoutExponent, hscan]

theorem exponent_of_next? {n : Numeral} {c : Char} (h : n.scan.next? = some c) (hc : opensExponent c = true) :
    n.exponent.isInteger = false := by
  have he : (c.toLower = 'e' || c.toLower = 'p') = true := by simpa [opensExponent] using hc
  simp only [exponent, h, he, if_true]

theorem exponent_of_not_opens {n : Numeral} (h : ∀ c, n.scan.next? = some c → opensExponent c = false) :
    n.exponent = n.withoutExponent := by
  unfold exponent
  split
  · rename_i c hnext
    have he : (c.toLower = 'e' || c.toLower = 'p') = false := by simpa [opensExponent] using h c hnext
    simp only [he, Bool.false_eq_true, if_false]
  · rfl

end Numeral

theorem Scan.any_holds_eq_false_iff {s : Scan} {p : Char → Bool} :
    s.rest.head?.any (Glyph.holds p) = false ↔ ∀ c, s.next? = some c → p c = false := by
  unfold Scan.next?
  rcases s.rest.head? with _ | (c | b) <;> simp [Glyph.holds, Glyph.char?]

theorem Scan.failIf_eq_iff {s : Scan} {b : Bool} {e : LexError} {rest : List Glyph} :
    s.failIf b e = ⟨rest, none⟩ ↔ b = false ∧ s = ⟨rest, none⟩ := by
  cases b <;> simp [failIf, fail]

namespace Numeral

theorem isInteger_exponent {n : Numeral} (h : n.exponent.isInteger = true) :
    n.exponent = n ∧ n.isInteger = true ∧ ∀ c, n.scan.next? = some c → opensExponent c = false := by
  have hnot : ∀ c, n.scan.next? = some c → opensExponent c = false := by
    intro c hnext
    cases hc : opensExponent c with
    | false => rfl
    | true =>
      rw [exponent_of_next? hnext hc] at h
      cases h
  rw [exponent_of_not_opens hnot] at h ⊢
  have hint : n.isInteger = true := h
  exact ⟨withoutExponent_eq_self hint, hint, hnot⟩

/-- Reads what may follow the digits of a numeral and its fraction, and checks the whole. -/
def conclude (whole : List Glyph) (n : Numeral) : Shape × Scan :=
  let n := { n with scan := n.scan.failIf (!n.hasDigit) (.noDigits n.radix) }.exponent
  let s := match n.isInteger, n.tooLarge with
    | true, some c => n.scan.fail (.badDigit c n.radix)
    | _, _ => n.scan
  let s := s.failIf (n.hasSeparator && !isWellSeparated (spelling whole s.rest)) .badSeparator
  (if n.isInteger then .int else .float, s)

/-- A numeral is taken for a whole number when it has nothing but well placed digits. -/
theorem conclude_eq_int_iff {n : Numeral} {whole rest : List Glyph} :
    n.conclude whole = (.int, ⟨rest, none⟩) ↔
      n.scan = ⟨rest, none⟩ ∧ n.IsWhole (spelling whole rest) ∧
        rest.head?.any (Glyph.holds opensExponent) = false := by
  unfold conclude
  constructor
  · generalize hn' : { n with scan := n.scan.failIf (!n.hasDigit) (.noDigits n.radix) } = n'
    intro h
    simp only at h
    by_cases hint : n'.exponent.isInteger = true
    · obtain ⟨heq, hint', hnext⟩ := isInteger_exponent hint
      rw [heq] at h
      simp only [hint', if_true, Prod.mk.injEq, true_and, Scan.failIf_eq_iff] at h
      obtain ⟨hseparated, hscan⟩ := h
      cases hlarge : n'.tooLarge with
      | some c => simp [hlarge, Scan.fail] at hscan
      | none =>
        simp only [hlarge] at hscan hseparated
        subst hn'
        simp only at hscan hlarge hint' hseparated
        obtain ⟨hdigit, hn⟩ := Scan.failIf_eq_iff.mp hscan
        refine ⟨hn, ⟨hint', by simpa using hdigit, hlarge, fun hsep => ?_⟩, ?_⟩
        · simpa [hsep, hscan] using hseparated
        · rw [← Scan.any_holds_eq_false_iff, hscan] at hnext
          exact hnext
    · simp [hint] at h
  · rintro ⟨hscan, hwhole, hahead⟩
    have hn : n.scan.failIf (!n.hasDigit) (.noDigits n.radix) = n.scan := by
      rw [hwhole.hasDigit]
      rfl
    have hseparated : (n.hasSeparator && !isWellSeparated (spelling whole rest)) = false := by
      cases hsep : n.hasSeparator with
      | false => rfl
      | true => simp [hwhole.separated hsep]
    have hexponent : n.exponent = n := by
      rw [exponent_of_not_opens, withoutExponent_eq_self hwhole.isInteger]
      rw [← Scan.any_holds_eq_false_iff, hscan]
      exact hahead
    simp only [hn, hexponent]
    simp only [hwhole.isInteger, hwhole.tooLarge, hscan, hseparated]
    rfl

theorem shape_conclude (whole : List Glyph) (n : Numeral) :
    (n.conclude whole).1 = .int ∨ (n.conclude whole).1 = .float := by
  unfold conclude
  dsimp only
  split
  · exact .inl rfl
  · exact .inr rfl

theorem shape_conclude_fraction (whole : List Glyph) (n : Numeral) : (n.fraction.conclude whole).1 = .float := by
  unfold conclude
  dsimp only
  split
  · rename_i hint
    cases (isInteger_exponent hint).2.1
  · rfl

end Numeral

theorem scanNumeral_afterPoint (whole : List Glyph) (s : Scan) :
    scanNumeral whole s true = (Numeral.fraction { scan := s, radix := .decimal }).conclude whole := rfl

theorem scanNumeral_point {s : Scan} (h : (Numeral.ofStart s).digits.scan.nextIs (· == '.') = true)
    (whole : List Glyph) :
    scanNumeral whole s false = { (Numeral.ofStart s).digits with
      scan := (Numeral.ofStart s).digits.scan.step }.fraction.conclude whole := by
  unfold scanNumeral
  simp only [Bool.false_eq_true, if_false, h, if_true]
  rfl

theorem scanNumeral_whole {s : Scan} (h : (Numeral.ofStart s).digits.scan.nextIs (· == '.') = false)
    (whole : List Glyph) : scanNumeral whole s false = (Numeral.ofStart s).digits.conclude whole := by
  unfold scanNumeral
  simp only [Bool.false_eq_true, if_false, h]
  rfl

/-- A numeral is a whole number when nothing goes on with it and all its digits are well placed. -/
theorem scanNumeral_eq_int_iff {whole rest : List Glyph} {s : Scan} :
    scanNumeral whole s false = (.int, ⟨rest, none⟩) ↔
      (Numeral.ofStart s).digits.scan = ⟨rest, none⟩ ∧
        (Numeral.ofStart s).digits.IsWhole (spelling whole rest) ∧
        rest.head?.any (Glyph.holds opensFraction) = false := by
  have hopens : rest.head?.any (Glyph.holds opensFraction) = false ↔
      rest.head?.any (Glyph.holds (· == '.')) = false ∧
        rest.head?.any (Glyph.holds opensExponent) = false := by
    rcases rest.head? with _ | (c | b) <;> simp [Glyph.holds, opensFraction]
  rw [hopens]
  cases hpoint : (Numeral.ofStart s).digits.scan.nextIs (· == '.') with
  | true =>
    rw [scanNumeral_point hpoint]
    refine iff_of_false (fun h => ?_) ?_
    · have hshape := Numeral.shape_conclude_fraction whole
        { (Numeral.ofStart s).digits with scan := (Numeral.ofStart s).digits.scan.step }
      rw [h] at hshape
      cases hshape
    · rintro ⟨hscan, -, hahead, -⟩
      rw [hscan] at hpoint
      exact absurd hahead (by simpa [Scan.nextIs] using hpoint)
  | false =>
    rw [scanNumeral_whole hpoint]
    refine Numeral.conclude_eq_int_iff.trans (and_congr_right fun hscan => and_congr_right fun _ => ?_)
    have hahead : rest.head?.any (Glyph.holds (· == '.')) = false := by
      simpa [hscan, Scan.nextIs] using hpoint
    rw [hahead]
    simp

def baseMark? (c : Char) : Option Radix :=
  match c.toLower with
  | 'x' => some .hexadecimal
  | 'o' => some .octal
  | 'b' => some .binary
  | _ => none

theorem baseMark?_eq_none_of_isSpacing {c : Char} (h : isSpacing c) : baseMark? c = none := by
  rcases eq_of_isSpacing h with rfl | rfl | rfl | rfl <;> rfl

theorem isNumeralTail_of_baseMark? {c : Char} (h : (baseMark? c).isSome) : isNumeralTail c := by
  by_cases hupper : 'A' ≤ c ∧ c ≤ 'Z'
  · rw [isNumeralTail, Bool.or_eq_true, isAlphanum_iff]
    exact .inl (.inl hupper)
  · have hlower : c.toLower = c := by
      unfold Char.toLower
      exact dif_neg hupper
    unfold baseMark? at h
    rw [hlower] at h
    split at h
    · decide
    · decide
    · decide
    · cases h

theorem Scan.exists_tail_of_next? {s : Scan} {c : Char} (h : s.next? = some c) :
    ∃ tail, s.rest = .char c :: tail := by
  obtain ⟨rest, error⟩ := s
  rcases rest with _ | ⟨d | b, tail⟩
  · cases h
  · exact ⟨tail, by simpa [next?, Glyph.char?] using h⟩
  · cases h

namespace Numeral

theorem ofStart_zero {s : Scan} (h : s.nextIs (· == '0')) :
    ofStart s = match s.step.next?.bind baseMark? with
      | some radix => { scan := s.step.step, radix }
      | none => { scan := s.step, radix := .leadingZero, hasDigit := true } := by
  unfold ofStart
  simp only [h, if_true]
  cases s.step.next? with
  | none => rfl
  | some c =>
    simp only [Option.map_some, Option.bind_some, baseMark?]
    split <;> simp_all

theorem ofStart_not_zero {s : Scan} (h : s.rest.head?.any (Glyph.holds (· == '0')) = false) :
    ofStart s = { scan := s, radix := .decimal } := by
  rw [ofStart, if_neg (by simpa [Scan.nextIs] using h)]

/-- How a numeral starts is known from the characters `front` and the glyph behind them. -/
structure Starts (front : List Char) (rest : List Glyph) (n : Numeral) : Prop where
  tail : ∀ c ∈ front, isNumeralTail c
  clean : look rest none = none
  ofStart_eq : ∀ rest', SameAhead rest rest' →
    ofStart (.start (front.map .char ++ rest')) = { n with scan := ⟨rest', none⟩ }

theorem nextIs_zero (rest : List Glyph) : (Scan.start (.char '0' :: rest)).nextIs (· == '0') = true := rfl

theorem step_zero {rest : List Glyph} (h : look rest none = none) :
    (Scan.start (.char '0' :: rest)).step = ⟨rest, none⟩ := Scan.step_run h

theorem starts_marked {m : Char} {rest : List Glyph} {radix : Radix} (hm : baseMark? m = some radix)
    (hrest : look rest none = none) (n : Numeral) (hn : n = { scan := n.scan, radix }) :
    Starts ['0', m] rest n := by
  have htail : isNumeralTail m := isNumeralTail_of_baseMark? (by rw [hm]; rfl)
  have hlook : ∀ rest', look (.char m :: rest') none = none := fun rest' => look_char_cons.mpr fun hnul => by
    obtain rfl : m = Char.ofNat 0 := by rw [← hnul, Char.ofNat_toNat]
    cases hm
  refine ⟨by simp [htail, show isNumeralTail '0' = true by decide], hrest, fun rest' hahead => ?_⟩
  change ofStart (.start (.char '0' :: .char m :: rest')) = _
  rw [ofStart_zero (nextIs_zero _), step_zero (hlook rest'), Scan.step_run (hahead.look hrest), hn]
  simp [Scan.next?, Glyph.char?, hm]

theorem starts_zero {rest : List Glyph} (hrest : look rest none = none)
    (hmark : rest.head?.any (Glyph.holds fun c => (baseMark? c).isSome) = false) (scan : Scan) :
    Starts ['0'] rest { scan, radix := .leadingZero, hasDigit := true } := by
  refine ⟨by simp [show isNumeralTail '0' = true by decide], hrest, fun rest' hahead => ?_⟩
  have hmark' := hahead.any_holds (fun c hc => by rw [baseMark?_eq_none_of_isSpacing hc]; rfl) hmark
  have hnone : (Scan.mk rest' none).next?.bind baseMark? = none := by
    cases hnext : (Scan.mk rest' none).next? with
    | none => rfl
    | some c => simpa using Scan.any_holds_eq_false_iff.mp hmark' c hnext
  change ofStart (.start (.char '0' :: rest')) = _
  rw [ofStart_zero (nextIs_zero _), step_zero (hahead.look hrest), hnone]

theorem starts_decimal {rest : List Glyph} (hrest : look rest none = none)
    (hzero : rest.head?.any (Glyph.holds (· == '0')) = false) (scan : Scan) :
    Starts [] rest { scan, radix := .decimal } := by
  refine ⟨by simp, hrest, fun rest' hahead => ?_⟩
  have hzero' := hahead.any_holds (p := (· == '0')) (fun c hc => by
    rcases eq_of_isSpacing hc with rfl | rfl | rfl | rfl <;> rfl) hzero
  change ofStart (.start rest') = _
  rw [Scan.start_run (hahead.look hrest), ofStart_not_zero hzero']

theorem exists_starts {c : Char} {tail : List Glyph} (hc : c.isDigit)
    (h : (ofStart (.start (.char c :: tail))).scan.error = none) :
    ∃ (front : List Char) (rest : List Glyph), .char c :: tail = front.map .char ++ rest ∧
      Starts front rest (ofStart (.start (.char c :: tail))) := by
  by_cases hzero : c = '0'
  · subst hzero
    rw [ofStart_zero (nextIs_zero tail)] at h ⊢
    cases hmark : (Scan.start (.char '0' :: tail)).step.next?.bind baseMark? with
    | some radix =>
      obtain ⟨m, hm, hradix⟩ := Option.bind_eq_some_iff.mp hmark
      obtain ⟨rest, rfl⟩ := Scan.exists_tail_of_next? hm
      simp only [hmark] at h ⊢
      exact ⟨['0', m], rest, rfl, starts_marked hradix (look_eq_none_iff.mp h).1 _ rfl⟩
    | none =>
      simp only [hmark] at h ⊢
      refine ⟨['0'], tail, rfl, starts_zero (look_eq_none_iff.mp h).1 ?_ _⟩
      refine (Scan.any_holds_eq_false_iff (s := (Scan.start (.char '0' :: tail)).step)).mpr fun m hm => ?_
      rw [hm] at hmark
      rw [show baseMark? m = none from hmark]
      rfl
  · have hnot : (Glyph.char c :: tail).head?.any (Glyph.holds (· == '0')) = false := by
      simpa [Glyph.holds] using hzero
    rw [ofStart_not_zero hnot] at h ⊢
    have hlook : look (.char c :: tail) none = none := h
    exact ⟨[], .char c :: tail, rfl, starts_decimal hlook hnot _⟩

end Numeral

theorem Scan.error_of_skipWhile {p : Char → Bool} {s : Scan} (h : (s.skipWhile p).error = none) :
    s.error = none := by
  unfold skipWhile at h
  split at h
  · exact (look_eq_none_iff.mp h).2
  · exact h

theorem spelling_append (cs : List Char) (rest : List Glyph) : spelling (cs.map .char ++ rest) rest = cs := by
  simp [spelling, consumed, List.filterMap_map, Function.comp_def]

/-- The digits of a numeral are read again wherever they stand. -/
theorem Numeral.exists_digits {c : Char} {tail rest : List Glyph} (hc : c.isDigit)
    (hscan : (ofStart (.start (.char c :: tail))).digits.scan = ⟨rest, none⟩) :
    ∃ cs : List Char, tail = cs.map .char ++ rest ∧ (∀ d ∈ cs, isNumeralTail d) ∧ look rest none = none ∧
      ∀ rest', SameAhead rest rest' →
        (ofStart (.start (.char c :: (cs.map .char ++ rest')))).digits =
          { (ofStart (.start (.char c :: tail))).digits with scan := ⟨rest', none⟩ } := by
  have hsuffix : rest <:+ tail := by
    have hdigits := suffix_digits_ofStart (s := .start (.char c :: tail)) rfl hc
    rwa [hscan] at hdigits
  have herror : (ofStart (.start (.char c :: tail))).digits.scan.error = none := by rw [hscan]
  obtain ⟨front, more, hsplit, hstarts⟩ := exists_starts hc (Scan.error_of_skipWhile herror)
  generalize hn : ofStart (.start (.char c :: tail)) = n at *
  have hmore : n.scan = ⟨more, none⟩ := by
    rw [← hn, hsplit, hstarts.ofStart_eq more (.refl more)]
  obtain ⟨ds, rest₁, hrun, hds, hend, hlook⟩ :=
    Scan.of_error_skipWhile (fun _ => by rw [hmore]; exact hstarts.clean) herror
  have hdigits := digits_run hrun hds hend hlook
  obtain rfl : rest = rest₁ := by
    have hrest := congrArg (Scan.rest ∘ Numeral.scan) hdigits
    simpa [hscan] using hrest
  obtain rfl : more = ds.map .char ++ rest := by simpa [hmore] using hrun
  rw [← List.append_assoc, ← List.map_append] at hsplit
  -- the first digit is one of the characters that have been read
  obtain ⟨cs, hcs⟩ : ∃ cs, front ++ ds = c :: cs := by
    cases hcs : front ++ ds with
    | nil =>
      have hlength := hsuffix.length_le
      rw [hcs] at hsplit
      rw [← show _ = rest from hsplit, List.length_cons] at hlength
      omega
    | cons d cs =>
      rw [hcs, List.map_cons, List.cons_append, List.cons.injEq, Glyph.char.injEq] at hsplit
      exact ⟨cs, by rw [hsplit.1]⟩
  refine ⟨cs, by simpa [hcs] using hsplit, fun d hd => ?_, hlook, fun rest' hahead => ?_⟩
  · have hmem : d ∈ front ++ ds := hcs ▸ List.mem_cons_of_mem c hd
    rcases List.mem_append.mp hmem with hmem | hmem
    · exact hstarts.tail d hmem
    · exact isNumeralTail_of_accepts (hds d hmem)
  · have hfront := hstarts.ofStart_eq (ds.map .char ++ rest') (hahead.append _)
    rw [← List.append_assoc, ← List.map_append, hcs, List.map_cons, List.cons_append] at hfront
    have hend' := hahead.any_holds (fun d hd => accepts_eq_false_of_isSpacing n.radix hd) hend
    rw [hfront, hdigits]
    exact digits_run (n := { n with scan := ⟨ds.map .char ++ rest', none⟩ }) rfl hds hend' (hahead.look hlook)

/-- A whole number is read again wherever its digits stand. -/
theorem scanNumeral_run {c : Char} {tail rest : List Glyph} (hc : c.isDigit)
    (h : scanNumeral (.char c :: tail) (.start (.char c :: tail)) false = (.int, ⟨rest, none⟩)) :
    ∃ cs : List Char, tail = cs.map .char ++ rest ∧ (∀ d ∈ cs, isNumeralTail d) ∧ look rest none = none ∧
      ∀ rest', SameAhead rest rest' →
        scanNumeral (.char c :: (cs.map .char ++ rest')) (.start (.char c :: (cs.map .char ++ rest'))) false =
          (.int, ⟨rest', none⟩) := by
  obtain ⟨hscan, hwhole, hopens⟩ := scanNumeral_eq_int_iff.mp h
  obtain ⟨cs, rfl, hcs, hlook, hrun⟩ := Numeral.exists_digits hc hscan
  have hspelling : ∀ rest', spelling (.char c :: (cs.map .char ++ rest')) rest' = c :: cs := spelling_append (c :: cs)
  refine ⟨cs, rfl, hcs, hlook, fun rest' hahead => ?_⟩
  rw [scanNumeral_eq_int_iff, hrun rest' hahead, hspelling]
  rw [hspelling] at hwhole
  exact ⟨rfl, ⟨hwhole.isInteger, hwhole.hasDigit, hwhole.tooLarge, hwhole.separated⟩,
    hahead.any_holds (fun d hd => opensFraction_eq_false_of_isSpacing hd) hopens⟩

end ServiceAnnotations.Mark
