import ServiceAnnotations.Proofs.Registry.ServiceFile

/-! # Service files put together

A service file lists what its lines list. So two files with a line end between them list what both list, and it does
not matter in which order the lines of a file come, how often each comes and how it ends. -/
namespace ServiceAnnotations.Registry
open Text

/-- What can stand at the end of a line. -/
inductive LineEnd | lf | crlf | cr
  deriving DecidableEq, Repr

def LineEnd.bytes : LineEnd → Bytes
  | lf => [0x0a]
  | crlf => [0x0d, 0x0a]
  | cr => [0x0d]

theorem readNames_ofChars (cs : List Char) :
    readNames (Bytes.ofChars cs) = some (NameSet.ofNames ((namesOfText cs).map Bytes.ofChars)) := by
  rw [readNames, Utf8.mapM_char?_glyphs_eq_some_iff.mpr rfl, Option.map_some]

def IsReadable (content : Bytes) : Prop := ∃ names, readNames content = some names

theorem isReadable_iff {content : Bytes} : IsReadable content ↔ ∃ cs, content = Bytes.ofChars cs := by
  constructor
  · rintro ⟨names, h⟩
    obtain ⟨cs, hcs, -⟩ := Option.map_eq_some_iff.mp h
    exact ⟨cs, Utf8.mapM_char?_glyphs_eq_some_iff.mp hcs⟩
  · rintro ⟨cs, rfl⟩
    exact ⟨_, readNames_ofChars cs⟩

/-- Whether a content is readable and lists a name. -/
def Lists (content name : Bytes) : Prop := ∃ names : NameSet, readNames content = some names ∧ name ∈ names.toList

theorem lists_ofChars_iff {cs : List Char} {name : Bytes} :
    Lists (Bytes.ofChars cs) name ↔ name ∈ (namesOfText cs).map Bytes.ofChars := by
  simp only [Lists, readNames_ofChars, Option.some.injEq, exists_eq_left', NameSet.mem_toList_ofNames]

theorem lists_iff_of_readNames {content name : Bytes} {names : NameSet} (h : readNames content = some names) :
    Lists content name ↔ name ∈ names.toList := by
  simp only [Lists, h, Option.some.injEq, exists_eq_left']

/-- What is read of a content is known by whether it is readable and what it lists. -/
theorem readNames_congr {content content' : Bytes} (hreadable : IsReadable content ↔ IsReadable content')
    (hlists : ∀ name, Lists content name ↔ Lists content' name) : readNames content = readNames content' := by
  cases h : readNames content with
  | none =>
    cases h' : readNames content' with
    | none => rfl
    | some names' =>
      obtain ⟨names, hnames⟩ := hreadable.mpr ⟨names', h'⟩
      rw [h] at hnames
      cases hnames
  | some names =>
    obtain ⟨names', h'⟩ := hreadable.mp ⟨names, h⟩
    rw [h', Option.some.injEq]
    apply NameSet.ext_toList
    intro name
    rw [← lists_iff_of_readNames h, ← lists_iff_of_readNames h', hlists]

section
variable {c : Char} (hc : c = '\r' ∨ c = '\n') (b₁ b₂ : Bytes)
include hc

theorem isReadable_append_char :
    IsReadable (b₁ ++ UInt8.ofNat c.toNat :: b₂) ↔ IsReadable b₁ ∧ IsReadable b₂ := by
  have hascii : c.toNat < 0x80 := by rcases hc with rfl | rfl <;> decide
  simp only [isReadable_iff]
  constructor
  · rintro ⟨cs, hcs⟩
    obtain ⟨us, vs, -, hus, hvs⟩ := Utf8.exists_of_ofChars_eq_append hascii hcs.symm
    exact ⟨⟨us, hus⟩, vs, hvs⟩
  · rintro ⟨⟨us, rfl⟩, vs, rfl⟩
    refine ⟨us ++ c :: vs, ?_⟩
    rw [Bytes.ofChars_append, Bytes.ofChars_cons]
    rcases hc with rfl | rfl <;> rfl

theorem lists_append_char (h₁ : IsReadable b₁) (h₂ : IsReadable b₂) (name : Bytes) :
    Lists (b₁ ++ UInt8.ofNat c.toNat :: b₂) name ↔ Lists b₁ name ∨ Lists b₂ name := by
  obtain ⟨us, rfl⟩ := isReadable_iff.mp h₁
  obtain ⟨vs, rfl⟩ := isReadable_iff.mp h₂
  have hjoined : Bytes.ofChars us ++ UInt8.ofNat c.toNat :: Bytes.ofChars vs = Bytes.ofChars (us ++ c :: vs) := by
    rw [Bytes.ofChars_append, Bytes.ofChars_cons]
    rcases hc with rfl | rfl <;> rfl
  rw [hjoined, lists_ofChars_iff, lists_ofChars_iff, lists_ofChars_iff, namesOfText_append hc, List.map_append,
    List.mem_append]

end

theorem readNames_nil : readNames [] = some ∅ := rfl

theorem isReadable_append (b₁ b₂ : Bytes) (e : LineEnd) :
    IsReadable (b₁ ++ e.bytes ++ b₂) ↔ IsReadable b₁ ∧ IsReadable b₂ := by
  rw [List.append_assoc]
  cases e with
  | lf => exact isReadable_append_char (.inr rfl) b₁ b₂
  | cr => exact isReadable_append_char (.inl rfl) b₁ b₂
  | crlf =>
    have hrest : IsReadable (0x0a :: b₂) ↔ IsReadable b₂ :=
      (isReadable_append_char (.inr rfl) [] b₂).trans (and_iff_right ⟨∅, readNames_nil⟩)
    exact (isReadable_append_char (.inl rfl) b₁ (0x0a :: b₂)).trans (and_congr_right fun _ => hrest)

theorem lists_append {b₁ b₂ : Bytes} (h₁ : IsReadable b₁) (h₂ : IsReadable b₂) (e : LineEnd) (name : Bytes) :
    Lists (b₁ ++ e.bytes ++ b₂) name ↔ Lists b₁ name ∨ Lists b₂ name := by
  rw [List.append_assoc]
  cases e with
  | lf => exact lists_append_char (.inr rfl) b₁ b₂ h₁ h₂ name
  | cr => exact lists_append_char (.inl rfl) b₁ b₂ h₁ h₂ name
  | crlf =>
    -- Between the two characters of the line end is a blank line.
    have hblank : ¬ Lists [] name := by simp [lists_iff_of_readNames readNames_nil]
    have hreadable : IsReadable (0x0a :: b₂) :=
      (isReadable_append_char (.inr rfl) [] b₂).mpr ⟨⟨∅, readNames_nil⟩, h₂⟩
    have hrest : Lists (0x0a :: b₂) name ↔ Lists b₂ name :=
      (lists_append_char (.inr rfl) [] b₂ ⟨∅, readNames_nil⟩ h₂ name).trans (or_iff_right hblank)
    exact (lists_append_char (.inl rfl) b₁ (0x0a :: b₂) h₁ hreadable name).trans (or_congr_right hrest)

/-- Lines with their ends, and a last line without one. -/
def laidOut (lines : List (Bytes × LineEnd)) (last : Bytes) : Bytes :=
  lines.flatMap (fun (line, e) => line ++ e.bytes) ++ last

/-- The lines of such a content. -/
def linesOf (lines : List (Bytes × LineEnd)) (last : Bytes) : List Bytes := lines.map Prod.fst ++ [last]

theorem laidOut_cons (line : Bytes) (e : LineEnd) (lines : List (Bytes × LineEnd)) (last : Bytes) :
    laidOut ((line, e) :: lines) last = line ++ e.bytes ++ laidOut lines last := by
  rw [laidOut, List.flatMap_cons, List.append_assoc]
  rfl

theorem isReadable_laidOut {lines : List (Bytes × LineEnd)} {last : Bytes} :
    IsReadable (laidOut lines last) ↔ ∀ line ∈ linesOf lines last, IsReadable line := by
  induction lines with
  | nil => simp [laidOut, linesOf]
  | cons first lines ih =>
    obtain ⟨line, e⟩ := first
    rw [laidOut_cons, isReadable_append, ih, linesOf, linesOf, List.map_cons, List.cons_append, List.forall_mem_cons]

theorem lists_laidOut {lines : List (Bytes × LineEnd)} {last name : Bytes}
    (h : ∀ line ∈ linesOf lines last, IsReadable line) :
    Lists (laidOut lines last) name ↔ ∃ line ∈ linesOf lines last, Lists line name := by
  induction lines with
  | nil => simp [laidOut, linesOf]
  | cons first lines ih =>
    obtain ⟨line, e⟩ := first
    obtain ⟨hline, hlines⟩ := List.forall_mem_cons.mp h
    rw [laidOut_cons, lists_append hline (isReadable_laidOut.mpr hlines), ih hlines]
    simp [linesOf]

/-- Contents with the same lines, blank ones aside, are read alike. -/
theorem readNames_laidOut_congr {lines lines' : List (Bytes × LineEnd)} {last last' : Bytes}
    (h : ∀ line, line ≠ [] → (line ∈ linesOf lines last ↔ line ∈ linesOf lines' last')) :
    readNames (laidOut lines last) = readNames (laidOut lines' last') := by
  have hreadable : IsReadable (laidOut lines last) ↔ IsReadable (laidOut lines' last') := by
    rw [isReadable_laidOut, isReadable_laidOut]
    refine forall_congr' fun line => ?_
    by_cases hline : line = []
    · simp [hline, show IsReadable [] from ⟨∅, readNames_nil⟩]
    · rw [h line hline]
  refine readNames_congr hreadable fun name => ?_
  by_cases hlines : IsReadable (laidOut lines last)
  · rw [lists_laidOut (isReadable_laidOut.mp hlines), lists_laidOut (isReadable_laidOut.mp (hreadable.mp hlines))]
    refine exists_congr fun line => ?_
    by_cases hline : line = []
    · simp [hline, lists_iff_of_readNames readNames_nil]
    · rw [h line hline]
  · have hnot : ∀ {content : Bytes}, ¬ IsReadable content → ¬ Lists content name :=
      fun hcontent ⟨names, hnames, _⟩ => hcontent ⟨names, hnames⟩
    exact iff_of_false (hnot hlines) (hnot (mt hreadable.mpr hlines))

/-- Every content is made of lines. -/
theorem exists_laidOut (content : Bytes) :
    ∃ lines last, content = laidOut lines last ∧ ∀ line ∈ linesOf lines last, 0x0d ∉ line ∧ 0x0a ∉ line := by
  induction content with
  | nil => exact ⟨[], [], rfl, by simp [linesOf]⟩
  | cons b content ih =>
    obtain ⟨lines, last, rfl, hlines⟩ := ih
    have hend : ∀ e : LineEnd, e.bytes = [b] → ∃ lines' last', b :: laidOut lines last = laidOut lines' last' ∧
        ∀ line ∈ linesOf lines' last', 0x0d ∉ line ∧ 0x0a ∉ line := by
      intro e he
      refine ⟨([], e) :: lines, last, ?_, ?_⟩
      · rw [laidOut_cons, he]
        rfl
      · exact List.forall_mem_cons.mpr ⟨by simp, hlines⟩
    by_cases hcr : b = 0x0d
    · exact hend .cr (by rw [hcr]; rfl)
    by_cases hlf : b = 0x0a
    · exact hend .lf (by rw [hlf]; rfl)
    have hcons : ∀ {line : Bytes}, 0x0d ∉ line ∧ 0x0a ∉ line → 0x0d ∉ b :: line ∧ 0x0a ∉ b :: line := by
      intro line hline
      simp [hline, Ne.symm hcr, Ne.symm hlf]
    cases lines with
    | nil => exact ⟨[], b :: last, rfl, by simpa [linesOf] using hcons (hlines last (by simp [linesOf]))⟩
    | cons first lines =>
      obtain ⟨line, e⟩ := first
      obtain ⟨hline, hlines⟩ := List.forall_mem_cons.mp hlines
      exact ⟨(b :: line, e) :: lines, last, by simp [laidOut_cons], List.forall_mem_cons.mpr ⟨hcons hline, hlines⟩⟩

/-- Two contents with a line end between them are readable just when both are, and then list what both list. Every
content is made of lines with ends between them, and what is read of it depends only on which lines there are: not on
their order, on how often they come, on what ends them, or on blank lines. -/
theorem readNames_concatenation :
    (∀ (b₁ b₂ : Bytes) (e : LineEnd),
      ((∃ names, readNames (b₁ ++ e.bytes ++ b₂) = some names) ↔
        (∃ names₁, readNames b₁ = some names₁) ∧ ∃ names₂, readNames b₂ = some names₂) ∧
      ∀ names₁ names₂ : NameSet, readNames b₁ = some names₁ → readNames b₂ = some names₂ →
        ∃ names : NameSet, readNames (b₁ ++ e.bytes ++ b₂) = some names ∧
          ∀ n, n ∈ names.toList ↔ n ∈ names₁.toList ∨ n ∈ names₂.toList) ∧
    (∀ content, ∃ lines last, content = laidOut lines last ∧
      ∀ line ∈ linesOf lines last, 0x0d ∉ line ∧ 0x0a ∉ line) ∧
    ∀ lines last lines' last',
      (∀ line, line ≠ [] → (line ∈ linesOf lines last ↔ line ∈ linesOf lines' last')) →
      readNames (laidOut lines last) = readNames (laidOut lines' last') := by
  refine ⟨fun b₁ b₂ e => ⟨isReadable_append b₁ b₂ e, fun names₁ names₂ h₁ h₂ => ?_⟩, exists_laidOut,
    fun _ _ _ _ => readNames_laidOut_congr⟩
  obtain ⟨names, h⟩ := (isReadable_append b₁ b₂ e).mpr ⟨⟨names₁, h₁⟩, names₂, h₂⟩
  refine ⟨names, h, fun n => ?_⟩
  rw [← lists_iff_of_readNames h, lists_append ⟨names₁, h₁⟩ ⟨names₂, h₂⟩, lists_iff_of_readNames h₁,
    lists_iff_of_readNames h₂]

/-- Line ends that run together with the one between two contents; and lines in another order, one of them twice and
with other ends. -/
theorem readNames_concatenation_seam :
    (∃ names : NameSet, readNames (Bytes.ofString "a\r" ++ LineEnd.lf.bytes ++ Bytes.ofString "\nb # c") = some names ∧
      ∀ n, n ∈ names.toList ↔ n = Bytes.ofString "a" ∨ n = Bytes.ofString "b") ∧
    readNames "a\nb" = readNames "b\r\r\na\r\nb\r" := by
  obtain ⟨happend, -, hlines⟩ := readNames_concatenation
  constructor
  · have ha : (readNames "a\r").map NameSet.toList = some [Bytes.ofString "a"] := by decide +kernel
    have hb : (readNames "\nb # c").map NameSet.toList = some [Bytes.ofString "b"] := by decide +kernel
    obtain ⟨_, ha, hlist⟩ := Option.map_eq_some_iff.mp ha
    obtain ⟨_, hb, hlist'⟩ := Option.map_eq_some_iff.mp hb
    obtain ⟨names, hnames, hmem⟩ := (happend "a\r" "\nb # c" .lf).2 _ _ ha hb
    exact ⟨names, hnames, fun n => by simpa [hlist, hlist'] using hmem n⟩
  · refine hlines [("a", .lf)] "b" [("b", .cr), ([], .crlf), ("a", .crlf), ("b", .cr)] [] fun line hline => ?_
    simp only [linesOf, List.map_cons, List.map_nil, List.cons_append, List.nil_append, List.mem_cons,
      List.not_mem_nil, or_false]
    tauto

end ServiceAnnotations.Registry
